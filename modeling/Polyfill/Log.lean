import Polyfill.Text.ControlSequence
import Polyfill.Text.Trim

/-!
# Log records

What a command tells about its progress, beside its output. A record takes as many lines as its
message; those after the first are set in, so that they are seen to belong to it. Control codes in a
message are not shown.
-/

namespace Polyfill

open Text

/-- How much a record matters. -/
inductive LogLevel where
  | error
  | warning
  /-- Of interest only to those who look for the cause of something. -/
  | debug
  deriving DecidableEq, Repr

def LogLevel.name : LogLevel → String
  | error => "ERROR"
  | warning => "WARN"
  | debug => "DEBUG"

/-- Something told about the progress of a command. -/
structure LogRecord where
  level : LogLevel
  message : String
  deriving DecidableEq, Repr

namespace LogRecord

/-- Whether a record is shown; those on the level `debug` are shown only on demand. -/
def isShown (verbose : Bool) (record : LogRecord) : Bool :=
  verbose || record.level != .debug

/-- What the lines of a record after the first one start with. -/
def indentation : String :=
  "    "

/-- The lines of a record, without its stamp. -/
def lines (record : LogRecord) : List String :=
  match pieces (· == '\n') record.message.toList with
  | [] => []
  | first :: further =>
    String.ofList first :: further.map fun line => indentation ++ String.ofList line

/--
What is shown of a record after its stamp. The end of its last line is part of it, and is not shown
either if it stands in a control sequence.
-/
def shown (record : LogRecord) : String :=
  visible (String.join (record.lines.map (· ++ "\n")))

end LogRecord

end Polyfill
