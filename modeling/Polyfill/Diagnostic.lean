import Polyfill.Text.Scan

/-!
# Diagnostics

A diagnostic reports what is wrong with the options or the target. Its message is made from the format
of its descriptor by one simultaneous substitution: every placeholder, a number between braces, gives
way to the argument of that number. Arguments are never searched for placeholders themselves.
-/

namespace Polyfill

inductive Severity where
  | warning
  | error
  deriving DecidableEq, Repr

namespace Severity

def all : List Severity :=
  [warning, error]

def name : Severity → String
  | warning => "warning"
  | error => "error"

def ofName? (name : String) : Option Severity :=
  all.find? (·.name == name)

theorem ofName?_name (severity : Severity) : ofName? severity.name = some severity := by
  cases severity <;> decide

end Severity

/-- A kind of diagnostic. -/
structure Descriptor where
  code : String
  title : String
  /-- The message, with placeholders for the arguments. -/
  format : String
  severity : Severity
  deriving DecidableEq, Repr

namespace Descriptor

def invalidBoolOption : Descriptor where
  code := "SHIM0001"
  title := "Invalid bool option"
  format := "The value \"\x7b0\x7d\" is not valid for property \"\x7b1\x7d\" " ++
    "(it has to be a valid bool value)"
  severity := .warning

def unknownArtifactName : Descriptor where
  code := "SHIM0002"
  title := "Invalid fully qualified name for artifact"
  format := "The fully qualified name \"\x7b0\x7d\" used in property \"\x7b1\x7d\" is not valid, " ++
    "and it does not match any available artifact"
  severity := .warning

def unsupportedLanguageLevel : Descriptor where
  code := "SHIM0003"
  title := "Unsupported language level"
  format := "The target language level is not supported: a newer language version is required " ++
    "to use generated artifacts"
  severity := .error

def all : List Descriptor :=
  [invalidBoolOption, unknownArtifactName, unsupportedLanguageLevel]

end Descriptor

structure Diagnostic where
  code : String
  severity : Severity
  message : String
  args : List String
  deriving DecidableEq, Repr

namespace Diagnostic

open Text

/-- A placeholder is a decimal number of any script between braces. -/
def placeholder : Pattern := fun _ text =>
  match text with
  | '{' :: rest =>
    let digits := rest.takeWhile isDecimalDigit
    if !digits.isEmpty && (rest.drop digits.length).head? == some '}' then some (digits.length + 2)
    else none
  | _ => none

/-- The value of a numeral; only ASCII digits count. -/
def numeral? (digits : List Char) : Option Nat :=
  if digits.all Char.isDigit then
    some (digits.foldl (fun value c => 10 * value + (c.toNat - '0'.toNat)) 0)
  else none

/-- What a placeholder is filled with: the argument it counts to, or itself if there is none. -/
def fill (args : List String) (occurrence : List Char) : List Char :=
  match (numeral? (occurrence.drop 1).dropLast).bind (args[·]?) with
  | some arg => arg.toList
  | none => occurrence

/-- The message of a format with its placeholders filled. -/
def formatMessage (format : String) (args : List String) : String :=
  String.ofList (mapOccurrences placeholder (fill args) format.toList)

def ofDescriptor (descriptor : Descriptor) (args : List String) : Diagnostic where
  code := descriptor.code
  severity := descriptor.severity
  message := formatMessage descriptor.format args
  args := args

def isError (diagnostic : Diagnostic) : Bool :=
  diagnostic.severity == .error

def line (diagnostic : Diagnostic) : String :=
  diagnostic.severity.name ++ " " ++ diagnostic.code ++ ": " ++ diagnostic.message

end Diagnostic

end Polyfill
