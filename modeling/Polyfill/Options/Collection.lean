import Polyfill.Configuration
import Polyfill.Files.Path
import Polyfill.Json.AnyValue
import Polyfill.Text.Quoted

/-!
# Collecting options

Options come from a file, which holds a JSON object, and from flags of the form `KEY=VALUE`. Flags count
more than the file, and a later flag more than an earlier one. In the file a value may be of any kind but
an object; it comes down to a text, a list to its texts with semicolons between them.
-/

namespace Polyfill

open Json

/-- Why options cannot be collected. -/
inductive OptionFault where
  | notKeyValue (flag : String)
  | emptyKey (flag : String)
  | unreadable (path : String) (fault : FileFault)
  | notAnObject (path : String) (fault : Fault)
  /-- The value of an option is an object. -/
  | nested (path : String) (key : String)
  deriving DecidableEq, Repr

def OptionFault.message : OptionFault → String
  | notKeyValue flag => "Option " ++ Text.quote flag ++ " is not in KEY=VALUE form"
  | emptyKey flag => "Option " ++ Text.quote flag ++ " has an empty key"
  | unreadable path _ => "Failed to read options file " ++ path
  | notAnObject path _ => "Options file " ++ path ++ " is not a JSON object"
  | nested path key => "Option " ++ key ++ " in " ++ path ++ " must not be an object"

namespace Options

/-- The key and the value of a flag, without the white space around them. -/
def parseFlag (flag : String) : Except OptionFault (String × String) :=
  let key := flag.toList.takeWhile (· != '=')
  match flag.toList.drop key.length with
  | [] => .error (.notKeyValue flag)
  | _ :: value =>
    let key := Text.trimmed key
    if key.isEmpty then .error (.emptyKey flag)
    else .ok (String.ofList key, String.ofList (Text.trimmed value))

/-- Set the options that flags give, in order. -/
def withFlags (options : Options) (flags : List String) : Except OptionFault Options :=
  flags.foldlM (fun options flag => do
    let (key, value) ← parseFlag flag
    return options.insert key value) options

/-- The text that an item of a list comes down to. -/
def itemText : Value → String
  | .text text => text
  | other => other.compact

/-- The text that a value comes down to; an object has none. -/
def valueText? : Value → Option String
  | .text text => some text
  | .null => some ""
  | .array items => some (String.intercalate ";" (items.map itemText))
  | .object _ => none
  | other => some other.compact

/-- The options that the members of an object give. The first one that is an object is reported. -/
def ofMembers (path : String) (members : List (String × Value)) : Except OptionFault Options :=
  members.foldlM (fun options (key, value) =>
    match valueText? value with
    | some text => .ok (options.insert key text)
    | none => .error (.nested path key)) ∅

/-- The options that a file gives, from what was read of it. -/
def ofFile (path : String) : Except FileFault String → Except OptionFault Options
  | .error fault => .error (.unreadable path fault)
  | .ok text =>
    match Json.read Reader.members text with
    | .error fault => .error (.notAnObject path fault)
    | .ok members => ofMembers path members

/-- The options that a file, if there is one, and flags give. -/
def collect (file : Option (String × Except FileFault String)) (flags : List String) :
    Except OptionFault Options := do
  let options ← match file with
    | none => pure ∅
    | some (path, content) => ofFile path content
  withFlags options flags

end Options

end Polyfill
