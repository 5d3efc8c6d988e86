/-!
# Command-line arguments

The command line has three commands. An argument is a flag, or it takes a value, which follows as the
next argument or after an equals sign. Arguments are given once, those that can be repeated apart. The
flags on verbosity stand before or after the command; all else stands after it.
-/

namespace Polyfill.Command

/-- Why a command line is not understood. -/
inductive UsageFault where
  | noCommand
  | unknown (token : String)
  | noValue (name : String)
  | emptyValue (name : String)
  /-- A value for an argument that takes none. -/
  | needlessValue (name : String)
  | repeated (name : String)
  | missing (name : String)
  deriving DecidableEq, Repr

def UsageFault.message : UsageFault → String
  | noCommand => "a command is required: generate, catalog or schema"
  | unknown token => "unexpected argument " ++ token
  | noValue name => "a value is required for --" ++ name
  | emptyValue name => "a value that is not empty is required for --" ++ name
  | needlessValue name => "no value is taken by --" ++ name
  | repeated name => "only one use is possible of --" ++ name
  | missing name => "the argument is required: --" ++ name

inductive Takes where
  | nothing
  | text
  /-- The path of a file or directory, which is not empty. -/
  | path
  deriving DecidableEq, Repr

structure Parameter where
  name : String
  letter : Option Char := none
  takes : Takes := .nothing
  repeatable : Bool := false
  deriving DecidableEq, Repr

/-- The arguments given, with their values, in order. -/
abbrev Given := List (String × String)

namespace Given

def has (given : Given) (name : String) : Bool :=
  given.any (·.1 == name)

/-- The value of an argument that is given once at most. -/
def value? (given : Given) (name : String) : Option String :=
  given.lookup name

def values (given : Given) (name : String) : List String :=
  given.filterMap fun (other, value) => if other == name then some value else none

end Given

namespace Parameter

def add (parameter : Parameter) (value : String) (given : Given) : Except UsageFault Given :=
  if !parameter.repeatable && given.has parameter.name then .error (.repeated parameter.name)
  else if parameter.takes == .path && value.isEmpty then .error (.emptyValue parameter.name)
  else .ok (given ++ [(parameter.name, value)])

end Parameter

/-- Whether a token starts with a hyphen that is not all of it. -/
def isDashed (token : String) : Bool :=
  token.startsWith "-" && token != "-"

/-- Read letters after a hyphen, each of which is a flag. -/
def readLetters (parameters : List Parameter) (given : Given) :
    List Char → Except UsageFault Given
  | [] => .ok given
  | letter :: rest =>
    match parameters.find? (·.letter == some letter) with
    | some parameter => do readLetters parameters (← parameter.add "" given) rest
    | none => .error (.unknown (String.ofList ['-', letter]))

/-- The name of a token with two hyphens, and the value that it carries after an equals sign. -/
def splitLong (token : String) : String × Option String :=
  let body := token.toList.drop 2
  let name := body.takeWhile (· != '=')
  let value := match body.drop name.length with
    | [] => none
    | _ :: value => some (String.ofList value)
  (String.ofList name, value)

/-- Read the arguments of a command. Nothing may stand after two hyphens alone. -/
def readArguments (parameters : List Parameter) (given : Given) :
    List String → Except UsageFault Given
  | [] => .ok given
  | token :: rest =>
    if token == "--" then
      match rest with
      | [] => .ok given
      | extra :: _ => .error (.unknown extra)
    else if token.startsWith "--" then
      let (name, attached) := splitLong token
      match parameters.find? (·.name == name) with
      | none => .error (.unknown token)
      | some parameter =>
        if parameter.takes == .nothing then
          match attached with
          | some _ => .error (.needlessValue name)
          | none => do readArguments parameters (← parameter.add "" given) rest
        else
          match attached, rest with
          | some value, rest => do readArguments parameters (← parameter.add value given) rest
          | none, [] => .error (.noValue name)
          | none, value :: rest =>
            if isDashed value then .error (.noValue name)
            else do readArguments parameters (← parameter.add value given) rest
    else if isDashed token then do
      readArguments parameters (← readLetters parameters given (token.toList.drop 1)) rest
    else .error (.unknown token)

/-- What `generate` is asked to do. -/
structure GenerateArguments where
  /-- The file of the snapshot. -/
  snapshot : String
  /-- Options in the form `KEY=VALUE`. -/
  options : List String := []
  optionsFile : Option String := none
  /-- The template directory, in place of the built-in templates. -/
  templates : Option String := none
  /-- The directory to write sources into. -/
  out : Option String := none
  json : Bool := false
  deriving DecidableEq, Repr

inductive Request where
  | version
  | generate (arguments : GenerateArguments)
  | catalog (templates : Option String) (json : Bool)
  | schema
  deriving DecidableEq, Repr

/-- A command line that is understood. -/
structure CommandLine where
  request : Request
  /-- Whether everything is to be told about the progress of the command. -/
  isVerbose : Bool := false
  deriving DecidableEq, Repr

namespace CommandLine

/-- The flags that every command takes. They say how much is told about its progress. -/
def verbosity : List Parameter :=
  [{ name := "verbose", letter := some 'v' }, { name := "quiet" }]

def generateParameters : List Parameter :=
  verbosity ++
    [{ name := "env", takes := .path }, { name := "option", takes := .text, repeatable := true },
      { name := "options-file", takes := .path }, { name := "templates", takes := .path },
      { name := "out", takes := .path }, { name := "json" }]

def catalogParameters : List Parameter :=
  verbosity ++ [{ name := "templates", takes := .path }, { name := "json" }]

/-- The command line of a request. Where quiet is wanted as well, less is told. -/
def ofRequest (request : Request) (given : Given) : CommandLine where
  request
  isVerbose := given.has "verbose" && !given.has "quiet"

/-- Read what stands after `generate`, with the flags in front of it. -/
def readGenerate (front : Given) (tokens : List String) : Except UsageFault CommandLine := do
  let given ← readArguments generateParameters [] tokens
  match given.value? "env" with
  | none => throw (.missing "env")
  | some snapshot =>
    let request := .generate
      { snapshot
        options := given.values "option"
        optionsFile := given.value? "options-file"
        templates := given.value? "templates"
        out := given.value? "out"
        json := given.has "json" }
    return ofRequest request (front ++ given)

def readCatalog (front : Given) (tokens : List String) : Except UsageFault CommandLine := do
  let given ← readArguments catalogParameters [] tokens
  return ofRequest (.catalog (given.value? "templates") (given.has "json")) (front ++ given)

def readSchema (front : Given) (tokens : List String) : Except UsageFault CommandLine := do
  let given ← readArguments verbosity [] tokens
  return ofRequest .schema (front ++ given)

/-- Read letters in front of a command; none is left if the version is asked for. -/
def readFrontLetters (given : Given) : List Char → Except UsageFault (Option Given)
  | [] => .ok (some given)
  | 'V' :: _ => .ok none
  | letter :: rest => do readFrontLetters (← readLetters verbosity given [letter]) rest

/-- Read a command line, from some flags in front of the command on. -/
def read (given : Given) : List String → Except UsageFault CommandLine
  | [] => .error .noCommand
  | "generate" :: rest => readGenerate given rest
  | "catalog" :: rest => readCatalog given rest
  | "schema" :: rest => readSchema given rest
  | "--version" :: _ => .ok { request := .version }
  | token :: rest =>
    if token == "--" then .error (.unknown token)
    else if token.startsWith "--" then do read (← readArguments verbosity given [token]) rest
    else if isDashed token then do
      match ← readFrontLetters given (token.toList.drop 1) with
      | none => return { request := .version }
      | some given => read given rest
    else .error (.unknown token)

def ofArguments (arguments : List String) : Except UsageFault CommandLine :=
  read [] arguments

end CommandLine

end Polyfill.Command
