import Polyfill.Template.Directory
import Polyfill.Command.Arguments
import Polyfill.Environment.File
import Polyfill.Exchange.Evaluation
import Polyfill.Exchange.Report
import Polyfill.Log
import Polyfill.Options.Collection
import Polyfill.Output

/-!
# Running commands

A command reads what it needs, does its work, writes, and prints last. Whatever goes wrong ends it with
one message and nothing printed; sources that were written until then stay, and what was told until then
is told.
-/

namespace Polyfill.Command

open Json

def versionLine : String :=
  "shimgen 0.1.1\n"

/-- Why a command fails. -/
inductive Failure where
  | snapshot (fault : SnapshotFault)
  | options (fault : OptionFault)
  | templates (path : String) (fault : TemplateDirectory.Fault)
  | stopped (stop : Stop)
  | output (fault : OutputFault)
  deriving DecidableEq, Repr

def Failure.message : Failure → String
  | snapshot fault => fault.message
  | options fault => fault.message
  | templates path _ => "Failed to load templates from " ++ path
  | stopped .cancelled => Cancelled.cancelled.message
  | stopped (.missingTemplate missing) => missing.message
  | output fault => fault.message

/-- What a command line comes to. -/
structure Outcome where
  /-- Zero for success, one for a failure, two for a command line that is not understood. -/
  exit : Nat
  stdout : String := ""
  /-- Lines for the user, beside the output. -/
  stderr : List String := []
  /-- What is told before those lines. -/
  records : List LogRecord := []
  deriving DecidableEq

def diagnosticRecord (diagnostic : Diagnostic) : LogRecord where
  level := if diagnostic.isError then .error else .warning
  message := diagnostic.line

variable {m : Type → Type} [Monad m]

/-- A command under way: it can fail, and it tells about its progress. -/
abbrev Progress (m : Type → Type) :=
  ExceptT Failure (StateT (List LogRecord) m)

def tell (records : List LogRecord) : Progress m Unit :=
  modify (· ++ records)

/-- Use what an operation on files comes to, or fail. -/
def orFail {ε α : Type} (fail : ε → Failure) (operation : m (Except ε α)) : Progress m α :=
  ExceptT.mk do return (← operation).mapError fail

/-- What is told about a category that a template directory lacks. -/
def missingRecord (root : String) (category : Category) : LogRecord where
  level := .debug
  message := "No " ++ category.directory ++ " templates under " ++ root

/-- What is told about a template directory that was taken. -/
def loadedRecord (root : String) (count : Nat) : LogRecord where
  level := .debug
  message := "Loaded " ++ toString count ++ " templates from " ++ root

/--
The generator over a template directory, or over the built-in templates. A fault lies in a category that
is there, so that only those before the first such category are told to be missing.
-/
def loadGenerator (access : FileAccess m) (templates : Option String) : Progress m Generator := do
  match templates with
  | none => return .builtin
  | some root =>
    let languageSupport ← access.list? (TemplateDirectory.categoryPath root .languageSupport)
    let runtimeSupported ← access.list? (TemplateDirectory.categoryPath root .runtimeSupported)
    let listing? : Category → Option (List (Text.Octets × Entry))
      | .languageSupport => languageSupport
      | .runtimeSupported => runtimeSupported
    let isMissing := fun category => (listing? category).isNone
    match TemplateDirectory.ofListing fun category => (listing? category).getD [] with
    | .ok directory =>
      let generator := directory.generator
      tell ((Category.all.filter isMissing).map (missingRecord root))
      tell [loadedRecord root generator.catalog.size]
      return generator
    | .error fault =>
      tell ((Category.all.takeWhile isMissing).map (missingRecord root))
      throw (.templates root fault)

/-- The options of a file, if there is one, and of flags. -/
def collectOptions (access : FileAccess m) (file : Option String) (flags : List String) :
    Progress m Options := do
  let content ← match file with
    | none => pure none
    | some path => do pure (some (path, ← access.readText path))
  orFail .options (pure (Options.collect content flags))

def writtenRecord (directory : String) (count : Nat) : LogRecord where
  level := .debug
  message := "Wrote " ++ toString count ++ " sources to " ++ directory

/-- What is printed about a delivery, on both channels. -/
def generated (delivery : Delivery) (json : Bool) : Outcome :=
  if json then
    { exit := 0
      stdout := Report.kind.print (.make delivery.sources delivery.diagnostics) ++ "\n" }
  else
    { exit := 0
      stdout := String.join (delivery.sources.map fun source => source.name ++ "\n")
      stderr :=
        ["Generated " ++ toString delivery.artifacts.length ++ " artifacts and " ++
          toString delivery.forwards.length ++ " type forwards (" ++
          toString delivery.diagnostics.length ++ " diagnostics)"] }

def generate (access : FileAccess m) (arguments : GenerateArguments) : Progress m Outcome := do
  let path := arguments.snapshot
  let snapshot ← orFail .snapshot do return Snapshot.ofFile path (← access.readText path)
  let options ← collectOptions access arguments.optionsFile arguments.options
  let generator ← loadGenerator access arguments.templates
  match (generator.evaluate ∅ snapshot.environment false options).outcome with
  | .error stop => throw (.stopped stop)
  | .ok delivery =>
    tell (delivery.diagnostics.map diagnosticRecord)
    if let some directory := arguments.out then
      orFail .output (Source.writeAll access directory delivery.sources)
      tell [writtenRecord directory delivery.sources.length]
    return generated delivery arguments.json

/-- A candidate in a catalog listing. -/
def entryValue (candidate : Candidate) : Value :=
  .object [("id", .text candidate.id), ("category", Category.kind.value candidate.category)]

def listCatalog (access : FileAccess m) (templates : Option String) (json : Bool) :
    Progress m Outcome := do
  let candidates := (← loadGenerator access templates).catalog.candidates
  if json then
    return { exit := 0
             stdout := (Value.array (candidates.map entryValue)).pretty ++ "\n" }
  else
    return { exit := 0
             stdout := String.join (candidates.map fun candidate =>
               candidate.category.directory ++ "\t" ++ candidate.id ++ "\n") }

def perform (access : FileAccess m) : Request → Progress m Outcome
  | .version => return { exit := 0, stdout := versionLine }
  | .generate arguments => generate access arguments
  | .catalog templates json => listCatalog access templates json
  | .schema => return { exit := 0, stdout := Snapshot.schema.pretty ++ "\n" }

def run (access : FileAccess m) (arguments : List String) : m Outcome := do
  match CommandLine.ofArguments arguments with
  | .error fault => return { exit := 2, stderr := ["error: " ++ fault.message] }
  | .ok line =>
    let (result, told) ← (perform access line.request).run.run []
    let outcome := match result with
      | .ok outcome => outcome
      | .error failure => { exit := 1, stderr := ["Error: " ++ failure.message] }
    return { outcome with records := told.filter (·.isShown line.isVerbose) }

end Polyfill.Command
