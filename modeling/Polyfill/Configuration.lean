import Std.Data.TreeMap
import Polyfill.Catalog.Basic
import Polyfill.Diagnostic
import Polyfill.NameSet
import Polyfill.Text.Trim

/-!
# Configuration

Options arrive as texts by key, in whatever spelling a build system gives them. A configuration is what
they come down to: four flags and two sets of names. Resolving never fails; whatever is wrong with an
option is reported as a diagnostic and the option counts as not set.
-/

namespace Polyfill

/-- Option texts by key, in ascending order of the keys. -/
abbrev Options := Std.TreeMap String String

namespace OptionKey

/-- Makes generated artifacts public. -/
def usePublicAccessibility : String := "UsePublicAccessibility"

/-- Selects by default what a runtime normally provides, too. -/
def includeRuntimeSupported : String := "IncludeRuntimeSupported"

/-- Moves the native-call artifact to its alternate namespace. -/
def useAltNamespaceForNativeCall : String := "UseAltNamespaceForNativeCall"

/-- Turns type forwards off. -/
def excludeTypeForwards : String := "ExcludeTypeForwards"

/-- Lists artifacts that are never generated. -/
def excludeGeneratedArtifacts : String := "ExcludeGeneratedArtifacts"

/-- Lists artifacts that alone are generated. -/
def includeGeneratedArtifacts : String := "IncludeGeneratedArtifacts"

/-- The keys of the flags, in the order in which they are read. -/
def flags : List String :=
  [usePublicAccessibility, includeRuntimeSupported, useAltNamespaceForNativeCall,
    excludeTypeForwards]

/-- What build systems put in front of the keys that they pass on. -/
def buildPrefix : String := "build_property."

/-- A key without the first build prefix. -/
def plain (key : String) : String :=
  match Text.after? buildPrefix.toList key.toList with
  | some rest => String.ofList rest
  | none => key

end OptionKey

namespace Options

/--
The options under their plain keys. Keys are taken in ascending order and a later one replaces an
earlier one, so among several spellings of a key the greatest counts.
-/
def underPlainKeys (options : Options) : Options :=
  options.foldl (fun plain key value => plain.insert (OptionKey.plain key) value) ∅

end Options

/-- The options of one evaluation, read and checked. -/
structure Configuration where
  usePublicAccessibility : Bool := false
  includeRuntimeSupported : Bool := false
  useAltNamespaceForNativeCall : Bool := false
  excludeTypeForwards : Bool := false
  /-- The artifacts that alone are generated; if there are none, the categories decide. -/
  includeList : NameSet := .empty
  /-- The artifacts that are never generated. -/
  excludeList : NameSet := .empty
  deriving DecidableEq

namespace Configuration

def isIncluded (configuration : Configuration) (id : String) : Bool :=
  configuration.includeList.contains id

def isExcluded (configuration : Configuration) (id : String) : Bool :=
  configuration.excludeList.contains id

/-- Whether the artifacts to generate are named one by one. -/
def isExplicit (configuration : Configuration) : Bool :=
  !configuration.includeList.isEmpty

/-- Whether two texts differ in nothing but the case of ASCII letters. -/
def sameLetters (a b : String) : Bool :=
  a.toList.map Char.toLower == b.toList.map Char.toLower

/-- The value of a flag. Anything but true and false, in any case, or nothing is reported. -/
def readFlag (options : Options) (key : String) : Bool × List Diagnostic :=
  match options[key]? with
  | none => (false, [])
  | some value =>
    if sameLetters value "true" then (true, [])
    else if value.isEmpty || sameLetters value "false" then (false, [])
    else (false, [.ofDescriptor .invalidBoolOption [value, key]])

/-- The tokens of a list. Every token that names no artifact of the catalog is reported. -/
def readList (catalog : Catalog) (options : Options) (key : String) :
    NameSet × List Diagnostic :=
  let names := (options[key]?.map Text.tokens).getD []
  (.ofList names, names.filter (!catalog.contains ·) |>.map fun name =>
    .ofDescriptor .unknownArtifactName [name, key])

/-- A configuration and what was found wrong on the way to it. -/
structure Resolved where
  configuration : Configuration
  diagnostics : List Diagnostic
  deriving DecidableEq

/-- Resolve options against a catalog: the flags first, then the exclusions, then the inclusions. -/
def resolve (catalog : Catalog) (raw : Options) : Resolved :=
  let options := raw.underPlainKeys
  let (isPublic, d₁) := readFlag options OptionKey.usePublicAccessibility
  let (runtime, d₂) := readFlag options OptionKey.includeRuntimeSupported
  let (altNamespace, d₃) := readFlag options OptionKey.useAltNamespaceForNativeCall
  let (noForwards, d₄) := readFlag options OptionKey.excludeTypeForwards
  let (excluded, d₅) := readList catalog options OptionKey.excludeGeneratedArtifacts
  let (included, d₆) := readList catalog options OptionKey.includeGeneratedArtifacts
  { configuration :=
      { usePublicAccessibility := isPublic
        includeRuntimeSupported := runtime
        useAltNamespaceForNativeCall := altNamespace
        excludeTypeForwards := noForwards
        includeList := included
        excludeList := excluded }
    diagnostics := d₁ ++ d₂ ++ d₃ ++ d₄ ++ d₅ ++ d₆ }

end Configuration

end Polyfill
