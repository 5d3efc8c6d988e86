import Polyfill.Catalog.Basic
import Polyfill.Configuration
import Polyfill.Environment.Inquiry

/-!
# Selections

A selection is an artifact chosen for generation together with all that its text depends on besides
its template. Candidates are decided one by one in catalog order: what the target can use already is
left out, so is the range type where the tuple type is missing, and of the rest the configuration picks
those that it names, or by category if it names none.
-/

namespace Polyfill

/-- An artifact to generate: which, how visible, and with what fixups. -/
structure Selection where
  id : String
  isPublic : Bool
  fixups : FixupSet
  deriving DecidableEq, Repr

namespace Selection

/-- The same artifact, of which only the alias is to be generated. -/
def aliasOnly (selection : Selection) : Selection :=
  { selection with fixups := selection.fixups.insert .generateAliasOnly }

def sourceName (selection : Selection) : String :=
  Artifact.sourceName selection.id

/-- One line about a selection: its id, its visibility if public, and its fixups. -/
def line (selection : Selection) : String :=
  selection.id ++ (if selection.isPublic then " [public]" else "") ++
    String.join (selection.fixups.toList.map fun fixup => " +" ++ fixup.name)

end Selection

namespace Selecting

open Inquiry

/-- What an environment says about the fixups of every candidate. -/
structure Conditions where
  /-- The attribute that excludes from coverage can be used. -/
  coverageExclusion : Bool
  /-- The option that the compilation hints name exists. -/
  methodImplHints : Bool
  /-- The language has aliases that hold everywhere. -/
  globalAliases : Bool
  deriving DecidableEq, Repr

/-- Ask for the conditions; they are the same for all candidates of an evaluation. -/
def askConditions (environment : Environment) : Inquiry Conditions := do
  let coverageExclusion ← ask environment (.isAccessible Artifact.coverageExclusion)
  let methodImplHints ← ask environment (.isPresent Artifact.aggressiveInlining)
  let globalAliases ← ask environment .supportsGlobalAliases
  return { coverageExclusion, methodImplHints, globalAliases }

/-- Whether the configuration picks a candidate that the target misses. -/
def isPicked (configuration : Configuration) (candidate : Candidate) : Bool :=
  if configuration.isExplicit then
    configuration.isIncluded candidate.id && !configuration.isExcluded candidate.id
  else
    !configuration.isExcluded candidate.id &&
      match candidate.category with
      | .languageSupport => true
      | .runtimeSupported => configuration.includeRuntimeSupported

/-- Whether a candidate is to be generated. -/
def isWanted (environment : Environment) (configuration : Configuration) (candidate : Candidate) :
    Inquiry Bool := do
  if ← ask environment (.isAccessible candidate.id) then
    return false
  if candidate.id == Artifact.range then
    if !(← ask environment (.isPresent Artifact.rangeTuple)) then
      return false
  return isPicked configuration candidate

/-- The fixups of a candidate: its own, and those that the conditions and the options call for. -/
def fixupsFor (configuration : Configuration) (conditions : Conditions) (candidate : Candidate) :
    FixupSet :=
  candidate.intrinsicFixups
    |>.insertIf (!conditions.coverageExclusion) .removeCoverageExclusionHints
    |>.insertIf (!conditions.methodImplHints &&
        (candidate.id == Artifact.index || candidate.id == Artifact.range)) .removeMethodImplHints
    |>.insertIf (candidate.id == Artifact.nativeCall &&
        configuration.useAltNamespaceForNativeCall) .aliasNamespaceForNativeCallArtifact
    |>.insertIf (candidate.id == Artifact.inlineArray && conditions.globalAliases)
        .emitGlobalAliasForInlineArrayArtifact

/-- The selection of a candidate that is to be generated. -/
def selectionOf (configuration : Configuration) (conditions : Conditions) (candidate : Candidate) :
    Selection where
  id := candidate.id
  isPublic := configuration.usePublicAccessibility
  fixups := fixupsFor configuration conditions candidate

/-- The selections among a list of candidates, in the order of the list. -/
def selectAmong (environment : Environment) (configuration : Configuration)
    (conditions : Conditions) : List Candidate → Inquiry (List Selection)
  | [] => return []
  | candidate :: rest => do
    poll
    let wanted ← isWanted environment configuration candidate
    let others ← selectAmong environment configuration conditions rest
    return if wanted then selectionOf configuration conditions candidate :: others else others

/-- The selections of a catalog; none if the language is too old. -/
def select (catalog : Catalog) (environment : Environment) (configuration : Configuration) :
    Inquiry (List Selection) := do
  if ← ask environment .supportsPipeline then
    let conditions ← askConditions environment
    selectAmong environment configuration conditions catalog.candidates
  else
    return []

end Selecting

end Polyfill
