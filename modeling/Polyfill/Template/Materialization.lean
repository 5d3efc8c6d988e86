import Polyfill.Fixup
import Polyfill.Template.Attribute
import Polyfill.Template.Declaration

/-!
# Materialization

The final text of an artifact is its template, changed step by step:

1. for a public artifact, the word `internal` becomes `public` and the embedded marker goes;
2. hints at method compilation go;
3. exclusions from coverage go;
4. the native-call namespace gives way to its alternate;
5. the global alias replaces everything, or is put in front of the namespace.

Each step but the first is taken only if its fixup is asked for.
-/

namespace Polyfill.Template

open Text

/-- The visibility that templates are written with. -/
def restrictedVisibility : List Char := "internal".toList

def publicVisibility : List Char := "public".toList

/-- The namespace that the native-call artifact is declared in. -/
def nativeCallNamespace : List Char := "System.Runtime.InteropServices".toList

/-- The alternate namespace of the native-call artifact. -/
def alternateNamespace : List Char := "System.Runtime.InteropServices2".toList

/-- The first line of every generated text. -/
def generatedHeader : List Char := "// <auto-generated/>\n".toList

/-- Write `public` for every whole word `internal`. -/
def publishWords (text : List Char) : List Char :=
  replaceAll (wholeWord restrictedVisibility) publicVisibility text

/-- Declare the types of a text public. -/
def makePublic (text : List Char) : List Char :=
  Attribute.embeddedMarker.strip (publishWords text)

def moveNamespace (text : List Char) : List Char :=
  replaceAll (wholeWord nativeCallNamespace) alternateNamespace text

/-- A text changed by a step, if the step is asked for. -/
def stepIf (asked : Bool) (step : List Char → List Char) (text : List Char) : List Char :=
  if asked then step text else text

/-- The steps that come before the alias. -/
def materializeBody (isPublic : Bool) (fixups : FixupSet) (text : List Char) : List Char :=
  text
    |> stepIf isPublic makePublic
    |> stepIf (fixups.has .removeMethodImplHints) Attribute.methodImplHint.strip
    |> stepIf (fixups.has .removeCoverageExclusionHints) Attribute.coverageExclusion.strip
    |> stepIf (fixups.has .aliasNamespaceForNativeCallArtifact) moveNamespace

/-- The header and the global alias of a text, if it has one. -/
def aliasOnly (text : List Char) : List Char :=
  match globalAlias? text with
  | some aliasLine => generatedHeader ++ aliasLine ++ ['\n']
  | none => generatedHeader

/-- The final characters of an artifact. -/
def materializeChars (isPublic : Bool) (fixups : FixupSet) (template : List Char) : List Char :=
  let body := materializeBody isPublic fixups template
  if fixups.has .generateAliasOnly then aliasOnly body
  else stepIf (fixups.has .emitGlobalAliasForInlineArrayArtifact) insertGlobalAlias body

/-- The final text of an artifact, from its template, its visibility and its fixups. -/
def materialize (template : String) (isPublic : Bool) (fixups : FixupSet) : String :=
  String.ofList (materializeChars isPublic fixups template.toList)

@[simp] theorem toList_materialize (template : String) (isPublic : Bool) (fixups : FixupSet) :
    (materialize template isPublic fixups).toList =
      materializeChars isPublic fixups template.toList := by
  simp [materialize]

end Polyfill.Template
