import Polyfill.Text.Scan

/-!
# Declarations in templates

A global alias names the first type that a template declares, inside the first namespace that it
declares. Both are found by the shape of a line: blanks, keywords separated by blanks, and a name.
-/

namespace Polyfill.Template

open Text

/-- A namespace is named by words joined with dots. -/
def isNamespacePart (c : Char) : Bool :=
  isWord c || c == '.'

/-- The characters of a class that follow at least one blank. -/
def nameAfterBlanks? (cls : Char → Bool) (text : List Char) : Option (List Char) :=
  let name := (text.dropWhile isBlank).takeWhile cls
  if startsWith isBlank text && !name.isEmpty then some name else none

/-- The namespace that a line declares. -/
def namespaceOf? (line : List Char) : Option (List Char) := do
  let rest ← after? "namespace".toList (line.dropWhile isBlank)
  nameAfterBlanks? isNamespacePart rest

/-- The words that may stand in front of the kind of a type. -/
def modifiers : List (List Char) :=
  ["public", "internal", "private", "protected", "sealed", "static", "readonly", "partial",
    "abstract", "unsafe", "ref"].map String.toList

def typeKinds : List (List Char) :=
  ["class", "struct", "interface", "enum", "record"].map String.toList

theorem length_dropWhile_le (cls : Char → Bool) (text : List Char) :
    (text.dropWhile cls).length ≤ text.length :=
  (List.dropWhile_sublist cls).length_le

/-- The type that a line declares, leading blanks being passed over. -/
def typeOf? (line : List Char) : Option (List Char) :=
  let start := line.dropWhile isBlank
  let word := start.takeWhile isWord
  let rest := start.dropWhile isWord
  if word ∈ typeKinds then nameAfterBlanks? isWord rest
  else if word ∈ modifiers ∧ startsWith isBlank rest = true then typeOf? rest
  else none
termination_by line.length
decreasing_by
  have nonempty : start.takeWhile isWord ≠ [] := by
    intro empty
    obtain ⟨isModifier, _⟩ := ‹word ∈ modifiers ∧ _›
    simp [word, empty, modifiers] at isModifier
  have split := congrArg List.length (List.takeWhile_append_dropWhile (p := isWord) (l := start))
  have positive := List.length_pos_iff.mpr nonempty
  have bound : start.length ≤ line.length := length_dropWhile_le isBlank line
  simp only [List.length_append] at split
  show (start.dropWhile isWord).length < line.length
  omega

/-- The first namespace that a text declares, and how much of the text stands before its line. -/
def firstNamespace? (text : List Char) : Option (Nat × List Char) :=
  firstLine? namespaceOf? text

def firstType? (text : List Char) : Option (List Char) :=
  (firstLine? typeOf? text).map (·.2)

/-- The global alias for a type of a namespace. -/
def aliasText (ns type : List Char) : List Char :=
  "global using ".toList ++ type ++ " = global::".toList ++ ns ++ ".".toList ++ type ++ ";".toList

/-- The global alias for the first type of the first namespace of a text. -/
def globalAlias? (text : List Char) : Option (List Char) := do
  let (_, ns) ← firstNamespace? text
  let type ← firstType? text
  return aliasText ns type

/--
Put the global alias of a text on a line of its own, followed by an empty line, in front of the line
of its first namespace. A text without an alias, or with the alias already somewhere in it, stays.
-/
def insertGlobalAlias (text : List Char) : List Char :=
  match globalAlias? text, firstNamespace? text with
  | some aliasLine, some (offset, _) =>
    if holds aliasLine text then text
    else text.take offset ++ aliasLine ++ "\n\n".toList ++ text.drop offset
  | _, _ => text

end Polyfill.Template
