import Polyfill.Text.Scan

/-!
# Attribute usages in templates

A template carries attributes between square brackets. Three of them do not fit every target and have
to go: the marker of embedded types, the hints at method compilation, and the exclusion from coverage.
A usage that has its line to itself takes the line with it; one that shares its line takes the blanks
that follow it.
-/

namespace Polyfill.Template

open Text

/-! ## Closed calls -/

/-- A closing bracket and the characters of line ends, behind which no usage goes on. -/
def isStop (c : Char) : Bool :=
  c == ']' || c == '\r' || c == '\n'

/-- Whether the first stop in a text is a bracket that stands directly behind a parenthesis. -/
def closesCall : List Char → Bool
  | [] => false
  | c :: rest =>
    if isStop c then false
    else if rest.head? == some ']' then c == ')'
    else closesCall rest

/-- For each place in a text, whether a call is closed from there on. -/
def callNotes : List Char → List Bool
  | [] => []
  | c :: rest =>
    let later := callNotes rest
    (if isStop c then false
    else if rest.head? == some ']' then c == ')'
    else later.headD false) :: later

theorem headD_callNotes (text : List Char) : (callNotes text).headD false = closesCall text := by
  induction text with
  | nil => rfl
  | cons c rest ih => rw [callNotes, closesCall, List.headD_cons, ih]

theorem callNotes_cons (c : Char) (rest : List Char) :
    callNotes (c :: rest) = closesCall (c :: rest) :: callNotes rest := by
  rw [callNotes, closesCall, headD_callNotes]

/-! ## Kinds of attributes -/

/--
A kind of attribute reads the text after an opening bracket: how many characters its usage has from
there up to the closing bracket, that one included, if the bracket opens such a usage. Whether a call
is closed from there on is given, so that no reader has to look for the end of arguments in vain.
-/
abbrev Attribute := Bool → List Char → Option Nat

namespace Attribute

/-- An attribute whose usages hold one of a list of texts, and nothing else. -/
def oneOf (bodies : List String) : Attribute := fun _ text =>
  bodies.findSome? fun body =>
    (after? (body.toList ++ [']']) text).map fun _ => body.length + 1

/-- An attribute that may have its namespace written out in front of it. -/
def qualified (qualifier : String) (kind : Attribute) : Attribute := fun closed text =>
  match after? qualifier.toList text with
  | some rest => (kind closed rest).map (qualifier.length + ·)
  | none => kind closed text

/-- The marker that keeps a type from being seen outside its assembly. -/
def embeddedMarker : Attribute :=
  qualified "global::Microsoft.CodeAnalysis." (oneOf ["Embedded", "EmbeddedAttribute"])

/-- The exclusion of code from coverage. -/
def coverageExclusion : Attribute :=
  qualified "global::System.Diagnostics.CodeAnalysis."
    (oneOf ["ExcludeFromCodeCoverage", "ExcludeFromCodeCoverage()",
      "ExcludeFromCodeCoverageAttribute", "ExcludeFromCodeCoverageAttribute()"])

/--
What ends a usage: the closing bracket, with arguments before it or without. Arguments stand between
parentheses on one line, and the last parenthesis directly before the bracket.
-/
def usageEnd? (closed : Bool) : List Char → Option Nat
  | ']' :: _ => some 1
  | '(' :: rest => if closed then some ((rest.takeWhile (· != ']')).length + 2) else none
  | _ => none

/-- The start of the names of hints at how a method is compiled. -/
def hintWord : String :=
  "MethodImpl"

/-- A hint at how a method is to be compiled, of whatever longer name, with or without arguments. -/
def plainHint : Attribute := fun closed text => do
  let rest ← after? hintWord.toList text
  let more := (rest.takeWhile isWord).length
  let ending ← usageEnd? closed (rest.drop more)
  return hintWord.length + more + ending

/-- A hint at how a method is to be compiled, under its plain or its qualified name. -/
def methodImplHint : Attribute :=
  qualified "global::System.Runtime.CompilerServices." plainHint

/-! ## Usages -/

/-- The length of the usage of an attribute that a text starts with, both brackets included. -/
def usage? (kind : Attribute) (closed : Bool) : List Char → Option Nat
  | '[' :: rest => (kind closed rest).map (· + 1)
  | _ => none

/-- The length of the usage that a text starts with, with the blanks after it. -/
def inlineUsage? (kind : Attribute) (closed : Bool) (text : List Char) : Option Nat := do
  let usage ← kind.usage? closed text
  return usage + blanks (text.drop usage)

/-- A usage somewhere in a line, with the blanks after it. -/
def inline (kind : Attribute) : Pattern := fun _ text =>
  kind.inlineUsage? (closesCall text) text

/-- A line that holds one usage and blanks, with its line end. -/
def ownLine (kind : Attribute) : Pattern := fun before text => do
  guard (startsLine before)
  let lead := blanks text
  let start := text.drop lead
  let usage ← kind.usage? (closesCall start) start
  let trail := blanks (text.drop (lead + usage))
  let lineEnd ← lineEnd? (text.drop (lead + usage + trail))
  return lead + usage + trail + lineEnd

/--
Remove the usages in what is left of a text, for each place of which it is known whether a call is
closed from there on. The number counts the characters still to be removed with the last usage.
-/
def removeInline (kind : Attribute) : Nat → List Char → List Bool → List Char
  | inside + 1, _ :: rest, _ :: notes => kind.removeInline inside rest notes
  | 0, c :: rest, closed :: notes =>
    match kind.inlineUsage? closed (c :: rest) with
    | some (more + 1) => kind.removeInline more rest notes
    | _ => c :: kind.removeInline 0 rest notes
  | _, _, _ => []

/-- Remove every usage of an attribute: first the lines that hold nothing else, then the others. -/
def strip (kind : Attribute) (text : List Char) : List Char :=
  let others := deleteAll kind.ownLine text
  kind.removeInline 0 others (callNotes others)

theorem removeInline_callNotes (kind : Attribute) (inside : Nat) (before : Option Char)
    (text : List Char) :
    kind.removeInline inside text (callNotes text) =
      mapOccurrencesFrom kind.inline (fun _ => []) inside before text := by
  induction text generalizing inside before with
  | nil => cases inside <;> rfl
  | cons c rest ih =>
    rw [callNotes_cons]
    cases inside with
    | succ inside => exact ih inside (some c)
    | zero =>
      rw [removeInline, mapOccurrencesFrom, inline]
      cases kind.inlineUsage? (closesCall (c :: rest)) (c :: rest) with
      | none => exact congrArg (c :: ·) (ih 0 (some c))
      | some usage =>
        cases usage with
        | zero => exact congrArg (c :: ·) (ih 0 (some c))
        | succ more => exact ih more (some c)

theorem strip_eq (kind : Attribute) (text : List Char) :
    kind.strip text = deleteAll kind.inline (deleteAll kind.ownLine text) :=
  kind.removeInline_callNotes 0 none _

end Attribute

end Polyfill.Template
