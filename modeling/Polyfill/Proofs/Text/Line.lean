import Polyfill.Proofs.Text.Word

/-!
# Laws of lines

A text is searched line by line, for the first line about which a reader has an answer, or for patterns
that look at single lines. Either way the parts above and below a line end are searched on their own.
-/

namespace Polyfill.Text

/-! ## Lines -/

/-- The characters that line ends are made of. -/
def isBreak (c : Char) : Bool :=
  c == '\r' || c == '\n'

theorem isBreak_iff {c : Char} : isBreak c = true ↔ c = '\r' ∨ c = '\n' := by
  simp [isBreak]

theorem isBlank_eq_false_of_isBreak {c : Char} (ends : isBreak c = true) : isBlank c = false := by
  rcases isBreak_iff.mp ends with rfl | rfl <;> decide

theorem isWord_eq_false_of_isBreak {c : Char} (ends : isBreak c = true) : isWord c = false := by
  rcases isBreak_iff.mp ends with rfl | rfl <;> decide

/-- A reader takes the end of a line for the end of the text. -/
def StopsAtBreaks {α : Type} (read : List Char → α) : Prop :=
  ∀ ⦃c⦄, isBreak c = true → ∀ line rest, read (line ++ c :: rest) = read line

/-- A reader of lines has nothing to say about an empty line, nor about what follows the line. -/
structure ReadsLines {α : Type} (read : List Char → Option α) : Prop where
  empty : read [] = none
  stops : StopsAtBreaks read

theorem ReadsLines.append {α : Type} {read : List Char → Option α} (reads : ReadsLines read)
    (line rest : List Char) : read (line ++ '\n' :: rest) = read line :=
  reads.stops rfl line rest

/-- The answer about the first line about which a reader has one. -/
def firstAnswer? {α : Type} (read : List Char → Option α) (text : List Char) : Option α :=
  (firstLine? read text).map (·.2)

section FirstLine

variable {α : Type} {read : List Char → Option α} {before : Option Char} {text : List Char}

theorem exists_of_firstLineFrom? {offset : Nat} {answer : α}
    (found : firstLineFrom? read before text = some (offset, answer)) :
    ∃ front rest, text = front ++ rest ∧ offset = front.length ∧ read rest = some answer ∧
      startsLine (front.getLast?.or before) = true := by
  induction text generalizing before offset with
  | nil =>
    rw [firstLineFrom?] at found
    split at found
    case isTrue starts =>
      obtain ⟨_, found, same⟩ := Option.map_eq_some_iff.mp found
      cases same
      exact ⟨[], [], rfl, rfl, found, starts⟩
    case isFalse => cases found
  | cons c rest ih =>
    rw [firstLineFrom?] at found
    split at found
    case h_1 answer' here =>
      cases found
      split at here
      case isTrue starts => exact ⟨[], c :: rest, rfl, rfl, here, starts⟩
      case isFalse => cases here
    case h_2 =>
      obtain ⟨⟨offset, answer⟩, later, same⟩ := Option.map_eq_some_iff.mp found
      cases same
      obtain ⟨front, rest, rfl, rfl, here, starts⟩ := ih later
      exact ⟨c :: front, rest, rfl, rfl, here, getLast?_cons_or c front before ▸ starts⟩

theorem firstLineFrom?_newline : firstLineFrom? read (some '\n') text = firstLine? read text := by
  rw [firstLine?]
  cases text <;> rfl

theorem firstAnswer?_append (reads : ReadsLines read) (upper lower : List Char) :
    firstAnswer? read (upper ++ '\n' :: lower) =
      (firstAnswer? read upper).or (firstAnswer? read lower) := by
  have step (before : Option Char) : (firstLineFrom? read before (upper ++ '\n' :: lower)).map (·.2) =
      ((firstLineFrom? read before upper).map (·.2)).or (firstAnswer? read lower) := by
    induction upper generalizing before with
    | nil =>
      have here : read ('\n' :: lower) = none := (reads.append [] lower).trans reads.empty
      simp only [List.nil_append, firstLineFrom?, here, reads.empty, ite_self, Option.map_none,
        firstLineFrom?_newline, firstAnswer?, Option.map_map, Option.none_or]
      rfl
    | cons c upper ih =>
      rw [List.cons_append, firstLineFrom?, ← List.cons_append, reads.append, firstLineFrom?]
      split
      · rfl
      · rw [Option.map_map, Option.map_map]
        exact ih (some c)
  exact step none

theorem firstLineFrom?_append_newline (reads : ReadsLines read) {front : List Char} {found : Nat × α}
    (here : firstLineFrom? read before (front ++ ['\n']) = some found) (rest : List Char) :
    firstLineFrom? read before (front ++ '\n' :: rest) = some found := by
  induction front generalizing before found with
  | nil =>
    have silent : read ['\n'] = none := (reads.append [] []).trans reads.empty
    simp only [List.nil_append, firstLineFrom?, silent, reads.empty, ite_self, Option.map_none,
      reduceCtorEq] at here
  | cons c front ih =>
    have same : read (c :: (front ++ '\n' :: rest)) = read (c :: (front ++ ['\n'])) :=
      (reads.append (c :: front) rest).trans (reads.append (c :: front) []).symm
    rw [List.cons_append, firstLineFrom?] at here ⊢
    rw [same]
    split at here
    · exact here
    · obtain ⟨later, found_later, rfl⟩ := Option.map_eq_some_iff.mp here
      rw [ih found_later]
      rfl

/-- Where the first answer is about a line, there is none about the lines above it. -/
theorem firstLine?_eq_none_of_found (reads : ReadsLines read) {lines rest : List Char} {answer : α}
    (found : firstLine? read (lines ++ '\n' :: rest) = some (lines.length + 1, answer)) :
    firstLine? read (lines ++ ['\n']) = none := by
  rw [Option.eq_none_iff_forall_ne_some]
  intro other here
  have same := firstLineFrom?_append_newline reads here rest
  rw [← firstLine?, found] at same
  cases same
  obtain ⟨front, behind, split, length, reading, -⟩ := exists_of_firstLineFrom? here
  have short := congrArg List.length split
  simp only [List.length_append, List.length_singleton, ← length] at short
  obtain rfl : behind = [] := List.length_eq_zero_iff.mp (by omega)
  rw [reads.empty] at reading
  cases reading

theorem firstLineFrom?_eq_none {c : Char} (inside : c ≠ '\n') (single : '\n' ∉ text) :
    firstLineFrom? read (some c) text = none := by
  induction text generalizing c with
  | nil => simp [firstLineFrom?, startsLine, inside]
  | cons d rest ih =>
    rw [List.mem_cons, not_or] at single
    simp [firstLineFrom?, startsLine, inside, ih (Ne.symm single.1) single.2]

theorem firstAnswer?_eq_none (single : '\n' ∉ text) (silent : read text = none) :
    firstAnswer? read text = none := by
  cases text with
  | nil => simp [firstAnswer?, firstLine?, firstLineFrom?, silent]
  | cons c rest =>
    rw [List.mem_cons, not_or] at single
    simp [firstAnswer?, firstLine?, firstLineFrom?, startsLine, silent,
      firstLineFrom?_eq_none (Ne.symm single.1) single.2]

end FirstLine

/-! ## Patterns that stay on a line -/

/-- A pattern looks at single lines. -/
structure Pattern.IsLinewise (pattern : Pattern) : Prop where
  breaks : pattern.BreaksAt '\n'
  empty (before : Option Char) : pattern before [] = none
  start (text : List Char) : pattern (some '\n') text = pattern none text

theorem Pattern.IsLinewise.occurs_append {pattern : Pattern} (linewise : pattern.IsLinewise)
    (upper lower : List Char) :
    occurs pattern (upper ++ '\n' :: lower) = (occurs pattern upper || occurs pattern lower) := by
  have start : occursFrom pattern (some '\n') lower = occurs pattern lower := by
    cases lower with
    | nil => rfl
    | cons c rest => rw [occurs, occursFrom, occursFrom, linewise.start]
  rw [occurs, linewise.breaks.occursFrom_append_cons linewise.empty, start]
  rfl

theorem isLinewise_wholeWord {word : List Char} (nonempty : word ≠ []) (single : '\n' ∉ word) :
    (wholeWord word).IsLinewise where
  breaks := breaksAt_wholeWord single (by decide)
  empty := wholeWord_nil nonempty
  start _ := wholeWord_congr (by decide)

/-- A pattern takes the end of a line for the end of the text. -/
def Pattern.StopsAtBreaks (pattern : Pattern) : Prop :=
  ∀ before, Text.StopsAtBreaks (pattern before)

theorem stopsAtBreaks_wholeWord {word : List Char} (single : ∀ c ∈ word, isBreak c = false) :
    (wholeWord word).StopsAtBreaks := by
  intro before c ends front rest
  have breaks := breaksAt_wholeWord (not_mem_of_forall single ends) (isWord_eq_false_of_isBreak ends)
    before front rest
  have size {text : List Char} {length : Nat} (found : wholeWord word before text = some length) :
      length = word.length := (wholeWord_eq_some_iff.mp found).2.1
  cases here : wholeWord word before front with
  | none => simpa [here] using breaks
  | some length =>
    obtain ⟨other, there⟩ := Option.isSome_iff_exists.mp (breaks.trans (congrArg Option.isSome here))
    rw [there, size there, size here]

/-! ## Blocks -/

theorem holds_iff_isInfix {block text : List Char} : holds block text = true ↔ block <:+: text := by
  induction text with
  | nil => simp [holds]
  | cons c rest ih =>
    rw [holds, Bool.or_eq_true, List.isPrefixOf_iff_prefix, ih, List.infix_cons_iff]

end Polyfill.Text
