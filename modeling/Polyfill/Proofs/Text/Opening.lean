import Polyfill.Proofs.Text.Line
import Polyfill.Proofs.Text.Pieces

/-!
# How a line starts

A line is told by the words that it starts with: the longest runs of word characters, with blanks between
them. What is said first about a text is said about the first line of it that has something to say.
-/

namespace Polyfill.Text

/-! ## Words on a line -/

/-- A text starts with a name behind blanks, the longest run of a class. -/
inductive StartsName (cls : Char → Bool) (name rest : List Char) : List Char → Prop where
  | behind {blanks : List Char} (blank : ∀ c ∈ blanks, isBlank c = true) (nonempty : name ≠ [])
      (inside : ∀ c ∈ name, cls c = true) (ends : startsWith cls rest = false) :
      StartsName cls name rest (blanks ++ (name ++ rest))

/-- A text starts with words: blanks may stand in front of the first one, and stand between them. -/
inductive Opens : List (List Char) → List Char → Prop where
  | last {word rest text} (starts : StartsName isWord word rest text) : Opens [word] text
  | next {word words rest text} (starts : StartsName isWord word rest text)
      (parted : startsWith isBlank rest = true) (others : Opens words rest) :
      Opens (word :: words) text

theorem startsName_iff {cls : Char → Bool} (apart : ∀ c, isBlank c = true → cls c = false)
    {name rest text : List Char} :
    StartsName cls name rest text ↔ name ≠ [] ∧ (text.dropWhile isBlank).takeWhile cls = name ∧
      (text.dropWhile isBlank).dropWhile cls = rest := by
  constructor
  · rintro ⟨blank, nonempty, inside, ends⟩
    have word_first : startsWith isBlank (name ++ rest) = false := by
      obtain ⟨c, more, rfl⟩ := List.exists_cons_of_ne_nil nonempty
      have inside_first : cls c = true := inside c List.mem_cons_self
      show isBlank c = false
      rw [Bool.eq_false_iff]
      intro blank_first
      rw [apart c blank_first] at inside_first
      cases inside_first
    rw [dropWhile_append_of_ends blank word_first]
    exact ⟨nonempty, takeWhile_append_of_ends inside ends, dropWhile_append_of_ends inside ends⟩
  · rintro ⟨nonempty, rfl, rfl⟩
    have whole : text = text.takeWhile isBlank ++ ((text.dropWhile isBlank).takeWhile cls ++
        (text.dropWhile isBlank).dropWhile cls) := by
      rw [List.takeWhile_append_dropWhile, List.takeWhile_append_dropWhile]
    conv_rhs => rw [whole]
    exact .behind (of_mem_takeWhile isBlank text) nonempty (of_mem_takeWhile cls _)
      (startsWith_dropWhile cls _)

theorem StartsName.inside {cls : Char → Bool} {name rest text : List Char}
    (starts : StartsName cls name rest text) : ∀ c ∈ name, cls c = true := by
  cases starts with
  | behind _ _ inside _ => exact inside

namespace Opens

variable {word : List Char} {words more : List (List Char)} {text : List Char}

theorem exists_rest (opens : Opens (word :: words) text) : ∃ rest, StartsName isWord word rest text ∧
    (words ≠ [] → startsWith isBlank rest = true ∧ Opens words rest) := by
  cases opens with
  | last starts => exact ⟨_, starts, fun others => absurd rfl others⟩
  | next starts parted others => exact ⟨_, starts, fun _ => ⟨parted, others⟩⟩

theorem of_append (nonempty : words ≠ []) (opens : Opens (words ++ more) text) : Opens words text := by
  induction words generalizing text with
  | nil => exact absurd rfl nonempty
  | cons word words ih =>
    obtain ⟨rest, starts, behind⟩ := opens.exists_rest
    cases words with
    | nil => exact .last starts
    | cons second words =>
      obtain ⟨parted, others⟩ := behind (List.cons_ne_nil _ _)
      exact .next starts parted (ih (List.cons_ne_nil _ _) others)

theorem cons_iff : Opens (word :: words) text ↔
    word ≠ [] ∧ (text.dropWhile isBlank).takeWhile isWord = word ∧
      (words = [] ∨ startsWith isBlank ((text.dropWhile isBlank).dropWhile isWord) = true ∧
        Opens words ((text.dropWhile isBlank).dropWhile isWord)) := by
  constructor
  · intro opens
    obtain ⟨rest, starts, behind⟩ := opens.exists_rest
    obtain ⟨nonempty, first, rfl⟩ := (startsName_iff fun _ => isWord_eq_false_of_isBlank).mp starts
    exact ⟨nonempty, first, Classical.or_iff_not_imp_left.mpr behind⟩
  · rintro ⟨nonempty, first, behind⟩
    have starts := (startsName_iff fun _ => isWord_eq_false_of_isBlank).mpr ⟨nonempty, first, rfl⟩
    rcases behind with rfl | ⟨parted, others⟩
    · exact .last starts
    · exact .next starts parted others

instance decidable : (words : List (List Char)) → (text : List Char) → Decidable (Opens words text)
  | [], _ => isFalse fun opens => nomatch opens
  | _ :: words, text =>
    have := decidable words ((text.dropWhile isBlank).dropWhile isWord)
    decidable_of_iff _ cons_iff.symm

end Opens

theorem startsWith_isWord_of_isBlank {text : List Char} (blank : startsWith isBlank text = true) :
    startsWith isWord text = false := by
  cases text with
  | nil => rfl
  | cons c rest => exact isWord_eq_false_of_isBlank blank

/-! ## The first line with a property -/

section Lines

variable {α : Type} {read : List Char → Option α}

theorem firstAnswer?_of_single {text : List Char} (single : '\n' ∉ text) :
    firstAnswer? read text = read text := by
  cases answer : read text with
  | none => exact firstAnswer?_eq_none single answer
  | some found =>
    cases text <;> simp [firstAnswer?, firstLine?, firstLineFrom?, startsLine, answer]

theorem firstAnswer?_append_of_closed (reads : ReadsLines read) {line : List Char}
    (closed : line.getLast? = some '\n') (rest : List Char) :
    firstAnswer? read (line ++ rest) = (firstAnswer? read line).or (firstAnswer? read rest) := by
  obtain ⟨content, rfl⟩ := List.getLast?_eq_some_iff.mp closed
  have empty : firstAnswer? read [] = none := firstAnswer?_eq_none List.not_mem_nil reads.empty
  rw [List.append_assoc, List.singleton_append, firstAnswer?_append reads, firstAnswer?_append reads,
    empty, Option.or_none]

theorem firstAnswer?_of_mem_lines (reads : ReadsLines read) {text line : List Char}
    (member : line ∈ lines text) : firstAnswer? read line = read line := by
  obtain ⟨content, ending, rfl, single, rfl | rfl⟩ := exists_of_mem_lines member
  · rw [List.append_nil, firstAnswer?_of_single single]
  · rw [firstAnswer?_append reads, reads.append, firstAnswer?_of_single single,
      firstAnswer?_eq_none List.not_mem_nil reads.empty, Option.or_none]

/-- The first answer about a text is the first one about a line of it. -/
theorem firstAnswer?_eq_findSome? (reads : ReadsLines read) (text : List Char) :
    firstAnswer? read text = (lines text).findSome? read := by
  have chain := isChain_lines text
  have each : ∀ line ∈ lines text, firstAnswer? read line = read line :=
    fun _ => firstAnswer?_of_mem_lines reads
  conv_lhs => rw [← flatten_lines text]
  generalize lines text = pieces at chain each
  induction pieces with
  | nil => exact firstAnswer?_eq_none List.not_mem_nil reads.empty
  | cons line rest ih =>
    rw [List.forall_mem_cons] at each
    obtain ⟨here, others⟩ := each
    rw [List.flatten_cons, List.findSome?_cons, ← here]
    cases rest with
    | nil =>
      rw [List.flatten_nil, List.append_nil]
      cases firstAnswer? read line <;> rfl
    | cons next more =>
      rw [List.isChain_cons_cons] at chain
      rw [firstAnswer?_append_of_closed reads chain.1, ih chain.2 others]
      cases firstAnswer? read line <;> rfl

end Lines

end Polyfill.Text
