import Mathlib.Data.List.SplitBy
import Polyfill.Proofs.Text.Delimiter
import Polyfill.Text.Trim

/-!
# Pieces of a text

A text is cut at separators, which are dropped, or between neighbours: behind every line feed into lines,
and around every character that belongs to no word into runs. Nothing is lost of lines and runs, which
come to the text.
-/

namespace Polyfill.Text

/-! ## Pieces between separators -/

section Separated

variable {α : Type} {isSeparator : α → Bool}

theorem pieces_eq_splitOnP (list : List α) : pieces isSeparator list = list.splitOnP isSeparator := by
  fun_induction pieces isSeparator list with
  | case1 => rfl
  | case2 c rest separates ih =>
    rw [List.splitOnP_cons_eq_if_modifyHead, if_pos separates, ih]
  | case3 c rest none kept ih => exact absurd (ih.symm.trans none) (List.splitOnP_ne_nil isSeparator rest)
  | case4 c rest first others found kept ih =>
    rw [List.splitOnP_cons_eq_if_modifyHead, kept, if_neg Bool.false_ne_true, ← ih, found]
    rfl

theorem pieces_eq_singleton {list : List α} (none : ∀ c ∈ list, isSeparator c = false) :
    pieces isSeparator list = [list] := by
  rw [pieces_eq_splitOnP, List.splitOnP_eq_singleton none]

theorem pieces_ne_nil (list : List α) : pieces isSeparator list ≠ [] := by
  rw [pieces_eq_splitOnP]
  exact List.splitOnP_ne_nil isSeparator list

theorem pieces_append_cons {separator : α} (separates : isSeparator separator = true)
    (list rest : List α) :
    pieces isSeparator (list ++ separator :: rest) =
      pieces isSeparator list ++ pieces isSeparator rest := by
  simp only [pieces_eq_splitOnP, List.splitOnP_append_cons list rest separates]

theorem exists_mem_pieces {list : List α} {c : α} (member : c ∈ list)
    (kept : isSeparator c = false) : ∃ piece ∈ pieces isSeparator list, c ∈ piece := by
  induction list with
  | nil => cases member
  | cons d rest ih =>
    rw [pieces]
    rcases List.mem_cons.mp member with rfl | member
    · cases found : pieces isSeparator rest with
      | nil => simp [kept]
      | cons first others => simp [kept]
    · obtain ⟨piece, among, inside⟩ := ih member
      cases separates : isSeparator d with
      | true => exact ⟨piece, List.mem_cons_of_mem _ among, inside⟩
      | false =>
        cases found : pieces isSeparator rest with
        | nil => simp [found] at among
        | cons first others =>
          rw [found] at among
          rcases List.mem_cons.mp among with rfl | among
          · exact ⟨d :: piece, List.mem_cons_self, List.mem_cons_of_mem d inside⟩
          · exact ⟨piece, List.mem_cons_of_mem _ among, inside⟩

theorem not_separator_of_mem_pieces {list piece : List α} (among : piece ∈ pieces isSeparator list) :
    ∀ c ∈ piece, isSeparator c = false := by
  induction list generalizing piece with
  | nil =>
    obtain rfl := List.mem_singleton.mp among
    exact List.forall_mem_nil _
  | cons d rest ih =>
    rw [pieces] at among
    cases separates : isSeparator d with
    | true =>
      rw [separates] at among
      rcases List.mem_cons.mp among with rfl | among
      · exact List.forall_mem_nil _
      · exact ih among
    | false =>
      cases found : pieces isSeparator rest with
      | nil => exact absurd found (pieces_ne_nil rest)
      | cons first others =>
        rw [separates, found] at among
        rcases List.mem_cons.mp among with rfl | among
        · exact List.forall_mem_cons.mpr ⟨separates, ih (by simp [found])⟩
        · exact ih (by simp [found, among])

theorem exists_pieces_append_left (text : List α) {front : List α}
    (single : ∀ c ∈ front, isSeparator c = false) :
    ∃ first others, pieces isSeparator text = first :: others ∧
      pieces isSeparator (front ++ text) = (front ++ first) :: others := by
  induction front with
  | nil =>
    obtain ⟨first, others, found⟩ := List.exists_cons_of_ne_nil (pieces_ne_nil text)
    exact ⟨first, others, found, found⟩
  | cons c front ih =>
    obtain ⟨kept, single⟩ := List.forall_mem_cons.mp single
    obtain ⟨first, others, found, longer⟩ := ih single
    refine ⟨first, others, found, ?_⟩
    rw [List.cons_append, pieces, kept, longer]
    rfl

theorem exists_pieces_append_right (text : List α) {back : List α}
    (single : ∀ c ∈ back, isSeparator c = false) :
    ∃ others last, pieces isSeparator text = others ++ [last] ∧
      pieces isSeparator (text ++ back) = others ++ [last ++ back] := by
  induction text with
  | nil => exact ⟨[], [], rfl, pieces_eq_singleton single⟩
  | cons c text ih =>
    obtain ⟨others, last, found, longer⟩ := ih
    rw [List.cons_append, pieces, pieces, found, longer]
    cases separates : isSeparator c with
    | true => exact ⟨[] :: others, last, rfl, rfl⟩
    | false =>
      cases others with
      | nil => exact ⟨[], c :: last, rfl, rfl⟩
      | cons first others => exact ⟨(c :: first) :: others, last, rfl, rfl⟩

end Separated

/-! ## Lines -/

/-- The lines of a text, each with the line feed that ends it. -/
def lines (text : List Char) : List (List Char) :=
  text.splitBy fun c _ => c != '\n'

theorem flatten_lines (text : List Char) : (lines text).flatten = text :=
  List.flatten_splitBy _ text

theorem exists_of_mem_lines {text line : List Char} (member : line ∈ lines text) :
    ∃ content ending, line = content ++ ending ∧ '\n' ∉ content ∧ (ending = [] ∨ ending = ['\n']) := by
  have chain : line.IsChain fun c _ => (c != '\n') = true := List.isChain_of_mem_splitBy member
  cases List.eq_nil_or_concat' line with
  | inl empty =>
    subst empty
    exact ⟨[], [], rfl, List.not_mem_nil, .inl rfl⟩
  | inr found =>
    obtain ⟨content, last, rfl⟩ := found
    have single : '\n' ∉ content := by
      intro inside
      obtain ⟨front, more, rfl⟩ := List.append_of_mem inside
      -- behind the line feed the line would go on, be it with its last character only
      obtain ⟨next, rest, goes_on⟩ : ∃ next rest, more ++ [last] = next :: rest :=
        List.exists_cons_of_ne_nil (by simp)
      rw [List.append_assoc, List.cons_append, goes_on, List.isChain_append_cons_cons] at chain
      exact absurd chain.2.1 (by decide)
    by_cases feed : last = '\n'
    · exact ⟨content, ['\n'], by rw [feed], single, .inr rfl⟩
    · exact ⟨content ++ [last], [], by simp, by simp [single, Ne.symm feed], .inl rfl⟩

theorem eq_nil_of_mem_lines {text front rest : List Char} (member : front ++ '\n' :: rest ∈ lines text) :
    rest = [] := by
  obtain ⟨content, ending, split, single, ends⟩ := exists_of_mem_lines member
  obtain ⟨more, -, ending_eq⟩ := exists_of_append_eq_append_cons single split.symm
  rcases ends with rfl | rfl
  · simp at ending_eq
  · cases more with
    | nil => exact (List.cons.inj ending_eq).2.symm
    | cons c more => simp at ending_eq

/-- Every line but the last one ends with its line feed. -/
theorem isChain_lines (text : List Char) :
    (lines text).IsChain fun line _ => line.getLast? = some '\n' := by
  have chain := List.isChain_getLast_head_splitBy (fun c _ => c != '\n') text
  refine chain.imp ?_
  intro line next ends
  obtain ⟨nonempty, _, stops⟩ := ends
  have last : line.getLast nonempty = '\n' := by simpa using stops
  rw [List.getLast?_eq_some_getLast nonempty, last]

/-! ## Runs -/

/-- The maximal runs of word characters in a text, and each other character for itself. -/
def runs (text : List Char) : List (List Char) :=
  text.splitBy fun c d => isWord c && isWord d

theorem runs_cons_of_outside {c : Char} (outside : isWord c = false) (rest : List Char) :
    runs (c :: rest) = [c] :: runs rest := by
  have apart : ∀ d ∈ [c].getLast?, ∀ e ∈ rest.head?, (isWord d && isWord e) = false := by
    simp [outside]
  exact List.splitBy_append apart

/-- A run goes on up to the end of its word. -/
theorem runs_append {run rest : List Char} (nonempty : run ≠ [])
    (all : ∀ c ∈ run, isWord c = true) (ends : startsWith isWord rest = false) :
    runs (run ++ rest) = run :: runs rest := by
  have chain : run.IsChain fun c d => (isWord c && isWord d) = true := by
    apply List.Pairwise.isChain
    apply List.pairwise_of_forall_mem_list
    intro c c_member d d_member
    rw [all c c_member, all d d_member]
    rfl
  have apart : ∀ c ∈ run.getLast?, ∀ d ∈ rest.head?, (isWord c && isWord d) = false := by
    intro c _ d first
    have outside : isWord d = false := by
      rw [startsWith, Option.mem_def.mp first] at ends
      exact ends
    rw [outside, Bool.and_false]
  rw [runs, List.splitBy_append apart, List.splitBy_of_isChain nonempty chain]
  rfl

end Polyfill.Text
