import Polyfill.Text.Scan

/-!
# Starts, runs and delimiters

Readers take a start from a text, a run of characters of a class, or what stands in front of a
delimiter. What they take does not depend on what follows the delimiter.
-/

namespace Polyfill.Text

/-! ## Starts -/

theorem after?_eq_some_iff {block text rest : List Char} :
    after? block text = some rest ↔ text = block ++ rest := by
  rw [after?, Option.ite_none_right_eq_some, List.isPrefixOf_iff_prefix, Option.some.injEq]
  constructor
  · rintro ⟨⟨more, rfl⟩, rfl⟩
    rw [List.drop_left]
  · rintro rfl
    exact ⟨List.prefix_append .., List.drop_left⟩

/-! ## Runs -/

theorem startsWith_append {cls : Char → Bool} {start : List Char}
    (starts : startsWith cls start = true) (rest : List Char) :
    startsWith cls (start ++ rest) = true := by
  cases start with
  | nil => simp [startsWith] at starts
  | cons c start => exact starts

theorem startsWith_dropWhile (cls : Char → Bool) (text : List Char) :
    startsWith cls (text.dropWhile cls) = false := by
  induction text with
  | nil => rfl
  | cons c rest ih =>
    rw [List.dropWhile_cons]
    split
    · exact ih
    · simp_all [startsWith]

theorem of_mem_takeWhile (cls : Char → Bool) (text : List Char) :
    ∀ c ∈ text.takeWhile cls, cls c = true := fun c member => by
  simpa using List.all_eq_true.mp List.all_takeWhile c member

theorem takeWhile_eq_nil {cls : Char → Bool} {text : List Char}
    (ends : startsWith cls text = false) : text.takeWhile cls = [] := by
  cases text with
  | nil => rfl
  | cons c rest => exact List.takeWhile_cons_of_neg (by simpa [startsWith] using ends)

theorem dropWhile_eq_self {cls : Char → Bool} {text : List Char}
    (ends : startsWith cls text = false) : text.dropWhile cls = text := by
  cases text with
  | nil => rfl
  | cons c rest => exact List.dropWhile_cons_of_neg (by simpa [startsWith] using ends)

theorem dropWhile_append_of_ends {cls : Char → Bool} {front rest : List Char}
    (inside : ∀ c ∈ front, cls c = true) (ends : startsWith cls rest = false) :
    (front ++ rest).dropWhile cls = rest := by
  rw [List.dropWhile_append_of_pos inside, dropWhile_eq_self ends]

theorem takeWhile_append_of_ends {cls : Char → Bool} {front rest : List Char}
    (inside : ∀ c ∈ front, cls c = true) (ends : startsWith cls rest = false) :
    (front ++ rest).takeWhile cls = front := by
  rw [List.takeWhile_append_of_pos inside, takeWhile_eq_nil ends, List.append_nil]

theorem drop_length_takeWhile (cls : Char → Bool) (text : List Char) :
    text.drop (text.takeWhile cls).length = text.dropWhile cls := by
  induction text with
  | nil => rfl
  | cons c rest ih => cases inside : cls c <;> simp [inside, ih]

theorem forall_mem_of_all {P : Char → Prop} [DecidablePred P] {text : List Char}
    (all : (text.all fun c => decide (P c)) = true) : ∀ c ∈ text, P c := by
  simpa using all

theorem not_mem_of_forall {cls : Char → Bool} {value : Bool} {text : List Char} {c : Char}
    (all : ∀ d ∈ text, cls d = value) (other : cls c = !value) : c ∉ text := by
  intro member
  rw [all c member] at other
  cases value <;> cases other

/-! ## Delimiters -/

theorem exists_of_append_eq_append_cons {c : Char} {start tail body rest : List Char}
    (fresh : c ∉ start) (same : start ++ tail = body ++ c :: rest) :
    ∃ more, body = start ++ more ∧ tail = more ++ c :: rest := by
  rcases List.append_eq_append_iff.mp same with ⟨more, rfl, tail_eq⟩ | ⟨more, rfl, rest_eq⟩
  · exact ⟨more, rfl, tail_eq⟩
  · cases more with
    | nil => exact ⟨[], by simp, by simpa using rest_eq.symm⟩
    | cons d more =>
      obtain ⟨rfl, -⟩ := List.cons.inj rest_eq
      simp at fresh

theorem eq_of_append_cons_eq {c : Char} {body body' rest rest' : List Char} (fresh : c ∉ body)
    (fresh' : c ∉ body') (same : body ++ c :: rest = body' ++ c :: rest') :
    body = body' ∧ rest = rest' := by
  obtain ⟨more, rfl, rest_eq⟩ := exists_of_append_eq_append_cons fresh same
  cases more with
  | nil => exact ⟨by simp, (List.cons.inj rest_eq).2⟩
  | cons d more =>
    obtain ⟨rfl, -⟩ := List.cons.inj rest_eq
    simp at fresh'

theorem takeWhile_append_cons {c : Char} {body : List Char} (fresh : c ∉ body) (rest : List Char) :
    (body ++ c :: rest).takeWhile (· != c) = body := by
  have inside : ∀ d ∈ body, (d != c) = true := fun d member =>
    bne_iff_ne.mpr fun same => fresh (same ▸ member)
  rw [List.takeWhile_append_of_pos inside, List.takeWhile_cons_of_neg (by simp), List.append_nil]

section Closing

variable {c : Char} (text rest : List Char)

theorem after?_append_cons {block : List Char} (fresh : c ∉ block) :
    after? block (text ++ c :: rest) = (after? block text).map (· ++ c :: rest) := by
  cases found : after? block text with
  | some behind =>
    rw [after?_eq_some_iff] at found
    rw [Option.map_some, after?_eq_some_iff, found, List.append_assoc]
  | none =>
    rw [Option.map_none, Option.eq_none_iff_forall_ne_some]
    intro behind same
    rw [after?_eq_some_iff] at same
    obtain ⟨more, split, -⟩ := exists_of_append_eq_append_cons fresh same.symm
    rw [after?_eq_some_iff.mpr split] at found
    cases found

variable {cls : Char → Bool} (outside : cls c = false)

include outside

theorem dropWhile_append_cons :
    (text ++ c :: rest).dropWhile cls = text.dropWhile cls ++ c :: rest := by
  induction text with
  | nil => exact List.dropWhile_cons_of_neg (by simp [outside])
  | cons d text ih => cases inside : cls d <;> simp [inside, ih]

theorem takeWhile_append_outside : (text ++ c :: rest).takeWhile cls = text.takeWhile cls := by
  induction text with
  | nil => exact List.takeWhile_cons_of_neg (by simp [outside])
  | cons d text ih => cases inside : cls d <;> simp [inside, ih]

theorem startsWith_append_cons : startsWith cls (text ++ c :: rest) = startsWith cls text := by
  cases text with
  | nil => simp [startsWith, outside]
  | cons d text => rfl

end Closing

end Polyfill.Text
