import Mathlib.Data.List.TakeWhile
import Polyfill.Proofs.Text.Pieces

/-!
# Tokens of a list value

A list value is cut at its separators, and what stands between them is trimmed. The tokens of two values
with a separator between them are the tokens of the one and the tokens of the other, and a text is the
only token of itself if and only if it is one at all (`IsToken`).
-/

namespace Polyfill.Text

/-! ## Trimming -/

section Trimming

variable {front text back : List Char}

theorem trimmed_append_left (spaces : ∀ c ∈ front, isSpace c = true) :
    trimmed (front ++ text) = trimmed text := by
  rw [trimmed, List.dropWhile_append_of_pos spaces]
  rfl

theorem trimmed_append_right (spaces : ∀ c ∈ back, isSpace c = true) :
    trimmed (text ++ back) = trimmed text := by
  rw [trimmed, List.dropWhile_append]
  split
  case isTrue blank =>
    have gone : back.dropWhile isSpace = [] := List.dropWhile_eq_nil_iff.mpr spaces
    simp [trimmed, gone, List.isEmpty_iff.mp blank]
  case isFalse =>
    rw [List.reverse_append, List.dropWhile_append_of_pos (by simpa using spaces)]
    rfl

/-- Trimming takes white space from the end of what is left without that at the start. -/
theorem exists_dropWhile_eq (text : List Char) :
    ∃ back, text.dropWhile isSpace = trimmed text ++ back ∧ ∀ c ∈ back, isSpace c = true := by
  let rest := text.dropWhile isSpace
  refine ⟨(rest.reverse.takeWhile isSpace).reverse, ?_, fun c member => ?_⟩
  · rw [trimmed, ← List.reverse_append, List.takeWhile_append_dropWhile, List.reverse_reverse]
  · exact of_mem_takeWhile isSpace rest.reverse c (List.mem_reverse.mp member)

theorem exists_trimmed (text : List Char) :
    ∃ front back, text = front ++ trimmed text ++ back ∧ (∀ c ∈ front, isSpace c = true) ∧
      ∀ c ∈ back, isSpace c = true := by
  obtain ⟨back, split, spaces⟩ := exists_dropWhile_eq text
  refine ⟨text.takeWhile isSpace, back, ?_, of_mem_takeWhile isSpace text, spaces⟩
  rw [List.append_assoc, ← split, List.takeWhile_append_dropWhile]

theorem startsWith_trimmed (text : List Char) : startsWith isSpace (trimmed text) = false := by
  obtain ⟨back, split, -⟩ := exists_dropWhile_eq text
  rw [Bool.eq_false_iff]
  intro starts
  have inside := startsWith_append starts back
  rw [← split, startsWith_dropWhile] at inside
  cases inside

theorem startsWith_reverse_trimmed (text : List Char) :
    startsWith isSpace (trimmed text).reverse = false := by
  rw [trimmed, List.reverse_reverse]
  exact startsWith_dropWhile isSpace _

theorem trimmed_eq_self (starts : startsWith isSpace text = false)
    (ends : startsWith isSpace text.reverse = false) : trimmed text = text := by
  rw [trimmed, dropWhile_eq_self starts, dropWhile_eq_self ends, List.reverse_reverse]

end Trimming

/-! ## Tokens -/

theorem isListSeparator_eq_false_of_isSpace {c : Char} (space : isSpace c = true) :
    isListSeparator c = false := by
  rw [Bool.eq_false_iff]
  intro separates
  have : c = ',' ∨ c = ';' := by simpa [isListSeparator] using separates
  rcases this with rfl | rfl <;> exact absurd space (by decide)

/-- A token is not empty, holds no separator, and neither starts nor ends with white space. -/
structure IsToken (token : String) : Prop where
  nonempty : token ≠ ""
  single : ∀ c ∈ token.toList, isListSeparator c = false
  starts : startsWith isSpace token.toList = false
  ends : startsWith isSpace token.toList.reverse = false

/-- A separator between two values is all that separates their tokens. -/
theorem tokens_append_separator (a b : String) {separator : String} (member : separator ∈ [",", ";"]) :
    tokens (a ++ separator ++ b) = tokens a ++ tokens b := by
  obtain ⟨c, single, separates⟩ : ∃ c, separator.toList = [c] ∧ isListSeparator c = true := by
    rcases List.mem_pair.mp member with rfl | rfl
    · exact ⟨',', rfl, rfl⟩
    · exact ⟨';', rfl, rfl⟩
  simp [tokens, single, pieces_append_cons separates]

theorem tokens_of_single {text : List Char} (single : ∀ c ∈ text, isListSeparator c = false) :
    tokens (.ofList text) = if trimmed text = [] then [] else [.ofList (trimmed text)] := by
  simp only [tokens, String.toList_ofList, pieces_eq_singleton single]
  split <;> simp_all

theorem isToken_of_mem_tokens {value token : String} (among : token ∈ tokens value) :
    IsToken token := by
  obtain ⟨text, member, rfl⟩ := List.mem_map.mp among
  obtain ⟨trims, nonempty⟩ := List.mem_filter.mp member
  obtain ⟨piece, cut, rfl⟩ := List.mem_map.mp trims
  obtain ⟨front, back, split, -⟩ := exists_trimmed piece
  constructor
  case nonempty => simpa using nonempty
  case single =>
    intro c inside
    rw [String.toList_ofList] at inside
    refine not_separator_of_mem_pieces cut c ?_
    rw [split]
    simp [inside]
  case starts => simpa using startsWith_trimmed piece
  case ends => simpa using startsWith_reverse_trimmed piece

theorem IsToken.tokens_eq {token : String} (isToken : IsToken token) : tokens token = [token] := by
  have kept := trimmed_eq_self isToken.starts isToken.ends
  have single := tokens_of_single isToken.single
  have nonempty : token.toList ≠ [] := by simpa using isToken.nonempty
  rwa [String.ofList_toList, kept, if_neg nonempty, String.ofList_toList] at single

theorem tokens_trim (value : String) : tokens (trim value) = tokens value := by
  obtain ⟨front, back, split, before, behind⟩ := exists_trimmed value.toList
  have no_separator {spaces : List Char} (blank : ∀ c ∈ spaces, isSpace c = true) :
      ∀ c ∈ spaces, isListSeparator c = false :=
    fun c member => isListSeparator_eq_false_of_isSpace (blank c member)
  obtain ⟨others, last, inner, outer⟩ :=
    exists_pieces_append_right (trimmed value.toList) (no_separator behind)
  obtain ⟨first, rest, whole, widened⟩ :=
    exists_pieces_append_left (trimmed value.toList ++ back) (no_separator before)
  have same : (pieces isListSeparator value.toList).map trimmed =
      (pieces isListSeparator (trimmed value.toList)).map trimmed := by
    conv_lhs => rw [split, List.append_assoc, widened, List.map_cons, trimmed_append_left before,
      ← List.map_cons, ← whole, outer, List.map_append, List.map_singleton, trimmed_append_right behind]
    rw [inner, List.map_append, List.map_singleton]
  simp only [tokens, trim, String.toList_ofList, same]

theorem tokens_intercalate (texts : List String) :
    tokens (String.intercalate ";" texts) = texts.flatMap tokens := by
  induction texts with
  | nil => rfl
  | cons text rest ih =>
    cases rest with
    | nil => simp
    | cons next others =>
      rw [String.intercalate_cons_cons, List.flatMap_cons, ← ih, tokens_append_separator]
      decide

/-- A list is made of tokens if and only if it comes back from its texts with semicolons between them. -/
theorem tokens_intercalate_eq_iff {list : List String} :
    tokens (String.intercalate ";" list) = list ↔ ∀ token ∈ list, IsToken token := by
  constructor
  · intro same token member
    rw [← same] at member
    exact isToken_of_mem_tokens member
  · intro all
    rw [tokens_intercalate, List.flatMap_congr fun token member => (all token member).tokens_eq]
    simp

end Polyfill.Text
