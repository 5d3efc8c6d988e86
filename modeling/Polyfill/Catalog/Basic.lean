import Polyfill.Artifact
import Std.Data.HashMap

/-!
# Catalogs

A catalog lists the artifacts that can be generated. Its order is fixed: language support comes before
what the runtime supports, and within a category ids ascend. Ids are distinct across both categories,
so a catalog is a function of the set of its candidates.
-/

namespace Polyfill

namespace Candidate

/-- Catalog order, not strict: by category, then by id. -/
def le (a b : Candidate) : Bool :=
  a.category.rank < b.category.rank || (a.category.rank == b.category.rank && a.id ≤ b.id)

/-- Catalog order, strict. -/
def Before (a b : Candidate) : Prop :=
  a.category.rank < b.category.rank ∨ (a.category = b.category ∧ a.id < b.id)

theorem le_trans (a b c : Candidate) (hab : a.le b = true) (hbc : b.le c = true) :
    a.le c = true := by
  simp only [le, Bool.or_eq_true, decide_eq_true_eq, Bool.and_eq_true, beq_iff_eq] at *
  rcases hab with hab | ⟨hab, idab⟩ <;> rcases hbc with hbc | ⟨hbc, idbc⟩
  · left; omega
  · left; omega
  · left; omega
  · right; exact ⟨by omega, String.le_trans idab idbc⟩

theorem le_total (a b : Candidate) : (a.le b || b.le a) = true := by
  simp only [le, Bool.or_eq_true, decide_eq_true_eq, Bool.and_eq_true, beq_iff_eq]
  rcases Nat.lt_trichotomy a.category.rank b.category.rank with h | h | h
  · exact .inl (.inl h)
  · rcases String.le_total a.id b.id with hid | hid
    · exact .inl (.inr ⟨h, hid⟩)
    · exact .inr (.inr ⟨h.symm, hid⟩)
  · exact .inr (.inl h)

theorem before_of_le_of_ne {a b : Candidate} (hle : a.le b = true) (hne : a.id ≠ b.id) :
    a.Before b := by
  simp only [le, Bool.or_eq_true, decide_eq_true_eq, Bool.and_eq_true, beq_iff_eq] at hle
  rcases hle with h | ⟨hrank, hid⟩
  · exact .inl h
  · refine .inr ⟨Category.rank_injective hrank, ?_⟩
    rcases String.le_total b.id a.id with h | h
    · exact absurd (String.le_antisymm hid h) hne
    · exact String.not_le.mp fun h' => hne (String.le_antisymm hid h')

end Candidate

/-- The first member of a list that is equal to an earlier one or to one seen before. -/
def firstRepeatAfter? {α : Type} [DecidableEq α] (seen : List α) : List α → Option α
  | [] => none
  | x :: rest => if x ∈ seen then some x else firstRepeatAfter? (x :: seen) rest

def firstRepeat? {α : Type} [DecidableEq α] (list : List α) : Option α :=
  firstRepeatAfter? [] list

theorem nodup_of_firstRepeatAfter?_eq_none {α : Type} [DecidableEq α] {list seen : List α}
    (h : firstRepeatAfter? seen list = none) : list.Nodup ∧ ∀ x ∈ list, x ∉ seen := by
  induction list generalizing seen with
  | nil => simp
  | cons x rest ih =>
    rw [firstRepeatAfter?] at h
    split at h
    · cases h
    · obtain ⟨nodup, fresh⟩ := ih h
      refine ⟨List.nodup_cons.mpr ⟨fun member => ?_, nodup⟩, ?_⟩
      · exact fresh x member (by simp)
      · intro y hy
        rcases List.mem_cons.mp hy with rfl | hy
        · assumption
        · exact fun hs => fresh y hy (by simp [hs])

/-- The candidates that can be generated, in catalog order and with distinct ids. -/
structure Catalog where
  candidates : List Candidate
  ordered : candidates.Pairwise Candidate.Before
  ids_nodup : (candidates.map (·.id)).Nodup

structure DuplicateArtifact where
  id : String
  deriving DecidableEq, Repr

def DuplicateArtifact.message (duplicate : DuplicateArtifact) : String :=
  "Duplicate artifact: " ++ duplicate.id

namespace Catalog

theorem nodup_mergeSort {candidates : List Candidate} (h : (candidates.map (·.id)).Nodup) :
    ((candidates.mergeSort Candidate.le).map (·.id)).Nodup :=
  ((List.mergeSort_perm candidates Candidate.le).map _).nodup_iff.mpr h

theorem ordered_mergeSort {candidates : List Candidate}
    (h : ((candidates.mergeSort Candidate.le).map (·.id)).Nodup) :
    (candidates.mergeSort Candidate.le).Pairwise Candidate.Before := by
  have sorted := List.pairwise_mergeSort Candidate.le_trans Candidate.le_total candidates
  have distinct := List.pairwise_map.mp h
  exact (sorted.and distinct).imp fun ⟨hle, hne⟩ => Candidate.before_of_le_of_ne hle hne

/-- The catalog of candidates that are known to have distinct ids, given in any order. -/
def ofDistinct (candidates : List Candidate) (h : (candidates.map (·.id)).Nodup) : Catalog :=
  ⟨candidates.mergeSort Candidate.le, ordered_mergeSort (nodup_mergeSort h), nodup_mergeSort h⟩

/--
The catalog of a list of candidates, given in any order. If ids repeat, the first one that does in
catalog order is reported.
-/
def ofList (candidates : List Candidate) : Except DuplicateArtifact Catalog :=
  let sorted := candidates.mergeSort Candidate.le
  match h : firstRepeat? (sorted.map (·.id)) with
  | some id => .error ⟨id⟩
  | none =>
    let nodup := (nodup_of_firstRepeatAfter?_eq_none h).1
    .ok ⟨sorted, ordered_mergeSort nodup, nodup⟩

/-- An index to look candidates up through: the position of each id among them. -/
abbrev Positions := Std.HashMap String Nat

/-- Collect the positions of ids from a position on. An id that has a position already is reported. -/
def positionsFrom (position : Nat) (positions : Positions) :
    List Candidate → Except DuplicateArtifact Positions
  | [] => .ok positions
  | candidate :: rest =>
    if positions.contains candidate.id then .error ⟨candidate.id⟩
    else positionsFrom (position + 1) (positions.insert candidate.id position) rest

def size (catalog : Catalog) : Nat :=
  catalog.candidates.length

def isEmpty (catalog : Catalog) : Bool :=
  catalog.candidates.isEmpty

def get? (catalog : Catalog) (id : String) : Option Candidate :=
  catalog.candidates.find? (·.id == id)

def contains (catalog : Catalog) (id : String) : Bool :=
  catalog.candidates.any (·.id == id)

/-- The candidates of a category, in catalog order. -/
def inCategory (catalog : Catalog) (category : Category) : List Candidate :=
  catalog.candidates.filter (·.category == category)

def ids (catalog : Catalog) : List String :=
  catalog.candidates.map (·.id)

end Catalog

end Polyfill
