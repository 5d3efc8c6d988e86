/-!
# Sets of names

A set of names is kept as its members in ascending order, so that equal sets are equal values and are
printed alike. Names are ordered by their characters, which is the order of their UTF-8 bytes.
-/

namespace Polyfill

structure NameSet where
  names : List String
  ascending : names.Pairwise (· < ·)
  deriving DecidableEq

namespace NameSet

def empty : NameSet :=
  ⟨[], .nil⟩

instance : EmptyCollection NameSet := ⟨empty⟩

instance : Inhabited NameSet := ⟨empty⟩

instance : Membership String NameSet := ⟨fun set name => name ∈ set.names⟩

instance (name : String) (set : NameSet) : Decidable (name ∈ set) :=
  inferInstanceAs (Decidable (name ∈ set.names))

/-- Put a name into its place among ascending names. -/
def insertName (name : String) : List String → List String
  | [] => [name]
  | first :: rest =>
    if name < first then name :: first :: rest
    else if name = first then first :: rest
    else first :: insertName name rest

theorem mem_insertName {name other : String} {names : List String} :
    other ∈ insertName name names ↔ other = name ∨ other ∈ names := by
  induction names with
  | nil => simp [insertName]
  | cons first rest ih =>
    unfold insertName
    split
    · simp
    · split
      · rename_i equal
        subst equal
        simp
      · simp only [List.mem_cons, ih]
        grind

theorem pairwise_insertName {name : String} {names : List String} (h : names.Pairwise (· < ·)) :
    (insertName name names).Pairwise (· < ·) := by
  induction names with
  | nil => simp [insertName]
  | cons first rest ih =>
    obtain ⟨below, tail⟩ := List.pairwise_cons.mp h
    unfold insertName
    split
    · rename_i less
      refine List.pairwise_cons.mpr ⟨fun other member => ?_, h⟩
      rcases List.mem_cons.mp member with rfl | member
      · exact less
      · exact String.lt_trans less (below other member)
    · split
      · exact h
      · rename_i notLess different
        refine List.pairwise_cons.mpr ⟨fun other member => ?_, ih tail⟩
        rcases mem_insertName.mp member with rfl | member
        · rcases String.le_total first other with le | le
          · exact String.not_le.mp fun ge => different (String.le_antisymm ge le)
          · exact absurd (String.not_le.mp fun ge => different (String.le_antisymm le ge)) notLess
        · exact below other member

def insert (set : NameSet) (name : String) : NameSet :=
  ⟨insertName name set.names, pairwise_insertName set.ascending⟩

def ofList (names : List String) : NameSet :=
  names.foldl insert empty

def contains (set : NameSet) (name : String) : Bool :=
  decide (name ∈ set)

def isEmpty (set : NameSet) : Bool :=
  set.names.isEmpty

theorem mem_iff {set : NameSet} {name : String} : name ∈ set ↔ name ∈ set.names :=
  Iff.rfl

@[simp] theorem not_mem_empty {name : String} : name ∉ empty := by
  simp [mem_iff, empty]

@[simp] theorem mem_insert {set : NameSet} {name other : String} :
    other ∈ set.insert name ↔ other = name ∨ other ∈ set :=
  mem_insertName

@[simp] theorem contains_iff {set : NameSet} {name : String} :
    set.contains name = true ↔ name ∈ set := by
  simp [contains]

/-- Ascending lists with the same members are equal. -/
theorem eq_of_mem_iff {a b : List String} (ha : a.Pairwise (· < ·)) (hb : b.Pairwise (· < ·))
    (h : ∀ name, name ∈ a ↔ name ∈ b) : a = b := by
  induction a generalizing b with
  | nil =>
    cases b with
    | nil => rfl
    | cons first rest => exact absurd ((h first).mpr (by simp)) (by simp)
  | cons first rest ih =>
    cases b with
    | nil => exact absurd ((h first).mp (by simp)) (by simp)
    | cons other others =>
      obtain ⟨below, tail⟩ := List.pairwise_cons.mp ha
      obtain ⟨below', tail'⟩ := List.pairwise_cons.mp hb
      have same : first = other := by
        rcases List.mem_cons.mp ((h first).mp (by simp)) with equal | member
        · exact equal
        · rcases List.mem_cons.mp ((h other).mpr (by simp)) with equal | member'
          · exact equal.symm
          · exact absurd (String.lt_trans (below other member') (below' first member))
              (String.lt_irrefl first)
      subst same
      congr 1
      refine ih tail tail' fun name => ⟨fun member => ?_, fun member => ?_⟩
      · rcases List.mem_cons.mp ((h name).mp (by simp [member])) with rfl | found
        · exact absurd (below name member) (String.lt_irrefl name)
        · exact found
      · rcases List.mem_cons.mp ((h name).mpr (by simp [member])) with rfl | found
        · exact absurd (below' name member) (String.lt_irrefl name)
        · exact found

@[ext] theorem ext {a b : NameSet} (h : ∀ name, name ∈ a ↔ name ∈ b) : a = b := by
  obtain ⟨a, ha⟩ := a
  obtain ⟨b, hb⟩ := b
  congr 1
  exact eq_of_mem_iff ha hb h

theorem mem_foldl_insert {names : List String} {set : NameSet} {name : String} :
    name ∈ names.foldl insert set ↔ name ∈ names ∨ name ∈ set := by
  induction names generalizing set with
  | nil => simp
  | cons first rest ih => simp only [List.foldl_cons, ih, mem_insert, List.mem_cons]; grind

@[simp] theorem mem_ofList {names : List String} {name : String} :
    name ∈ ofList names ↔ name ∈ names := by
  simp [ofList, mem_foldl_insert]

theorem contains_ofList (names : List String) (name : String) :
    (ofList names).contains name = names.contains name := by
  rw [Bool.eq_iff_iff, contains_iff, mem_ofList, List.contains_iff_mem]

theorem isEmpty_ofList (names : List String) : (ofList names).isEmpty = names.isEmpty := by
  rw [Bool.eq_iff_iff, isEmpty, List.isEmpty_iff, List.isEmpty_iff,
    List.eq_nil_iff_forall_not_mem, List.eq_nil_iff_forall_not_mem]
  simp only [← mem_iff, mem_ofList]

end NameSet

end Polyfill
