/-!
# Fixups

A fixup is one change that a template may need before it fits its target. A selection carries a set
of them; the order in which they are applied is fixed by `Template.materialize`, so a set is all that
has to be remembered.
-/

namespace Polyfill

/-- One change that a template may need. -/
inductive Fixup where
  /-- Strip the attributes that hint at how a method is to be compiled. -/
  | removeMethodImplHints
  /-- Strip the attributes that exclude code from coverage. -/
  | removeCoverageExclusionHints
  /-- Move the native-call artifact into its alternate namespace. -/
  | aliasNamespaceForNativeCallArtifact
  /-- Put a global alias for the inline-array artifact in front of its namespace. -/
  | emitGlobalAliasForInlineArrayArtifact
  /-- Emit the global alias and nothing else. -/
  | generateAliasOnly
  deriving DecidableEq, Repr

namespace Fixup

/-- All fixups, in the order in which sets list them. -/
def all : List Fixup :=
  [removeMethodImplHints, removeCoverageExclusionHints, aliasNamespaceForNativeCallArtifact,
    emitGlobalAliasForInlineArrayArtifact, generateAliasOnly]

/-- The place of a fixup in `Fixup.all`, which is also its bit in the number of a set. -/
def index : Fixup → Nat
  | removeMethodImplHints => 0
  | removeCoverageExclusionHints => 1
  | aliasNamespaceForNativeCallArtifact => 2
  | emitGlobalAliasForInlineArrayArtifact => 3
  | generateAliasOnly => 4

/-- The name under which a fixup is shown and exchanged. -/
def name : Fixup → String
  | removeMethodImplHints => "RemoveMethodImplHints"
  | removeCoverageExclusionHints => "RemoveCoverageExclusionHints"
  | aliasNamespaceForNativeCallArtifact => "AliasNamespaceForNativeCallArtifact"
  | emitGlobalAliasForInlineArrayArtifact => "EmitGlobalAliasForInlineArrayArtifact"
  | generateAliasOnly => "GenerateAliasOnly"

def ofName? (name : String) : Option Fixup :=
  all.find? (·.name == name)

theorem ofName?_name (fixup : Fixup) : ofName? fixup.name = some fixup := by
  cases fixup <;> decide

end Fixup

/-- A set of fixups, one bit each. -/
structure FixupSet where
  bits : BitVec 5
  deriving DecidableEq, Repr

namespace FixupSet

def empty : FixupSet :=
  ⟨0#5⟩

instance : EmptyCollection FixupSet := ⟨empty⟩

instance : Inhabited FixupSet := ⟨empty⟩

def has (set : FixupSet) (fixup : Fixup) : Bool :=
  set.bits.getLsbD fixup.index

instance : Membership Fixup FixupSet := ⟨fun set fixup => set.has fixup = true⟩

instance (fixup : Fixup) (set : FixupSet) : Decidable (fixup ∈ set) :=
  inferInstanceAs (Decidable (set.has fixup = true))

def single (fixup : Fixup) : FixupSet :=
  ⟨1#5 <<< fixup.index⟩

def union (a b : FixupSet) : FixupSet :=
  ⟨a.bits ||| b.bits⟩

def inter (a b : FixupSet) : FixupSet :=
  ⟨a.bits &&& b.bits⟩

def diff (a b : FixupSet) : FixupSet :=
  ⟨a.bits &&& ~~~b.bits⟩

def symmDiff (a b : FixupSet) : FixupSet :=
  ⟨a.bits ^^^ b.bits⟩

def complement (set : FixupSet) : FixupSet :=
  ⟨~~~set.bits⟩

def insert (set : FixupSet) (fixup : Fixup) : FixupSet :=
  set.union (single fixup)

def insertIf (set : FixupSet) (condition : Bool) (fixup : Fixup) : FixupSet :=
  if condition then set.insert fixup else set

/-- Whether the first set has all members of the second. -/
def includes (a b : FixupSet) : Bool :=
  a.inter b == b

def isEmpty (set : FixupSet) : Bool :=
  set == empty

/-- The members of a set, in the order of `Fixup.all`. -/
def toList (set : FixupSet) : List Fixup :=
  Fixup.all.filter set.has

def ofList (fixups : List Fixup) : FixupSet :=
  fixups.foldl insert empty

/-- The number of a set: the sum of the bits of its members. -/
def toNat (set : FixupSet) : Nat :=
  set.bits.toNat

/-- The set of a number, bits that stand for no fixup being dropped. -/
def ofNat (number : Nat) : FixupSet :=
  ⟨BitVec.ofNat 5 number⟩

/-- The set of a number, unless some of its bits stands for no fixup. -/
def ofNat? (number : Nat) : Option FixupSet :=
  if number < 32 then some (ofNat number) else none

instance : Ord FixupSet := ⟨fun a b => compare a.toNat b.toNat⟩

theorem mem_iff {set : FixupSet} {fixup : Fixup} : fixup ∈ set ↔ set.has fixup = true :=
  Iff.rfl

theorem ext_has {a b : FixupSet} (h : ∀ fixup, a.has fixup = b.has fixup) : a = b := by
  obtain ⟨a⟩ := a
  obtain ⟨b⟩ := b
  congr 1
  apply BitVec.eq_of_getLsbD_eq
  intro i hi
  match i, hi with
  | 0, _ => exact h .removeMethodImplHints
  | 1, _ => exact h .removeCoverageExclusionHints
  | 2, _ => exact h .aliasNamespaceForNativeCallArtifact
  | 3, _ => exact h .emitGlobalAliasForInlineArrayArtifact
  | 4, _ => exact h .generateAliasOnly

@[simp] theorem has_empty (fixup : Fixup) : empty.has fixup = false := by
  cases fixup <;> decide

theorem has_single (fixup other : Fixup) : (single fixup).has other = decide (fixup = other) := by
  cases fixup <;> cases other <;> decide

@[simp] theorem has_union (a b : FixupSet) (fixup : Fixup) :
    (a.union b).has fixup = (a.has fixup || b.has fixup) := by
  simp [union, has]

@[simp] theorem has_inter (a b : FixupSet) (fixup : Fixup) :
    (a.inter b).has fixup = (a.has fixup && b.has fixup) := by
  simp [inter, has]

@[simp] theorem has_insert (set : FixupSet) (fixup other : Fixup) :
    (set.insert fixup).has other = (set.has other || decide (fixup = other)) := by
  simp [insert, has_single]

@[simp] theorem has_insertIf (set : FixupSet) (condition : Bool) (fixup other : Fixup) :
    (set.insertIf condition fixup).has other =
      (set.has other || (condition && decide (fixup = other))) := by
  cases condition <;> simp [insertIf]

@[simp] theorem toNat_ofNat? {number : Nat} {set : FixupSet} (h : ofNat? number = some set) :
    set.toNat = number := by
  unfold ofNat? at h
  split at h
  · cases h
    simp [ofNat, toNat, Nat.mod_eq_of_lt, *]
  · cases h

end FixupSet

end Polyfill
