import Polyfill.Selection

/-!
# The cache of materialized texts

A selection says all that its text depends on, so texts are kept by selection. An entry is never
changed or removed. A caller that misses computes its text without holding the cache; others may use
the cache meanwhile, and if one of them settles the same selection first, its text counts.
-/

namespace Polyfill

/-- Texts by selection, in the order in which they were settled. -/
structure Cache where
  entries : List (Selection × String)
  keys_nodup : (entries.map (·.1)).Nodup

namespace Cache

def empty : Cache :=
  ⟨[], .nil⟩

instance : EmptyCollection Cache := ⟨empty⟩

instance : Inhabited Cache := ⟨empty⟩

def get? (cache : Cache) (key : Selection) : Option String :=
  cache.entries.lookup key

def size (cache : Cache) : Nat :=
  cache.entries.length

def isEmpty (cache : Cache) : Bool :=
  cache.entries.isEmpty

theorem get?_eq_none_iff {cache : Cache} {key : Selection} :
    cache.get? key = none ↔ key ∉ cache.entries.map (·.1) := by
  rw [get?, List.lookup_eq_none_iff]
  simp only [List.mem_map, not_exists, not_and, bne_iff_ne, Prod.forall]
  grind

/-- Add an entry for a selection that has none. -/
def add (cache : Cache) (key : Selection) (text : String) (h : cache.get? key = none) : Cache where
  entries := cache.entries ++ [(key, text)]
  keys_nodup := by
    rw [List.map_append]
    refine List.nodup_append.mpr ⟨cache.keys_nodup, by simp, ?_⟩
    intro other member single same equal
    have fresh := get?_eq_none_iff.mp h
    simp only [List.map_cons, List.map_nil, List.mem_singleton] at same
    exact fresh (same ▸ equal ▸ member)

/-- Settle a text for a selection. If one is settled already, that one counts and is returned. -/
def settle (cache : Cache) (key : Selection) (text : String) : String × Cache :=
  match h : cache.get? key with
  | some settled => (settled, cache)
  | none => (text, cache.add key text h)

/-- The settled text of a selection, or else a computed one, which is then settled. -/
def obtain {ε : Type} (cache : Cache) (key : Selection) (compute : Unit → Except ε String) :
    Except ε String × Cache :=
  match cache.get? key with
  | some settled => (.ok settled, cache)
  | none =>
    match compute () with
    | .ok text => let (settled, cache) := cache.settle key text; (.ok settled, cache)
    | .error fault => (.error fault, cache)

/-- A use of the cache. Computing a text can itself use the cache before it yields the text. -/
inductive Call where
  | get (key : Selection)
  | count
  | compute (key : Selection) (text : String) (during : List Call)

/-- What a use of the cache comes to. -/
inductive Reply where
  | found (text : Option String)
  /-- Nothing but the number of entries was asked for. -/
  | counted
  /-- The text that counts, and whether one was computed. -/
  | obtained (text : String) (computed : Bool)
  deriving DecidableEq, Repr

mutual

/-- Run a call: the replies of it and of the calls made during it, each with the size after it. -/
def run (cache : Cache) : Call → List (Reply × Nat) × Cache
  | .get key => ([(.found (cache.get? key), cache.size)], cache)
  | .count => ([(.counted, cache.size)], cache)
  | .compute key text during =>
    match cache.get? key with
    | some settled => ([(.obtained settled false, cache.size)], cache)
    | none =>
      let (replies, cache) := runAll cache during
      let (settled, cache) := cache.settle key text
      (replies ++ [(.obtained settled true, cache.size)], cache)

def runAll (cache : Cache) : List Call → List (Reply × Nat) × Cache
  | [] => ([], cache)
  | call :: rest =>
    let (replies, cache) := run cache call
    let (others, cache) := runAll cache rest
    (replies ++ others, cache)

end

end Cache

end Polyfill
