import Polyfill.Proofs.Catalog.Order

/-!
# What a catalog is of its candidates

A catalog is a function of the set of its candidates: it has them in one order, however they are given, and
finds each by its id. It can be looked up through the positions of the ids as well, which are collected in
one pass over the ordered candidates. If an id is shared, the same one is reported for every order.
-/

namespace Polyfill

theorem exists_of_firstRepeatAfter? {α : Type} [DecidableEq α] {list seen : List α} {x : α}
    (found : firstRepeatAfter? seen list = some x) :
    ∃ front rest, list = front ++ x :: rest ∧ (x ∈ seen ∨ x ∈ front) := by
  induction list generalizing seen with
  | nil => cases found
  | cons y list ih =>
    rw [firstRepeatAfter?] at found
    split at found
    case isTrue again =>
      cases found
      exact ⟨[], list, rfl, .inl again⟩
    case isFalse =>
      obtain ⟨front, rest, rfl, before⟩ := ih found
      refine ⟨y :: front, rest, rfl, ?_⟩
      rcases before with earlier | inside
      · rcases List.mem_cons.mp earlier with rfl | earlier
        · exact .inr List.mem_cons_self
        · exact .inl earlier
      · exact .inr (List.mem_cons_of_mem y inside)

theorem two_le_count_of_firstRepeat? {α : Type} [DecidableEq α] {list : List α} {x : α}
    (found : firstRepeat? list = some x) : 2 ≤ list.count x := by
  obtain ⟨front, rest, rfl, none | inside⟩ := exists_of_firstRepeatAfter? found
  · cases none
  · have once := List.one_le_count_iff.mpr inside
    rw [List.count_append, List.count_cons_self]
    omega

theorem Category.rank_lt_iff {a b : Category} :
    a.rank < b.rank ↔ a = .languageSupport ∧ b = .runtimeSupported := by
  cases a <;> cases b <;> simp [rank]

namespace Candidate

def key (candidate : Candidate) : Nat × String :=
  (candidate.category.rank, candidate.id)

def KeyLe (a b : Nat × String) : Prop :=
  a.1 < b.1 ∨ a.1 = b.1 ∧ a.2 ≤ b.2

theorem le_iff_keyLe {a b : Candidate} : a.le b = true ↔ KeyLe a.key b.key := by
  simp [le, KeyLe, key]

theorem KeyLe.antisymm {a b : Nat × String} (below : KeyLe a b) (above : KeyLe b a) : a = b := by
  rcases below with less | ⟨rank, id⟩ <;> rcases above with less' | ⟨rank', id'⟩
  · omega
  · omega
  · omega
  · exact Prod.ext rank (String.le_antisymm id id')

theorem Before.asymm {a b : Candidate} (before : a.Before b) : ¬ b.Before a := by
  rintro (lower | ⟨same, less⟩) <;> rcases before with lower' | ⟨same', less'⟩
  · omega
  · rw [same'] at lower
    exact Nat.lt_irrefl _ lower
  · rw [same] at lower'
    exact Nat.lt_irrefl _ lower'
  · exact String.lt_asymm less less'

end Candidate

namespace Catalog

variable {candidates others : List Candidate} {catalog : Catalog}

/-! ## The candidates of a catalog -/

theorem ofList_eq_error_iff {fault : DuplicateArtifact} : ofList candidates = .error fault ↔
    firstRepeat? ((candidates.mergeSort Candidate.le).map (·.id)) = some fault.id := by
  simp only [ofList]
  split
  next id repeated =>
    rw [repeated, Option.some.injEq, Except.error.injEq]
    exact ⟨fun same => congrArg DuplicateArtifact.id same, fun same => congrArg DuplicateArtifact.mk same⟩
  next fresh => simp [fresh]

theorem perm_of_ofList (accepted : ofList candidates = .ok catalog) :
    catalog.candidates.Perm candidates := by
  rw [candidates_of_ofList accepted]
  exact List.mergeSort_perm ..

theorem exists_ofList_iff :
    (∃ catalog, ofList candidates = .ok catalog) ↔ (candidates.map (·.id)).Nodup := by
  refine ⟨fun ⟨catalog, accepted⟩ => ?_, exists_ofList⟩
  exact ((perm_of_ofList accepted).map _).nodup_iff.mp catalog.ids_nodup

theorem eq_of_perm {other : Catalog} (same : catalog.candidates.Perm other.candidates) :
    catalog = other := by
  obtain ⟨list, ordered, _⟩ := catalog
  obtain ⟨list', ordered', _⟩ := other
  obtain rfl : list = list' :=
    List.Perm.eq_of_pairwise (fun a b _ _ before after => absurd after before.asymm) ordered ordered' same
  rfl

theorem map_key_mergeSort (same : others.Perm candidates) :
    (others.mergeSort Candidate.le).map Candidate.key =
      (candidates.mergeSort Candidate.le).map Candidate.key := by
  have sorted (list : List Candidate) :
      ((list.mergeSort Candidate.le).map Candidate.key).Pairwise Candidate.KeyLe := by
    rw [List.pairwise_map]
    exact (List.pairwise_mergeSort Candidate.le_trans Candidate.le_total list).imp
      Candidate.le_iff_keyLe.mp
  have perm : (others.mergeSort Candidate.le).Perm (candidates.mergeSort Candidate.le) :=
    (List.mergeSort_perm ..).trans (same.trans (List.mergeSort_perm ..).symm)
  exact List.Perm.eq_of_pairwise (fun _ _ _ _ => Candidate.KeyLe.antisymm) (sorted others) (sorted candidates)
    (perm.map _)

/-- Neither the catalog nor the id that is reported depends on the order of the candidates. -/
theorem ofList_perm (same : others.Perm candidates) : ofList others = ofList candidates := by
  cases accepted : ofList candidates with
  | error fault =>
    have ids := congrArg (List.map Prod.snd) (map_key_mergeSort same)
    rw [List.map_map, List.map_map] at ids
    rw [ofList_eq_error_iff] at accepted ⊢
    exact (congrArg firstRepeat? ids).trans accepted
  | ok catalog =>
    have distinct := exists_ofList_iff.mp ⟨catalog, accepted⟩
    obtain ⟨other, accepted'⟩ := exists_ofList ((same.map (·.id)).nodup_iff.mpr distinct)
    rw [accepted', eq_of_perm ((perm_of_ofList accepted').trans (same.trans (perm_of_ofList accepted).symm))]

/-! ## Looking up -/

theorem contains_iff {id : String} :
    catalog.contains id = true ↔ ∃ candidate ∈ catalog.candidates, candidate.id = id := by
  simp [contains]

/-- The candidate that is found has the id, and is the only one that has it. -/
theorem get?_eq_some_iff {id : String} {candidate : Candidate} :
    catalog.get? id = some candidate ↔ candidate ∈ catalog.candidates ∧ candidate.id = id := by
  constructor
  · intro found
    exact ⟨List.mem_of_find?_eq_some found, by simpa using List.find?_some found⟩
  · rintro ⟨member, rfl⟩
    obtain ⟨front, rest, split⟩ := List.append_of_mem member
    have distinct := catalog.ids_nodup
    rw [split, List.map_append, List.map_cons] at distinct
    refine List.find?_eq_some_iff_append.mpr ⟨by simp, front, rest, split, fun other earlier => ?_⟩
    have differs := (List.nodup_append.mp distinct).2.2 other.id (List.mem_map_of_mem earlier)
      candidate.id List.mem_cons_self
    simpa using differs

theorem filter_category_append {list : List Candidate} (ordered : list.Pairwise Candidate.Before) :
    list.filter (·.category == .languageSupport) ++ list.filter (·.category == .runtimeSupported) =
      list := by
  induction list with
  | nil => rfl
  | cons first rest ih =>
    obtain ⟨before, ordered⟩ := List.pairwise_cons.mp ordered
    cases here : first.category with
    | languageSupport =>
      rw [List.filter_cons_of_pos (by simp [here]), List.filter_cons_of_neg (by simp [here]),
        List.cons_append, ih ordered]
    | runtimeSupported =>
      -- nothing stands behind runtime support but more of it
      have behind : ∀ other ∈ rest, other.category = .runtimeSupported := by
        intro other member
        rcases before other member with lower | ⟨same, -⟩
        · cases there : other.category <;> simp [here, there, Category.rank] at lower
        · rw [← same, here]
      have none : rest.filter (·.category == .languageSupport) = [] :=
        List.filter_eq_nil_iff.mpr fun other member => by simp [behind other member]
      have all : rest.filter (·.category == .runtimeSupported) = rest :=
        List.filter_eq_self.mpr fun other member => by simp [behind other member]
      rw [List.filter_cons_of_neg (by simp [here]), List.filter_cons_of_pos (by simp [here]), none, all,
        List.nil_append]

/-! ## Positions -/

theorem positionsFrom_of_firstRepeatAfter? {positions : Positions} {seen : List String}
    (same : ∀ id, positions.contains id = true ↔ id ∈ seen) {position : Nat} {id : String}
    (repeated : firstRepeatAfter? seen (candidates.map (·.id)) = some id) :
    positionsFrom position positions candidates = .error ⟨id⟩ := by
  induction candidates generalizing seen positions position with
  | nil => cases repeated
  | cons candidate rest ih =>
    rw [List.map_cons, firstRepeatAfter?] at repeated
    rw [positionsFrom]
    split at repeated
    case isTrue again =>
      cases repeated
      rw [if_pos ((same _).mpr again)]
    case isFalse fresh =>
      rw [if_neg fun found => fresh ((same _).mp found)]
      apply ih _ repeated
      intro other
      rw [Std.HashMap.contains_insert, Bool.or_eq_true, beq_iff_eq, same, List.mem_cons, eq_comm]

theorem exists_positionsFrom {positions : Positions} (distinct : (candidates.map (·.id)).Nodup)
    (fresh : ∀ candidate ∈ candidates, positions.contains candidate.id = false) (position : Nat) :
    ∃ full, positionsFrom position positions candidates = .ok full ∧ ∀ id : String,
      full[id]? = ((candidates.findIdx? (·.id == id)).map (position + ·)).or positions[id]? := by
  induction candidates generalizing positions position with
  | nil => exact ⟨positions, rfl, fun id => by rw [List.findIdx?_nil, Option.map_none, Option.none_or]⟩
  | cons candidate rest ih =>
    obtain ⟨single, distinct⟩ := List.nodup_cons.mp distinct
    rw [List.forall_mem_cons] at fresh
    have differs : ∀ other ∈ rest, candidate.id ≠ other.id :=
      fun other member same => single (List.mem_map.mpr ⟨other, member, same.symm⟩)
    have fresh_insert : ∀ other ∈ rest,
        (positions.insert candidate.id position).contains other.id = false := by
      intro other member
      rw [Std.HashMap.contains_insert, fresh.2 other member, Bool.or_false]
      exact beq_false_of_ne (differs other member)
    obtain ⟨full, collected, places⟩ := ih distinct fresh_insert (position + 1)
    refine ⟨full, by rw [positionsFrom, fresh.1, if_neg Bool.false_ne_true, collected], fun id => ?_⟩
    rw [places, Std.HashMap.getElem?_insert, List.findIdx?_cons]
    by_cases here : candidate.id = id
    · have absent : rest.findIdx? (·.id == id) = none := by
        rw [List.findIdx?_eq_none_iff]
        exact fun other member => beq_false_of_ne (here ▸ (differs other member).symm)
      simp [here, absent]
    · simp only [beq_false_of_ne here, Bool.false_eq_true, if_false, Option.map_map]
      congr 2
      funext place
      exact Nat.add_right_comm position 1 place

/-- The positions of the ids of a catalog lead to what is found by the ids. -/
theorem exists_positions (catalog : Catalog) :
    ∃ positions, positionsFrom 0 ∅ catalog.candidates = .ok positions ∧ ∀ id : String,
      positions.contains id = catalog.contains id ∧
      positions[id]?.bind (catalog.candidates[·]?) = catalog.get? id := by
  have fresh : ∀ candidate ∈ catalog.candidates, (∅ : Positions).contains candidate.id = false :=
    fun _ _ => Std.HashMap.contains_empty
  obtain ⟨positions, collected, places⟩ := exists_positionsFrom catalog.ids_nodup fresh 0
  refine ⟨positions, collected, fun id => ?_⟩
  have place : positions[id]? = catalog.candidates.findIdx? (·.id == id) := by
    rw [places, Std.HashMap.getElem?_empty, Option.or_none]
    simp
  constructor
  · rw [Std.HashMap.contains_eq_isSome_getElem?, place, List.findIdx?_isSome]
    rfl
  · rw [place, get?, List.find?_eq_bind_findIdx?_getElem?]

/-- What a catalog is of the candidates that it was made of. -/
structure Holds (catalog : Catalog) (candidates : List Candidate) : Prop where
  perm : catalog.candidates.Perm candidates
  ascending : catalog.candidates.Pairwise fun a b =>
    a.category = .languageSupport ∧ b.category = .runtimeSupported ∨
      a.category = b.category ∧ Text.octets a.id < Text.octets b.id
  contains : ∀ id, catalog.contains id = true ↔ ∃ candidate ∈ candidates, candidate.id = id
  get? : ∀ id candidate,
    catalog.get? id = some candidate ↔ candidate ∈ candidates ∧ candidate.id = id
  categories :
    catalog.inCategory .languageSupport ++ catalog.inCategory .runtimeSupported = catalog.candidates
  positions : ∃ positions, positionsFrom 0 ∅ catalog.candidates = .ok positions ∧ ∀ id : String,
    positions.contains id = catalog.contains id ∧
    positions[id]?.bind (catalog.candidates[·]?) = catalog.get? id

theorem holds_of_ofList (accepted : ofList candidates = .ok catalog) : catalog.Holds candidates where
  perm := perm_of_ofList accepted
  ascending := by
    refine catalog.ordered.imp fun before => ?_
    rcases before with lower | ⟨same, less⟩
    · exact .inl (Category.rank_lt_iff.mp lower)
    · exact .inr ⟨same, Text.octets_lt_octets.mpr less⟩
  contains id := by
    rw [contains_iff]
    simp only [(perm_of_ofList accepted).mem_iff]
  get? id candidate := by
    rw [get?_eq_some_iff, (perm_of_ofList accepted).mem_iff]
  categories := filter_category_append catalog.ordered
  positions := exists_positions catalog

/--
Candidates make a catalog if and only if their ids are distinct. Otherwise an id is reported that two of
them share, the first one that gets a second position. Either outcome is the same for every order in which
the candidates are given.
-/
theorem ofList_determined (candidates : List Candidate) :
    ((∃ catalog, ofList candidates = .ok catalog) ↔ (candidates.map (·.id)).Nodup) ∧
    (∀ catalog, ofList candidates = .ok catalog → catalog.Holds candidates) ∧
    (∀ fault, ofList candidates = .error fault →
      2 ≤ (candidates.map (·.id)).count fault.id ∧
      positionsFrom 0 ∅ (candidates.mergeSort Candidate.octetLe) = .error fault) ∧
    ∀ others : List Candidate, others.Perm candidates → ofList others = ofList candidates := by
  refine ⟨exists_ofList_iff, fun _ => holds_of_ofList, fun fault rejected => ?_, fun _ => ofList_perm⟩
  have repeated := ofList_eq_error_iff.mp rejected
  constructor
  · rw [← ((List.mergeSort_perm candidates Candidate.le).map _).count_eq]
    exact two_le_count_of_firstRepeat? repeated
  · rw [← Candidate.le_eq_octetLe]
    exact positionsFrom_of_firstRepeatAfter? (by simp) repeated

/-- Categories and ids out of order, and an id that both categories have. -/
theorem ofList_determined_of_four :
    let candidates : List Candidate :=
      [⟨"Zed", .runtimeSupported, .empty⟩, ⟨"Beta", .languageSupport, .empty⟩,
        ⟨"Alpha", .runtimeSupported, .single .removeMethodImplHints⟩, ⟨"Alpha2", .languageSupport, .empty⟩]
    ∃ catalog, ofList candidates = .ok catalog ∧ catalog.Holds candidates ∧
      ofList candidates.reverse = .ok catalog ∧
      catalog.ids = ["Alpha2", "Beta", "Alpha", "Zed"] ∧
      ofList (⟨"Zed", .languageSupport, .empty⟩ :: candidates) = .error ⟨"Zed"⟩ := by
  intro candidates
  obtain ⟨accepted_iff, holds, -, same⟩ := ofList_determined candidates
  obtain ⟨catalog, accepted⟩ := accepted_iff.mpr (by decide)
  have ids : (candidates.mergeSort Candidate.le).map (·.id) = ["Alpha2", "Beta", "Alpha", "Zed"] := by
    simp [candidates, List.mergeSort, List.MergeSort.Internal.splitInTwo, Candidate.le, Category.rank]
  have shared : ((⟨"Zed", .languageSupport, .empty⟩ :: candidates).mergeSort Candidate.le).map (·.id) =
      ["Alpha2", "Beta", "Zed", "Alpha", "Zed"] := by
    simp [candidates, List.mergeSort, List.MergeSort.Internal.splitInTwo, Candidate.le, Category.rank]
  rw [Candidate.le_eq_octetLe, ← candidates_of_ofList accepted] at ids
  refine ⟨catalog, accepted, holds catalog accepted, (same _ (List.reverse_perm _)).trans accepted, ids, ?_⟩
  rw [ofList_eq_error_iff, shared]
  decide

end Catalog

end Polyfill
