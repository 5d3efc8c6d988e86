import Mathlib.Data.List.Dedup
import Polyfill.Proofs.Generation.Attempts

/-!
# How large a cache can grow

An artifact can be selected in four ways, according to its visibility and to whether exclusions from
coverage go, and some artifacts have one more fixup of their own. So there is a list of all selections
that a catalog can ever lead to, and its length bounds the cache after any number of evaluations.
-/

namespace Polyfill

namespace Cache

/-- The selections that have an entry, in the order in which they were settled. -/
def keys (cache : Cache) : List Selection :=
  cache.entries.map (·.1)

theorem length_keys (cache : Cache) : cache.keys.length = cache.size :=
  List.length_map _

theorem mem_keys_iff {cache : Cache} {key : Selection} :
    key ∈ cache.keys ↔ (cache.get? key).isSome = true := by
  rw [Option.isSome_iff_ne_none, ne_eq, get?_eq_none_iff, not_not]
  rfl

theorem Extends.size_le {later earlier : Cache} (extends_earlier : later.Extends earlier) :
    earlier.size ≤ later.size := by
  have subset : earlier.keys ⊆ later.keys := by
    intro key member
    rw [mem_keys_iff] at member ⊢
    obtain ⟨text, found⟩ := Option.isSome_iff_exists.mp member
    rw [extends_earlier key text found]
    rfl
  have length_le := List.Nodup.length_le_of_subset earlier.keys_nodup subset
  rwa [← length_keys, ← length_keys]

theorem mem_keys_obtain {ε : Type} {cache : Cache} {key other : Selection}
    {compute : Unit → Except ε String} :
    other ∈ (cache.obtain key compute).2.keys ↔
      other ∈ cache.keys ∨ other = key ∧ ∃ text, compute () = .ok text := by
  cases found : cache.get? key with
  | some text =>
    rw [obtain_of_get? cache key compute found]
    constructor
    · exact .inl
    · rintro (member | ⟨rfl, -⟩)
      · exact member
      · rw [mem_keys_iff, found]
        rfl
  | none =>
    cases computed : compute () with
    | error fault =>
      rw [obtain_of_error cache key compute found computed]
      simp
    | ok text =>
      rw [obtain_of_ok cache key compute found computed]
      simp [keys, add]

end Cache

theorem Templates.exists_materialize_iff {templates : Templates} {selection : Selection} :
    (∃ text, templates.materialize selection = .ok text) ↔ selection.id ∈ templates := by
  rw [Std.TreeMap.mem_iff_isSome_getElem?, materialize]
  cases templates[selection.id]? <;> simp

namespace Selecting

/-! ## What can be selected -/

/-- The artifacts that have a fixup of their own. -/
def singledOut : List String :=
  [Artifact.index, Artifact.range, Artifact.nativeCall, Artifact.inlineArray]

/-- The fixup that only artifacts of some names get. -/
def ownFixup? (id : String) : Option Fixup :=
  if id = Artifact.index ∨ id = Artifact.range then some .removeMethodImplHints
  else if id = Artifact.nativeCall then some .aliasNamespaceForNativeCallArtifact
  else if id = Artifact.inlineArray then some .emitGlobalAliasForInlineArrayArtifact
  else none

theorem isSome_ownFixup? (id : String) : (ownFixup? id).isSome = singledOut.contains id := by
  unfold ownFixup?
  split
  case isTrue range => rcases range with rfl | rfl <;> decide
  case isFalse other =>
    rw [not_or] at other
    split
    case isTrue native => subst native; decide
    case isFalse foreign =>
      split
      case isTrue inline => subst inline; decide
      case isFalse plain => simp [singledOut, other, foreign, plain]

/-- The fixups that a candidate can be selected with. -/
def variants (candidate : Candidate) : List FixupSet :=
  let common := [candidate.intrinsicFixups,
    candidate.intrinsicFixups.insert .removeCoverageExclusionHints]
  match ownFixup? candidate.id with
  | some own => common ++ common.map (·.insert own)
  | none => common

theorem length_variants (candidate : Candidate) :
    (variants candidate).length = if singledOut.contains candidate.id then 4 else 2 := by
  rw [← isSome_ownFixup?, variants]
  cases ownFixup? candidate.id <;> rfl

section Fixups

variable (configuration : Configuration) (conditions : Conditions) (candidate : Candidate)

/-- The fixups that every selected candidate may get. -/
def commonFixups : FixupSet :=
  candidate.intrinsicFixups.insertIf (!conditions.coverageExclusion) .removeCoverageExclusionHints

/-- Besides the common fixups, a candidate gets its own one at most. -/
theorem fixupsFor_cases :
    fixupsFor configuration conditions candidate = commonFixups conditions candidate ∨
      ∃ own, ownFixup? candidate.id = some own ∧
        fixupsFor configuration conditions candidate =
          (commonFixups conditions candidate).insert own := by
  have native_apart : Artifact.nativeCall ≠ Artifact.index ∧ Artifact.nativeCall ≠ Artifact.range := by
    decide
  have inline_apart : Artifact.inlineArray ≠ Artifact.index ∧
      Artifact.inlineArray ≠ Artifact.range ∧ Artifact.inlineArray ≠ Artifact.nativeCall := by
    decide
  have of_condition (condition : Bool) (own : Fixup) (owned : ownFixup? candidate.id = some own)
      (same : fixupsFor configuration conditions candidate =
        (commonFixups conditions candidate).insertIf condition own) :
      fixupsFor configuration conditions candidate = commonFixups conditions candidate ∨
        ∃ own, ownFixup? candidate.id = some own ∧
          fixupsFor configuration conditions candidate =
            (commonFixups conditions candidate).insert own := by
    cases condition with
    | false => exact .inl same
    | true => exact .inr ⟨own, owned, same⟩
  by_cases range : candidate.id = Artifact.index ∨ candidate.id = Artifact.range
  · apply of_condition (!conditions.methodImplHints) .removeMethodImplHints
    · simp [ownFixup?, range]
    · have plain : candidate.id ≠ Artifact.nativeCall ∧ candidate.id ≠ Artifact.inlineArray := by
        rcases range with same | same <;> rw [same] <;> decide
      simp [fixupsFor, commonFixups, FixupSet.insertIf, range, plain]
  · by_cases native : candidate.id = Artifact.nativeCall
    · apply of_condition configuration.useAltNamespaceForNativeCall
        .aliasNamespaceForNativeCallArtifact
      · simp [ownFixup?, native, native_apart]
      · simp [fixupsFor, commonFixups, FixupSet.insertIf, native, native_apart, inline_apart.2.2.symm]
    · by_cases inline : candidate.id = Artifact.inlineArray
      · apply of_condition conditions.globalAliases .emitGlobalAliasForInlineArrayArtifact
        · simp [ownFixup?, inline, inline_apart]
        · simp [fixupsFor, commonFixups, FixupSet.insertIf, inline, inline_apart]
      · left
        simp [fixupsFor, commonFixups, FixupSet.insertIf, range, native, inline]

theorem fixupsFor_mem_variants :
    fixupsFor configuration conditions candidate ∈ variants candidate := by
  have common : commonFixups conditions candidate ∈
      [candidate.intrinsicFixups,
        candidate.intrinsicFixups.insert .removeCoverageExclusionHints] := by
    rw [commonFixups]
    cases conditions.coverageExclusion with
    | true => exact List.mem_cons_self
    | false => exact List.mem_cons_of_mem _ List.mem_cons_self
  rw [variants]
  rcases fixupsFor_cases configuration conditions candidate with same | ⟨own, owned, same⟩
  · rw [same]
    cases ownFixup? candidate.id with
    | none => exact common
    | some own => exact List.mem_append_left _ common
  · rw [same, owned]
    exact List.mem_append_right _ (List.mem_map_of_mem common)

end Fixups

/-- All selections that a list of candidates can lead to. -/
def selectable (candidates : List Candidate) : List Selection :=
  candidates.flatMap fun candidate =>
    (variants candidate).flatMap fun fixups =>
      [⟨candidate.id, false, fixups⟩, ⟨candidate.id, true, fixups⟩]

theorem length_selectable (candidates : List Candidate) :
    (selectable candidates).length =
      4 * candidates.length + 4 * (candidates.filter (singledOut.contains ·.id)).length := by
  have twice (candidate : Candidate) (sets : List FixupSet) :
      (sets.flatMap fun fixups => [(⟨candidate.id, false, fixups⟩ : Selection),
        ⟨candidate.id, true, fixups⟩]).length = 2 * sets.length := by
    induction sets with
    | nil => rfl
    | cons set sets ih =>
      rw [List.flatMap_cons, List.length_append, ih, List.length_cons]
      simp only [List.length_cons, List.length_nil]
      omega
  induction candidates with
  | nil => rfl
  | cons candidate rest ih =>
    have first := length_variants candidate
    rw [selectable] at ih ⊢
    rw [List.flatMap_cons, List.length_append, ih, twice, first, List.filter_cons]
    split <;> simp only [List.length_cons] <;> omega

theorem selectionOf_mem_selectable {candidates : List Candidate} {candidate : Candidate}
    (listed : candidate ∈ candidates) (configuration : Configuration) (conditions : Conditions) :
    selectionOf configuration conditions candidate ∈ selectable candidates := by
  apply List.mem_flatMap_of_mem listed
  apply List.mem_flatMap_of_mem (fixupsFor_mem_variants configuration conditions candidate)
  rw [selectionOf]
  cases configuration.usePublicAccessibility <;> simp

theorem mem_selectable_of_mem_chosen {answer : Query → Bool} {configuration : Configuration}
    {catalog : Catalog} {selection : Selection}
    (member : selection ∈ chosen answer configuration catalog) :
    selection ∈ selectable catalog.candidates := by
  obtain ⟨candidate, listed, rfl⟩ := exists_selectionOf_of_mem_chosen member
  exact selectionOf_mem_selectable listed configuration _

end Selecting

namespace Generator

/-! ## What is in the cache -/

theorem mem_keys_materializeAll {templates : Templates} {selections : List Selection}
    {cache : Cache} {key : Selection} :
    key ∈ (materializeAll templates selections cache).2.keys ↔
      key ∈ cache.keys ∨ key ∈ selections ∧ key.id ∈ templates := by
  induction selections generalizing cache with
  | nil => simp [materializeAll]
  | cons selection rest ih =>
    rw [materializeAll]
    simp only [ih, Cache.mem_keys_obtain, Templates.exists_materialize_iff, List.mem_cons]
    constructor
    · rintro ((known | ⟨rfl, templated⟩) | ⟨later, templated⟩)
      · exact .inl known
      · exact .inr ⟨.inl rfl, templated⟩
      · exact .inr ⟨.inr later, templated⟩
    · rintro (known | ⟨rfl | later, templated⟩)
      · exact .inl (.inl known)
      · exact .inl (.inr ⟨rfl, templated⟩)
      · exact .inr ⟨later, templated⟩

variable (generator : Generator)

/-- The selections that evaluations have materialized, each as often as one of them asked for it. -/
def materialized (history : List Call) : List Selection :=
  history.flatMap fun call =>
    (call.attempts generator).filter (·.id ∈ generator.templates)

theorem cacheAfter_append (history more : List Call) :
    generator.cacheAfter (history ++ more) =
      more.foldl (fun cache call => (call.run generator cache).cache)
        (generator.cacheAfter history) :=
  List.foldl_append

theorem cacheAfter_snoc (history : List Call) (call : Call) :
    generator.cacheAfter (history ++ [call]) =
      (call.run generator (generator.cacheAfter history)).cache :=
  generator.cacheAfter_append history [call]

theorem Call.mem_keys_run (call : Call) {cache : Cache} {key : Selection} :
    key ∈ (call.run generator cache).cache.keys ↔
      key ∈ cache.keys ∨ key ∈ generator.materialized [call] := by
  rw [call.cache_run, mem_keys_materializeAll]
  simp [materialized]

theorem mem_keys_foldl_run {history : List Call} {cache : Cache} {key : Selection} :
    key ∈ (history.foldl (fun cache call => (call.run generator cache).cache) cache).keys ↔
      key ∈ cache.keys ∨ key ∈ generator.materialized history := by
  induction history generalizing cache with
  | nil => simp [materialized]
  | cons call rest ih =>
    rw [List.foldl_cons, ih, Call.mem_keys_run, or_assoc]
    simp [materialized]

theorem mem_keys_cacheAfter {history : List Call} {key : Selection} :
    key ∈ (generator.cacheAfter history).keys ↔ key ∈ generator.materialized history := by
  rw [cacheAfter, mem_keys_foldl_run]
  exact or_iff_right List.not_mem_nil

theorem size_cacheAfter (history : List Call) :
    (generator.cacheAfter history).size = (generator.materialized history).dedup.length := by
  have perm : (generator.cacheAfter history).keys.Perm (generator.materialized history).dedup := by
    apply (List.perm_ext_iff_of_nodup (generator.cacheAfter history).keys_nodup
      (List.nodup_dedup _)).mpr
    intro key
    rw [List.mem_dedup]
    exact generator.mem_keys_cacheAfter
  rw [← Cache.length_keys, perm.length_eq]

theorem extends_foldl_run (history : List Call) (cache : Cache) :
    (history.foldl (fun cache call => (call.run generator cache).cache) cache).Extends cache := by
  induction history generalizing cache with
  | nil => exact .refl cache
  | cons call rest ih =>
    have first : (call.run generator cache).cache.Extends cache :=
      extends_evaluateAmid generator call.interference cache call.environment call.raised call.options
    exact first.trans (ih _)

theorem Call.mem_selectable_of_mem_attempts (call : Call) {selection : Selection}
    (member : selection ∈ call.attempts generator) :
    selection ∈ Selecting.selectable generator.catalog.candidates := by
  rw [attempts] at member
  split at member
  case h_1 => cases member
  case h_2 configuration diagnostics selections progress planned =>
    have plan := (generator.yields_plan call.environment call.options).outcome { raised := call.raised }
    simp only [planned, Except.ok.injEq, Prod.mk.injEq, reduceCtorEq, false_and, or_false] at plan
    obtain ⟨-, -, rfl⟩ := plan
    exact Selecting.mem_selectable_of_mem_chosen (List.mem_filter.mp member).1

theorem materialized_subset (history : List Call) :
    generator.materialized history ⊆ Selecting.selectable generator.catalog.candidates := by
  intro selection member
  obtain ⟨call, -, attempted⟩ := List.mem_flatMap.mp member
  exact call.mem_selectable_of_mem_attempts generator (List.mem_filter.mp attempted).1

/-! ## The bound -/

/--
However many evaluations there have been and however they ended, the cache has an entry for each of the
different selections that they materialized and for nothing else. These are selections of candidates,
at most four for each candidate and another four for each one that has a fixup of its own. Entries
are never lost, and the summary of an evaluation counts the entries that it leaves.
-/
theorem cache_size_bounded (history : List Call) :
    let cache := generator.cacheAfter history
    let candidates := generator.catalog.candidates
    (∀ more : List Call, (generator.cacheAfter (history ++ more)).Extends cache ∧
        cache.size ≤ (generator.cacheAfter (history ++ more)).size) ∧
      cache.keys.map (·.id) ⊆ generator.catalog.ids ∧
      (∀ key, key ∈ cache.keys ↔ key ∈ generator.materialized history) ∧
      cache.size = (generator.materialized history).dedup.length ∧
      cache.size ≤ 4 * candidates.length +
        4 * (candidates.filter (Selecting.singledOut.contains ·.id)).length ∧
      ∀ call : Call, (call.run generator cache).summary? =
        (call.run generator cache).outcome.toOption.map
          (·.summary (generator.cacheAfter (history ++ [call])).size) := by
  intro cache candidates
  have extends_cache (more : List Call) : (generator.cacheAfter (history ++ more)).Extends cache := by
    rw [cacheAfter_append]
    exact generator.extends_foldl_run more _
  have subset : cache.keys ⊆ Selecting.selectable candidates := by
    intro key member
    exact generator.materialized_subset history (generator.mem_keys_cacheAfter.mp member)
  refine ⟨?_, ?_, ?_, ?_, ?_, ?_⟩
  · intro more
    exact ⟨extends_cache more, (extends_cache more).size_le⟩
  · intro id member
    obtain ⟨key, known, rfl⟩ := List.mem_map.mp member
    obtain ⟨call, -, attempted⟩ := List.mem_flatMap.mp (generator.mem_keys_cacheAfter.mp known)
    obtain ⟨candidate, listed, same⟩ :=
      call.exists_candidate_of_mem_attempts generator (List.mem_filter.mp attempted).1
    exact List.mem_map.mpr ⟨candidate, listed, same⟩
  · intro key
    exact generator.mem_keys_cacheAfter
  · exact generator.size_cacheAfter history
  · have bound := List.Nodup.length_le_of_subset cache.keys_nodup subset
    rw [Selecting.length_selectable] at bound
    exact cache.length_keys ▸ bound
  · intro call
    rw [cacheAfter_snoc]
    rfl

end Generator

end Polyfill
