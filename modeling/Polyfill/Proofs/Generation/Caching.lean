import Polyfill.Generation

/-!
# Caching changes nothing

A text is kept under all that it depends on, so a cache that evaluations alone have filled holds for
each selection what the templates make of it. This is the invariant (`Cache.Agrees`); it survives every
evaluation, however it ends, and an evaluation that starts from such a cache delivers what it would
deliver without one.
-/

namespace Polyfill

namespace Cache

/-- Every entry of a cache is what the templates make of its selection. -/
def Agrees (cache : Cache) (templates : Templates) : Prop :=
  ∀ entry ∈ cache.entries, templates.materialize entry.1 = .ok entry.2

/-- A cache has every entry of an earlier one, with the same text. -/
def Extends (later earlier : Cache) : Prop :=
  ∀ key text, earlier.get? key = some text → later.get? key = some text

theorem mem_entries_of_get? {cache : Cache} {key : Selection} {text : String}
    (found : cache.get? key = some text) : (key, text) ∈ cache.entries := by
  obtain ⟨before, after, split, _⟩ := List.lookup_eq_some_iff.mp found
  simp [split]

theorem Extends.refl (cache : Cache) : cache.Extends cache :=
  fun _ _ found => found

theorem Extends.trans {a b c : Cache} (first : b.Extends a) (second : c.Extends b) : c.Extends a :=
  fun key text found => second key text (first key text found)

theorem get?_add {cache : Cache} {key : Selection} {text : String} (fresh : cache.get? key = none)
    (other : Selection) :
    (cache.add key text fresh).get? other =
      (cache.get? other).or (if other = key then some text else none) := by
  by_cases same : other = key
  · simp [get?, add, List.lookup_append, same]
  · have differs : (other == key) = false := by simp [same]
    simp [get?, add, List.lookup_append, List.lookup_cons, differs, same]

section Settle

variable (cache : Cache) (key : Selection) (text : String)

theorem settle_of_get? {settled : String} (known : cache.get? key = some settled) :
    cache.settle key text = (settled, cache) := by
  unfold settle
  split <;> simp_all

theorem settle_of_fresh (fresh : cache.get? key = none) :
    cache.settle key text = (text, cache.add key text fresh) := by
  unfold settle
  split
  · simp_all
  · rfl

end Settle

section Obtain

variable {ε : Type} (cache : Cache) (key : Selection) (compute : Unit → Except ε String)

theorem obtain_of_get? {text : String} (found : cache.get? key = some text) :
    cache.obtain key compute = (.ok text, cache) := by
  simp [obtain, found]

theorem obtain_of_error {fault : ε} (fresh : cache.get? key = none)
    (failed : compute () = .error fault) :
    cache.obtain key compute = (.error fault, cache) := by
  simp [obtain, fresh, failed]

theorem obtain_of_ok {text : String} (fresh : cache.get? key = none)
    (computed : compute () = .ok text) :
    cache.obtain key compute = (.ok text, cache.add key text fresh) := by
  simp only [obtain, fresh, computed, settle_of_fresh cache key text fresh]

theorem compute_of_obtain_error {fault : ε} {after : Cache}
    (failed : cache.obtain key compute = (.error fault, after)) : compute () = .error fault := by
  cases found : cache.get? key with
  | some text =>
    rw [obtain_of_get? cache key compute found] at failed
    cases failed
  | none =>
    cases computed : compute () with
    | error other =>
      rw [obtain_of_error cache key compute found computed] at failed
      exact congrArg Except.error (Except.error.inj (Prod.mk.inj failed).1)
    | ok text =>
      rw [obtain_of_ok cache key compute found computed] at failed
      cases failed

theorem extends_obtain : (cache.obtain key compute).2.Extends cache := by
  cases found : cache.get? key with
  | some text => simpa [obtain_of_get? cache key compute found] using Extends.refl cache
  | none =>
    cases computed : compute () with
    | error fault =>
      simpa [obtain_of_error cache key compute found computed] using Extends.refl cache
    | ok text =>
      rw [obtain_of_ok cache key compute found computed]
      intro other settled known
      simp [get?_add, known]

end Obtain

theorem obtain_of_agrees {cache : Cache} {templates : Templates} (agrees : cache.Agrees templates)
    (key : Selection) :
    ∃ after, cache.obtain key (fun _ => templates.materialize key) =
      (templates.materialize key, after) ∧ after.Agrees templates := by
  cases found : cache.get? key with
  | some text =>
    have known := agrees _ (mem_entries_of_get? found)
    exact ⟨cache, by rw [obtain_of_get? _ _ _ found, known], agrees⟩
  | none =>
    cases computed : templates.materialize key with
    | error missing => exact ⟨cache, obtain_of_error _ _ _ found rfl, agrees⟩
    | ok text =>
      refine ⟨_, obtain_of_ok _ _ _ found rfl, ?_⟩
      intro entry member
      rcases List.mem_append.mp member with old | new
      · exact agrees entry old
      · obtain rfl : entry = (key, text) := by simpa using new
        exact computed

end Cache

namespace Templates

/-- The sources of selections, each materialized on the spot. -/
def sources (templates : Templates) : List Selection → Except MissingTemplate (List Source)
  | [] => .ok []
  | selection :: rest => do
    let text ← templates.materialize selection
    let others ← templates.sources rest
    return ⟨selection.sourceName, text⟩ :: others

end Templates

namespace Generator

theorem materializeAll_of_agrees {cache : Cache} {templates : Templates}
    (agrees : cache.Agrees templates) (selections : List Selection) :
    ∃ after, materializeAll templates selections cache = (templates.sources selections, after) ∧
      after.Agrees templates := by
  induction selections generalizing cache with
  | nil => exact ⟨cache, rfl, agrees⟩
  | cons selection rest ih =>
    obtain ⟨between, obtained, agreesBetween⟩ := Cache.obtain_of_agrees agrees selection
    obtain ⟨after, others, agreesAfter⟩ := ih agreesBetween
    refine ⟨after, ?_, agreesAfter⟩
    simp only [materializeAll, obtained, others]
    rfl

theorem extends_materializeAll (templates : Templates) (selections : List Selection)
    (cache : Cache) : (materializeAll templates selections cache).2.Extends cache := by
  induction selections generalizing cache with
  | nil => exact .refl cache
  | cons selection rest ih =>
    exact (cache.extends_obtain selection fun _ => templates.materialize selection).trans (ih _)

theorem materializeAll_snd (templates : Templates) (selections : List Selection) (cache : Cache) :
    (materializeAll templates selections cache).2 =
      selections.foldl
        (fun cache selection => (cache.obtain selection fun _ => templates.materialize selection).2)
        cache := by
  induction selections generalizing cache with
  | nil => rfl
  | cons selection rest ih => exact ih _

/-- One evaluation asked of a generator, with all that has an influence on it. -/
structure Call where
  environment : Environment
  raised : Bool
  options : Options
  interference : Interference

namespace Call

def run (call : Call) (generator : Generator) (cache : Cache) : Evaluation :=
  generator.evaluateAmid call.interference cache call.environment call.raised call.options

/-- From caches that agree with the templates, an evaluation takes the same course. -/
theorem run_of_agrees (call : Call) (generator : Generator) {cache other : Cache}
    (agrees : cache.Agrees generator.templates) (otherAgrees : other.Agrees generator.templates) :
    (call.run generator cache).outcome = (call.run generator other).outcome ∧
      (call.run generator cache).progress = (call.run generator other).progress ∧
      (call.run generator cache).cache.Agrees generator.templates := by
  simp only [run, evaluateAmid]
  rcases (generator.plan call.environment call.options).runFrom _ with
    ⟨_ | ⟨configuration, diagnostics, selections⟩, progress⟩
  · exact ⟨rfl, rfl, agrees⟩
  · simp only
    obtain ⟨after, here, agreesAfter⟩ := materializeAll_of_agrees agrees
      (selections.filter fun selection =>
        !(progress.raised || call.interference.givesUp selection))
    obtain ⟨_, there, _⟩ := materializeAll_of_agrees otherAgrees
      (selections.filter fun selection =>
        !(progress.raised || call.interference.givesUp selection))
    rw [here, there]
    cases generator.templates.sources _ with
    | error missing => exact ⟨rfl, rfl, agreesAfter⟩
    | ok artifacts =>
      simp only
      split
      · exact ⟨rfl, rfl, agreesAfter⟩
      · split <;> exact ⟨rfl, rfl, agreesAfter⟩

end Call

/-- The cache that a sequence of evaluations leaves, from the empty one on. -/
def cacheAfter (generator : Generator) (history : List Call) : Cache :=
  history.foldl (fun cache call => (call.run generator cache).cache) ∅

theorem agrees_foldl_run (generator : Generator) (history : List Call) {cache : Cache}
    (agrees : cache.Agrees generator.templates) :
    (history.foldl (fun cache call => (call.run generator cache).cache) cache).Agrees
      generator.templates := by
  induction history generalizing cache with
  | nil => exact agrees
  | cons call rest ih => exact ih (call.run_of_agrees generator agrees agrees).2.2

theorem agrees_empty (templates : Templates) : (∅ : Cache).Agrees templates :=
  fun _ member => absurd member List.not_mem_nil

/--
After any evaluations, completed, cancelled at any point or stopped by a missing template, the cache
holds what the templates make of its selections. So an evaluation delivers to both sinks what it would
deliver with an empty cache, asks the same queries and ends in the same way; of its counts only that of
the cache entries depends on the evaluations before.
-/
theorem run_after_history (generator : Generator) (history : List Call) :
    (generator.cacheAfter history).Agrees generator.templates ∧
      ∀ call : Call,
        let later := call.run generator (generator.cacheAfter history)
        let fresh := call.run generator ∅
        later.outcome = fresh.outcome ∧ later.progress = fresh.progress ∧
          (∀ sinks, later.deliverTo sinks = fresh.deliverTo sinks) ∧
          later.summary? = fresh.summary?.map fun summary =>
            { summary with cacheEntries := later.cache.size } := by
  have agrees : (generator.cacheAfter history).Agrees generator.templates :=
    agrees_foldl_run generator history (agrees_empty generator.templates)
  refine ⟨agrees, fun call => ?_⟩
  obtain ⟨outcome, progress, _⟩ :=
    call.run_of_agrees generator agrees (agrees_empty generator.templates)
  refine ⟨outcome, progress, fun sinks => ?_, ?_⟩
  · simp only [Evaluation.deliverTo, outcome]
  · simp only [Evaluation.summary?, outcome, Option.map_map]
    rfl

end Generator

end Polyfill
