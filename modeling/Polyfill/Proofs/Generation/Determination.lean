import Mathlib.Data.List.Forall2
import Polyfill.Proofs.Generation.Caching
import Polyfill.Proofs.Generation.Emission

/-!
# What a delivery depends on

An evaluation of a covered catalog is cancelled, or it delivers what its options and the answers of its
environment come to (`Generator.deliveryOf`). Neither the evaluations before it nor anything that goes
on beside it have a part in that. Where two evaluations differ in little, what they choose is compared
candidate by candidate.
-/

namespace Polyfill

namespace Selecting

variable {answer answer' : Query → Bool} {configuration configuration' : Configuration}
  {catalog : Catalog}

theorem filter_chosen (keep : String → Bool) :
    (chosen answer configuration catalog).filter (keep ·.id) =
      if answer .supportsPipeline then
        (catalog.candidates.filter fun candidate =>
          keep candidate.id && (isMissing answer candidate && isPicked configuration candidate)).map
            (selectionOf configuration (conditionsOf answer))
      else [] := by
  unfold chosen
  split
  · rw [List.filter_map, List.filter_filter]
    rfl
  · rfl

/-- What stricter answers or options leave of a choice. -/
theorem chosen_eq_filter (keep : String → Bool)
    (supported : answer' .supportsPipeline = answer .supportsPipeline)
    (wanted : ∀ candidate, (isMissing answer' candidate && isPicked configuration' candidate) =
      (keep candidate.id && (isMissing answer candidate && isPicked configuration candidate)))
    (same : selectionOf configuration' (conditionsOf answer') =
      selectionOf configuration (conditionsOf answer)) :
    chosen answer' configuration' catalog =
      (chosen answer configuration catalog).filter (keep ·.id) := by
  rw [filter_chosen]
  simp only [chosen, supported, wanted, same]

theorem filter_chosen_congr (keep : String → Bool)
    (picked : ∀ candidate ∈ catalog.candidates, keep candidate.id = true →
      isPicked configuration' candidate = isPicked configuration candidate)
    (same : selectionOf configuration' = selectionOf configuration) :
    (chosen answer configuration' catalog).filter (keep ·.id) =
      (chosen answer configuration catalog).filter (keep ·.id) := by
  rw [filter_chosen, filter_chosen, same]
  congr 2
  refine List.filter_congr fun candidate listed => ?_
  cases kept : keep candidate.id with
  | false => rfl
  | true => rw [picked candidate listed kept]

theorem forall₂_chosen {Related : Selection → Selection → Prop}
    (picked : isPicked configuration' = isPicked configuration)
    (related : ∀ candidate, Related (selectionOf configuration (conditionsOf answer) candidate)
      (selectionOf configuration' (conditionsOf answer) candidate)) :
    List.Forall₂ Related (chosen answer configuration catalog)
      (chosen answer configuration' catalog) := by
  unfold chosen
  rw [picked]
  split
  · rw [List.forall₂_map_left_iff, List.forall₂_map_right_iff, List.forall₂_same]
    exact fun candidate _ => related candidate
  · exact .nil

end Selecting

namespace Templates

variable (templates : Templates)

def sourceOf (selection : Selection) : Source where
  name := selection.sourceName
  text := Template.materialize (templates[selection.id]?.getD "") selection.isPublic selection.fixups

theorem sources_of_mem {selections : List Selection}
    (covered : ∀ selection ∈ selections, selection.id ∈ templates) :
    templates.sources selections = .ok (selections.map templates.sourceOf) := by
  induction selections with
  | nil => rfl
  | cons selection rest ih =>
    have member := covered selection List.mem_cons_self
    have text : templates.materialize selection = .ok (templates.sourceOf selection).text := by
      simp [materialize, sourceOf, member]
    have others := ih fun other listed => covered other (List.mem_cons_of_mem _ listed)
    rw [sources, text, others]
    rfl

end Templates

namespace Generator

variable (generator : Generator)

/-- What answers and options come to, where every selection has a template. -/
def deliveryOf (answer : Query → Bool) (options : Options) : Delivery where
  diagnostics := generator.diagnosticsOf answer options
  artifacts := (Selecting.chosen answer (.ofValues options.effective?) generator.catalog).map
    generator.templates.sourceOf
  forwards := TypeForward.chosen answer (.ofValues options.effective?) generator.forwardCandidates

theorem filter_artifacts_deliveryOf (answer : Query → Bool) (options : Options)
    (keep : String → Bool) :
    (generator.deliveryOf answer options).artifacts.filter (keep ·.name) =
      ((Selecting.chosen answer (.ofValues options.effective?) generator.catalog).filter
        (keep <| Artifact.sourceName ·.id)).map generator.templates.sourceOf :=
  List.filter_map

theorem artifacts_deliveryOf_eq_filter {answer answer' : Query → Bool} {a b : Options} {id : String}
    (chosen : Selecting.chosen answer' (.ofValues b.effective?) generator.catalog =
      (Selecting.chosen answer (.ofValues a.effective?) generator.catalog).filter (·.id != id)) :
    (generator.deliveryOf answer' b).artifacts =
      (generator.deliveryOf answer a).artifacts.filter (·.name != Artifact.sourceName id) := by
  have same (other : String) :
      (Artifact.sourceName other != Artifact.sourceName id) = (other != id) := by
    simp only [bne, Bool.beq_eq_decide_eq, Artifact.sourceName_injective.eq_iff]
  rw [generator.filter_artifacts_deliveryOf answer a (· != Artifact.sourceName id)]
  simp only [deliveryOf, chosen, same]

theorem agrees_cacheAfter (history : List Call) :
    (generator.cacheAfter history).Agrees generator.templates :=
  agrees_foldl_run generator history (agrees_empty generator.templates)

variable {generator}

theorem eq_deliveryOf_of_completed (covered : generator.IsCovered) {cache : Cache}
    (agrees : cache.Agrees generator.templates) {call : Call} {delivery : Delivery}
    (completed : (call.run generator cache).outcome = .ok delivery) :
    delivery = generator.deliveryOf call.environment.answer call.options := by
  obtain ⟨diagnostics, ⟨_, materialized⟩, forwards⟩ := materialized_of_completed completed
  rw [resolve, Configuration.configuration_resolve] at materialized forwards
  obtain ⟨_, agreeing, _⟩ := materializeAll_of_agrees agrees
    (Selecting.chosen call.environment.answer (.ofValues call.options.effective?) generator.catalog)
  have templated : ∀ selection ∈ Selecting.chosen call.environment.answer
      (.ofValues call.options.effective?) generator.catalog, selection.id ∈ generator.templates := by
    intro selection chosen
    obtain ⟨candidate, listed, same⟩ := Selecting.exists_candidate_of_mem_chosen chosen
    exact same ▸ covered candidate listed
  rw [agreeing, generator.templates.sources_of_mem templated] at materialized
  obtain ⟨artifacts, -⟩ := Prod.mk.inj materialized
  obtain ⟨_, _, _⟩ := delivery
  simp_all [deliveryOf]

/-- An evaluation of a covered catalog that is not cancelled comes to its delivery. -/
theorem outcome_run_of_isCovered (covered : generator.IsCovered) (history : List Call) (call : Call)
    (uncancelled : (call.run generator (generator.cacheAfter history)).outcome ≠ .error .cancelled) :
    (call.run generator (generator.cacheAfter history)).outcome =
      .ok (generator.deliveryOf call.environment.answer call.options) := by
  cases ended : (call.run generator (generator.cacheAfter history)).outcome with
  | ok delivery =>
    rw [eq_deliveryOf_of_completed covered (generator.agrees_cacheAfter history) ended]
  | error stop =>
    cases stop with
    | cancelled => exact absurd ended uncancelled
    | missingTemplate missing =>
      exact absurd ended (outcome_evaluateAmid_of_isCovered generator _ _ _ _ covered _ missing)

theorem outcome_evaluate_of_snapshot (covered : generator.IsCovered) (history : List Call)
    (snapshot : Snapshot) (options : Options) :
    (generator.evaluate (generator.cacheAfter history) snapshot.environment false options).outcome =
      .ok (generator.deliveryOf snapshot.answer options) := by
  obtain ⟨delivery, completed⟩ :=
    completes_of_isCovered covered (generator.cacheAfter history) snapshot options
  let call : Call := ⟨snapshot.environment, false, options, .none⟩
  exact outcome_run_of_isCovered covered history call fun cancelled =>
    nomatch completed.symm.trans cancelled

end Generator

end Polyfill
