import Polyfill.Proofs.Generation.Selecting

/-!
# What a completed evaluation delivers

Whatever goes on beside an evaluation, if it completes it delivers the artifacts and the forwards that
the answers of the environment lead to, each under a name made from its id.
-/

namespace Polyfill

open Inquiry

theorem Artifact.sourceName_injective : Function.Injective Artifact.sourceName := by
  intro a b same
  simpa [Artifact.sourceName] using same

namespace Delivery

def names (delivery : Delivery) : List String :=
  delivery.sources.map (·.name)

/-- An artifact is among the delivered ones. -/
def Generates (delivery : Delivery) (id : String) : Prop :=
  Artifact.sourceName id ∈ delivery.artifacts.map (·.name)

theorem names_eq (delivery : Delivery) :
    delivery.names = Artifact.sourceName Artifact.embeddedMarker ::
      (delivery.artifacts.map (·.name) ++ delivery.forwards.map TypeForward.sourceName) := by
  simp [names, sources, Source.marker, Source.ofForward, Function.comp_def]

end Delivery

namespace Sinks

theorem foldl_report (diagnostics : List Diagnostic) (sinks : Sinks) :
    diagnostics.foldl report sinks =
      { sinks with diagnostics := sinks.diagnostics ++ diagnostics } := by
  induction diagnostics generalizing sinks with
  | nil => simp
  | cons diagnostic rest ih => simp [ih, report]

theorem foldl_addSource (sources : List Source) (sinks : Sinks) :
    sources.foldl addSource sinks = { sinks with sources := sinks.sources ++ sources } := by
  induction sources generalizing sinks with
  | nil => simp
  | cons source rest ih => simp [ih, addSource]

end Sinks

theorem Evaluation.deliverTo_of_ok {evaluation : Evaluation} {delivery : Delivery}
    (completed : evaluation.outcome = .ok delivery) (sinks : Sinks) :
    evaluation.deliverTo sinks =
      { diagnostics := sinks.diagnostics ++ delivery.diagnostics
        sources := sinks.sources ++ delivery.sources } := by
  rw [deliverTo, completed]
  simp only [Sinks.foldl_report, Sinks.foldl_addSource]

theorem Evaluation.sources_deliverTo {evaluation : Evaluation} {delivery : Delivery}
    (completed : evaluation.outcome = .ok delivery) (sinks : Sinks) :
    (evaluation.deliverTo sinks).sources = sinks.sources ++ delivery.sources := by
  rw [deliverTo_of_ok completed]

namespace Generator

theorem names_materializeAll {templates : Templates} {selections : List Selection}
    {cache after : Cache} {artifacts : List Source}
    (materialized : materializeAll templates selections cache = (.ok artifacts, after)) :
    artifacts.map (·.name) = selections.map (·.sourceName) := by
  induction selections generalizing cache artifacts with
  | nil =>
    cases materialized
    rfl
  | cons selection rest ih =>
    rcases obtained : cache.obtain selection fun _ => templates.materialize selection with
      ⟨text, between⟩
    rcases remaining : materializeAll templates rest between with ⟨others, last⟩
    simp only [materializeAll, obtained, remaining] at materialized
    cases text with
    | error missing => cases (Prod.mk.inj materialized).1
    | ok text =>
      cases others with
      | error missing => cases (Prod.mk.inj materialized).1
      | ok others =>
        obtain ⟨same, rfl⟩ := Prod.mk.inj materialized
        cases same
        rw [List.map_cons, List.map_cons, ih remaining]

section Completed

variable {generator : Generator} {interference : Interference} {cache : Cache}
  {environment : Environment} {raised : Bool} {options : Options} {delivery : Delivery}

theorem materialized_of_completed
    (completed : (generator.evaluateAmid interference cache environment raised options).outcome =
      .ok delivery) :
    delivery.diagnostics = generator.diagnosticsOf environment.answer options ∧
      (∃ after, materializeAll generator.templates
        (Selecting.chosen environment.answer (generator.resolve options).configuration
          generator.catalog) cache = (.ok delivery.artifacts, after)) ∧
      delivery.forwards = TypeForward.chosen environment.answer
        (generator.resolve options).configuration generator.forwardCandidates := by
  have plan := (generator.yields_plan environment options).outcome { raised }
  unfold evaluateAmid at completed
  split at completed
  case h_1 => cases completed
  case h_2 configuration diagnostics selections progress planned =>
    simp only [planned, Except.ok.injEq, Prod.mk.injEq, reduceCtorEq, false_and, or_false] at plan
    obtain ⟨rfl, rfl, rfl⟩ := plan
    simp only at completed
    split at completed
    case h_1 => cases completed
    case h_2 artifacts after materialized =>
      split at completed
      case isTrue => cases completed
      case isFalse kept =>
        split at completed
        case h_1 => cases completed
        case h_2 forwards reached run =>
          cases completed
          have finish := (generator.yields_finish environment
            (generator.resolve options).configuration).outcome
              { progress with raised := progress.raised || interference.raisesAfter }
          simp only [run, Except.ok.injEq, reduceCtorEq, false_and, or_false] at finish
          rw [List.filter_eq_self.mpr (by simpa using kept)] at materialized
          exact ⟨rfl, ⟨after, materialized⟩, finish⟩

/-- A completed evaluation delivers what the answers of the environment lead to. -/
theorem delivered_of_completed
    (completed : (generator.evaluateAmid interference cache environment raised options).outcome =
      .ok delivery) :
    delivery.diagnostics = generator.diagnosticsOf environment.answer options ∧
      delivery.artifacts.map (·.name) =
        (Selecting.chosen environment.answer (generator.resolve options).configuration
          generator.catalog).map (·.sourceName) ∧
      delivery.forwards = TypeForward.chosen environment.answer
        (generator.resolve options).configuration generator.forwardCandidates := by
  obtain ⟨diagnostics, ⟨_, materialized⟩, forwards⟩ := materialized_of_completed completed
  exact ⟨diagnostics, names_materializeAll materialized, forwards⟩

end Completed

end Generator

end Polyfill
