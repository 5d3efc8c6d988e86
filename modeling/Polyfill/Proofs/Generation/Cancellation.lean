import Polyfill.Proofs.Generation.Caching
import Polyfill.Proofs.Generation.Selecting

/-!
# Cancelled evaluations

The flag can go up at any query, but is looked at only now and then. It is never overlooked, all the
same: an evaluation of a covered catalog is cancelled exactly if the flag was up at the start or went up
during one of its queries. An evaluation that does not complete delivers nothing and costs the cache
nothing.
-/

namespace Polyfill

open Inquiry

namespace Generator

/-- Every artifact of the catalog has a template. -/
def IsCovered (generator : Generator) : Prop :=
  ∀ candidate ∈ generator.catalog.candidates, candidate.id ∈ generator.templates

section Endings

variable (generator : Generator) (interference : Interference) (cache : Cache)
  (environment : Environment) (raised : Bool) (options : Options)

def attempted (progress : Progress) (selections : List Selection) : List Selection :=
  selections.filter fun selection => !(progress.raised || interference.givesUp selection)

/-- How an evaluation can end, and what it has done before. -/
inductive Ending : Evaluation → Prop where
  /-- The flag was seen up while selections were looked for. -/
  | stopped {progress : Progress}
      (planned : (generator.plan environment options).runFrom { raised } =
        (.error .cancelled, progress)) :
      Ending ⟨.error .cancelled, cache, progress⟩
  /-- A selection had no template. -/
  | missing {configuration diagnostics selections progress missing after}
      (planned : (generator.plan environment options).runFrom { raised } =
        (.ok (configuration, diagnostics, selections), progress))
      (materialized : materializeAll generator.templates
        (attempted interference progress selections) cache = (.error missing, after)) :
      Ending ⟨.error (.missingTemplate missing), after, progress⟩
  /-- Some selection was given up. -/
  | givenUp {configuration diagnostics selections progress artifacts after}
      (planned : (generator.plan environment options).runFrom { raised } =
        (.ok (configuration, diagnostics, selections), progress))
      (materialized : materializeAll generator.templates
        (attempted interference progress selections) cache = (.ok artifacts, after))
      (given : ∃ selection ∈ selections,
        progress.raised = true ∨ interference.givesUp selection = true) :
      Ending ⟨.error .cancelled, after, { progress with raised := true }⟩
  /-- The flag was seen up while forwards were looked for, or when it was looked at last. -/
  | cancelledLate {configuration diagnostics selections progress artifacts after reached}
      (planned : (generator.plan environment options).runFrom { raised } =
        (.ok (configuration, diagnostics, selections), progress))
      (materialized : materializeAll generator.templates
        (attempted interference progress selections) cache = (.ok artifacts, after))
      (run : (generator.finish environment configuration).runFrom
        { progress with raised := progress.raised || interference.raisesAfter } =
          (.error .cancelled, reached)) :
      Ending ⟨.error .cancelled, after, reached⟩
  /-- The flag was never seen up. -/
  | completed {configuration diagnostics selections progress artifacts after forwards reached}
      (planned : (generator.plan environment options).runFrom { raised } =
        (.ok (configuration, diagnostics, selections), progress))
      (materialized : materializeAll generator.templates
        (attempted interference progress selections) cache = (.ok artifacts, after))
      (run : (generator.finish environment configuration).runFrom
        { progress with raised := progress.raised || interference.raisesAfter } =
          (.ok forwards, reached)) :
      Ending ⟨.ok ⟨diagnostics, artifacts, forwards⟩, after, reached⟩

theorem ending_evaluateAmid :
    Ending generator interference cache environment raised options
      (generator.evaluateAmid interference cache environment raised options) := by
  unfold evaluateAmid
  split
  case h_1 progress planned => exact .stopped planned
  case h_2 configuration diagnostics selections progress planned =>
    simp only
    split
    case h_1 missing after materialized => exact .missing planned materialized
    case h_2 artifacts after materialized =>
      split
      case isTrue given => exact .givenUp planned materialized (by simpa using given)
      case isFalse =>
        split
        case h_1 reached run => exact .cancelledLate planned materialized run
        case h_2 forwards reached run => exact .completed planned materialized run

@[simp] theorem attempted_of_raised {progress : Progress} (up : progress.raised = true)
    (selections : List Selection) : attempted interference progress selections = [] := by
  simp [attempted, up]

theorem extends_evaluateAmid :
    (generator.evaluateAmid interference cache environment raised options).cache.Extends
      cache := by
  have ending := ending_evaluateAmid generator interference cache environment raised options
  generalize generator.evaluateAmid interference cache environment raised options = evaluation
    at ending ⊢
  cases ending with
  | stopped => exact .refl cache
  | missing _ materialized | givenUp _ materialized | cancelledLate _ materialized
  | completed _ materialized =>
    exact (congrArg (·.2.Extends cache) materialized).mp (extends_materializeAll _ _ cache)

theorem cache_evaluateAmid_of_raised
    (up : ((generator.plan environment options).runFrom { raised }).2.raised = true) :
    (generator.evaluateAmid interference cache environment raised options).cache = cache := by
  have ending := ending_evaluateAmid generator interference cache environment raised options
  generalize generator.evaluateAmid interference cache environment raised options = evaluation
    at ending ⊢
  cases ending with
  | stopped => rfl
  | missing planned materialized | givenUp planned materialized
  | cancelledLate planned materialized | completed planned materialized =>
    rw [planned] at up
    rw [attempted_of_raised interference up] at materialized
    exact (congrArg Prod.snd materialized).symm

theorem deliverTo_of_error {evaluation : Evaluation} {stop : Stop}
    (ended : evaluation.outcome = .error stop) (sinks : Sinks) :
    evaluation.deliverTo sinks = sinks := by
  rw [Evaluation.deliverTo, ended]

/-- The last look at the flag: forwards are had only if it is still down. -/
theorem finish_ok {configuration : Configuration} {progress reached : Progress}
    {forwards : List String}
    (run : (generator.finish environment configuration).runFrom progress =
      (.ok forwards, reached)) : reached.raised = false := by
  rw [finish, runFrom_bind] at run
  rcases selected : (TypeForward.select environment configuration
    generator.forwardCandidates).runFrom progress with ⟨_ | _, between⟩ <;> rw [selected] at run
  · cases run
  · simp only [runFrom_bind, runFrom_poll] at run
    cases up : between.raised <;> simp only [up] at run
    · obtain ⟨-, rfl⟩ := Prod.mk.inj run
      exact up
    · cases run

theorem materializeAll_of_mem {templates : Templates} {selections : List Selection}
    (covered : ∀ selection ∈ selections, selection.id ∈ templates) (cache : Cache) :
    ∃ artifacts after, materializeAll templates selections cache = (.ok artifacts, after) := by
  induction selections generalizing cache with
  | nil => exact ⟨[], cache, rfl⟩
  | cons selection rest ih =>
    have obtained : ∃ text between, cache.obtain selection
        (fun _ => templates.materialize selection) = (.ok text, between) := by
      cases found : cache.get? selection with
      | some text => exact ⟨text, cache, cache.obtain_of_get? _ _ found⟩
      | none =>
        have member := covered selection (by simp)
        have computed : templates.materialize selection = .ok (Template.materialize
            templates[selection.id] selection.isPublic selection.fixups) := by
          simp [Templates.materialize, member]
        exact ⟨_, _, cache.obtain_of_ok _ _ found computed⟩
    obtain ⟨text, between, obtained⟩ := obtained
    obtain ⟨others, after, rest⟩ := ih (fun other member => covered other (by simp [member])) between
    exact ⟨_, after, by simp only [materializeAll, obtained, rest]; rfl⟩

end Endings

variable (generator : Generator) (cache : Cache) (environment : Environment) (raised : Bool)
  (options : Options)

/--
The flag after an evaluation is accounted for by the start and by the queries made. It is up if the
evaluation was cancelled, and down if the evaluation was completed.
-/
theorem flag_evaluate :
    let evaluation := generator.evaluate cache environment raised options
    evaluation.progress.raised = (raised || environment.raisedDuring evaluation.progress.asked) ∧
      (evaluation.outcome = .error .cancelled → evaluation.progress.raised = true) ∧
      (∀ delivery, evaluation.outcome = .ok delivery → evaluation.progress.raised = false) := by
  intro evaluation
  have plan := generator.yields_plan environment options
  have planOutcome := plan.outcome { raised }
  have planFlag := plan.flag { raised } raised (by simp [Environment.raisedDuring])
  have ending := ending_evaluateAmid generator .none cache environment raised options
  change Ending _ _ _ _ _ _ evaluation at ending
  generalize evaluation = evaluation at ending ⊢
  cases ending with
  | stopped planned =>
    rw [planned] at planOutcome planFlag
    exact ⟨planFlag, by simpa using planOutcome, by simp⟩
  | missing planned =>
    rw [planned] at planFlag
    exact ⟨planFlag, by simp, by simp⟩
  | givenUp planned _ given =>
    rw [planned] at planFlag
    obtain ⟨_, _, up⟩ := given
    simp only [Interference.none, Bool.false_eq_true, or_false] at up
    exact ⟨by rw [← planFlag, up], by simp, by simp⟩
  | @cancelledLate configuration _ _ progress _ _ _ planned _ run =>
    rw [planned] at planFlag
    have finish := generator.yields_finish environment configuration
    simp only [Interference.none, Bool.or_false] at run
    have flag := finish.flag progress raised planFlag
    have outcome := finish.outcome progress
    rw [run] at flag outcome
    exact ⟨flag, by simpa using outcome, by simp⟩
  | @completed configuration _ _ progress _ _ _ _ planned _ run =>
    rw [planned] at planFlag
    simp only [Interference.none, Bool.or_false] at run
    have flag := (generator.yields_finish environment configuration).flag progress raised planFlag
    rw [run] at flag
    exact ⟨flag, by simp, fun _ _ => finish_ok generator environment run⟩

theorem exists_candidate_of_planned {configuration : Configuration} {diagnostics : List Diagnostic}
    {selections : List Selection} {progress : Progress}
    (planned : (generator.plan environment options).runFrom { raised } =
      (.ok (configuration, diagnostics, selections), progress))
    {selection : Selection} (member : selection ∈ selections) :
    ∃ candidate ∈ generator.catalog.candidates, candidate.id = selection.id := by
  have plan := (generator.yields_plan environment options).outcome { raised }
  simp only [planned, Except.ok.injEq, Prod.mk.injEq, reduceCtorEq, false_and, or_false] at plan
  obtain ⟨-, -, rfl⟩ := plan
  exact Selecting.exists_candidate_of_mem_chosen member

/-- An evaluation of a covered catalog never misses a template, whatever goes on beside it. -/
theorem outcome_evaluateAmid_of_isCovered (covered : generator.IsCovered)
    (interference : Interference) (missing : MissingTemplate) :
    (generator.evaluateAmid interference cache environment raised options).outcome ≠
      .error (.missingTemplate missing) := by
  intro ended
  have ending := ending_evaluateAmid generator interference cache environment raised options
  generalize generator.evaluateAmid interference cache environment raised options = evaluation
    at ending ended
  cases ending with
  | stopped | givenUp | cancelledLate | completed => simp at ended
  | @missing _ _ selections progress _ _ planned materialized =>
    have members : ∀ selection ∈ attempted interference progress selections,
        selection.id ∈ generator.templates := by
      intro selection member
      obtain ⟨candidate, listed, same⟩ := exists_candidate_of_planned generator environment raised
        options planned (List.mem_filter.mp member).1
      exact same ▸ covered candidate listed
    obtain ⟨_, _, fine⟩ := materializeAll_of_mem members cache
    simp [fine] at materialized

theorem outcome_evaluate_of_isCovered (covered : generator.IsCovered) (missing : MissingTemplate) :
    (generator.evaluate cache environment raised options).outcome ≠
      .error (.missingTemplate missing) :=
  outcome_evaluateAmid_of_isCovered generator cache environment raised options covered .none missing

/--
An evaluation of a covered catalog is cancelled exactly if the flag was up at the start or went up
during one of the queries made. Whatever goes on beside an evaluation, one that does not complete hands
nothing over; the cache keeps its entries, and stays as it is if the flag was up before anything was
materialized. Selections and forwards are had in full, as where nobody raises the flag, or not at all.
-/
theorem evaluate_all_or_nothing :
    (generator.IsCovered →
      ((generator.evaluate cache environment raised options).outcome = .error .cancelled ↔
        raised = true ∨ ∃ later query earlier,
          (generator.evaluate cache environment raised options).progress.asked =
            later ++ query :: earlier ∧ environment.raises earlier query = true)) ∧
    (∀ interference,
      let evaluation := generator.evaluateAmid interference cache environment raised options
      (∀ stop, evaluation.outcome = .error stop → ∀ sinks, evaluation.deliverTo sinks = sinks) ∧
        evaluation.cache.Extends cache ∧
        (((generator.plan environment options).runFrom { raised }).2.raised = true →
          evaluation.cache = cache)) ∧
    (∀ configuration progress,
      let selected := (Selecting.select generator.catalog environment configuration).runFrom progress
      let undisturbed := (Selecting.select generator.catalog environment.calm configuration).runFrom {}
      undisturbed.1 ≠ .error .cancelled ∧
        (selected.1 = .error .cancelled ∨ selected.1 = undisturbed.1)) ∧
    (∀ configuration progress,
      let candidates := generator.forwardCandidates
      let selected := (TypeForward.select environment configuration candidates).runFrom progress
      let undisturbed := (TypeForward.select environment.calm configuration candidates).runFrom {}
      undisturbed.1 ≠ .error .cancelled ∧
        (selected.1 = .error .cancelled ∨ selected.1 = undisturbed.1)) := by
  refine ⟨fun covered => ?_, fun interference => ⟨?_, ?_, ?_⟩, fun configuration progress => ?_,
    fun configuration progress => ?_⟩
  · obtain ⟨accounted, up, down⟩ := flag_evaluate generator cache environment raised options
    rw [← Environment.raisedDuring_iff, ← Bool.or_eq_true, ← accounted]
    refine ⟨up, fun raised => ?_⟩
    rcases ended : (generator.evaluate cache environment _ options).outcome with
      (_ | missing) | delivery
    · rfl
    · exact absurd ended (outcome_evaluate_of_isCovered _ cache environment _ options covered _)
    · simp [down delivery ended] at raised
  · exact fun stop ended sinks => deliverTo_of_error ended sinks
  · exact extends_evaluateAmid generator interference cache environment raised options
  · exact cache_evaluateAmid_of_raised generator interference cache environment raised options
  · exact (Selecting.yields_select environment configuration _).complete_or_cancelled
      (Selecting.yields_select environment.calm configuration _) progress
  · exact (TypeForward.yields_select environment configuration _).complete_or_cancelled
      (TypeForward.yields_select environment.calm configuration _) progress

/-- An evaluation during whose last query the flag goes up, and one artifact that it selects. -/
theorem evaluate_cancelled_by_last_query :
    let generator : Generator :=
      { catalog := .ofDistinct [⟨"Demo.Alpha", .languageSupport, .empty⟩] (by simp)
        templates := .ofList [("Demo.Alpha", "class Alpha")]
        forwardCandidates := ["Demo.Beta"] }
    let environment : Environment :=
      { answer := fun query => query == .supportsPipeline
        raises := fun _ query => query == .hasForwardTarget "Demo.Beta" }
    generator.IsCovered ∧
      (generator.evaluate ∅ environment false ∅).outcome = .error .cancelled := by
  intro generator environment
  have covered : generator.IsCovered := by
    simp [Generator.IsCovered, generator, Catalog.ofDistinct]
  have up : environment.raisedDuring (generator.evaluate ∅ environment false ∅).progress.asked =
      true := by decide +kernel
  refine ⟨covered, ?_⟩
  apply ((evaluate_all_or_nothing generator ∅ environment false ∅).1 covered).mpr
  exact .inr (Environment.raisedDuring_iff.mp up)

end Generator

end Polyfill
