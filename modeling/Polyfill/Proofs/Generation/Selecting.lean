import Polyfill.Generation
import Polyfill.Proofs.Environment.Inquiry

/-!
# What an evaluation selects

Selecting asks an environment and can be cancelled, but what it comes to is decided by the answers
alone. The selections and the forwards are written down here as filtered lists, and the inquiries of an
evaluation are shown to yield them.
-/

namespace Polyfill

open Inquiry

namespace Selecting

/-- What the answers of an environment say about the fixups of every candidate. -/
def conditionsOf (answer : Query → Bool) : Conditions where
  coverageExclusion := answer (.isAccessible Artifact.coverageExclusion)
  methodImplHints := answer (.isPresent Artifact.aggressiveInlining)
  globalAliases := answer .supportsGlobalAliases

/-- Whether answers let a candidate be generated: the target lacks it, and the range type its tuple type. -/
def isMissing (answer : Query → Bool) (candidate : Candidate) : Bool :=
  !answer (.isAccessible candidate.id) &&
    (candidate.id != Artifact.range || answer (.isPresent Artifact.rangeTuple))

/-- The selections that answers lead to, in catalog order. -/
def chosen (answer : Query → Bool) (configuration : Configuration) (catalog : Catalog) :
    List Selection :=
  if answer .supportsPipeline then
    (catalog.candidates.filter fun candidate =>
      isMissing answer candidate && isPicked configuration candidate).map
        (selectionOf configuration (conditionsOf answer))
  else []

theorem exists_selectionOf_of_mem_chosen {answer : Query → Bool} {configuration : Configuration}
    {catalog : Catalog} {selection : Selection}
    (member : selection ∈ chosen answer configuration catalog) :
    ∃ candidate ∈ catalog.candidates,
      selectionOf configuration (conditionsOf answer) candidate = selection := by
  unfold chosen at member
  split at member
  · obtain ⟨candidate, listed, same⟩ := List.mem_map.mp member
    exact ⟨candidate, (List.mem_filter.mp listed).1, same⟩
  · simp at member

theorem exists_candidate_of_mem_chosen {answer : Query → Bool} {configuration : Configuration}
    {catalog : Catalog} {selection : Selection}
    (member : selection ∈ chosen answer configuration catalog) :
    ∃ candidate ∈ catalog.candidates, candidate.id = selection.id := by
  obtain ⟨candidate, listed, rfl⟩ := exists_selectionOf_of_mem_chosen member
  exact ⟨candidate, listed, rfl⟩

theorem yields_askConditions (environment : Environment) :
    Yields environment (askConditions environment) (conditionsOf environment.answer) :=
  .ask_bind (.ask_bind (.ask_bind (.of_pure _)))

theorem yields_isWanted (environment : Environment) (configuration : Configuration)
    (candidate : Candidate) :
    Yields environment (isWanted environment configuration candidate)
      (isMissing environment.answer candidate && isPicked configuration candidate) := by
  apply Yields.ask_bind
  cases accessible : environment.answer (.isAccessible candidate.id) with
  | true => simpa [isMissing, accessible] using Yields.of_pure false
  | false =>
    by_cases range : candidate.id = Artifact.range
    · have missing : isMissing environment.answer candidate =
          environment.answer (.isPresent Artifact.rangeTuple) := by
        simp [isMissing, accessible, ← range]
      simp only [missing, range, beq_self_eq_true, if_true]
      apply Yields.ask_bind
      cases environment.answer (.isPresent Artifact.rangeTuple) with
      | true => exact .of_pure (isPicked configuration candidate)
      | false => exact .of_pure false
    · have missing : isMissing environment.answer candidate = true := by
        simp [isMissing, accessible, bne_iff_ne.mpr range]
      simpa [missing, range] using Yields.of_pure (isPicked configuration candidate)

theorem yields_selectAmong (environment : Environment) (configuration : Configuration)
    (conditions : Conditions) (candidates : List Candidate) :
    Yields environment (selectAmong environment configuration conditions candidates)
      ((candidates.filter fun candidate =>
        isMissing environment.answer candidate && isPicked configuration candidate).map
          (selectionOf configuration conditions)) := by
  induction candidates with
  | nil => exact .of_pure []
  | cons candidate rest ih =>
    apply Yields.poll_bind
    apply (yields_isWanted environment configuration candidate).bind
    apply ih.bind
    cases wanted : isMissing environment.answer candidate && isPicked configuration candidate with
    | true => simpa [wanted] using Yields.of_pure _
    | false => simpa [wanted] using Yields.of_pure _

theorem yields_select (environment : Environment) (configuration : Configuration)
    (catalog : Catalog) :
    Yields environment (select catalog environment configuration)
      (chosen environment.answer configuration catalog) := by
  apply Yields.ask_bind
  cases supported : environment.answer .supportsPipeline with
  | false => simpa [chosen, supported] using Yields.of_pure []
  | true =>
    simp only [chosen, supported, if_true]
    exact (yields_askConditions environment).bind
      (yields_selectAmong environment configuration _ catalog.candidates)

end Selecting

namespace TypeForward

/-- The forwards that answers lead to, in the order of the candidates. -/
def chosen (answer : Query → Bool) (configuration : Configuration) (candidates : List String) :
    List String :=
  candidates.filter fun id =>
    !configuration.excludeTypeForwards && !answer (.definesLocally id) &&
      answer (.hasForwardTarget id)

theorem yields_isForwarded (environment : Environment) (id : String) :
    Yields environment (isForwarded environment id)
      (!environment.answer (.definesLocally id) && environment.answer (.hasForwardTarget id)) := by
  apply Yields.ask_bind
  cases environment.answer (.definesLocally id) with
  | true => exact .of_pure false
  | false => exact .of_ask (.hasForwardTarget id)

theorem yields_select (environment : Environment) (configuration : Configuration)
    (candidates : List String) :
    Yields environment (select environment configuration candidates)
      (chosen environment.answer configuration candidates) := by
  induction candidates with
  | nil => exact .of_pure []
  | cons id rest ih =>
    apply Yields.poll_bind
    cases off : configuration.excludeTypeForwards with
    | true =>
      have none : chosen environment.answer configuration (id :: rest) =
          chosen environment.answer configuration rest := by simp [chosen, off]
      rw [none]
      exact (Yields.of_pure false).bind (ih.bind (.of_pure _))
    | false =>
      simp only [chosen, off, List.filter_cons, Bool.not_false, Bool.true_and] at ih ⊢
      exact (yields_isForwarded environment id).bind (ih.bind (.of_pure _))

end TypeForward

namespace Generator

/-- The diagnostics of an evaluation: those of its options, and one if the language is too old. -/
def diagnosticsOf (generator : Generator) (answer : Query → Bool) (options : Options) :
    List Diagnostic :=
  if answer .supportsPipeline then (generator.resolve options).diagnostics
  else (generator.resolve options).diagnostics ++ [.ofDescriptor .unsupportedLanguageLevel []]

theorem yields_plan (generator : Generator) (environment : Environment) (options : Options) :
    Yields environment (generator.plan environment options)
      ((generator.resolve options).configuration,
        generator.diagnosticsOf environment.answer options,
        Selecting.chosen environment.answer (generator.resolve options).configuration
          generator.catalog) :=
  .ask_bind ((Selecting.yields_select environment _ generator.catalog).bind (.of_pure _))

theorem yields_finish (generator : Generator) (environment : Environment)
    (configuration : Configuration) :
    Yields environment (generator.finish environment configuration)
      (TypeForward.chosen environment.answer configuration generator.forwardCandidates) :=
  (TypeForward.yields_select environment configuration generator.forwardCandidates).bind
    (.poll_bind (.of_pure _))

end Generator

end Polyfill
