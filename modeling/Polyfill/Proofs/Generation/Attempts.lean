import Polyfill.Proofs.Generation.Cancellation

/-!
# What an evaluation materializes

An evaluation uses its cache for nothing but the selections that it attempts, which are selections from
the catalog. Where the catalog is covered, each of them has a template, whatever goes on beside the
evaluation, so that it never stops for want of one.
-/

namespace Polyfill

open Inquiry

namespace Generator

namespace Call

variable (call : Call) (generator : Generator) (cache : Cache)

/-- The selections that an evaluation asks its cache for, and materializes where they are not there. -/
def attempts : List Selection :=
  match (generator.plan call.environment call.options).runFrom { raised := call.raised } with
  | (.error _, _) => []
  | (.ok (_, _, selections), progress) => attempted call.interference progress selections

theorem cache_run :
    (call.run generator cache).cache =
      (materializeAll generator.templates (call.attempts generator) cache).2 := by
  have ending := ending_evaluateAmid generator call.interference cache call.environment
    call.raised call.options
  rw [run, attempts]
  generalize generator.evaluateAmid _ _ _ _ _ = evaluation at ending ⊢
  cases ending with
  | stopped planned =>
    rw [planned]
    rfl
  | missing planned materialized | givenUp planned materialized
  | cancelledLate planned materialized | completed planned materialized =>
    rw [planned, materialized]

theorem exists_candidate_of_mem_attempts {selection : Selection}
    (member : selection ∈ call.attempts generator) :
    ∃ candidate ∈ generator.catalog.candidates, candidate.id = selection.id := by
  rw [attempts] at member
  split at member
  case h_1 => cases member
  case h_2 planned =>
    exact exists_candidate_of_planned generator call.environment call.raised call.options planned
      (List.mem_filter.mp member).1

theorem id_mem_of_mem_attempts (covered : generator.IsCovered) {selection : Selection}
    (member : selection ∈ call.attempts generator) : selection.id ∈ generator.templates := by
  obtain ⟨candidate, listed, same⟩ := call.exists_candidate_of_mem_attempts generator member
  exact same ▸ covered candidate listed

end Call

end Generator

end Polyfill
