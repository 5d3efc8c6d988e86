import Polyfill.Environment.Basic

/-!
# Snapshots

A snapshot is an environment written down: two gates and four lists of names. What is accessible
exists as well.
-/

namespace Polyfill

/-- What a build integration has found out about a target. -/
structure Snapshot where
  /-- The language is new enough for generated artifacts. -/
  pipelineSupported : Bool := true
  /-- The language has aliases that hold everywhere. -/
  globalAliasesSupported : Bool := true
  /-- What can be used. -/
  accessible : List String := []
  /-- What exists, whether it can be used or not. -/
  existing : List String := []
  /-- The types that the target defines itself. -/
  localTypes : List String := []
  /-- The types of the native runtime that can be forwarded to. -/
  forwardTargets : List String := []
  deriving DecidableEq, Repr

namespace Snapshot

def answer (snapshot : Snapshot) : Query → Bool
  | .isAccessible id => snapshot.accessible.contains id
  | .isPresent id => snapshot.accessible.contains id || snapshot.existing.contains id
  | .supportsPipeline => snapshot.pipelineSupported
  | .supportsGlobalAliases => snapshot.globalAliasesSupported
  | .definesLocally id => snapshot.localTypes.contains id
  | .hasForwardTarget id => snapshot.forwardTargets.contains id

/-- The environment of a snapshot; it never raises the cancellation flag. -/
def environment (snapshot : Snapshot) : Environment where
  answer := snapshot.answer
  raises := fun _ _ => false

end Snapshot

end Polyfill
