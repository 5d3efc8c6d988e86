/-!
# Environments

An environment is the authority on what a target has already. It answers six queries, about names and
about the language. Answering a query may take place together with somebody raising the cancellation
flag, so an environment also says at which of its queries that happens.
-/

namespace Polyfill

/-- A question about the target. -/
inductive Query where
  /-- Can the target use this type or member? -/
  | isAccessible (id : String)
  /-- Is there such a type or member at all? -/
  | isPresent (id : String)
  /-- Is the language new enough for generated artifacts? -/
  | supportsPipeline
  /-- Does the language have aliases that hold everywhere? -/
  | supportsGlobalAliases
  /-- Does the target define this type itself? -/
  | definesLocally (id : String)
  /-- Does the native runtime hold this type, to be forwarded to? -/
  | hasForwardTarget (id : String)
  deriving DecidableEq, Repr

/-- What a target has, and when it cancels. -/
structure Environment where
  answer : Query → Bool
  /-- Whether the flag goes up during a query, after the given earlier ones (the latest first). -/
  raises : List Query → Query → Bool

namespace Environment

/-- The environment that gives the same answers and never raises the flag. -/
def calm (environment : Environment) : Environment :=
  { environment with raises := fun _ _ => false }

/-- The environment that also raises the flag whenever it is asked a given query. -/
def raisingOn (environment : Environment) (query : Query) : Environment :=
  { environment with
    raises := fun asked asking => environment.raises asked asking || asking == query }

/-- The environment that knows about names what another one does, and has everything else. -/
def namesOnly (environment : Environment) : Environment :=
  { environment with
    answer := fun
      | .isAccessible id => environment.answer (.isAccessible id)
      | .isPresent id => environment.answer (.isPresent id)
      | .supportsPipeline => true
      | .supportsGlobalAliases => true
      | .definesLocally _ => false
      | .hasForwardTarget _ => false }

end Environment

end Polyfill
