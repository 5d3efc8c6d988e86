/-!
# Faults of a JSON text

A JSON text can fail a reader in three ways. When it does so in several places, the first place in
reading order decides.
-/

namespace Polyfill.Json

/-- Why a JSON text is refused. -/
inductive Fault where
  /-- The text is no JSON, or says something that no reader takes. -/
  | malformed
  /-- The text is well formed so far but not of the kind that is read. -/
  | mismatched
  /-- The text ends early. -/
  | truncated
  deriving DecidableEq, Repr

end Polyfill.Json
