import Polyfill.Environment.Basic

/-!
# Inquiries

An inquiry is a computation that queries an environment and stops when it notices that it has been
cancelled. The flag can go up at any query, but it is only looked at where the inquiry polls; once up
it stays up.
-/

namespace Polyfill

/-- How far an inquiry has come. -/
structure Progress where
  /-- The queries made, the latest first. -/
  asked : List Query := []
  /-- Whether the cancellation flag is up. -/
  raised : Bool := false
  deriving DecidableEq, Repr

/-- The mark of an inquiry that stopped because the flag was up. -/
inductive Cancelled where
  | cancelled
  deriving DecidableEq, Repr

def Cancelled.message (_ : Cancelled) : String :=
  "Evaluation cancelled"

/-- A computation with queries that can be cancelled. -/
abbrev Inquiry (α : Type) := ExceptT Cancelled (StateM Progress) α

namespace Inquiry

/-- Run an inquiry from some progress on. -/
def runFrom {α : Type} (inquiry : Inquiry α) (progress : Progress) :
    Except Cancelled α × Progress :=
  inquiry.run.run progress

/-- Make a query; the flag may go up on the way. -/
def ask (environment : Environment) (query : Query) : Inquiry Bool := do
  modify fun progress =>
    { asked := query :: progress.asked
      raised := progress.raised || environment.raises progress.asked query }
  return environment.answer query

/-- Stop if the flag is up. -/
def poll : Inquiry Unit := do
  if (← get).raised then throw .cancelled

end Inquiry

end Polyfill
