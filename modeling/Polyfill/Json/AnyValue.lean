import Polyfill.Json.Reader

/-!
# Values of any kind

Where any value may stand, objects are maps: their members come out in ascending order of the keys, and
a later member replaces an earlier one of the same key.
-/

namespace Polyfill.Json

/-- How deep containers may lie in each other. -/
def depthLimit : Nat :=
  128

/-- Put a member into its place among members in ascending order of their keys. -/
def insertMember {α : Type} (key : String) (value : α) : List (String × α) → List (String × α)
  | [] => [(key, value)]
  | (first, other) :: rest =>
    if key < first then (key, value) :: (first, other) :: rest
    else if key = first then (key, value) :: rest
    else (first, other) :: insertMember key value rest

mutual

/-- A value of any kind. At the depth limit, no container is entered any more. -/
def Node.value (depth : Nat) : Node → Except Fault Value
  | .scalar scalar => scalar.value
  | .array items =>
    if depth ≤ 1 then .error .malformed else .array <$> items.values (depth - 1)
  | .object members =>
    if depth ≤ 1 then .error .malformed else .object <$> members.values (depth - 1) []

def Items.values (depth : Nat) : Items → Except Fault (List Value)
  | .ends .closed => .ok []
  | .ends (.broken _ found) => .error (faultAt found)
  | .item node rest => do
    let value ← node.value depth
    return value :: (← rest.values depth)

/-- Members of any kind, put in among some by their keys. A later member replaces an earlier one. -/
def Members.values (depth : Nat) : Members → List (String × Value) →
    Except Fault (List (String × Value))
  | .ends .closed, members => .ok members
  | .ends (.broken (.afterKey key) found), _ | .ends (.broken (.afterColon key) found), _ => do
    let _ ← key.read
    throw (faultAt found)
  | .ends (.broken _ found), _ => .error (faultAt found)
  | .member key node rest, members => do
    let name ← key.read
    let value ← node.value depth
    rest.values depth (insertMember name value members)

end

/-- The members of an object, in ascending order of their keys. -/
def Reader.members : Reader (List (String × Value))
  | .object members => members.values (depthLimit - 1) []
  | node => wrongKind node

end Polyfill.Json
