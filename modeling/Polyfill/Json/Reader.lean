import Polyfill.Json.Node
import Polyfill.Json.Value

/-!
# Readers

A reader makes a value of some kind from a node. It goes through the node in the order of the text and
stops at the first fault, be it one of the text or one of the kind.

A name out of a list can be written as a text, or as an object with that name as its only key and null
as the value.
-/

namespace Polyfill.Json

abbrev Reader (α : Type) := Node → Except Fault α

def Scalar.value : Scalar → Except Fault Value
  | .null => .ok .null
  | .bool value => .ok (.bool value)
  | .number numeral => .number <$> numeral.value
  | .text literal => .text <$> literal.read
  | .brokenWord fault | .brokenNumeral fault => .error fault

/-- Read a document: its value, and nothing after it. -/
def Document.read {α : Type} (reader : Reader α) : Document → Except Fault α
  | .missing found => .error (faultAt found)
  | .value node trailing => do
    let value ← reader node
    if trailing then throw .malformed
    return value

def read {α : Type} (reader : Reader α) (text : String) : Except Fault α :=
  (Document.ofText text).read reader

namespace Reader

/-- A value of the wrong kind; a scalar shows its own fault first. -/
def wrongKind {α : Type} : Reader α
  | .scalar scalar => do
    let _ ← scalar.value
    throw .mismatched
  | _ => .error .mismatched

def bool : Reader Bool
  | .scalar (.bool value) => .ok value
  | node => wrongKind node

def text : Reader String
  | .scalar (.text literal) => literal.read
  | node => wrongKind node

/-- A natural number below a limit. -/
def natural (limit : Nat) : Reader Nat
  | .scalar (.number numeral) => do
    match ← numeral.value with
    | .integer (.ofNat number) => if number < limit then return number else throw .mismatched
    | _ => throw .mismatched
  | node => wrongKind node

def items {α : Type} (reader : Reader α) : Items → Except Fault (List α)
  | .ends .closed => .ok []
  | .ends (.broken _ found) => .error (faultAt found)
  | .item node rest => do
    let value ← reader node
    return value :: (← items reader rest)

def list {α : Type} (reader : Reader α) : Reader (List α)
  | .array values => items reader values
  | node => wrongKind node

/-! ## Names -/

def named {α : Type} (ofName? : String → Option α) (literal : Literal) : Except Fault α := do
  match ofName? (← literal.read) with
  | some value => return value
  | none => throw .mismatched

/-- A null, and nothing else. -/
def null : Reader Unit
  | .scalar .null => .ok ()
  | node => wrongKind node

/-- The end of an object that holds one name; a comma is out of place there already. -/
def endOfName : Members → Except Fault Unit
  | .ends .closed => .ok ()
  | .ends (.broken .afterValue found) => .error (faultAt found)
  | _ => .error .malformed

/-- A name out of a list. -/
def name {α : Type} (ofName? : String → Option α) : Reader α
  | .scalar (.text literal) => named ofName? literal
  | .object (.member key node rest) => do
    let value ← named ofName? key
    null node
    endOfName rest
    return value
  | .object (.ends (.broken .start found)) => .error (faultAt found)
  | .object (.ends (.broken (.afterKey key) found))
  | .object (.ends (.broken (.afterColon key) found)) => do
    let _ ← named ofName? key
    throw (faultAt found)
  | _ => .error .malformed

end Reader

end Polyfill.Json
