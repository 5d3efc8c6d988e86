import Polyfill.Json.Reader

/-!
# Kinds

A kind of values is known by how they are written and how they are read. Records are of a kind that is
given by their fields. A record is written as an object. It is read from an object with its fields in
any order and others between them, or from an array of its fields in the order of their declaration.
-/

namespace Polyfill.Json

/-- How values of a type are exchanged. -/
structure Kind (α : Type) where
  value : α → Value
  reader : Reader α

namespace Kind

variable {α : Type}

/-- A value in the form in which people read it. -/
def print (kind : Kind α) (value : α) : String :=
  (kind.value value).pretty

/-- Read a value from a text that holds nothing else. -/
def parse (kind : Kind α) (text : String) : Except Fault α :=
  read kind.reader text

def bool : Kind Bool :=
  ⟨.bool, Reader.bool⟩

def text : Kind String :=
  ⟨.text, Reader.text⟩

/-- Natural numbers below a limit. -/
def natural (limit : Nat) : Kind Nat :=
  ⟨.natural, Reader.natural limit⟩

def list (kind : Kind α) : Kind (List α) :=
  ⟨fun values => .array (values.map kind.value), Reader.list kind.reader⟩

/-- Values that are known by their names. -/
def named (name : α → String) (ofName? : String → Option α) : Kind α :=
  ⟨fun value => .text (name value), Reader.name ofName?⟩

end Kind

structure Field (α : Type) where
  name : String
  /-- Whether a record without the field is refused. -/
  required : Bool
  /-- The field as it is written. -/
  get : α → Value
  /-- Read the field and set it. -/
  put : Node → α → Except Fault α

def Field.of {α β : Type} (name : String) (required : Bool) (kind : Kind β) (get : α → β)
    (set : α → β → α) : Field α where
  name := name
  required := required
  get := fun record => kind.value (get record)
  put := fun node record => do return set record (← kind.reader node)

structure Form (α : Type) where
  /-- The record before any field is read. -/
  blank : α
  /-- The fields, in the order of their declaration. -/
  fields : List (Field α)

namespace Form

variable {α : Type}

def field? (form : Form α) (name : String) : Option (Field α) :=
  form.fields.find? (·.name == name)

/-- Whether a record can do without the fields that were not seen. -/
def isFilled (form : Form α) (seen : List String) : Bool :=
  form.fields.all fun field => !field.required || seen.contains field.name

/-- A name that may come next. Fields of the record must not be repeated. -/
def readKey (form : Form α) (seen : List String) (key : Literal) :
    Except Fault (Option (Field α)) := do
  let name ← key.read
  match form.field? name with
  | none => return none
  | some field => if seen.contains name then throw .mismatched else return some field

/-- Read the members of an object, from a record with some fields read already. -/
def readMembers (form : Form α) (seen : List String) (record : α) : Members → Except Fault α
  | .ends .closed => if form.isFilled seen then .ok record else .error .mismatched
  | .ends (.broken (.afterKey key) found) | .ends (.broken (.afterColon key) found) => do
    let _ ← form.readKey seen key
    throw (faultAt found)
  | .ends (.broken _ found) => .error (faultAt found)
  | .member key node rest => do
    match ← form.readKey seen key with
    | none =>
      node.skip
      readMembers form seen record rest
    | some field => readMembers form (field.name :: seen) (← field.put node record) rest

/-- Read the values of an array as fields in order. A comma after the last field is out of place. -/
def readItems (record : α) : List (Field α) → Items → Except Fault α
  | field :: fields, .item node rest => do readItems (← field.put node record) fields rest
  | fields, .ends .closed => if fields.all (!·.required) then .ok record else .error .mismatched
  | [], .item _ _ | [], .ends (.broken .afterComma _) => .error .malformed
  | _, .ends (.broken _ found) => .error (faultAt found)

def reader (form : Form α) : Reader α
  | .object members => form.readMembers [] form.blank members
  | .array items => readItems form.blank form.fields items
  | node => Reader.wrongKind node

/-- The fields of a record as members of an object. -/
def members (form : Form α) (record : α) : List (String × Value) :=
  form.fields.map fun field => (field.name, field.get record)

def kind (form : Form α) : Kind α :=
  ⟨fun record => .object (form.members record), form.reader⟩

end Form

end Polyfill.Json
