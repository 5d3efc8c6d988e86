import Polyfill.Json.Literal
import Polyfill.Json.Numeral

/-!
# Values

A JSON value that is complete and well formed, and the ways to write it. The members of an object stand
in the order in which they are to be written.
-/

namespace Polyfill.Json

inductive Value where
  | null
  | bool (value : Bool)
  | number (value : Number)
  | text (value : String)
  | array (items : List Value)
  | object (members : List (String × Value))

/-- How a written value is spread out. -/
structure Layout where
  /-- What stands in front of each part of a container, by depth. -/
  line : Nat → List Char
  /-- What stands between a key and its value. -/
  colon : List Char

namespace Layout

/-- Everything on one line, without blanks. -/
def compact : Layout where
  line := fun _ => []
  colon := [':']

/-- Every part of a container on a line of its own, two spaces further in than the container. -/
def spread : Layout where
  line := fun depth => '\n' :: List.replicate (2 * depth) ' '
  colon := [':', ' ']

end Layout

namespace Value

def natural (number : Nat) : Value :=
  .number (.integer number)

def texts (list : List String) : Value :=
  .array (list.map .text)

mutual

/-- A value as it is written at a depth. -/
def write (layout : Layout) (depth : Nat) : Value → List Char
  | .null => ['n', 'u', 'l', 'l']
  | .bool true => ['t', 'r', 'u', 'e']
  | .bool false => ['f', 'a', 'l', 's', 'e']
  | .number value => value.text
  | .text value => Literal.write value
  | .array [] => ['[', ']']
  | .array (first :: rest) =>
    '[' :: layout.line (depth + 1) ++ write layout (depth + 1) first ++
      writeItems layout (depth + 1) rest ++ layout.line depth ++ [']']
  | .object [] => ['{', '}']
  | .object ((key, first) :: rest) =>
    '{' :: layout.line (depth + 1) ++ Literal.write key ++ layout.colon ++
      write layout (depth + 1) first ++ writeMembers layout (depth + 1) rest ++
      layout.line depth ++ ['}']

/-- The values of an array after its first one. -/
def writeItems (layout : Layout) (depth : Nat) : List Value → List Char
  | [] => []
  | item :: rest =>
    ',' :: layout.line depth ++ write layout depth item ++ writeItems layout depth rest

/-- The members of an object after its first one. -/
def writeMembers (layout : Layout) (depth : Nat) : List (String × Value) → List Char
  | [] => []
  | (key, value) :: rest =>
    ',' :: layout.line depth ++ Literal.write key ++ layout.colon ++ write layout depth value ++
      writeMembers layout depth rest

end

def compact (value : Value) : String :=
  String.ofList (value.write .compact 0)

def pretty (value : Value) : String :=
  String.ofList (value.write .spread 0)

end Value

end Polyfill.Json
