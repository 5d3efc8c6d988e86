import Polyfill.Json.Token

/-!
# Nodes

The tokens of a JSON text form a tree, even if the text breaks off or goes wrong: a container that does
not come to its end says where it broke and what was found there instead. Nothing is refused here. A
reader goes through the tree in the order of the text and refuses what it comes across, so a fault
behind the one that decides never shows.
-/

namespace Polyfill.Json

/-- A place inside a container. -/
inductive Place where
  /-- Directly after the opening mark. -/
  | start
  | afterValue
  | afterComma
  | afterKey (key : Literal)
  | afterColon (key : Literal)
  deriving DecidableEq, Repr

/-- How a container ends. -/
inductive Ending where
  | closed
  /-- At a place, a token was found that cannot stand there, or nothing. -/
  | broken (place : Place) (found : Option Token)
  deriving DecidableEq, Repr

mutual

/-- A value as it is written. -/
inductive Node where
  | scalar (scalar : Scalar)
  | array (items : Items)
  | object (members : Members)

/-- The values of an array, up to its end. -/
inductive Items where
  | ends (ending : Ending)
  | item (node : Node) (rest : Items)

/-- The keys and values of an object, up to its end. -/
inductive Members where
  | ends (ending : Ending)
  | member (key : Literal) (node : Node) (rest : Members)

end

/-- A JSON text: a value, and whether something stands after it; or no value but something else. -/
inductive Document where
  | missing (found : Option Token)
  | value (node : Node) (trailing : Bool)

/-! ## Building the tree -/

/-- A container in the making; what it holds so far comes last first. -/
inductive Level where
  | array (items : List Node) (place : Place)
  | object (members : List (Literal × Node)) (place : Place)

/-- A container that waits for a value to be put into it. -/
inductive Frame where
  | array (items : List Node)
  | object (members : List (Literal × Node)) (key : Literal)

/-- Put the awaited value into a container. -/
def Frame.put (node : Node) : Frame → Level
  | .array items => .array (node :: items) .afterValue
  | .object members key => .object ((key, node) :: members) .afterValue

namespace Level

/-- The place that a container in the making has come to. -/
def place : Level → Place
  | .array _ place => place
  | .object _ place => place

/-- The container that a level comes to. -/
def finish (ending : Ending) : Level → Node
  | .array items _ => .array (items.foldl (fun rest node => .item node rest) (.ends ending))
  | .object members _ =>
    .object (members.foldl (fun rest (key, node) => .member key node rest) (.ends ending))

/-- A level that breaks where it stands. -/
def breakOff (found : Option Token) (level : Level) : Node :=
  level.finish (.broken level.place found)

/-- The outermost container, if all open ones break where the innermost stands. -/
def breakAll (found : Option Token) : Level → List Frame → Node
  | level, [] => level.breakOff found
  | level, frame :: outer => breakAll found (frame.put (level.breakOff found)) outer

end Level

/-- How far a tree has been built. -/
inductive Growth where
  | empty
  /-- A container, in the containers around it. -/
  | inside (level : Level) (outer : List Frame)
  /-- The value is complete. -/
  | complete (node : Node)
  /-- What follows does not matter any more. -/
  | settled (document : Document)

namespace Growth

/-- A container is closed. -/
def close (level : Level) : List Frame → Growth
  | [] => .complete (level.finish .closed)
  | frame :: outer => .inside (frame.put (level.finish .closed)) outer

/-- A token where a value is awaited. -/
def await (level : Level) (frame : Frame) (outer : List Frame) : Token → Growth
  | .scalar scalar => .inside (frame.put (.scalar scalar)) outer
  | .openArray => .inside (.array [] .start) (frame :: outer)
  | .openObject => .inside (.object [] .start) (frame :: outer)
  | token => .settled (.value (level.breakAll (some token) outer) false)

/-- A token inside a container. -/
def enter (level : Level) (outer : List Frame) (token : Token) : Growth :=
  match level, token with
  | .array items .afterValue, .comma => .inside (.array items .afterComma) outer
  | .array _ .afterValue, .closeArray | .array _ .start, .closeArray => close level outer
  | .array items .start, token | .array items .afterComma, token =>
    await level (.array items) outer token
  | .object members .afterValue, .comma => .inside (.object members .afterComma) outer
  | .object _ .afterValue, .closeObject | .object _ .start, .closeObject => close level outer
  | .object members .start, .scalar (.text key)
  | .object members .afterComma, .scalar (.text key) =>
    .inside (.object members (.afterKey key)) outer
  | .object members (.afterKey key), .colon => .inside (.object members (.afterColon key)) outer
  | .object members (.afterColon key), token => await level (.object members key) outer token
  | _, token => .settled (.value (level.breakAll (some token) outer) false)

/-- One more token. -/
def step : Growth → Token → Growth
  | .empty, .scalar scalar => .complete (.scalar scalar)
  | .empty, .openArray => .inside (.array [] .start) []
  | .empty, .openObject => .inside (.object [] .start) []
  | .empty, token => .settled (.missing (some token))
  | .inside level outer, token => enter level outer token
  | .complete node, _ => .settled (.value node true)
  | .settled document, _ => .settled document

/-- The tree, if there are no more tokens. -/
def document : Growth → Document
  | .empty => .missing none
  | .inside level outer => .value (level.breakAll none outer) false
  | .complete node => .value node false
  | .settled document => document

end Growth

def Document.ofTokens (tokens : List Token) : Document :=
  (tokens.foldl Growth.step .empty).document

def Document.ofText (text : String) : Document :=
  .ofTokens (Token.scan text)

/-! ## Passing over a value -/

/-- What is wrong where something cannot stand: that it stands there, or that nothing does. -/
def faultAt : Option Token → Fault
  | none => .truncated
  | some _ => .malformed

def Ending.skip : Ending → Except Fault Unit
  | .closed => .ok ()
  | .broken (.afterKey key) found | .broken (.afterColon key) found => do
    key.skip
    throw (faultAt found)
  | .broken _ found => .error (faultAt found)

mutual

/-- Pass over a value, which only has to be well formed. -/
def Node.skip : Node → Except Fault Unit
  | .scalar scalar => scalar.skip
  | .array items => items.skip
  | .object members => members.skip

def Items.skip : Items → Except Fault Unit
  | .ends ending => ending.skip
  | .item node rest => do
    node.skip
    rest.skip

def Members.skip : Members → Except Fault Unit
  | .ends ending => ending.skip
  | .member key node rest => do
    key.skip
    node.skip
    rest.skip

end

end Polyfill.Json
