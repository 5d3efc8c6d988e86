import Polyfill.Json.Fault

/-!
# String literals

A string literal is scanned into pieces: characters, and 16-bit units that are written by number. What
the pieces say is settled only when the literal is read: units of the surrogate ranges have to come in
pairs, a high one first. A literal that nobody reads only has to be well formed.
-/

namespace Polyfill.Json

inductive Piece where
  | char (c : Char)
  | unit (code : Nat)
  deriving DecidableEq, Repr

/-- A string literal as it is written. -/
structure Literal where
  pieces : List Piece
  /-- Why the literal does not end in a quotation mark, if it does not. -/
  ending : Option Fault
  deriving DecidableEq, Repr

namespace Literal

def hexDigit? (c : Char) : Option Nat :=
  if c.isDigit then some (c.toNat - '0'.toNat)
  else if 'a' ≤ c && c ≤ 'f' then some (c.toNat - 'a'.toNat + 10)
  else if 'A' ≤ c && c ≤ 'F' then some (c.toNat - 'A'.toNat + 10)
  else none

def hexValue? (digits : List Char) : Option Nat :=
  digits.foldl (fun value c => return 16 * (← value) + (← hexDigit? c)) (some 0)

def octetCount (text : List Char) : Nat :=
  text.foldl (fun count c => count + c.utf8Size) 0

/-- The unit that four digits stand for. What is cut short of four octets counts as cut short. -/
def scanUnit (text : List Char) : Except Fault Nat :=
  match text.take 4 with
  | [a, b, c, d] =>
    match hexValue? [a, b, c, d] with
    | some code => .ok code
    | none => .error .malformed
  | few => if octetCount few < 4 then .error .truncated else .error .malformed

/-- The character that a letter stands for after a backslash. -/
def escape? : Char → Option Char
  | '"' => some '"'
  | '\\' => some '\\'
  | '/' => some '/'
  | 'b' => some '\x08'
  | 'f' => some '\x0c'
  | 'n' => some '\n'
  | 'r' => some '\r'
  | 't' => some '\t'
  | _ => none

/-- The piece that starts with a character, and how many characters after it belong to it. -/
def scanPiece (c : Char) (rest : List Char) : Except Fault (Piece × Nat) :=
  if c == '\\' then
    match rest with
    | [] => .error .truncated
    | 'u' :: digits => do return (.unit (← scanUnit digits), 5)
    | letter :: _ =>
      match escape? letter with
      | some named => .ok (.char named, 1)
      | none => .error .malformed
  else if c.toNat < 0x20 then .error .malformed
  else .ok (.char c, 0)

/--
Scan what follows the opening quotation mark: the literal, and the number of characters up to and with
the closing one. The first argument counts the characters that belong to the piece scanned last.
-/
def scanFrom : Nat → List Char → Literal × Nat
  | _, [] => (⟨[], some .truncated⟩, 0)
  | inside + 1, _ :: rest =>
    let (literal, length) := scanFrom inside rest
    (literal, length + 1)
  | 0, c :: rest =>
    if c == '"' then (⟨[], none⟩, 1)
    else
      match scanPiece c rest with
      | .error fault => (⟨[], some fault⟩, 1)
      | .ok (piece, more) =>
        let (literal, length) := scanFrom more rest
        (⟨piece :: literal.pieces, literal.ending⟩, length + 1)

def scan (text : List Char) : Literal × Nat :=
  scanFrom 0 text

/-- The first unit of a pair. -/
def isHigh (code : Nat) : Bool :=
  0xd800 ≤ code && code < 0xdc00

/-- The second unit of a pair. -/
def isLow (code : Nat) : Bool :=
  0xdc00 ≤ code && code < 0xe000

def pairChar (high low : Nat) : Char :=
  Char.ofNat (0x10000 + (high - 0xd800) * 0x400 + (low - 0xdc00))

/-- The characters of pieces, up to the ending. -/
def readPieces (ending : Option Fault) : List Piece → Except Fault (List Char)
  | [] =>
    match ending with
    | none => .ok []
    | some fault => .error fault
  | .char c :: rest => do return c :: (← readPieces ending rest)
  | .unit code :: rest =>
    if isLow code then .error .malformed
    else if isHigh code then
      match rest with
      | [] => .error (ending.getD .malformed)
      | .char _ :: _ => .error .malformed
      | .unit low :: rest =>
        if isLow low then do return pairChar code low :: (← readPieces ending rest)
        else .error .malformed
    else do return Char.ofNat code :: (← readPieces ending rest)

/-- What a literal says. -/
def read (literal : Literal) : Except Fault String :=
  String.ofList <$> readPieces literal.ending literal.pieces

/-- Pass over a literal. -/
def skip (literal : Literal) : Except Fault Unit :=
  match literal.ending with
  | none => .ok ()
  | some fault => .error fault

def hexPair (number : Nat) : List Char :=
  [Nat.digitChar (number / 16), Nat.digitChar (number % 16)]

/-- A character as it is written inside a literal. -/
def writeChar (c : Char) : List Char :=
  match c with
  | '"' => ['\\', '"']
  | '\\' => ['\\', '\\']
  | '\x08' => ['\\', 'b']
  | '\x0c' => ['\\', 'f']
  | '\n' => ['\\', 'n']
  | '\r' => ['\\', 'r']
  | '\t' => ['\\', 't']
  | c => if c.toNat < 0x20 then ['\\', 'u', '0', '0'] ++ hexPair c.toNat else [c]

/-- The literal of a text, with its quotation marks. -/
def write (text : String) : List Char :=
  '"' :: text.toList.flatMap writeChar ++ ['"']

end Literal

end Polyfill.Json
