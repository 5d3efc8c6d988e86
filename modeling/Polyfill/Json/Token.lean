import Polyfill.Json.Literal
import Polyfill.Json.Numeral

/-!
# Tokens

A JSON text is a sequence of marks and scalars with white space between them. A scalar that is broken
stays in the sequence together with its fault: whether and when the fault counts is for the reader.
-/

namespace Polyfill.Json

/-- A value that holds no others, as it is written. -/
inductive Scalar where
  | null
  | bool (value : Bool)
  | number (numeral : Numeral)
  | text (literal : Literal)
  /-- The start of a word that does not go on. -/
  | brokenWord (fault : Fault)
  /-- The start of a numeral that does not go on. -/
  | brokenNumeral (fault : Fault)
  deriving DecidableEq, Repr

/-- Pass over a scalar. A broken numeral is malformed for one who passes over it, wherever it breaks. -/
def Scalar.skip : Scalar → Except Fault Unit
  | .null | .bool _ | .number _ => .ok ()
  | .text literal => literal.skip
  | .brokenWord fault => .error fault
  | .brokenNumeral _ => .error .malformed

/-- A mark or a scalar. -/
inductive Token where
  | openArray
  | closeArray
  | openObject
  | closeObject
  | comma
  | colon
  | scalar (scalar : Scalar)
  /-- A character that starts nothing. -/
  | junk
  deriving DecidableEq, Repr

namespace Token

open Text

/-- The white space between tokens. -/
def isGap (c : Char) : Bool :=
  c == ' ' || c == '\n' || c == '\t' || c == '\r'

/-- Match the letters of a word against a text. -/
def matchWord : List Char → List Char → Except Fault Unit
  | [], _ => .ok ()
  | _ :: _, [] => .error .truncated
  | letter :: letters, c :: rest =>
    if letter == c then matchWord letters rest else .error .malformed

/-- The scalar that a word stands for, if a text goes on with the letters of the word. -/
def scanWord (letters : List Char) (scalar : Scalar) (rest : List Char) : Token × Nat :=
  match matchWord letters rest with
  | .ok () => (.scalar scalar, letters.length)
  | .error fault => (.scalar (.brokenWord fault), 0)

/--
The scalar of a numeral that starts with a character. No reader gets past a broken one, so that it
takes all that follows with it.
-/
def scanNumeral (c : Char) (rest : List Char) : Token × Nat :=
  match Numeral.scan (c :: rest) with
  | .ok (numeral, length) => (.scalar (.number numeral), length - 1)
  | .error fault => (.scalar (.brokenNumeral fault), rest.length)

/-- The token that starts with a character, and how many characters after it belong to it. -/
def scanToken (c : Char) (rest : List Char) : Token × Nat :=
  match c with
  | '[' => (.openArray, 0)
  | ']' => (.closeArray, 0)
  | '{' => (.openObject, 0)
  | '}' => (.closeObject, 0)
  | ',' => (.comma, 0)
  | ':' => (.colon, 0)
  | 'n' => scanWord ['u', 'l', 'l'] .null rest
  | 't' => scanWord ['r', 'u', 'e'] (.bool true) rest
  | 'f' => scanWord ['a', 'l', 's', 'e'] (.bool false) rest
  | '"' =>
    let (literal, length) := Literal.scan rest
    (.scalar (.text literal), length)
  | c => if c == '-' || c.isDigit then scanNumeral c rest else (.junk, 0)

/-- The tokens of what is left of a text, after the characters that belong to the last one. -/
def scanFrom : Nat → List Char → List Token
  | _, [] => []
  | inside + 1, _ :: rest => scanFrom inside rest
  | 0, c :: rest =>
    if isGap c then scanFrom 0 rest
    else
      let (token, more) := scanToken c rest
      token :: scanFrom more rest

def scan (text : String) : List Token :=
  scanFrom 0 text.toList

end Token

end Polyfill.Json
