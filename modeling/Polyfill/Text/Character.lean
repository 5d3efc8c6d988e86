import Polyfill.Text.WordTable
import Polyfill.Text.DigitTable

/-!
# Classes of characters

The classes that templates and options are read by. Blanks separate words inside a line; spaces are
trimmed from option values; words are what keywords and identifiers are made of.
-/

namespace Polyfill.Text

def inRanges (ranges : List (Nat × Nat)) (c : Char) : Bool :=
  ranges.any fun range => range.1 ≤ c.toNat && c.toNat ≤ range.2

/--
Whether a code point lies in one of many ranges, which stand in ascending rows. A row comes with its
last code point, so that the others can be passed over.
-/
def inRows (rows : List (Nat × List (Nat × Nat))) (c : Char) : Bool :=
  match rows.find? fun row => c.toNat ≤ row.1 with
  | some row => inRanges row.2 c
  | none => false

/-- A blank separates words without ending the line. -/
def isBlank (c : Char) : Bool :=
  c == ' ' || c == '\t'

/-- A word character is a letter, a mark, a decimal digit, a connector such as `_`, or a joiner. -/
def isWord (c : Char) : Bool :=
  if c.toNat < 0x80 then c.isAlphanum || c == '_' else inRows wordRows c

/-- A decimal digit of any script. -/
def isDecimalDigit (c : Char) : Bool :=
  if c.toNat < 0x80 then c.isDigit else inRanges digitRanges c

/-- The runs of white space of all scripts, line ends included. -/
def spaceRanges : List (Nat × Nat) :=
  [(0x9, 0xd), (0x20, 0x20), (0x85, 0x85), (0xa0, 0xa0), (0x1680, 0x1680), (0x2000, 0x200a),
    (0x2028, 0x2029), (0x202f, 0x202f), (0x205f, 0x205f), (0x3000, 0x3000)]

/-- White space is what trimming removes. -/
def isSpace (c : Char) : Bool :=
  inRanges spaceRanges c

theorem isWord_eq_false_of_isBlank {c : Char} (h : isBlank c = true) : isWord c = false := by
  have : c = ' ' ∨ c = '\t' := by simpa [isBlank] using h
  rcases this with rfl | rfl <;> decide

end Polyfill.Text
