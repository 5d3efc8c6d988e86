import Polyfill.Text.Character
import Polyfill.Text.HiddenTable

/-!
# Quoted texts

Messages quote the texts they complain about. Between the quotes every character can be read off: line
ends and tabs, the quote and the backslash are written with a backslash, and whatever a reader could
not see or tell apart is written by its number.
-/

namespace Polyfill.Text

/-- A character without a form of its own. -/
def isHidden (c : Char) : Bool :=
  if c.toNat < 0x80 then c.toNat < 0x20 || c.toNat == 0x7f else inRows hiddenRows c

def hexadecimal (number : Nat) : List Char :=
  Nat.toDigits 16 number

/-- A character as it is written between quotes. -/
def quotedChar (c : Char) : List Char :=
  if c == '"' || c == '\\' then ['\\', c]
  else if c == '\n' then ['\\', 'n']
  else if c == '\r' then ['\\', 'r']
  else if c == '\t' then ['\\', 't']
  else if c == '\x00' then ['\\', '0']
  else if isHidden c then ['\\', 'u', '{'] ++ hexadecimal c.toNat ++ ['}']
  else [c]

def quote (text : String) : String :=
  String.ofList (['"'] ++ text.toList.flatMap quotedChar ++ ['"'])

/-- A list of texts, each between quotes, in square brackets. -/
def quoteList (texts : List String) : String :=
  "[" ++ String.intercalate ", " (texts.map quote) ++ "]"

end Polyfill.Text
