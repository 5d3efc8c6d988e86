/-!
# UTF-8

Files hold octets, and file names are octets, too. What is meant to be text has to be well-formed
UTF-8. Where octets only have to be shown, each longest start of a sequence that does not go on as it
has to is shown as one replacement character.
-/

namespace Polyfill.Text

abbrev Octets := List UInt8

def octets (text : String) : Octets :=
  text.toUTF8.data.toList

/-- The text of octets, if they are well formed. -/
def decode? (octets : Octets) : Option String :=
  String.fromUTF8? ⟨octets.toArray⟩

theorem decode?_octets (text : String) : decode? (octets text) = some text := by
  simp only [decode?, octets, Array.toArray_toList]
  exact dif_pos text.isValidUTF8

/-- The range that octets inside a sequence come from. -/
def tailRange : UInt8 × UInt8 :=
  (0x80, 0xbf)

/-- The ranges of the octets that have to follow a first one, if a sequence can start with it. -/
def followers? (first : UInt8) : Option (List (UInt8 × UInt8)) :=
  if first < 0x80 then some []
  else if first < 0xc2 then none
  else if first < 0xe0 then some [tailRange]
  else if first == 0xe0 then some [(0xa0, 0xbf), tailRange]
  else if first == 0xed then some [(0x80, 0x9f), tailRange]
  else if first < 0xf0 then some [tailRange, tailRange]
  else if first == 0xf0 then some [(0x90, 0xbf), tailRange, tailRange]
  else if first < 0xf4 then some [tailRange, tailRange, tailRange]
  else if first == 0xf4 then some [(0x80, 0x8f), tailRange, tailRange]
  else none

/-- How many octets lie in their ranges before the first one that does not. -/
def countMatching : List (UInt8 × UInt8) → Octets → Nat
  | (low, high) :: ranges, octet :: rest =>
    if low ≤ octet && octet ≤ high then countMatching ranges rest + 1 else 0
  | _, _ => 0

/-- What stands for octets that are no text. -/
def replacement : Char :=
  '\ufffd'

/-- The texts of octets, with a replacement for each broken sequence. -/
def decodeLossyFrom : Nat → Octets → List Char
  | _, [] => []
  | more + 1, _ :: rest => decodeLossyFrom more rest
  | 0, first :: rest =>
    match followers? first with
    | none => replacement :: decodeLossyFrom 0 rest
    | some ranges =>
      let more := countMatching ranges rest
      let shown :=
        if more == ranges.length then
          ((decode? (first :: rest.take more)).map String.toList).getD [replacement]
        else [replacement]
      shown ++ decodeLossyFrom more rest

/-- Octets as a text to be shown. -/
def decodeLossy (octets : Octets) : String :=
  String.ofList (decodeLossyFrom 0 octets)

end Polyfill.Text
