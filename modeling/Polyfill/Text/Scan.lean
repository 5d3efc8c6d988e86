import Polyfill.Text.Character

/-!
# Scanning a text

A scan walks a text once, from the left. At each place it asks a pattern whether an occurrence starts
there; occurrences are taken leftmost first and never overlap. The patterns of this library only look
at the character before a place and at the text that follows it.
-/

namespace Polyfill.Text

/--
A pattern answers, for the character before a place (`none` at the start of the text) and the text
from that place on, how many characters the occurrence starting there has, if one starts there.
-/
abbrev Pattern := Option Char → List Char → Option Nat

/--
Change the occurrences in what is left of a text. The number counts the characters still to be
passed over because they belong to the occurrence changed last.
-/
def mapOccurrencesFrom (pattern : Pattern) (write : List Char → List Char) :
    Nat → Option Char → List Char → List Char
  | _, _, [] => []
  | inside + 1, _, c :: rest => mapOccurrencesFrom pattern write inside (some c) rest
  | 0, before, c :: rest =>
    match pattern before (c :: rest) with
    | some (more + 1) =>
      write ((c :: rest).take (more + 1)) ++ mapOccurrencesFrom pattern write more (some c) rest
    | _ => c :: mapOccurrencesFrom pattern write 0 (some c) rest

/-- Change every occurrence of a pattern, leftmost first; what is written is not scanned again. -/
def mapOccurrences (pattern : Pattern) (write : List Char → List Char) (text : List Char) :
    List Char :=
  mapOccurrencesFrom pattern write 0 none text

def replaceAll (pattern : Pattern) (replacement : List Char) (text : List Char) : List Char :=
  mapOccurrences pattern (fun _ => replacement) text

def deleteAll (pattern : Pattern) (text : List Char) : List Char :=
  replaceAll pattern [] text

/-- Whether some occurrence of a pattern starts in what is left of a text. -/
def occursFrom (pattern : Pattern) : Option Char → List Char → Bool
  | _, [] => false
  | before, c :: rest => (pattern before (c :: rest)).isSome || occursFrom pattern (some c) rest

def occurs (pattern : Pattern) (text : List Char) : Bool :=
  occursFrom pattern none text

/-- Whether a text holds another one as a block. -/
def holds (block : List Char) : List Char → Bool
  | [] => block.isEmpty
  | c :: rest => block.isPrefixOf (c :: rest) || holds block rest

/-- Whether a text goes on with a character of a class. -/
def startsWith (cls : Char → Bool) (text : List Char) : Bool :=
  text.head?.any cls

/-- The text after a leading block, if the text starts with it. -/
def after? (block text : List Char) : Option (List Char) :=
  if block.isPrefixOf text then some (text.drop block.length) else none

/-- A place starts a line if nothing or a line feed stands before it. -/
def startsLine (before : Option Char) : Bool :=
  before.all (· == '\n')

/--
The first line of a text about which a reader has an answer: how many characters stand before it, and
the answer. The reader is given the whole text from the start of the line on.
-/
def firstLineFrom? {α : Type} (read : List Char → Option α) :
    Option Char → List Char → Option (Nat × α)
  | before, [] => if startsLine before then (read []).map (0, ·) else none
  | before, c :: rest =>
    match if startsLine before then read (c :: rest) else none with
    | some answer => some (0, answer)
    | none => (firstLineFrom? read (some c) rest).map fun found => (found.1 + 1, found.2)

/-- The first line of a text about which a reader has an answer. -/
def firstLine? {α : Type} (read : List Char → Option α) (text : List Char) : Option (Nat × α) :=
  firstLineFrom? read none text

/-- A word stands alone: neither the character before it nor the one after it belongs to a word. -/
def wholeWord (word : List Char) : Pattern := fun before text =>
  if word.isPrefixOf text && before.all (!isWord ·) && !startsWith isWord (text.drop word.length)
  then some word.length else none

/-- The number of blanks a text starts with. -/
def blanks (text : List Char) : Nat :=
  (text.takeWhile isBlank).length

/-- The length of the line end that a text starts with; the end of the text ends its last line. -/
def lineEnd? : List Char → Option Nat
  | [] => some 0
  | '\n' :: _ => some 1
  | '\r' :: '\n' :: _ => some 2
  | _ => none

end Polyfill.Text
