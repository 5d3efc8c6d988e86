import Polyfill.Text.Character

/-!
# Trimming and splitting

Option values are lists of tokens: split at separators, trimmed of white space, empty tokens dropped.
-/

namespace Polyfill.Text

/-- The text without the white space at its start and its end. -/
def trimmed (text : List Char) : List Char :=
  ((text.dropWhile isSpace).reverse.dropWhile isSpace).reverse

def trim (text : String) : String :=
  String.ofList (trimmed text.toList)

/-- The pieces between the separators of a list; `n` separators make `n + 1` pieces. -/
def pieces {α : Type} (isSeparator : α → Bool) : List α → List (List α)
  | [] => [[]]
  | c :: rest =>
    match isSeparator c, pieces isSeparator rest with
    | true, found => [] :: found
    | false, [] => [[c]]
    | false, first :: others => (c :: first) :: others

/-- A comma and a semicolon separate the tokens of a list. -/
def isListSeparator (c : Char) : Bool :=
  c == ',' || c == ';'

/-- The tokens of a list value, in order and with repetitions. -/
def tokens (value : String) : List String :=
  ((pieces isListSeparator value.toList).map trimmed).filter (!·.isEmpty) |>.map String.ofList

end Polyfill.Text
