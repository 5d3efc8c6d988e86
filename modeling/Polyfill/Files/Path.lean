import Polyfill.Text.Trim
import Polyfill.Text.Utf8

/-!
# Paths

A path leads from the working directory to a file or a directory, by names between slashes. Paths are
kept as they are written, because messages repeat them; they are taken apart only to be followed.
-/

namespace Polyfill

open Text

/-- Why a file or directory cannot be used. -/
inductive FileFault where
  | notFound
  | notADirectory
  | isADirectory
  | alreadyExists
  | nameTooLong
  | nulInPath
  | notText
  /-- A reason that only the system knows. -/
  | other (reason : String)
  deriving DecidableEq, Repr

def FileFault.message : FileFault → String
  | notFound => "No such file or directory (os error 2)"
  | notADirectory => "Not a directory (os error 20)"
  | isADirectory => "Is a directory (os error 21)"
  | alreadyExists => "File exists (os error 17)"
  | nameTooLong => "File name too long (os error 36)"
  | nulInPath => "file name contained an unexpected NUL byte"
  | notText => "stream did not contain valid UTF-8"
  | other reason => reason

namespace Path

def slash : UInt8 :=
  0x2f

/-- A name in a directory, or the whole path of one. -/
def join (directory name : String) : String :=
  if directory.isEmpty || directory.endsWith "/" || name.startsWith "/" then
    (if name.startsWith "/" then "" else directory) ++ name
  else directory ++ "/" ++ name

/-- The name that stays where it is. -/
def here : Octets :=
  [0x2e]

/-- The name that leads one directory up. -/
def up : Octets :=
  [0x2e, 0x2e]

/-- The name, which no directory can hold, that absolute paths start with. -/
def root : Octets :=
  [slash]

/-- A name that leads to where one is. -/
def isIdle (name : Octets) : Bool :=
  name.isEmpty || name == here

/-- The names that lead to the directory that the last name of a path stands in. -/
def parent (names : List Octets) : List Octets :=
  ((names.reverse.dropWhile isIdle).tail.dropWhile isIdle).reverse

def maxName : Nat :=
  255

def maxPath : Nat :=
  4095

/-- How many octets a name can have that follows the path of a directory. -/
def room (directory : String) : Nat :=
  maxPath - (octets (join directory "")).length

/-- Whether nothing stands above a path: it is empty, or it names the root and then stays there. -/
def isTop (path : Octets) : Bool :=
  path.isEmpty || path.head? == some slash && (pieces (· == slash) path).all isIdle

/-- The names of a path. Slashes in a row stand around empty names. -/
def components (path : Octets) : Except FileFault (List Octets) :=
  if path.contains 0 then .error .nulInPath
  else if path.isEmpty then .error .notFound
  else if maxPath < path.length then .error .nameTooLong
  else
    let names := pieces (· == slash) path
    .ok (if path.head? == some slash then root :: names.tail else names)

end Path

end Polyfill
