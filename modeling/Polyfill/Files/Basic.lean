import Std.Data.HashMap
import Polyfill.Files.Path

/-!
# Files

The files below a working directory: which are there, what they hold, and how they are read, listed and
written. A file or directory is known by its location, the names on the way to it. Paths can lead out
of the working directory; the directories above it and the root are there, and nothing else is known
of them.
-/

namespace Polyfill

open Text

/-- The names on the way from the working directory to a place, the last one first. -/
abbrev Location := List Octets

namespace Location

/-- The working directory, a directory above it, or the root. -/
def isOuter (location : Location) : Bool :=
  location == [Path.root] || location.all (· == Path.up)

/-- The directory above a place; the root stands above itself. -/
def above (location : Location) : Location :=
  if location == [Path.root] then location
  else if location.isOuter then Path.up :: location
  else location.tail

end Location

inductive Entry where
  | file (content : Octets)
  | directory
  deriving DecidableEq, Repr

/-- The files and directories below a working directory, by location. -/
structure Files where
  entries : Std.HashMap Location Entry := ∅

namespace Files

/-- What stands at a location; the outer directories are always there. -/
def get? (files : Files) (location : Location) : Option Entry :=
  if location.isOuter then some .directory else files.entries[location]?

def put (files : Files) (location : Location) (entry : Entry) : Files where
  entries := files.entries.insert location entry

/-- What stands directly in a directory, by name. -/
def children (files : Files) (location : Location) : List (Octets × Entry) :=
  files.entries.toList.filterMap fun (place, entry) =>
    match place with
    | [] => none
    | name :: parent => if parent == location then some (name, entry) else none

def enter (files : Files) (location : Location) (name : Octets) : Except FileFault Location :=
  match files.get? location with
  | none => .error .notFound
  | some (.file _) => .error .notADirectory
  | some .directory =>
    if name == Path.root then .ok [Path.root]
    else if Path.isIdle name then .ok location
    else if name == Path.up then .ok location.above
    else if Path.maxName < name.length then .error .nameTooLong
    else if (files.get? (name :: location)).isSome then .ok (name :: location)
    else .error .notFound

/-- Follow names from the working directory on. -/
def follow (files : Files) (names : List Octets) : Except FileFault Location :=
  names.foldlM files.enter []

def locate (files : Files) (path : String) : Except FileFault Location := do
  files.follow (← Path.components (octets path))

def read (files : Files) (path : String) : Except FileFault Octets := do
  match files.get? (← files.locate path) with
  | some (.file content) => return content
  | some .directory => throw .isADirectory
  | none => throw .notFound

def textOf (content : Octets) : Except FileFault String :=
  match decode? content with
  | some text => .ok text
  | none => .error .notText

def readText (files : Files) (path : String) : Except FileFault String := do
  textOf (← files.read path)

/--
What stands in a directory, if there is such a directory. A name that the path has no room for is
passed over: nothing can be done under it.
-/
def list? (files : Files) (path : String) : Option (List (Octets × Entry)) :=
  match files.locate path with
  | .ok location =>
    if files.get? location == some .directory then
      some ((files.children location).filter fun (name, _) => name.length ≤ Path.room path)
    else none
  | .error _ => none

/--
Make the directories that names lead to, one after another, from a directory on. Those that are there
already are entered.
-/
def makeEach (files : Files) (location : Location) : List Octets → Except FileFault Unit × Files
  | [] => (.ok (), files)
  | name :: rest =>
    match files.enter location name with
    | .ok place =>
      if files.get? place == some .directory then files.makeEach place rest
      else (.error .alreadyExists, files)
    | .error .notFound =>
      (files.put (name :: location) .directory).makeEach (name :: location) rest
    | .error fault => (.error fault, files)

/--
Make the directory that names lead to from a directory on, and those before it. The names are followed to
the first one that is missing, or to the last one; what they lead to from there on is made.
-/
def makeFrom (files : Files) (location : Location) : List Octets → Except FileFault Unit × Files
  | name :: next :: rest =>
    match files.enter location name with
    | .ok place => files.makeFrom place (next :: rest)
    | .error .notFound => files.makeEach location (name :: next :: rest)
    | .error fault => (.error fault, files)
  | names => files.makeEach location names

/--
Make the directory that the names of a path lead to, and those before it. A directory under an idle name
is not made but looked for, once those before it are there; what was made of them stays.
-/
def makeAll (files : Files) (names : List Octets) : Except FileFault Unit × Files :=
  let names := (names.reverse.dropWhile List.isEmpty).reverse
  if names.getLast? == some Path.here then
    match files.follow names with
    | .error .notFound =>
      match files.makeFrom [] (Path.parent names) with
      | (.ok (), made) => ((made.follow names).map fun _ => (), made)
      | failed => failed
    | found => (found.map fun _ => (), files)
  else files.makeFrom [] names

/--
Make a directory and those on the way to it. Where nothing stands above the path, nothing is to be made
and the path need not be followed.
-/
def makeDirectory (files : Files) (path : String) : Except FileFault Unit × Files :=
  if Path.isTop (octets path) then (.ok (), files)
  else
    match Path.components (octets path) with
    | .error fault => (.error fault, files)
    | .ok names => files.makeAll names

/-- The location of a file to be written: its directory is there, and it is no directory itself. -/
def locateNew (files : Files) (path : Octets) : Except FileFault Location := do
  let names ← Path.components path
  let directory ← files.follow names.dropLast
  let name := names.getLastD []
  if name.isEmpty || name == Path.here || name == Path.up then throw .isADirectory
  match files.enter directory name with
  | .error .notFound => return name :: directory
  | .error fault => throw fault
  | .ok location =>
    if files.get? location == some .directory then throw .isADirectory
    return location

/-- Write a file, in place of one that was there. -/
def write (files : Files) (path : String) (text : String) : Except FileFault Unit × Files :=
  match files.locateNew (octets path) with
  | .ok location => (.ok (), files.put location (.file (octets text)))
  | .error fault => (.error fault, files)

/-- The files of a directory listing, by name. -/
def plain (listing : List (Octets × Entry)) : List (Octets × Octets) :=
  listing.filterMap fun (name, entry) =>
    match entry with
    | .file content => some (name, content)
    | .directory => none

/-- Whether one name is not after another, by their octets. -/
def nameLe (a b : Octets) : Bool :=
  !List.lex b a (· < ·)

/-- The files of a directory listing in ascending order of their names. -/
def sorted (listing : List (Octets × Entry)) : List (Octets × Octets) :=
  (plain listing).mergeSort fun a b => nameLe a.1 b.1

theorem get?_put (files : Files) (location other : Location) (entry : Entry)
    (h : location.isOuter = false) :
    (files.put location entry).get? other =
      if other = location then some entry else files.get? other := by
  by_cases same : other = location
  · simp [get?, put, same, h]
  · simp [get?, put, Std.HashMap.getElem?_insert, same, Ne.symm same]

end Files

end Polyfill
