import Polyfill.Command.Run

/-!
# The program

The command line, on the files of the machine.
-/

namespace Polyfill

def systemFault (error : IO.Error) : FileFault :=
  match error with
  | .noFileOrDirectory .. => .notFound
  | .alreadyExists .. => .alreadyExists
  | error => .other (toString error)

/-- The result of an operation, or the reason of the system. -/
def attempt {α : Type} (operation : IO α) : IO (Except FileFault α) := do
  try
    return .ok (← operation)
  catch error => return .error (systemFault error)

/-- What stands under a name in a directory of the machine, if it is a file or a directory. -/
def entryOfMachine? (entry : IO.FS.DirEntry) : IO (Option (Text.Octets × Entry)) := do
  let name := Text.octets entry.fileName
  match ← entry.path.metadata.toBaseIO with
  | .error _ => return none
  | .ok data =>
    match data.type with
    | .dir => return some (name, .directory)
    | .file => return some (name, .file (← IO.FS.readBinFile entry.path).data.toList)
    | _ => return none

def listMachine (path : String) : IO (Option (List (Text.Octets × Entry))) := do
  try
    let place : IO.FS.DirEntry := ⟨⟨path⟩, ""⟩
    let found ← place.root.readDir
    some <$> found.toList.filterMapM entryOfMachine?
  catch _ => return none

/-- Make a directory of the machine and those on the way to it, unless nothing stands above its path. -/
def makeMachine (path : String) : IO (Except FileFault Unit) := do
  if Path.isTop (Text.octets path) then return .ok ()
  else attempt (IO.FS.createDirAll path)

def FileAccess.ofMachine : FileAccess IO where
  readText := fun path => do
    match ← attempt (IO.FS.readBinFile path) with
    | .ok content => return Files.textOf content.data.toList
    | .error fault => return .error fault
  list? := listMachine
  makeDirectory := makeMachine
  write := fun path text => attempt (IO.FS.writeFile path text)

end Polyfill

def main (arguments : List String) : IO UInt32 := do
  let outcome ← Polyfill.Command.run .ofMachine arguments
  for record in outcome.records do
    IO.eprint ("[" ++ record.level.name ++ "] " ++ record.shown)
  for line in outcome.stderr do
    IO.eprintln line
  IO.print outcome.stdout
  return outcome.exit.toUInt32
