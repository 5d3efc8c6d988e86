import Polyfill.Files.Basic

/-!
# Access to files

What the command line does with files it does through four operations, so that it can run on the files
of a machine as well as on a value of type `Files`.
-/

namespace Polyfill

open Text

/-- The ways to use files in a monad. -/
structure FileAccess (m : Type → Type) where
  readText : String → m (Except FileFault String)
  /-- What stands in a directory, if there is such a directory. -/
  list? : String → m (Option (List (Octets × Entry)))
  makeDirectory : String → m (Except FileFault Unit)
  write : String → String → m (Except FileFault Unit)

/-- Access to files that are a value. -/
def FileAccess.ofFiles : FileAccess (StateM Files) where
  readText := fun path files => (files.readText path, files)
  list? := fun path files => (files.list? path, files)
  makeDirectory := fun path files => files.makeDirectory path
  write := fun path text files => files.write path text

end Polyfill
