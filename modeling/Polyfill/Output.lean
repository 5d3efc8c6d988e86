import Polyfill.Files.Access
import Polyfill.Generation

/-!
# Output

Sources are written one by one into a directory, which is made if it is missing. Files of other names
stay as they are. The first source that cannot be written ends the writing.
-/

namespace Polyfill

/-- Why sources cannot be written. -/
inductive OutputFault where
  | noDirectory (path : String) (fault : FileFault)
  | notWritten (path : String) (fault : FileFault)
  deriving DecidableEq, Repr

namespace OutputFault

def message : OutputFault → String
  | noDirectory path _ => "Failed to create output directory " ++ path
  | notWritten path _ => "Failed to write " ++ path

def reason : OutputFault → FileFault
  | noDirectory _ fault | notWritten _ fault => fault

end OutputFault

namespace Source

variable {m : Type → Type} [Monad m]

/-- Write sources into a directory that is there. -/
def writeEach (access : FileAccess m) (directory : String) :
    List Source → m (Except OutputFault Unit)
  | [] => return .ok ()
  | source :: rest => do
    let path := Path.join directory source.name
    match ← access.write path source.text with
    | .error fault => return .error (.notWritten path fault)
    | .ok () => writeEach access directory rest

def writeAll (access : FileAccess m) (directory : String) (sources : List Source) :
    m (Except OutputFault Unit) := do
  match ← access.makeDirectory directory with
  | .error fault => return .error (.noDirectory directory fault)
  | .ok () => writeEach access directory sources

end Source

end Polyfill
