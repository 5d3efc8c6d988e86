import Polyfill.Exchange.Snapshot
import Polyfill.Files.Path

/-!
# Snapshot files

A target is described to the command line by a file that holds a snapshot.
-/

namespace Polyfill

/-- Why a snapshot cannot be had from a file. -/
inductive SnapshotFault where
  | unreadable (path : String) (fault : FileFault)
  | invalid (path : String) (fault : Json.Fault)
  deriving DecidableEq, Repr

def SnapshotFault.message : SnapshotFault → String
  | unreadable path _ => "Failed to read environment snapshot " ++ path
  | invalid path _ => "in " ++ path

/-- The snapshot that a file holds, from what was read of it. -/
def Snapshot.ofFile (path : String) : Except FileFault String → Except SnapshotFault Snapshot
  | .error fault => .error (.unreadable path fault)
  | .ok text =>
    match Snapshot.kind.parse text with
    | .error fault => .error (.invalid path fault)
    | .ok snapshot => .ok snapshot

end Polyfill
