import Polyfill.Artifact
import Polyfill.Configuration
import Polyfill.Environment.Inquiry

/-!
# Type forwards

Where the native runtime has a type that the target neither defines nor should get a copy of, a forward
declaration points at it.
-/

namespace Polyfill.TypeForward

open Inquiry

/-- The types that may be forwarded, unless a caller has its own list. -/
def builtinCandidates : List String :=
  ["System.Index", "System.Range", "System.Runtime.CompilerServices.IsExternalInit",
    "System.Runtime.CompilerServices.RequiresLocationAttribute",
    "System.Runtime.CompilerServices.CollectionBuilderAttribute"]

/-- Whether a type is to be forwarded: not defined by the target, and held by the runtime. -/
def isForwarded (environment : Environment) (id : String) : Inquiry Bool := do
  if ← ask environment (.definesLocally id) then
    return false
  ask environment (.hasForwardTarget id)

/-- The types to forward among the candidates, in their order. -/
def select (environment : Environment) (configuration : Configuration) :
    List String → Inquiry (List String)
  | [] => return []
  | id :: rest => do
    poll
    let forwarded ←
      if configuration.excludeTypeForwards then pure false else isForwarded environment id
    let others ← select environment configuration rest
    return if forwarded then id :: others else others

def sourceName (id : String) : String :=
  id ++ ".TypeForward." ++ Artifact.generatedSuffix

def text (id : String) : String :=
  "// <auto-generated/>\n[assembly: " ++
    "global::System.Runtime.CompilerServices.TypeForwardedTo(typeof(global::" ++ id ++ "))]\n"

end Polyfill.TypeForward
