import Std.Data.TreeMap
import Polyfill.Catalog.Builtin
import Polyfill.Selection
import Polyfill.Template.Materialization

/-!
# Template stores

A store holds the templates of a catalog by artifact. A selection whose artifact has no template in
the store cannot be materialized; that the catalog and the store fit together is for whoever makes them
to see to.
-/

namespace Polyfill

/-- Templates by artifact. -/
abbrev Templates := Std.TreeMap String String

/-- A selection's artifact has no template. -/
structure MissingTemplate where
  id : String
  deriving DecidableEq, Repr

def MissingTemplate.message (missing : MissingTemplate) : String :=
  "template store has no entry for catalog artifact `" ++ missing.id ++ "`"

namespace Templates

def builtin : Templates :=
  .ofList Template.Builtin.all

def materialize (templates : Templates) (selection : Selection) : Except MissingTemplate String :=
  match templates[selection.id]? with
  | some template => .ok (Template.materialize template selection.isPublic selection.fixups)
  | none => .error ⟨selection.id⟩

end Templates

end Polyfill
