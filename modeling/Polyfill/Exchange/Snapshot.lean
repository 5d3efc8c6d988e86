import Polyfill.Environment.Snapshot
import Polyfill.Json.Kind

/-!
# Snapshots as JSON

A snapshot is exchanged as a record whose fields may all be missing: then the gates are open and the
lists are empty.
-/

namespace Polyfill

open Json

namespace Snapshot

def form : Form Snapshot where
  blank := {}
  fields :=
    [.of "pipeline_supported" false .bool (·.pipelineSupported)
        ({ · with pipelineSupported := · }),
      .of "global_aliases_supported" false .bool (·.globalAliasesSupported)
        ({ · with globalAliasesSupported := · }),
      .of "accessible" false (.list .text) (·.accessible) ({ · with accessible := · }),
      .of "existing" false (.list .text) (·.existing) ({ · with existing := · }),
      .of "local_types" false (.list .text) (·.localTypes) ({ · with localTypes := · }),
      .of "forward_targets" false (.list .text) (·.forwardTargets)
        ({ · with forwardTargets := · })]

def kind : Kind Snapshot :=
  form.kind

def invalidMessage : String :=
  "invalid environment snapshot"

/-- The schema of a field with a default. -/
def fieldSchema (type : String) (default : Value) (more : List (String × Value))
    (description : String) : Value :=
  .object ([("default", default), ("description", .text description)] ++ more ++
    [("type", .text type)])

def gateSchema (description : String) : Value :=
  fieldSchema "boolean" (.bool true) [] description

def namesSchema (description : String) : Value :=
  fieldSchema "array" (.array []) [("items", .object [("type", .text "string")])] description

/-- The schema of snapshots, for those who write them; keys ascend. -/
def schema : Value :=
  .object
    [("$schema", .text "https://json-schema.org/draft/2020-12/schema"),
      ("description", .text ("What a target environment already provides, as handed over by a " ++
        "build\nintegration. Names are fully qualified.")),
      ("properties", .object
        [("accessible", namesSchema
            "Names that are natively available and accessible. Implies `existing`."),
          ("existing", namesSchema "Names that exist, accessible or not."),
          ("forward_targets", namesSchema
            "Names the native runtime library provides as forwardable types."),
          ("global_aliases_supported", gateSchema
            "The target language accepts `global using` aliases."),
          ("local_types", namesSchema "Names the target defines itself as regular types."),
          ("pipeline_supported", gateSchema
            "The target language level is new enough for generated artifacts.")]),
      ("title", .text "EnvironmentSnapshot"),
      ("type", .text "object")]

end Snapshot

end Polyfill
