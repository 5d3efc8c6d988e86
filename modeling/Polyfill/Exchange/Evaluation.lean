import Polyfill.Generation
import Polyfill.Json.Kind

/-!
# Evaluations as JSON

What an evaluation starts from and what it comes to can be exchanged: its configuration, its
diagnostics and its summary, and the names of fixups, severities and categories. No field may be
missing. A set of names is written in ascending order and read in any order, with repetitions.
-/

namespace Polyfill

open Json

def Fixup.kind : Kind Fixup :=
  .named Fixup.name Fixup.ofName?

def Severity.kind : Kind Severity :=
  .named Severity.name Severity.ofName?

def Category.kind : Kind Category :=
  .named Category.name Category.ofName?

def NameSet.kind : Kind NameSet where
  value := fun set => .texts set.names
  reader := fun node => NameSet.ofList <$> Reader.list Reader.text node

def Configuration.kind : Kind Configuration :=
  Form.kind
    { blank := {}
      fields :=
        [.of "use_public_accessibility" true .bool (·.usePublicAccessibility)
            ({ · with usePublicAccessibility := · }),
          .of "include_runtime_supported" true .bool (·.includeRuntimeSupported)
            ({ · with includeRuntimeSupported := · }),
          .of "use_alt_namespace_for_native_call_artifact" true .bool
            (·.useAltNamespaceForNativeCall) ({ · with useAltNamespaceForNativeCall := · }),
          .of "exclude_type_forwards" true .bool (·.excludeTypeForwards)
            ({ · with excludeTypeForwards := · }),
          .of "include_list" true NameSet.kind (·.includeList) ({ · with includeList := · }),
          .of "exclude_list" true NameSet.kind (·.excludeList) ({ · with excludeList := · })] }

def Diagnostic.kind : Kind Diagnostic :=
  Form.kind
    { blank := ⟨"", .warning, "", []⟩
      fields :=
        [.of "code" true .text (·.code) ({ · with code := · }),
          .of "severity" true Severity.kind (·.severity) ({ · with severity := · }),
          .of "message" true .text (·.message) ({ · with message := · }),
          .of "args" true (.list .text) (·.args) ({ · with args := · })] }

/-- Counts, as they are exchanged: in 64 bits. -/
def Summary.countKind : Kind Nat :=
  .natural UInt64.size

def Summary.kind : Kind Summary :=
  Form.kind
    { blank := ⟨0, 0, 0, 0⟩
      fields :=
        [.of "artifacts" true Summary.countKind (·.artifacts) ({ · with artifacts := · }),
          .of "forwards" true Summary.countKind (·.forwards) ({ · with forwards := · }),
          .of "diagnostics" true Summary.countKind (·.diagnostics) ({ · with diagnostics := · }),
          .of "cache_entries" true Summary.countKind (·.cacheEntries)
            ({ · with cacheEntries := · })] }

end Polyfill
