import Polyfill.Json.Kind
import Polyfill.Report

/-!
# Reports as JSON

A report is exchanged with its version first; the lists may be missing. Sizes have 64 bits and the
version has 32.
-/

namespace Polyfill

open Json

def ReportedSource.kind : Kind ReportedSource :=
  Form.kind
    { blank := ⟨"", 0⟩
      fields :=
        [.of "name" true .text (·.name) ({ · with name := · }),
          .of "bytes" true (.natural UInt64.size) (·.bytes) ({ · with bytes := · })] }

def ReportedDiagnostic.kind : Kind ReportedDiagnostic :=
  Form.kind
    { blank := ⟨"", "", ""⟩
      fields :=
        [.of "code" true .text (·.code) ({ · with code := · }),
          .of "severity" true .text (·.severity) ({ · with severity := · }),
          .of "message" true .text (·.message) ({ · with message := · })] }

def Report.kind : Kind Report :=
  Form.kind
    { blank := { schemaVersion := 0 }
      fields :=
        [.of "schema_version" true (.natural UInt32.size) (·.schemaVersion)
            ({ · with schemaVersion := · }),
          .of "sources" false (.list ReportedSource.kind) (·.sources) ({ · with sources := · }),
          .of "diagnostics" false (.list ReportedDiagnostic.kind) (·.diagnostics)
            ({ · with diagnostics := · })] }

end Polyfill
