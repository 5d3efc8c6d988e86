import Polyfill.Generation

/-!
# Reports

A report says what one run has produced: the sources by name and size, and the diagnostics.
-/

namespace Polyfill

structure ReportedSource where
  name : String
  /-- The number of octets of the text. -/
  bytes : Nat
  deriving DecidableEq, Repr

/-- A diagnostic in a report. The severity is a plain text, so that reports can hold ones to come. -/
structure ReportedDiagnostic where
  code : String
  severity : String
  message : String
  deriving DecidableEq, Repr

/-- The outcome of one run, to be exchanged. -/
structure Report where
  /-- The version of the form of reports. -/
  schemaVersion : Nat
  sources : List ReportedSource := []
  diagnostics : List ReportedDiagnostic := []
  deriving DecidableEq, Repr

namespace Report

/-- The version of the form of reports that are made here. -/
def currentVersion : Nat :=
  1

def make (sources : List Source) (diagnostics : List Diagnostic) : Report where
  schemaVersion := currentVersion
  sources := sources.map fun source => ⟨source.name, source.text.utf8ByteSize⟩
  diagnostics := diagnostics.map fun diagnostic =>
    ⟨diagnostic.code, diagnostic.severity.name, diagnostic.message⟩

def hasErrors (report : Report) : Bool :=
  report.diagnostics.any (·.severity == Severity.error.name)

end Report

end Polyfill
