import Polyfill.Exchange.Evaluation
import Polyfill.Exchange.Report
import Polyfill.Exchange.Snapshot
import Polyfill.Proofs.Json.Restoring

/-!
# Reading what was printed

Every record that is exchanged is read again as it was printed, whatever characters its texts hold, as
long as its numbers fit into the types that they are exchanged in. A snapshot may lose some of its
fields on the way; these are read with their defaults.
-/

namespace Polyfill

open Json

/-! ## The parts of an evaluation -/

theorem NameSet.restores (set : NameSet) : NameSet.kind.Restores set := by
  have names : (Kind.list .text).Restores set.names :=
    Kind.restores_list fun name _ => Kind.restores_text name
  have same : NameSet.ofList set.names = set := by
    ext name
    rw [NameSet.mem_ofList, NameSet.mem_iff]
  refine ⟨names.exact, ?_⟩
  have reads : Reader.list Reader.text (NameSet.kind.value set).node = .ok set.names := names.reads
  exact (congrArg (NameSet.ofList <$> ·) reads).trans (congrArg _ same)

theorem Configuration.restores (configuration : Configuration) :
    Configuration.kind.Restores configuration := by
  refine Form.restores (by decide) (.cons (.of ?_) (.cons (.of ?_) (.cons (.of ?_) (.cons (.of ?_)
    (.cons (.of ?_) (.cons (.of ?_) .nil)))))) rfl
  case refine_5 | refine_6 => exact NameSet.restores _
  all_goals exact Kind.restores_bool _

theorem Severity.restores (severity : Severity) : Severity.kind.Restores severity :=
  Kind.restores_named severity.ofName?_name

theorem Diagnostic.restores (diagnostic : Diagnostic) : Diagnostic.kind.Restores diagnostic := by
  refine Form.restores (by decide)
    (.cons (.of ?_) (.cons (.of ?_) (.cons (.of ?_) (.cons (.of ?_) .nil)))) rfl
  · exact Kind.restores_text _
  · exact Severity.restores _
  · exact Kind.restores_text _
  · exact Kind.restores_list fun _ _ => Kind.restores_text _

theorem Summary.restores {summary : Summary} (artifacts : summary.artifacts < UInt64.size)
    (forwards : summary.forwards < UInt64.size) (diagnostics : summary.diagnostics < UInt64.size)
    (cacheEntries : summary.cacheEntries < UInt64.size) : Summary.kind.Restores summary := by
  refine Form.restores (by decide)
    (.cons (.of ?_) (.cons (.of ?_) (.cons (.of ?_) (.cons (.of ?_) .nil)))) rfl
  · exact Kind.restores_natural (Nat.le_refl _) artifacts
  · exact Kind.restores_natural (Nat.le_refl _) forwards
  · exact Kind.restores_natural (Nat.le_refl _) diagnostics
  · exact Kind.restores_natural (Nat.le_refl _) cacheEntries

/-! ## Reports -/

theorem ReportedSource.restores {source : ReportedSource} (bytes : source.bytes < UInt64.size) :
    ReportedSource.kind.Restores source := by
  refine Form.restores (by decide) (.cons (.of ?_) (.cons (.of ?_) .nil)) rfl
  · exact Kind.restores_text _
  · exact Kind.restores_natural (Nat.le_refl _) bytes

theorem ReportedDiagnostic.restores (diagnostic : ReportedDiagnostic) :
    ReportedDiagnostic.kind.Restores diagnostic := by
  refine Form.restores (by decide) (.cons (.of ?_) (.cons (.of ?_) (.cons (.of ?_) .nil))) rfl
  all_goals exact Kind.restores_text _

theorem Report.restores {report : Report} (version : report.schemaVersion < UInt32.size)
    (bytes : ∀ source ∈ report.sources, source.bytes < UInt64.size) :
    Report.kind.Restores report := by
  refine Form.restores (by decide) (.cons (.of ?_) (.cons (.of ?_) (.cons (.of ?_) .nil))) rfl
  · exact Kind.restores_natural (by decide) version
  · exact Kind.restores_list fun source among => ReportedSource.restores (bytes source among)
  · exact Kind.restores_list fun _ _ => ReportedDiagnostic.restores _

/-! ## Snapshots -/

namespace Snapshot

theorem restores (snapshot : Snapshot) : kind.Restores snapshot := by
  refine Form.restores (by decide) (.cons (.of ?_) (.cons (.of ?_) (.cons (.of ?_) (.cons (.of ?_)
    (.cons (.of ?_) (.cons (.of ?_) .nil)))))) rfl
  case refine_1 | refine_2 => exact Kind.restores_bool _
  all_goals exact Kind.restores_list fun _ _ => Kind.restores_text _

/-- A snapshot with the fields of some names. The other gates are open, the other lists are empty. -/
def keep (snapshot : Snapshot) (names : List String) : Snapshot where
  pipelineSupported := if "pipeline_supported" ∈ names then snapshot.pipelineSupported else true
  globalAliasesSupported :=
    if "global_aliases_supported" ∈ names then snapshot.globalAliasesSupported else true
  accessible := if "accessible" ∈ names then snapshot.accessible else []
  existing := if "existing" ∈ names then snapshot.existing else []
  localTypes := if "local_types" ∈ names then snapshot.localTypes else []
  forwardTargets := if "forward_targets" ∈ names then snapshot.forwardTargets else []

theorem keeps_keep (snapshot : Snapshot) : form.Keeps snapshot snapshot.keep where
  blank := by simp [keep, form]
  copies := by
    have gate (value : Bool) := Kind.restores_bool value
    have names (list : List String) : (Kind.list .text).Restores list :=
      Kind.restores_list fun _ _ => Kind.restores_text _
    simp only [form, List.forall_mem_cons]
    refine ⟨⟨_, .of (gate _), ?_⟩, ⟨_, .of (gate _), ?_⟩, ⟨_, .of (names _), ?_⟩,
      ⟨_, .of (names _), ?_⟩, ⟨_, .of (names _), ?_⟩, ⟨_, .of (names _), ?_⟩, by simp⟩
    all_goals
      intro seen
      simp [keep, Field.of]

theorem read_kept (snapshot : Snapshot) {kept : List (String × Value)}
    (part : kept.Subperm (form.members snapshot)) {layout : Layout} (blank : layout.IsBlank) :
    kind.parse (String.ofList ((Value.object kept).write layout 0)) =
      .ok (snapshot.keep (kept.map Prod.fst)) := by
  have optional : ∀ field ∈ form.fields, field.required = false := by simp [form, Field.of]
  obtain ⟨exact, reads⟩ := snapshot.keeps_keep.read_object (by decide) optional part
  have order : snapshot.keep (kept.map Prod.fst).reverse = snapshot.keep (kept.map Prod.fst) := by
    simp only [keep, List.mem_reverse]
  rw [Kind.parse, read_write _ blank exact, ← order]
  exact reads

end Snapshot

/-! ## Everything that is exchanged -/

/--
Whatever is exchanged is read as it was printed. Of a snapshot, any members may be kept, in any order;
what is left out is read with its default.
-/
theorem exchange_round_trip :
    (∀ snapshot : Snapshot, Snapshot.kind.parse (Snapshot.kind.print snapshot) = .ok snapshot) ∧
    (∀ report : Report, report.schemaVersion < UInt32.size →
      (∀ source ∈ report.sources, source.bytes < UInt64.size) →
        Report.kind.parse (Report.kind.print report) = .ok report) ∧
    (∀ configuration : Configuration,
      Configuration.kind.parse (Configuration.kind.print configuration) = .ok configuration) ∧
    (∀ diagnostic : Diagnostic,
      Diagnostic.kind.parse (Diagnostic.kind.print diagnostic) = .ok diagnostic) ∧
    (∀ summary : Summary, summary.artifacts < UInt64.size → summary.forwards < UInt64.size →
      summary.diagnostics < UInt64.size → summary.cacheEntries < UInt64.size →
        Summary.kind.parse (Summary.kind.print summary) = .ok summary) ∧
    (∀ (snapshot : Snapshot) (kept : List (String × Value)),
      kept.Subperm (Snapshot.form.members snapshot) →
        ∀ text ∈ [(Value.object kept).pretty, (Value.object kept).compact],
          Snapshot.kind.parse text = .ok (snapshot.keep (kept.map Prod.fst))) := by
  refine ⟨?snapshot, ?report, ?configuration, ?diagnostic, ?summary, ?kept⟩
  case snapshot => exact fun snapshot => snapshot.restores.parse_print
  case report => exact fun report version bytes => (Report.restores version bytes).parse_print
  case configuration => exact fun configuration => configuration.restores.parse_print
  case diagnostic => exact fun diagnostic => diagnostic.restores.parse_print
  case summary =>
    intro summary artifacts forwards diagnostics cacheEntries
    exact (Summary.restores artifacts forwards diagnostics cacheEntries).parse_print
  case kept =>
    intro snapshot kept part text among
    rcases List.mem_pair.mp among with rfl | rfl
    · exact snapshot.read_kept part Layout.isBlank_spread
    · exact snapshot.read_kept part Layout.isBlank_compact

theorem exchange_round_trip_of_extremes :
    Report.kind.parse (Report.kind.print
        ⟨4294967295, [⟨"\u0001\"\\", 18446744073709551615⟩], [⟨"", "error", "𝄞\n"⟩]⟩) =
      .ok ⟨4294967295, [⟨"\u0001\"\\", 18446744073709551615⟩], [⟨"", "error", "𝄞\n"⟩]⟩ ∧
    Summary.kind.parse (Summary.kind.print ⟨0, 1, 2, 18446744073709551615⟩) =
      .ok ⟨0, 1, 2, 18446744073709551615⟩ ∧
    Snapshot.kind.parse (Value.object [("existing", .texts ["System.Index", ""])]).pretty =
      .ok { existing := ["System.Index", ""] } := by
  obtain ⟨-, report, -, -, summary, kept⟩ := exchange_round_trip
  refine ⟨report _ (by decide) (by decide), ?_, ?_⟩
  · exact summary _ (by decide) (by decide) (by decide) (by decide)
  · have part : [("existing", Value.texts ["System.Index", ""])].Subperm
        (Snapshot.form.members { pipelineSupported := false, existing := ["System.Index", ""] }) := by
      refine List.singleton_subperm_iff.mpr ?_
      simp [Form.members, Snapshot.form, Field.of, Kind.list, Value.texts, Kind.text]
    simpa [Snapshot.keep] using kept _ _ part _ List.mem_cons_self

end Polyfill
