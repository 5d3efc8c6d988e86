import Mathlib
import Polyfill.Environment.Snapshot
import Polyfill.Proofs.Catalog.Order
import Polyfill.Proofs.Generation.Cancellation
import Polyfill.Proofs.Generation.Delivery
import Polyfill.Proofs.Options.Effective

/-!
# The sources of an evaluation

Which sources an evaluation delivers is said here in terms of the options and of the snapshot alone,
without a configuration, an inquiry or a selection: a candidate is generated (`Snapshot.Generates`) and a
type is forwarded (`Snapshot.Forwards`) under conditions on names and option values. An evaluation that
nobody cancels delivers these sources, in the order of the catalog and of the forward candidates.
-/

namespace Polyfill

namespace Snapshot

/-- When options ask for a candidate that the target of a snapshot misses. -/
structure Generates (snapshot : Snapshot) (options : Options) (candidate : Candidate) : Prop where
  supported : snapshot.pipelineSupported = true
  inaccessible : candidate.id ∉ snapshot.accessible
  /-- The range type is written with a tuple type. -/
  tuple : candidate.id = Artifact.range →
    Artifact.rangeTuple ∈ snapshot.accessible ∨ Artifact.rangeTuple ∈ snapshot.existing
  notExcluded : candidate.id ∉
    Configuration.listed (options.effective? OptionKey.excludeGeneratedArtifacts)
  asked :
    let included := Configuration.listed (options.effective? OptionKey.includeGeneratedArtifacts)
    included ≠ [] ∧ candidate.id ∈ included ∨
      included = [] ∧ (candidate.category = .languageSupport ∨
        Configuration.isOn (options.effective? OptionKey.includeRuntimeSupported) = true)

/-- When a type is forwarded. -/
structure Forwards (snapshot : Snapshot) (options : Options) (id : String) : Prop where
  enabled : Configuration.isOn (options.effective? OptionKey.excludeTypeForwards) = false
  notLocal : id ∉ snapshot.localTypes
  target : id ∈ snapshot.forwardTargets

variable (snapshot : Snapshot) (options : Options)

theorem isPicked_ofValues_iff (candidate : Candidate) :
    Selecting.isPicked (.ofValues options.effective?) candidate = true ↔
      candidate.id ∉ Configuration.listed
          (options.effective? OptionKey.excludeGeneratedArtifacts) ∧
        let included :=
          Configuration.listed (options.effective? OptionKey.includeGeneratedArtifacts)
        (included ≠ [] ∧ candidate.id ∈ included ∨
          included = [] ∧ (candidate.category = .languageSupport ∨
            Configuration.isOn (options.effective? OptionKey.includeRuntimeSupported) = true)) := by
  simp only [Selecting.isPicked, Configuration.isExplicit, Configuration.isIncluded,
    Configuration.isExcluded, Configuration.ofValues, NameSet.isEmpty_ofList, NameSet.contains_ofList]
  cases included : Configuration.listed
      (options.effective? OptionKey.includeGeneratedArtifacts) with
  | nil => cases candidate.category <;> simp
  | cons first rest => simp [and_comm]

theorem generates_iff (candidate : Candidate) :
    snapshot.Generates options candidate ↔
      snapshot.answer .supportsPipeline = true ∧
        (Selecting.isMissing snapshot.answer candidate &&
          Selecting.isPicked (.ofValues options.effective?) candidate) = true := by
  rw [Bool.and_eq_true, isPicked_ofValues_iff]
  constructor
  · rintro ⟨supported, inaccessible, tuple, notExcluded, asked⟩
    refine ⟨supported, ?_, notExcluded, asked⟩
    by_cases range : candidate.id = Artifact.range
    · simpa [Selecting.isMissing, answer, ← range, inaccessible] using tuple range
    · simp [Selecting.isMissing, answer, inaccessible, range]
  · rintro ⟨supported, missing, notExcluded, asked⟩
    simp only [Selecting.isMissing, answer, Bool.and_eq_true, Bool.or_eq_true, Bool.not_eq_true',
      List.contains_eq_mem, decide_eq_true_eq, decide_eq_false_iff_not, bne_iff_ne] at missing
    exact ⟨supported, missing.1, fun range => missing.2.resolve_left (absurd range), notExcluded, asked⟩

theorem forwards_iff (id : String) :
    snapshot.Forwards options id ↔
      (!(Configuration.ofValues options.effective?).excludeTypeForwards &&
        !snapshot.answer (.definesLocally id) && snapshot.answer (.hasForwardTarget id)) = true := by
  simp only [answer, Bool.and_eq_true, Bool.not_eq_true', List.contains_eq_mem, decide_eq_true_eq,
    decide_eq_false_iff_not]
  exact ⟨fun ⟨enabled, notLocal, target⟩ => ⟨⟨enabled, notLocal⟩, target⟩,
    fun ⟨⟨enabled, notLocal⟩, target⟩ => ⟨enabled, notLocal, target⟩⟩

instance (candidate : Candidate) : Decidable (snapshot.Generates options candidate) :=
  decidable_of_iff _ (generates_iff snapshot options candidate).symm

instance (id : String) : Decidable (snapshot.Forwards options id) :=
  decidable_of_iff _ (forwards_iff snapshot options id).symm

theorem chosen_candidates (catalog : Catalog) :
    (Selecting.chosen snapshot.answer (.ofValues options.effective?) catalog).map (·.sourceName) =
      (catalog.candidates.filter (snapshot.Generates options ·)).map
        (Artifact.sourceName ·.id) := by
  unfold Selecting.chosen
  cases supported : snapshot.answer .supportsPipeline with
  | true =>
    rw [if_pos rfl, List.map_map]
    refine congrArg (List.map _) (List.filter_congr fun candidate _ => ?_)
    rw [Bool.eq_iff_iff, decide_eq_true_iff, generates_iff]
    simp only [supported, true_and]
  | false =>
    have none : ∀ candidate ∈ catalog.candidates, ¬ snapshot.Generates options candidate :=
      fun candidate _ wanted => by simpa [supported] using (generates_iff _ _ _).mp wanted
    rw [List.filter_eq_nil_iff.mpr fun candidate listed => mt of_decide_eq_true (none candidate listed)]
    rfl

theorem chosen_forwards (candidates : List String) :
    TypeForward.chosen snapshot.answer (.ofValues options.effective?) candidates =
      candidates.filter (snapshot.Forwards options ·) := by
  refine List.filter_congr fun id _ => ?_
  rw [Bool.eq_iff_iff, decide_eq_true_iff, forwards_iff]

end Snapshot

namespace Generator

theorem isCovered_builtin : builtin.IsCovered := by
  intro candidate listed
  have listed : candidate ∈ Catalog.builtinCandidates := List.mem_mergeSort.mp listed
  have ids : Catalog.builtinCandidates.map (·.id) = Template.Builtin.all.map (·.1) := by
    simp [Catalog.builtinCandidates, Template.Builtin.all, Function.comp_def]
  show candidate.id ∈ Templates.builtin
  rw [Templates.builtin, Std.TreeMap.mem_ofList, ← ids, List.contains_iff_mem]
  exact List.mem_map_of_mem listed

theorem completes_of_isCovered {generator : Generator} (covered : generator.IsCovered)
    (cache : Cache) (snapshot : Snapshot) (options : Options) :
    ∃ delivery, (generator.evaluate cache snapshot.environment false options).outcome =
      .ok delivery := by
  obtain ⟨accounted, up, _⟩ := flag_evaluate generator cache snapshot.environment false options
  have down (asked : List Query) : snapshot.environment.raisedDuring asked = false :=
    Environment.raisedDuring_calm snapshot.environment asked
  cases ended : (generator.evaluate cache snapshot.environment false options).outcome with
  | ok delivery => exact ⟨delivery, rfl⟩
  | error stop =>
    cases stop with
    | cancelled => simp [up ended, down] at accounted
    | missingTemplate missing =>
      exact absurd ended (outcome_evaluate_of_isCovered generator cache _ false options covered missing)

theorem delivered_of_snapshot {generator : Generator} {interference : Interference} {cache : Cache}
    {snapshot : Snapshot} {raised : Bool} {options : Options} {delivery : Delivery}
    (completed : (generator.evaluateAmid interference cache snapshot.environment raised
      options).outcome = .ok delivery) :
    delivery.artifacts.map (·.name) =
        (generator.catalog.candidates.filter (snapshot.Generates options ·)).map
          (Artifact.sourceName ·.id) ∧
      delivery.forwards = generator.forwardCandidates.filter (snapshot.Forwards options ·) := by
  obtain ⟨_, artifacts, forwards⟩ := delivered_of_completed completed
  rw [resolve, Configuration.configuration_resolve] at artifacts forwards
  rw [artifacts, forwards, ← Snapshot.chosen_candidates, ← Snapshot.chosen_forwards]
  exact ⟨rfl, rfl⟩

theorem generates_iff_of_snapshot {generator : Generator} {interference : Interference}
    {cache : Cache} {snapshot : Snapshot} {raised : Bool} {options : Options} {delivery : Delivery}
    (completed : (generator.evaluateAmid interference cache snapshot.environment raised
      options).outcome = .ok delivery) (id : String) :
    delivery.Generates id ↔
      ∃ candidate ∈ generator.catalog.candidates,
        snapshot.Generates options candidate ∧ candidate.id = id := by
  rw [Delivery.Generates, (delivered_of_snapshot completed).1, List.mem_map]
  simp only [List.mem_filter, decide_eq_true_iff, Artifact.sourceName_injective.eq_iff, and_assoc]

/--
An evaluation that nobody cancels completes, and it hands over the marker, the artifacts that its
snapshot and its options come to, and the forwards, under these names and in this order.
-/
theorem evaluate_emits {candidates : List Candidate} {catalog : Catalog}
    (accepted : Catalog.ofList candidates = .ok catalog) {templates : Templates}
    (covered : ∀ candidate ∈ candidates, candidate.id ∈ templates)
    (forwardCandidates : List String) (cache : Cache) (snapshot : Snapshot) (options : Options) :
    let generator : Generator := { catalog, templates, forwardCandidates }
    let evaluation := generator.evaluate cache snapshot.environment false options
    (∃ delivery, evaluation.outcome = .ok delivery) ∧
      ∀ sinks, (evaluation.deliverTo sinks).sources.map (·.name) = sinks.sources.map (·.name) ++
        Artifact.sourceName Artifact.embeddedMarker ::
          (((candidates.mergeSort Candidate.octetLe).filter (snapshot.Generates options ·)).map
              (Artifact.sourceName ·.id) ++
            (forwardCandidates.filter (snapshot.Forwards options ·)).map TypeForward.sourceName) := by
  intro generator evaluation
  have listed := Catalog.candidates_of_ofList accepted
  have isCovered : generator.IsCovered := by
    intro candidate member
    rw [show generator.catalog.candidates = candidates.mergeSort Candidate.octetLe from listed,
      List.mem_mergeSort] at member
    exact covered candidate member
  obtain ⟨delivery, completed⟩ := completes_of_isCovered isCovered cache snapshot options
  refine ⟨⟨delivery, completed⟩, fun sinks => ?_⟩
  obtain ⟨artifacts, forwards⟩ := delivered_of_snapshot completed
  rw [Evaluation.sources_deliverTo completed, List.map_append, ← Delivery.names, Delivery.names_eq,
    artifacts, forwards, ← listed]

/-- Candidates out of order, one of them excluded, and a flag in two spellings. -/
theorem evaluate_emits_in_order :
    let candidates : List Candidate :=
      [⟨"Demo.Beta", .runtimeSupported, .empty⟩, ⟨"Demo.Delta", .languageSupport, .empty⟩,
        ⟨"Demo.Alpha", .languageSupport, .empty⟩]
    let templates : Templates :=
      .ofList (candidates.map fun candidate => (candidate.id, "internal class Demo"))
    let options : Options := .ofList [("IncludeRuntimeSupported", "no"),
      ("build_property.IncludeRuntimeSupported", "True"), ("ExcludeGeneratedArtifacts", "Demo.Delta")]
    ∃ catalog, Catalog.ofList candidates = .ok catalog ∧
      (∀ candidate ∈ candidates, candidate.id ∈ templates) ∧
      ((({ catalog, templates, forwardCandidates := ["Demo.Gamma", "Demo.Eta"] } : Generator).evaluate
          ∅ { forwardTargets := ["Demo.Gamma"] : Snapshot }.environment false options).deliverTo
        {}).sources.map (·.name) =
          ["Microsoft.CodeAnalysis.EmbeddedAttribute.g.cs", "Demo.Alpha.g.cs", "Demo.Beta.g.cs",
            "Demo.Gamma.TypeForward.g.cs"] := by
  intro candidates templates options
  have covered : ∀ candidate ∈ candidates, candidate.id ∈ templates := by decide +kernel
  cases accepted : Catalog.ofList candidates with
  | error duplicate =>
    have accepts : ∃ catalog, Catalog.ofList candidates = .ok catalog :=
      Catalog.exists_ofList (by decide)
    obtain ⟨catalog, accepts⟩ := accepts
    cases accepted.symm.trans accepts
  | ok catalog =>
    refine ⟨catalog, rfl, covered, ?_⟩
    rw [(evaluate_emits accepted covered ["Demo.Gamma", "Demo.Eta"] ∅
      { forwardTargets := ["Demo.Gamma"] } options).2]
    cbv

end Generator

end Polyfill
