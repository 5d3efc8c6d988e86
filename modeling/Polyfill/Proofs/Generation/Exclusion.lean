import Polyfill.Proofs.Generation.Emission

/-!
# Types that are generated and forwarded

What a target cannot use is generated, and what it does not define is forwarded. The two conditions ask
about different things, and neither rules the other one out: a snapshot keeps generated types and
forwarded types apart if and only if it contests no type.
-/

namespace Polyfill

namespace Snapshot

/-- A type that the target can neither use nor defines, while the runtime has it. -/
structure Contests (snapshot : Snapshot) (id : String) : Prop where
  supported : snapshot.pipelineSupported = true
  inaccessible : id ∉ snapshot.accessible
  tuple : id = Artifact.range →
    Artifact.rangeTuple ∈ snapshot.accessible ∨ Artifact.rangeTuple ∈ snapshot.existing
  notLocal : id ∉ snapshot.localTypes
  target : id ∈ snapshot.forwardTargets

variable {snapshot : Snapshot} {options : Options}

theorem contests_of_generates_of_forwards {candidate : Candidate}
    (generates : snapshot.Generates options candidate)
    (forwards : snapshot.Forwards options candidate.id) : snapshot.Contests candidate.id :=
  ⟨generates.supported, generates.inaccessible, generates.tuple, forwards.notLocal, forwards.target⟩

/-- With the right options, whatever is contested is both generated and forwarded. -/
theorem exists_options_of_contests (snapshot : Snapshot) :
    ∃ options : Options, ∀ candidate : Candidate, snapshot.Contests candidate.id →
      snapshot.Generates options candidate ∧ snapshot.Forwards options candidate.id := by
  let options : Options := .ofList [("IncludeRuntimeSupported", "true")]
  have excluded : Configuration.listed
      (options.effective? OptionKey.excludeGeneratedArtifacts) = [] := by cbv
  have included : Configuration.listed
      (options.effective? OptionKey.includeGeneratedArtifacts) = [] := by cbv
  have runtime : Configuration.isOn
      (options.effective? OptionKey.includeRuntimeSupported) = true := by cbv
  have enabled : Configuration.isOn
      (options.effective? OptionKey.excludeTypeForwards) = false := by cbv
  refine ⟨options, fun candidate contests => ⟨?_, enabled, contests.notLocal, contests.target⟩⟩
  exact
    { supported := contests.supported
      inaccessible := contests.inaccessible
      tuple := contests.tuple
      notExcluded := excluded ▸ List.not_mem_nil
      asked := .inr ⟨included, .inr runtime⟩ }

end Snapshot

namespace Generator

/-- When a completed evaluation both generates and forwards a type. -/
theorem both_iff_of_completed {generator : Generator} {interference : Interference} {cache : Cache}
    {snapshot : Snapshot} {raised : Bool} {options : Options} {delivery : Delivery}
    (completed : (generator.evaluateAmid interference cache snapshot.environment raised
      options).outcome = .ok delivery) (id : String) :
    delivery.Generates id ∧ id ∈ delivery.forwards ↔
      (∃ candidate ∈ generator.catalog.candidates,
        snapshot.Generates options candidate ∧ candidate.id = id) ∧
      id ∈ generator.forwardCandidates ∧ snapshot.Forwards options id := by
  rw [generates_iff_of_snapshot completed, (delivered_of_snapshot completed).2, List.mem_filter,
    decide_eq_true_iff]

theorem exists_delivery_of_contests (catalog : Catalog) (forwardCandidates : List String)
    (snapshot : Snapshot)
    (contests : ∀ id ∈ catalog.ids ++ forwardCandidates, snapshot.Contests id) :
    ∃ templates options delivery,
      (({ catalog, templates, forwardCandidates } : Generator).evaluate ∅ snapshot.environment false
        options).outcome = .ok delivery ∧
      (∀ id ∈ catalog.ids, delivery.Generates id) ∧ delivery.forwards = forwardCandidates := by
  let templates : Templates := .ofList (catalog.ids.map (·, ""))
  let generator : Generator := { catalog, templates, forwardCandidates }
  have covered : generator.IsCovered := by
    intro candidate listed
    rw [Std.TreeMap.mem_ofList, List.map_map, List.contains_iff_mem]
    exact List.mem_map.mpr ⟨candidate.id, List.mem_map_of_mem listed, rfl⟩
  obtain ⟨options, both⟩ := snapshot.exists_options_of_contests
  obtain ⟨delivery, completed⟩ := completes_of_isCovered covered ∅ snapshot options
  refine ⟨templates, options, delivery, completed, fun id listed => ?_, ?_⟩
  · obtain ⟨candidate, member, rfl⟩ := List.mem_map.mp listed
    exact (generates_iff_of_snapshot completed candidate.id).mpr
      ⟨candidate, member, (both candidate (contests _ (List.mem_append_left _ listed))).1, rfl⟩
  · rw [(delivered_of_snapshot completed).2]
    refine List.filter_eq_self.mpr fun id listed => decide_eq_true ?_
    exact (both ⟨id, .languageSupport, .empty⟩ (contests id (List.mem_append_right _ listed))).2

/--
Evaluations against a snapshot never both generate and forward a type if and only if the snapshot
contests none: whatever the runtime has, the target can use or defines, unless the language is too old or
the range type lacks its tuple type.
-/
theorem never_both_iff (snapshot : Snapshot) :
    (∀ (generator : Generator) interference cache raised options delivery,
        (generator.evaluateAmid interference cache snapshot.environment raised options).outcome =
          .ok delivery →
        ∀ id, ¬ (delivery.Generates id ∧ id ∈ delivery.forwards)) ↔
      ∀ id, ¬ snapshot.Contests id := by
  constructor
  · intro never id contests
    -- A catalog of the contested type alone is enough.
    let catalog : Catalog :=
      .ofDistinct [⟨id, .languageSupport, .empty⟩] (by simp)
    have ids : catalog.ids = [id] := by
      simp [catalog, Catalog.ids, Catalog.ofDistinct]
    obtain ⟨templates, options, delivery, completed, generates, forwards⟩ :=
      exists_delivery_of_contests catalog [id] snapshot (by simpa [ids] using contests)
    apply never _ .none ∅ false options delivery completed id
    exact ⟨generates id (by simp [ids]), by simp [forwards]⟩
  · intro uncontested generator interference cache raised options delivery completed id both
    obtain ⟨⟨candidate, _, generates, rfl⟩, _, forwards⟩ :=
      (both_iff_of_completed completed id).mp both
    exact uncontested candidate.id (Snapshot.contests_of_generates_of_forwards generates forwards)

/-- The index type is built in, may be forwarded, and is here contested. -/
theorem builtin_index_both :
    let snapshot : Snapshot := { forwardTargets := ["System.Index"] }
    ∃ delivery, (builtin.evaluate ∅ snapshot.environment false ∅).outcome = .ok delivery ∧
      delivery.Generates "System.Index" ∧ "System.Index" ∈ delivery.forwards := by
  intro snapshot
  obtain ⟨delivery, completed⟩ := completes_of_isCovered isCovered_builtin ∅ snapshot ∅
  have generates : snapshot.Generates ∅ ⟨"System.Index", .languageSupport, .empty⟩ :=
    of_decide_eq_true (by cbv)
  have forwards : snapshot.Forwards ∅ "System.Index" :=
    of_decide_eq_true (by cbv)
  refine ⟨delivery, completed, (both_iff_of_completed completed _).mpr
    ⟨⟨_, List.mem_mergeSort.mpr ?_, generates, rfl⟩, ?_, forwards⟩⟩
  · decide +kernel
  · decide

end Generator

end Polyfill
