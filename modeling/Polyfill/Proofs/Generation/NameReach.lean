import Polyfill.Proofs.Generation.Determination

/-!
# How far a name reaches

A snapshot answers from four lists of names. A name that is put on one of them changes what is delivered
for this name only, unless it is one of the three that are asked for on behalf of other artifacts. What is
accessible exists as well, but only of two of these three is it asked whether they exist.
-/

namespace Polyfill

namespace Snapshot

/-- Snapshots with the same gates and the same names on each list, in any order and any number. -/
structure SameNames (a b : Snapshot) : Prop where
  pipelineSupported : a.pipelineSupported = b.pipelineSupported
  globalAliasesSupported : a.globalAliasesSupported = b.globalAliasesSupported
  accessible : ∀ name, name ∈ a.accessible ↔ name ∈ b.accessible
  existing : ∀ name, name ∈ a.existing ↔ name ∈ b.existing
  localTypes : ∀ name, name ∈ a.localTypes ↔ name ∈ b.localTypes
  forwardTargets : ∀ name, name ∈ a.forwardTargets ↔ name ∈ b.forwardTargets

theorem SameNames.answer_eq {a b : Snapshot} (same : a.SameNames b) : a.answer = b.answer := by
  funext query
  cases query with
  | isAccessible id => simp only [answer, List.contains_eq_mem, same.accessible]
  | isPresent id => simp only [answer, List.contains_eq_mem, same.accessible, same.existing]
  | supportsPipeline => exact same.pipelineSupported
  | supportsGlobalAliases => exact same.globalAliasesSupported
  | definesLocally id => simp only [answer, List.contains_eq_mem, same.localTypes]
  | hasForwardTarget id => simp only [answer, List.contains_eq_mem, same.forwardTargets]

variable (snapshot : Snapshot) (name : String)

/-- The snapshot of a target that can use one more name. -/
def withAccessible : Snapshot :=
  { snapshot with accessible := name :: snapshot.accessible }

def withExisting : Snapshot :=
  { snapshot with existing := name :: snapshot.existing }

def withLocalType : Snapshot :=
  { snapshot with localTypes := name :: snapshot.localTypes }

def withForwardTarget : Snapshot :=
  { snapshot with forwardTargets := name :: snapshot.forwardTargets }

theorem answer_withAccessible_isAccessible (id : String) :
    (snapshot.withAccessible name).answer (.isAccessible id) =
      (id == name || snapshot.answer (.isAccessible id)) :=
  List.contains_cons

variable {name}

theorem answer_withAccessible_of_ne {id : String} (other : id ≠ name) :
    (snapshot.withAccessible name).answer (.isAccessible id) = snapshot.answer (.isAccessible id) := by
  rw [answer_withAccessible_isAccessible, beq_false_of_ne other, Bool.false_or]

theorem present_withAccessible_of_ne {id : String} (other : id ≠ name) :
    (snapshot.withAccessible name).answer (.isPresent id) = snapshot.answer (.isPresent id) :=
  congrArg (· || _) (snapshot.answer_withAccessible_of_ne other)

theorem present_withExisting_of_ne {id : String} (other : id ≠ name) :
    (snapshot.withExisting name).answer (.isPresent id) = snapshot.answer (.isPresent id) := by
  have same : (name :: snapshot.existing).contains id = snapshot.existing.contains id := by
    rw [List.contains_cons, beq_false_of_ne other, Bool.false_or]
  exact congrArg (_ || ·) same

end Snapshot

namespace Selecting

variable (snapshot : Snapshot) {name : String}

/-- A type that can be used is not missing any more; what it says of others is asked elsewhere. -/
theorem isMissing_withAccessible (other : Artifact.rangeTuple ≠ name) (candidate : Candidate) :
    isMissing (snapshot.withAccessible name).answer candidate =
      (candidate.id != name && isMissing snapshot.answer candidate) := by
  simp only [isMissing, snapshot.answer_withAccessible_isAccessible,
    snapshot.present_withAccessible_of_ne other, Bool.not_or, Bool.and_assoc, bne]

theorem conditionsOf_withAccessible (coverage : Artifact.coverageExclusion ≠ name)
    (inlining : Artifact.aggressiveInlining ≠ name) :
    conditionsOf (snapshot.withAccessible name).answer = conditionsOf snapshot.answer := by
  simp only [conditionsOf, snapshot.answer_withAccessible_of_ne coverage,
    snapshot.present_withAccessible_of_ne inlining]
  rfl

theorem isMissing_withExisting (other : Artifact.rangeTuple ≠ name) :
    isMissing (snapshot.withExisting name).answer = isMissing snapshot.answer := by
  funext candidate
  simp only [isMissing, snapshot.present_withExisting_of_ne other]
  rfl

theorem conditionsOf_withExisting (inlining : Artifact.aggressiveInlining ≠ name) :
    conditionsOf (snapshot.withExisting name).answer = conditionsOf snapshot.answer := by
  simp only [conditionsOf, snapshot.present_withExisting_of_ne inlining]
  rfl

end Selecting

namespace TypeForward

theorem chosen_eq_filter {answer answer' : Query → Bool} (keep : String → Bool)
    (forwarded : ∀ id, (!answer' (.definesLocally id) && answer' (.hasForwardTarget id)) =
      (keep id && (!answer (.definesLocally id) && answer (.hasForwardTarget id))))
    (configuration : Configuration) (candidates : List String) :
    chosen answer' configuration candidates = (chosen answer configuration candidates).filter keep := by
  rw [chosen, chosen, List.filter_filter]
  refine List.filter_congr fun id _ => ?_
  rw [Bool.and_assoc, forwarded, Bool.and_assoc, Bool.and_left_comm]

end TypeForward

namespace Generator

/-- What one more name on each list does to what a snapshot comes to. -/
structure NameReach (delivered : Snapshot → Delivery) (snapshot : Snapshot) (name : String) :
    Prop where
  /-- The artifact of an accessible name is taken out. -/
  accessible :
    name ∉ [Artifact.coverageExclusion, Artifact.aggressiveInlining, Artifact.rangeTuple] →
      delivered (snapshot.withAccessible name) =
        { delivered snapshot with
          artifacts := (delivered snapshot).artifacts.filter (·.name != Artifact.sourceName name) }
  existing : name ∉ [Artifact.aggressiveInlining, Artifact.rangeTuple] →
    delivered (snapshot.withExisting name) = delivered snapshot
  /-- The forwards of a local type are taken out. -/
  localTypes : delivered (snapshot.withLocalType name) =
    { delivered snapshot with forwards := (delivered snapshot).forwards.filter (· != name) }
  /-- Without a new forward target, its forwards are all that is missing. -/
  forwardTargets : delivered snapshot =
    { delivered (snapshot.withForwardTarget name) with
      forwards := (delivered (snapshot.withForwardTarget name)).forwards.filter fun id =>
        id != name || snapshot.forwardTargets.contains name }

variable (generator : Generator) (options : Options) (snapshot : Snapshot) {name : String}

theorem deliveryOf_withAccessible
    (own : name ∉ [Artifact.coverageExclusion, Artifact.aggressiveInlining, Artifact.rangeTuple]) :
    generator.deliveryOf (snapshot.withAccessible name).answer options =
      { generator.deliveryOf snapshot.answer options with
        artifacts := (generator.deliveryOf snapshot.answer options).artifacts.filter
          (·.name != Artifact.sourceName name) } := by
  simp only [List.mem_cons, List.not_mem_nil, or_false, not_or] at own
  obtain ⟨coverage, inlining, tuple⟩ := own
  have chosen : Selecting.chosen (snapshot.withAccessible name).answer (.ofValues options.effective?)
        generator.catalog =
      (Selecting.chosen snapshot.answer (.ofValues options.effective?) generator.catalog).filter
        (·.id != name) := by
    refine Selecting.chosen_eq_filter (· != name) rfl (fun candidate => ?_) ?_
    · rw [Selecting.isMissing_withAccessible snapshot (Ne.symm tuple), Bool.and_assoc]
    · rw [Selecting.conditionsOf_withAccessible snapshot (Ne.symm coverage) (Ne.symm inlining)]
  rw [← generator.artifacts_deliveryOf_eq_filter chosen]
  rfl

theorem deliveryOf_withExisting (own : name ∉ [Artifact.aggressiveInlining, Artifact.rangeTuple]) :
    generator.deliveryOf (snapshot.withExisting name).answer options =
      generator.deliveryOf snapshot.answer options := by
  simp only [List.mem_cons, List.not_mem_nil, or_false, not_or] at own
  obtain ⟨inlining, tuple⟩ := own
  simp only [deliveryOf, Selecting.chosen, Selecting.isMissing_withExisting snapshot (Ne.symm tuple),
    Selecting.conditionsOf_withExisting snapshot (Ne.symm inlining)]
  rfl

variable (name)

theorem deliveryOf_withLocalType :
    generator.deliveryOf (snapshot.withLocalType name).answer options =
      { generator.deliveryOf snapshot.answer options with
        forwards := (generator.deliveryOf snapshot.answer options).forwards.filter (· != name) } := by
  have forwarded (id : String) :
      (!(name :: snapshot.localTypes).contains id && snapshot.forwardTargets.contains id) =
        (id != name && (!snapshot.localTypes.contains id && snapshot.forwardTargets.contains id)) := by
    rw [List.contains_cons, Bool.not_or, Bool.and_assoc, bne]
  have forwards : TypeForward.chosen (snapshot.withLocalType name).answer
        (.ofValues options.effective?) generator.forwardCandidates =
      (generator.deliveryOf snapshot.answer options).forwards.filter (· != name) :=
    TypeForward.chosen_eq_filter _ forwarded _ _
  rw [← forwards]
  rfl

theorem deliveryOf_withForwardTarget :
    generator.deliveryOf snapshot.answer options =
      { generator.deliveryOf (snapshot.withForwardTarget name).answer options with
        forwards := (generator.deliveryOf (snapshot.withForwardTarget name).answer
          options).forwards.filter fun id => id != name || snapshot.forwardTargets.contains name } := by
  have forwarded (id : String) :
      (!snapshot.localTypes.contains id && snapshot.forwardTargets.contains id) =
        ((id != name || snapshot.forwardTargets.contains name) &&
          (!snapshot.localTypes.contains id && (name :: snapshot.forwardTargets).contains id)) := by
    rw [List.contains_cons]
    by_cases same : id = name
    · subst same
      cases snapshot.forwardTargets.contains id <;> simp
    · rw [beq_false_of_ne same, bne_iff_ne.mpr same, Bool.true_or, Bool.true_and, Bool.false_or]
  have forwards : (generator.deliveryOf snapshot.answer options).forwards =
      (TypeForward.chosen (snapshot.withForwardTarget name).answer (.ofValues options.effective?)
        generator.forwardCandidates).filter
          fun id => id != name || snapshot.forwardTargets.contains name :=
    TypeForward.chosen_eq_filter _ forwarded _ _
  exact congrArg ({ generator.deliveryOf snapshot.answer options with forwards := · }) forwards

theorem nameReach_deliveryOf :
    NameReach (fun snapshot => generator.deliveryOf snapshot.answer options) snapshot name where
  accessible := generator.deliveryOf_withAccessible options snapshot
  existing := generator.deliveryOf_withExisting options snapshot
  localTypes := generator.deliveryOf_withLocalType options snapshot name
  forwardTargets := generator.deliveryOf_withForwardTarget options snapshot name

variable {generator}

/--
Of a covered catalog, the same options come to a delivery for every snapshot, whatever has been evaluated
before. One more name on a list changes what is delivered for this name only, and how the lists are
ordered and what they repeat changes nothing.
-/
theorem evaluations_differ_by_name (covered : generator.IsCovered) :
    ∃ delivered : Snapshot → Delivery,
      (∀ history snapshot, (generator.evaluate (generator.cacheAfter history) snapshot.environment
        false options).outcome = .ok (delivered snapshot)) ∧
      (∀ snapshot name, NameReach delivered snapshot name) ∧
      ∀ a b : Snapshot, a.SameNames b → delivered a = delivered b := by
  refine ⟨fun snapshot => generator.deliveryOf snapshot.answer options, ?_, ?_, ?_⟩
  · intro history snapshot
    exact outcome_evaluate_of_snapshot covered history snapshot options
  · intro snapshot name
    exact generator.nameReach_deliveryOf options snapshot name
  · intro a b same
    exact congrArg (generator.deliveryOf · options) same.answer_eq

/-- Once a target can use the index type, everything else is delivered as before. -/
theorem builtin_evaluations_differ_by_name :
    let outcome (snapshot : Snapshot) :=
      (builtin.evaluate (builtin.cacheAfter []) snapshot.environment false ∅).outcome
    ∃ before after, outcome {} = .ok before ∧ outcome { accessible := ["System.Index"] } = .ok after ∧
      before.Generates "System.Index" ∧
      after = { before with
        artifacts := before.artifacts.filter (·.name != Artifact.sourceName "System.Index") } := by
  intro outcome
  obtain ⟨delivered, completes, reach, -⟩ := evaluations_differ_by_name ∅ isCovered_builtin
  have generates : ({} : Snapshot).Generates ∅ ⟨"System.Index", .languageSupport, .empty⟩ :=
    of_decide_eq_true (by cbv)
  refine ⟨delivered {}, delivered { accessible := ["System.Index"] }, completes [] {}, completes [] _,
    (generates_iff_of_snapshot (completes [] {}) _).mpr ⟨_, List.mem_mergeSort.mpr ?_, generates, rfl⟩,
    (reach {} "System.Index").accessible (by decide)⟩
  decide +kernel

end Generator

end Polyfill
