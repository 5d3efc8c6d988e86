import Mathlib.Data.List.Nodup
import Polyfill.Proofs.Generation.Determination

/-!
# How far an option reaches

Two evaluations with the same answers and with options that differ in one key deliver the same, except
for what this key is about. The option is followed from its effective value to one field of the
configuration (`Configuration.AgreeBut`), and from there to what is chosen and how it is written.
-/

namespace Polyfill

namespace Options

/-- Options that differ in the effective value of one recognized key at most. -/
def AgreeBut (key : String) (a b : Options) : Prop :=
  ∀ other ∈ OptionKey.all, other ≠ key → a.effective? other = b.effective? other

instance (key : String) (a b : Options) : Decidable (AgreeBut key a b) :=
  inferInstanceAs (Decidable (∀ other ∈ OptionKey.all, _ → _))

end Options

namespace Configuration

/-- Configurations that differ in the field of one key at most. -/
structure AgreeBut (key : String) (a b : Configuration) : Prop where
  visibility : key ≠ OptionKey.usePublicAccessibility →
    b.usePublicAccessibility = a.usePublicAccessibility
  runtime : key ≠ OptionKey.includeRuntimeSupported →
    b.includeRuntimeSupported = a.includeRuntimeSupported
  altNamespace : key ≠ OptionKey.useAltNamespaceForNativeCall →
    b.useAltNamespaceForNativeCall = a.useAltNamespaceForNativeCall
  forwards : key ≠ OptionKey.excludeTypeForwards → b.excludeTypeForwards = a.excludeTypeForwards
  excluded : key ≠ OptionKey.excludeGeneratedArtifacts → b.excludeList = a.excludeList
  included : key ≠ OptionKey.includeGeneratedArtifacts → b.includeList = a.includeList

theorem agreeBut_ofValues {key : String} {a b : Options} (agree : a.AgreeBut key b) :
    (ofValues a.effective?).AgreeBut key (ofValues b.effective?) where
  visibility other := by rw [ofValues, ofValues, agree _ (by decide) other.symm]
  runtime other := by rw [ofValues, ofValues, agree _ (by decide) other.symm]
  altNamespace other := by rw [ofValues, ofValues, agree _ (by decide) other.symm]
  forwards other := by rw [ofValues, ofValues, agree _ (by decide) other.symm]
  excluded other := by rw [ofValues, ofValues, agree _ (by decide) other.symm]
  included other := by rw [ofValues, ofValues, agree _ (by decide) other.symm]

end Configuration

namespace Selecting

variable {configuration configuration' : Configuration} {key : String}

theorem isPicked_eq (configuration : Configuration) (candidate : Candidate) :
    isPicked configuration candidate = (!configuration.isExcluded candidate.id &&
      bif configuration.isExplicit then configuration.isIncluded candidate.id
      else candidate.category == .languageSupport || configuration.includeRuntimeSupported) := by
  unfold isPicked
  cases configuration.isExplicit with
  | true => exact Bool.and_comm _ _
  | false => cases candidate.category <;> rfl

/-- Which candidates are picked is up to three of the keys. -/
theorem isPicked_congr (agree : configuration.AgreeBut key configuration')
    (other : key ∉ [OptionKey.includeRuntimeSupported, OptionKey.excludeGeneratedArtifacts,
      OptionKey.includeGeneratedArtifacts]) :
    isPicked configuration' = isPicked configuration := by
  simp only [List.mem_cons, List.not_mem_nil, or_false, not_or] at other
  obtain ⟨runtime, excluded, included⟩ := other
  funext candidate
  simp only [isPicked_eq, Configuration.isExplicit, Configuration.isIncluded,
    Configuration.isExcluded, agree.runtime runtime, agree.excluded excluded, agree.included included]

theorem selectionOf_congr (agree : configuration.AgreeBut key configuration')
    (other : key ∉ [OptionKey.usePublicAccessibility, OptionKey.useAltNamespaceForNativeCall]) :
    selectionOf configuration' = selectionOf configuration := by
  simp only [List.mem_cons, List.not_mem_nil, or_false, not_or] at other
  obtain ⟨visibility, altNamespace⟩ := other
  funext conditions candidate
  simp only [selectionOf, fixupsFor, agree.visibility visibility, agree.altNamespace altNamespace]

theorem selectionOf_of_ne (visibility : configuration'.usePublicAccessibility =
      configuration.usePublicAccessibility)
    (conditions : Conditions) {candidate : Candidate} (other : candidate.id ≠ Artifact.nativeCall) :
    selectionOf configuration' conditions candidate =
      selectionOf configuration conditions candidate := by
  have differs : (candidate.id == Artifact.nativeCall) = false := beq_false_of_ne other
  simp only [selectionOf, fixupsFor, visibility, differs, Bool.false_and]

/-- A list of inclusions that is not empty decides alone, but for the exclusions. -/
theorem isPicked_congr_of_explicit (explicit : configuration.isExplicit = true)
    (excluded : configuration'.excludeList = configuration.excludeList)
    (included : configuration'.includeList = configuration.includeList) :
    isPicked configuration' = isPicked configuration := by
  have explicit' : configuration'.isExplicit = true := by
    rwa [Configuration.isExplicit, included]
  funext candidate
  simp only [isPicked_eq, explicit, explicit', Configuration.isIncluded, Configuration.isExcluded,
    excluded, included, cond_true]

theorem isPicked_congr_of_languageSupport
    (excluded : configuration'.excludeList = configuration.excludeList)
    (included : configuration'.includeList = configuration.includeList) {candidate : Candidate}
    (category : candidate.category = .languageSupport) :
    isPicked configuration' candidate = isPicked configuration candidate := by
  simp only [isPicked_eq, Configuration.isExplicit, Configuration.isIncluded,
    Configuration.isExcluded, excluded, included, category, beq_self_eq_true, Bool.true_or]

theorem isPicked_of_excluded {x : String}
    (runtime : configuration'.includeRuntimeSupported = configuration.includeRuntimeSupported)
    (included : configuration'.includeList = configuration.includeList)
    (excluded : ∀ name, name ∈ configuration'.excludeList ↔
      name = x ∨ name ∈ configuration.excludeList) (candidate : Candidate) :
    isPicked configuration' candidate =
      (candidate.id != x && isPicked configuration candidate) := by
  have ruled : configuration'.isExcluded candidate.id =
      (candidate.id == x || configuration.isExcluded candidate.id) := by
    rw [Bool.eq_iff_iff]
    simp [Configuration.isExcluded, excluded]
  simp only [isPicked_eq, Configuration.isExplicit, Configuration.isIncluded, included, runtime,
    ruled, bne, Bool.not_or, Bool.and_assoc]

theorem chosen_congr {answer : Query → Bool} {catalog : Catalog}
    (picked : isPicked configuration' = isPicked configuration)
    (same : selectionOf configuration' = selectionOf configuration) :
    chosen answer configuration' catalog = chosen answer configuration catalog := by
  simp only [chosen, picked, same]

end Selecting

theorem TypeForward.chosen_congr {answer : Query → Bool} {configuration configuration' : Configuration}
    {candidates : List String}
    (same : configuration'.excludeTypeForwards = configuration.excludeTypeForwards) :
    chosen answer configuration' candidates = chosen answer configuration candidates := by
  simp only [chosen, same]

/-- Sources of one name that are equal, unless they have a given name. -/
def Source.SameBut (name : String) (a b : Source) : Prop :=
  b.name = a.name ∧ (a.name ≠ name → b = a)

namespace Generator

variable (generator : Generator) (answer : Query → Bool) {a b : Options}

/-- Whether a source name is that of an artifact of a category. -/
def isOfCategory (category : Category) (name : String) : Bool :=
  (generator.catalog.inCategory category).any (Artifact.sourceName ·.id == name)

theorem isOfCategory_iff {candidate : Candidate}
    (listed : candidate ∈ generator.catalog.candidates) (category : Category) :
    generator.isOfCategory category (Artifact.sourceName candidate.id) = true ↔
      candidate.category = category := by
  simp only [isOfCategory, Catalog.inCategory, List.any_eq_true, List.mem_filter, beq_iff_eq,
    Artifact.sourceName_injective.eq_iff]
  constructor
  · rintro ⟨other, ⟨also, rfl⟩, same⟩
    rw [List.inj_on_of_nodup_map generator.catalog.ids_nodup also listed same]
  · rintro rfl
    exact ⟨candidate, ⟨listed, rfl⟩, rfl⟩

theorem forwards_deliveryOf {key : String} (agree : a.AgreeBut key b)
    (other : key ≠ OptionKey.excludeTypeForwards) :
    (generator.deliveryOf answer b).forwards = (generator.deliveryOf answer a).forwards :=
  TypeForward.chosen_congr ((Configuration.agreeBut_ofValues agree).forwards other)

theorem artifacts_of_excludeTypeForwards (agree : a.AgreeBut OptionKey.excludeTypeForwards b) :
    (generator.deliveryOf answer b).artifacts = (generator.deliveryOf answer a).artifacts := by
  have fields := Configuration.agreeBut_ofValues agree
  simp only [deliveryOf]
  rw [Selecting.chosen_congr
    (Selecting.isPicked_congr fields (by decide)) (Selecting.selectionOf_congr fields (by decide))]

theorem sources_of_useAltNamespace (agree : a.AgreeBut OptionKey.useAltNamespaceForNativeCall b) :
    List.Forall₂ (Source.SameBut (Artifact.sourceName Artifact.nativeCall))
      (generator.deliveryOf answer a).sources (generator.deliveryOf answer b).sources := by
  have fields := Configuration.agreeBut_ofValues agree
  have artifacts : List.Forall₂ (Source.SameBut (Artifact.sourceName Artifact.nativeCall))
      (generator.deliveryOf answer a).artifacts (generator.deliveryOf answer b).artifacts := by
    simp only [deliveryOf, List.forall₂_map_left_iff, List.forall₂_map_right_iff]
    refine Selecting.forall₂_chosen (Selecting.isPicked_congr fields (by decide)) fun candidate =>
      ⟨rfl, fun other => ?_⟩
    have differs : candidate.id ≠ Artifact.nativeCall := fun same =>
      other (congrArg Artifact.sourceName same)
    rw [Selecting.selectionOf_of_ne (fields.visibility (by decide)) _ differs]
  have same (sources : List Source) :
      List.Forall₂ (Source.SameBut (Artifact.sourceName Artifact.nativeCall)) sources sources :=
    List.forall₂_same.mpr fun source _ => ⟨rfl, fun _ => rfl⟩
  rw [Delivery.sources, Delivery.sources, generator.forwards_deliveryOf answer agree (by decide)]
  exact .cons ⟨rfl, fun _ => rfl⟩ (List.rel_append artifacts (same _))

/-- What is asked for of the runtime leaves alone what the language needs. -/
theorem languageSupport_of_includeRuntimeSupported
    (agree : a.AgreeBut OptionKey.includeRuntimeSupported b) :
    (generator.deliveryOf answer b).artifacts.filter (generator.isOfCategory .languageSupport ·.name) =
      (generator.deliveryOf answer a).artifacts.filter
        (generator.isOfCategory .languageSupport ·.name) := by
  have fields := Configuration.agreeBut_ofValues agree
  rw [filter_artifacts_deliveryOf, filter_artifacts_deliveryOf]
  rw [Selecting.filter_chosen_congr
    (fun id => generator.isOfCategory .languageSupport (Artifact.sourceName id))
    (fun candidate listed kept => Selecting.isPicked_congr_of_languageSupport
      (fields.excluded (by decide)) (fields.included (by decide))
      ((generator.isOfCategory_iff listed _).mp kept))
    (Selecting.selectionOf_congr fields (by decide))]

theorem artifacts_of_includeRuntimeSupported
    (agree : a.AgreeBut OptionKey.includeRuntimeSupported b)
    (explicit : Configuration.listed (a.effective? OptionKey.includeGeneratedArtifacts) ≠ []) :
    (generator.deliveryOf answer b).artifacts = (generator.deliveryOf answer a).artifacts := by
  have fields := Configuration.agreeBut_ofValues agree
  have named : (Configuration.ofValues a.effective?).isExplicit = true := by
    simp [Configuration.isExplicit, Configuration.ofValues, NameSet.isEmpty_ofList, explicit]
  simp only [deliveryOf]
  rw [Selecting.chosen_congr
    (Selecting.isPicked_congr_of_explicit named (fields.excluded (by decide))
      (fields.included (by decide)))
    (Selecting.selectionOf_congr fields (by decide))]

theorem names_of_usePublicAccessibility (agree : a.AgreeBut OptionKey.usePublicAccessibility b) :
    (generator.deliveryOf answer b).names = (generator.deliveryOf answer a).names := by
  have fields := Configuration.agreeBut_ofValues agree
  have artifacts : List.Forall₂ (· = ·) ((generator.deliveryOf answer b).artifacts.map (·.name))
      ((generator.deliveryOf answer a).artifacts.map (·.name)) := by
    simp only [deliveryOf, List.forall₂_map_left_iff, List.forall₂_map_right_iff]
    exact Selecting.forall₂_chosen (Selecting.isPicked_congr fields (by decide)).symm fun _ => rfl
  rw [List.forall₂_eq_eq_eq] at artifacts
  rw [Delivery.names_eq, Delivery.names_eq, generator.forwards_deliveryOf answer agree (by decide),
    artifacts]

theorem artifacts_of_excluded {x : String}
    (agree : a.AgreeBut OptionKey.excludeGeneratedArtifacts b)
    (extended : ∀ name,
      name ∈ Configuration.listed (b.effective? OptionKey.excludeGeneratedArtifacts) ↔
        name = x ∨ name ∈ Configuration.listed (a.effective? OptionKey.excludeGeneratedArtifacts)) :
    (generator.deliveryOf answer b).artifacts =
      (generator.deliveryOf answer a).artifacts.filter (·.name != Artifact.sourceName x) := by
  have fields := Configuration.agreeBut_ofValues agree
  have excluded (name : String) : name ∈ (Configuration.ofValues b.effective?).excludeList ↔
      name = x ∨ name ∈ (Configuration.ofValues a.effective?).excludeList := by
    simpa only [Configuration.ofValues, NameSet.mem_ofList] using extended name
  refine generator.artifacts_deliveryOf_eq_filter
    (Selecting.chosen_eq_filter (· != x) rfl (fun candidate => ?_)
      (congrFun (Selecting.selectionOf_congr fields (by decide)) _))
  rw [Selecting.isPicked_of_excluded (fields.runtime (by decide)) (fields.included (by decide))
    excluded, Bool.and_left_comm]

/-- What one option leaves alone, of two deliveries. The marker is the same in all of them. -/
structure OptionReach (a b : Options) (first second : Delivery) : Prop where
  excludeTypeForwards : a.AgreeBut OptionKey.excludeTypeForwards b →
    second.artifacts = first.artifacts
  useAltNamespace : a.AgreeBut OptionKey.useAltNamespaceForNativeCall b →
    List.Forall₂ (Source.SameBut (Artifact.sourceName Artifact.nativeCall))
      first.sources second.sources
  includeRuntimeSupported : a.AgreeBut OptionKey.includeRuntimeSupported b →
    second.forwards = first.forwards ∧
      second.artifacts.filter (generator.isOfCategory .languageSupport ·.name) =
        first.artifacts.filter (generator.isOfCategory .languageSupport ·.name) ∧
      (Configuration.listed (a.effective? OptionKey.includeGeneratedArtifacts) ≠ [] →
        second.sources = first.sources)
  usePublicAccessibility : a.AgreeBut OptionKey.usePublicAccessibility b →
    second.names = first.names ∧ second.forwards = first.forwards
  excludeGeneratedArtifacts : a.AgreeBut OptionKey.excludeGeneratedArtifacts b → ∀ x,
    (∀ name, name ∈ Configuration.listed (b.effective? OptionKey.excludeGeneratedArtifacts) ↔
      name = x ∨ name ∈ Configuration.listed (a.effective? OptionKey.excludeGeneratedArtifacts)) →
    second.sources = .marker ::
      first.artifacts.filter (·.name != Artifact.sourceName x) ++ first.forwards.map .ofForward

theorem optionReach_deliveryOf (a b : Options) :
    generator.OptionReach a b (generator.deliveryOf answer a) (generator.deliveryOf answer b) where
  excludeTypeForwards agree := generator.artifacts_of_excludeTypeForwards answer agree
  useAltNamespace agree := generator.sources_of_useAltNamespace answer agree
  includeRuntimeSupported agree := by
    have forwards := generator.forwards_deliveryOf answer agree (by decide)
    refine ⟨forwards, generator.languageSupport_of_includeRuntimeSupported answer agree, ?_⟩
    intro explicit
    rw [Delivery.sources, Delivery.sources, forwards,
      generator.artifacts_of_includeRuntimeSupported answer agree explicit]
  usePublicAccessibility agree :=
    ⟨generator.names_of_usePublicAccessibility answer agree,
      generator.forwards_deliveryOf answer agree (by decide)⟩
  excludeGeneratedArtifacts agree x extended := by
    rw [Delivery.sources, generator.artifacts_of_excluded answer agree extended,
      generator.forwards_deliveryOf answer agree (by decide)]

variable {generator}

/--
Two evaluations of a covered catalog that get the same answers and are not cancelled both deliver, and
where their options differ in one key only, they differ in nothing but what this key is about.
-/
theorem evaluations_differ_by_option (covered : generator.IsCovered) (history history' : List Call)
    (call call' : Call) (answers : call'.environment.answer = call.environment.answer)
    (uncancelled : (call.run generator (generator.cacheAfter history)).outcome ≠ .error .cancelled)
    (uncancelled' :
      (call'.run generator (generator.cacheAfter history')).outcome ≠ .error .cancelled) :
    ∃ delivery delivery',
      (call.run generator (generator.cacheAfter history)).outcome = .ok delivery ∧
      (call'.run generator (generator.cacheAfter history')).outcome = .ok delivery' ∧
      generator.OptionReach call.options call'.options delivery delivery' := by
  refine ⟨_, _, outcome_run_of_isCovered covered history call uncancelled,
    outcome_run_of_isCovered covered history' call' uncancelled', ?_⟩
  rw [answers]
  exact generator.optionReach_deliveryOf call.environment.answer call.options call'.options

/-- Each of five options is changed once, against a target that lacks everything. -/
theorem builtin_evaluations_differ_by_option :
    let call (entries : List (String × String)) : Call :=
      { environment := { forwardTargets := ["System.Index"] : Snapshot }.environment
        raised := false
        options := .ofList (("ExcludeGeneratedArtifacts", "System.Range") :: entries)
        interference := .none }
    let outcome (entries : List (String × String)) :=
      ((call entries).run builtin (builtin.cacheAfter [])).outcome
    ∃ base unforwarded moved extended visible shorter,
      outcome [] = .ok base ∧
      outcome [("ExcludeTypeForwards", "true")] = .ok unforwarded ∧
      unforwarded.artifacts = base.artifacts ∧
      outcome [("UseAltNamespaceForNativeCall", "true")] = .ok moved ∧
      List.Forall₂ (Source.SameBut (Artifact.sourceName Artifact.nativeCall))
        base.sources moved.sources ∧
      outcome [("build_property.IncludeRuntimeSupported", "true")] = .ok extended ∧
      extended.forwards = base.forwards ∧
      outcome [("UsePublicAccessibility", "true")] = .ok visible ∧
      visible.names = base.names ∧
      outcome [("ExcludeGeneratedArtifacts", "System.Range;System.Index")] = .ok shorter ∧
      shorter.sources = .marker ::
        base.artifacts.filter (·.name != Artifact.sourceName "System.Index") ++
          base.forwards.map .ofForward := by
  intro call outcome
  have uncancelled (entries : List (String × String)) : outcome entries ≠ .error .cancelled := by
    obtain ⟨delivery, completed⟩ := completes_of_isCovered isCovered_builtin (builtin.cacheAfter [])
      { forwardTargets := ["System.Index"] } (call entries).options
    exact fun cancelled => nomatch completed.symm.trans cancelled
  have compared (entries : List (String × String)) := evaluations_differ_by_option isCovered_builtin
    [] [] (call []) (call entries) rfl (uncancelled []) (uncancelled entries)
  obtain ⟨base, _, delivered, -⟩ := compared []
  have reach (entries : List (String × String)) : ∃ delivery, outcome entries = .ok delivery ∧
      builtin.OptionReach (call []).options (call entries).options base delivery := by
    obtain ⟨first, delivery, same, other, reach⟩ := compared entries
    cases delivered.symm.trans same
    exact ⟨delivery, other, reach⟩
  obtain ⟨unforwarded, first, reach₁⟩ := reach [("ExcludeTypeForwards", "true")]
  obtain ⟨moved, second, reach₂⟩ := reach [("UseAltNamespaceForNativeCall", "true")]
  obtain ⟨extended, third, reach₃⟩ := reach [("build_property.IncludeRuntimeSupported", "true")]
  obtain ⟨visible, fourth, reach₄⟩ := reach [("UsePublicAccessibility", "true")]
  obtain ⟨shorter, fifth, reach₅⟩ :=
    reach [("ExcludeGeneratedArtifacts", "System.Range;System.Index")]
  have before : Configuration.listed ((call []).options.effective?
      OptionKey.excludeGeneratedArtifacts) = ["System.Range"] := by decide +kernel
  have after : Configuration.listed ((call [("ExcludeGeneratedArtifacts",
      "System.Range;System.Index")]).options.effective? OptionKey.excludeGeneratedArtifacts) =
      ["System.Range", "System.Index"] := by decide +kernel
  have longer (name : String) : name ∈ ["System.Range", "System.Index"] ↔
      name = "System.Index" ∨ name ∈ ["System.Range"] := by
    simp [or_comm]
  exact ⟨base, unforwarded, moved, extended, visible, shorter, delivered,
    first, reach₁.excludeTypeForwards (by decide +kernel),
    second, reach₂.useAltNamespace (by decide +kernel),
    third, (reach₃.includeRuntimeSupported (by decide +kernel)).1,
    fourth, (reach₄.usePublicAccessibility (by decide +kernel)).1,
    fifth, reach₅.excludeGeneratedArtifacts (by decide +kernel) "System.Index"
      (after ▸ before ▸ longer)⟩

end Generator

end Polyfill
