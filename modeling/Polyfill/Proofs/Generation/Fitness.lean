import Polyfill.Proofs.Generation.Determination
import Polyfill.Proofs.Template.BuiltinLines

/-!
# Sources that fit their environment

The fixups of a built-in artifact depend on the environment, and its template is tidy. So whatever the
environment lacks is not mentioned in the source, and where nothing has to be changed the source is the
template, byte for byte. As evaluations leave no trace in what later ones deliver, none of this depends
on the evaluations before.
-/

namespace Polyfill

/-! ## Fixups -/

namespace Selecting

theorem has_fixupsFor (configuration : Configuration) (conditions : Conditions)
    {candidate : Candidate} (bare : candidate.intrinsicFixups = .empty) (fixup : Fixup) :
    (fixupsFor configuration conditions candidate).has fixup =
      match fixup with
      | .removeCoverageExclusionHints => !conditions.coverageExclusion
      | .removeMethodImplHints =>
        !conditions.methodImplHints && Template.Builtin.isHinted candidate.id
      | .aliasNamespaceForNativeCallArtifact =>
        candidate.id == Artifact.nativeCall && configuration.useAltNamespaceForNativeCall
      | .emitGlobalAliasForInlineArrayArtifact =>
        candidate.id == Artifact.inlineArray && conditions.globalAliases
      | .generateAliasOnly => false := by
  cases fixup <;> simp [fixupsFor, bare, Template.Builtin.isHinted]

end Selecting

theorem Template.materialize_of_unasked (template : String) {fixups : FixupSet}
    (unasked : ∀ fixup, fixups.has fixup = false) : materialize template false fixups = template := by
  simp [materialize, materializeChars, materializeBody, stepIf, unasked]

/-! ## Built-in templates -/

namespace Catalog

theorem exists_template_of_mem_builtin {candidate : Candidate}
    (listed : candidate ∈ builtin.candidates) :
    candidate.intrinsicFixups = .empty ∧ ∃ template, Templates.builtin[candidate.id]? = some template ∧
      (candidate.id, template) ∈ Template.Builtin.all := by
  have listed : candidate ∈ builtinCandidates := List.mem_mergeSort.mp listed
  have ids : builtinCandidates.map (·.id) = Template.Builtin.all.map (·.1) := by
    simp [builtinCandidates, Template.Builtin.all, Function.comp_def]
  have distinct : Template.Builtin.all.Pairwise fun a b => ¬ compare a.1 b.1 = .eq := by
    have nodup := builtinCandidates_nodup
    rw [ids, List.Nodup, List.pairwise_map] at nodup
    exact nodup.imp fun apart same => apart (Std.LawfulEqCmp.eq_of_compare same)
  have bare : candidate.intrinsicFixups = .empty := by
    rw [builtinCandidates, List.mem_append, List.mem_map, List.mem_map] at listed
    rcases listed with ⟨entry, -, rfl⟩ | ⟨entry, -, rfl⟩ <;> rfl
  have member := List.mem_map_of_mem (f := (·.id)) listed
  rw [ids] at member
  obtain ⟨⟨id, template⟩, entry, same⟩ := List.mem_map.mp member
  obtain rfl : id = candidate.id := same
  exact ⟨bare, template, Std.TreeMap.getElem?_ofList_of_mem Std.ReflCmp.compare_self distinct entry, entry⟩

end Catalog

/-! ## Fitting sources -/

namespace Source

/-- A source holds a block of characters. -/
def Mentions (source : Source) (block : String) : Prop :=
  block.toList <:+: source.text.toList

/--
A source fits an environment and the configuration that it has been generated with. A public one neither
has the word `internal` nor a marker; an attribute that the environment lacks, or whose argument does
not exist there, is not used; there are no aliases for all files where the language has none. Where
nothing of this calls for a change, nor for an alternate namespace, the source is the stored template.
-/
structure Fits (source : Source) (answer : Query → Bool) (configuration : Configuration) : Prop where
  visibility : configuration.usePublicAccessibility = true →
    Text.occurs (Text.wholeWord "internal".toList) source.text.toList = false
  marker : configuration.usePublicAccessibility = true → ¬ source.Mentions "Embedded"
  coverage : answer (.isAccessible Artifact.coverageExclusion) = false →
    ¬ source.Mentions "ExcludeFromCodeCoverage"
  hints : answer (.isPresent Artifact.aggressiveInlining) = false → ¬ source.Mentions "MethodImpl"
  aliases : answer .supportsGlobalAliases = false → ¬ source.Mentions "global using"
  untouched : configuration.usePublicAccessibility = false →
    answer (.isAccessible Artifact.coverageExclusion) = true →
    answer (.isPresent Artifact.aggressiveInlining) = true →
    configuration.useAltNamespaceForNativeCall = false → answer .supportsGlobalAliases = false →
      ∃ id, source.name = Artifact.sourceName id ∧ Templates.builtin[id]? = some source.text

end Source

namespace Generator

open Template

/-- What a candidate of the built-in catalog is generated as fits the answers that it depends on. -/
theorem fits_of_mem_builtin {candidate : Candidate} (listed : candidate ∈ Catalog.builtin.candidates)
    (answer : Query → Bool) (configuration : Configuration) :
    (Templates.builtin.sourceOf
      (Selecting.selectionOf configuration (Selecting.conditionsOf answer) candidate)).Fits
        answer configuration := by
  obtain ⟨bare, template, found, entry⟩ := Catalog.exists_template_of_mem_builtin listed
  have tidy := Builtin.isTidy_of_mem_all _ entry
  have has := Selecting.has_fixupsFor configuration (Selecting.conditionsOf answer) bare
  generalize whole : Templates.builtin.sourceOf _ = source
  have text : source.text = materialize template configuration.usePublicAccessibility
      (Selecting.fixupsFor configuration (Selecting.conditionsOf answer) candidate) := by
    simp [← whole, Templates.sourceOf, Selecting.selectionOf, found]
  have silent {block : String} {letters : List Char} (spelled : block.toList = letters)
      (nonempty : letters ≠ [])
      (free : Text.occurs (Text.verbatim letters) source.text.toList = false) :
      ¬ source.Mentions block := by
    rwa [Source.Mentions, spelled, ← Text.occurs_verbatim_eq_false_iff nonempty]
  rw [text, toList_materialize] at silent
  constructor
  case visibility =>
    intro asked
    rw [text, toList_materialize]
    exact tidy.occurs_restricted asked
  case marker =>
    intro asked
    exact silent (by decide) (Removable.letters_ne_nil .marker) (tidy.occurs_letters fun _ => asked)
  case coverage =>
    intro missing
    refine silent (by decide) (Removable.letters_ne_nil .exclusion) (tidy.occurs_letters fun _ => ?_)
    rw [Removable.isAsked, has]
    simp [Selecting.conditionsOf, missing]
  case hints =>
    intro missing
    refine silent (by decide) (Removable.letters_ne_nil .hint) (tidy.occurs_letters fun used => ?_)
    rw [Removable.isAsked, has]
    simp [Selecting.conditionsOf, missing, used rfl]
  case aliases =>
    intro unsupported
    refine silent (by decide) globalUsing_ne_nil (tidy.occurs_globalUsing (has _) ?_)
    rw [has]
    simp [Selecting.conditionsOf, unsupported]
  case untouched =>
    intro restricted coverage hints plain aliases
    refine ⟨candidate.id, by rw [← whole]; rfl, ?_⟩
    rw [found, text, restricted, materialize_of_unasked]
    intro fixup
    rw [has]
    cases fixup <;> simp [Selecting.conditionsOf, coverage, hints, plain, aliases]

/--
Whatever evaluations there have been, with whatever options and in whatever environments: each artifact
that an evaluation of the built-in generator delivers fits the environment and the configuration of this
evaluation.
-/
theorem builtin_artifacts_fit (history : List Call) (call : Call) {delivery : Delivery}
    (completed : (call.run builtin (builtin.cacheAfter history)).outcome = .ok delivery) :
    ∀ source ∈ delivery.artifacts,
      source.Fits call.environment.answer (builtin.resolve call.options).configuration := by
  have same := eq_deliveryOf_of_completed isCovered_builtin (builtin.agrees_cacheAfter history) completed
  have resolved : (builtin.resolve call.options).configuration =
      .ofValues call.options.effective? := Configuration.configuration_resolve _ _
  intro source delivered
  rw [same, deliveryOf] at delivered
  obtain ⟨selection, chosen, rfl⟩ := List.mem_map.mp delivered
  obtain ⟨candidate, listed, rfl⟩ := Selecting.exists_selectionOf_of_mem_chosen chosen
  rw [resolved]
  exact fits_of_mem_builtin listed call.environment.answer _

/--
After an evaluation for a target that has everything, the index type is made public for one that has
nothing, and its source does without all that this target lacks.
-/
theorem builtin_index_fits_old_target :
    let modern : Snapshot := { accessible := [Artifact.coverageExclusion, Artifact.aggressiveInlining] }
    let old : Snapshot := { globalAliasesSupported := false }
    let options : Options := .ofList [("UsePublicAccessibility", "true")]
    let history : List Call := [⟨modern.environment, false, ∅, .none⟩]
    let call : Call := ⟨old.environment, false, options, .none⟩
    ∃ delivery, (call.run builtin (builtin.cacheAfter history)).outcome = .ok delivery ∧
      ∃ source ∈ delivery.artifacts, source.name = Artifact.sourceName Artifact.index ∧
        Text.occurs (Text.wholeWord "internal".toList) source.text.toList = false ∧
        ¬ source.Mentions "Embedded" ∧ ¬ source.Mentions "ExcludeFromCodeCoverage" ∧
        ¬ source.Mentions "MethodImpl" ∧ ¬ source.Mentions "global using" := by
  intro modern old options history call
  obtain ⟨delivery, completed⟩ : ∃ delivery,
      (call.run builtin (builtin.cacheAfter history)).outcome = .ok delivery :=
    ⟨_, outcome_evaluate_of_snapshot isCovered_builtin history old options⟩
  have listed : (⟨Artifact.index, .languageSupport, .empty⟩ : Candidate) ∈ builtin.catalog.candidates :=
    List.mem_mergeSort.mpr (by decide +kernel)
  have wanted : old.Generates options ⟨Artifact.index, .languageSupport, .empty⟩ :=
    of_decide_eq_true (by cbv)
  have generated : delivery.Generates Artifact.index :=
    (generates_iff_of_snapshot completed _).mpr ⟨_, listed, wanted, rfl⟩
  obtain ⟨source, delivered, named⟩ := List.mem_map.mp generated
  have fits := builtin_artifacts_fit history call completed source delivered
  have asked : (builtin.resolve options).configuration.usePublicAccessibility = true := by
    rw [resolve, Configuration.configuration_resolve]
    decide +kernel
  exact ⟨delivery, completed, source, delivered, named, fits.visibility asked, fits.marker asked,
    fits.coverage rfl, fits.hints rfl, fits.aliases rfl⟩

end Generator

end Polyfill
