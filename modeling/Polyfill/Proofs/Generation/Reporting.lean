import Polyfill.Proofs.Catalog.Lookup
import Polyfill.Proofs.Generation.Cancellation
import Polyfill.Proofs.Generation.Delivery
import Polyfill.Proofs.Options.Influence
import Polyfill.Report

/-!
# What an evaluation reports

A completed evaluation reports, in this order, the flags that are neither true nor false, the listed
tokens that name no artifact, and that the language is too old. Only the last is an error. Nothing that is
reported keeps an evaluation from completing, or changes what it generates.
-/

namespace Polyfill

open Inquiry

namespace Configuration

/-- What a flag cannot be set to: anything but true and false, in any case of ASCII letters, or nothing. -/
def IsMalformed (value : String) : Prop :=
  value ≠ "" ∧ ∀ word ∈ ["true", "false"], value.toLower ≠ word

instance (value : String) : Decidable (IsMalformed value) :=
  inferInstanceAs (Decidable (_ ∧ _))

theorem sameLetters_iff {a b : String} : sameLetters a b = true ↔ a.toLower = b.toLower := by
  have lower (text : String) : text.toLower.toList = text.toList.map Char.toLower := String.toList_map
  rw [sameLetters, beq_iff_eq, ← String.toList_inj, lower, lower]

theorem isMalformed_iff {value : String} : IsMalformed value ↔
    (value.isEmpty || sameLetters value "true" || sameLetters value "false") = false := by
  have lower : "true".toLower = "true" ∧ "false".toLower = "false" := by decide +kernel
  simp only [IsMalformed, ← Bool.not_eq_true, Bool.or_eq_true, not_or, sameLetters_iff, lower,
    String.isEmpty_iff, List.forall_mem_cons, List.not_mem_nil, false_implies, implies_true, and_true,
    ne_eq, and_assoc]

theorem flagFindings_eq (key : String) (value? : Option String) :
    flagFindings key value? = ((value?.filter IsMalformed).map fun value =>
      .ofDescriptor .invalidBoolOption [value, key]).toList := by
  cases value? with
  | none => rfl
  | some value =>
    rw [flagFindings]
    cases accepted : value.isEmpty || sameLetters value "true" || sameLetters value "false" with
    | true =>
      have formed : ¬ IsMalformed value := by simp [isMalformed_iff, accepted]
      simp [Option.filter_some, formed]
    | false =>
      simp [Option.filter_some, isMalformed_iff.mpr accepted]

theorem listFindings_eq (catalog : Catalog) (key : String) (value? : Option String) :
    listFindings catalog key value? =
      ((listed value?).filter (· ∉ catalog.candidates.map (·.id))).map fun token =>
        .ofDescriptor .unknownArtifactName [token, key] := by
  have unknown (token : String) :
      (!catalog.contains token) = decide (token ∉ catalog.candidates.map (·.id)) := by
    rw [Bool.eq_iff_iff, Bool.not_eq_true', Bool.eq_false_iff, decide_eq_true_iff, ne_eq,
      Catalog.contains_iff, List.mem_map]
  simp only [listFindings, unknown]

/-- What is found about values: first each malformed flag, then token by token what is unknown. -/
theorem findings_eq (catalog : Catalog) (value? : String → Option String) :
    findings catalog value? =
      (OptionKey.flags.filterMap fun key =>
        ((value? key).filter IsMalformed).map fun value => [value, key]).map
          (.ofDescriptor .invalidBoolOption) ++
      (OptionKey.lists.flatMap fun key =>
        ((listed (value? key)).filter (· ∉ catalog.candidates.map (·.id))).map fun token =>
          [token, key]).map (.ofDescriptor .unknownArtifactName) := by
  rw [findings, List.map_filterMap, List.filterMap_eq_flatMap_toList, List.map_flatMap]
  simp only [flagFindings_eq, listFindings_eq, OptionKey.lists, List.flatMap_cons, List.flatMap_nil,
    List.append_nil, List.append_assoc, Option.map_map, List.map_map, Function.comp_def]

theorem isError_of_mem_findings {catalog : Catalog} {value? : String → Option String}
    {diagnostic : Diagnostic} (found : diagnostic ∈ findings catalog value?) :
    diagnostic.isError = false := by
  rw [findings_eq, List.mem_append, List.mem_map, List.mem_map] at found
  rcases found with ⟨_, -, rfl⟩ | ⟨_, -, rfl⟩ <;> rfl

end Configuration

/-- An evaluation without what it reports. -/
def Evaluation.unreported (evaluation : Evaluation) : Evaluation :=
  { evaluation with outcome := evaluation.outcome.map fun delivery => { delivery with diagnostics := [] } }

theorem Report.hasErrors_make (sources : List Source) (diagnostics : List Diagnostic) :
    (Report.make sources diagnostics).hasErrors = diagnostics.any (·.isError) := by
  have named (severity : Severity) :
      (severity.name == Severity.error.name) = (severity == .error) := by
    cases severity <;> decide
  simp only [hasErrors, make, List.any_map, Function.comp_def, named, Diagnostic.isError]

theorem Templates.materialize_eq_error_iff {templates : Templates} {selection : Selection}
    {missing : MissingTemplate} :
    templates.materialize selection = .error missing ↔
      selection.id ∉ templates ∧ missing = ⟨selection.id⟩ := by
  rw [Std.TreeMap.mem_iff_isSome_getElem?, materialize]
  cases templates[selection.id]? with
  | none => simp [eq_comm]
  | some template => simp

namespace Generator

variable (generator : Generator) (interference : Interference) (cache : Cache)
  (environment : Environment) (raised : Bool) (options : Options)

theorem diagnosticsOf_eq (answer : Query → Bool) :
    generator.diagnosticsOf answer options =
      Configuration.findings generator.catalog options.effective? ++
        if answer .supportsPipeline then [] else [.ofDescriptor .unsupportedLanguageLevel []] := by
  rw [diagnosticsOf, resolve, Configuration.diagnostics_resolve]
  split <;> simp

theorem any_isError_diagnosticsOf (answer : Query → Bool) :
    (generator.diagnosticsOf answer options).any (·.isError) = !answer .supportsPipeline := by
  have options_fine :
      (Configuration.findings generator.catalog options.effective?).any (·.isError) = false :=
    List.any_eq_false.mpr fun _ found => by simp [Configuration.isError_of_mem_findings found]
  rw [diagnosticsOf_eq, List.any_append, options_fine, Bool.false_or]
  cases answer .supportsPipeline <;> rfl

/-! ## Diagnostics and generation -/

theorem exists_of_materializeAll_error {templates : Templates} {selections : List Selection}
    {missing : MissingTemplate} {after : Cache}
    (stopped : materializeAll templates selections cache = (.error missing, after)) :
    ∃ selection ∈ selections, selection.id ∉ templates ∧ missing = ⟨selection.id⟩ := by
  induction selections generalizing cache after with
  | nil => cases stopped
  | cons selection rest ih =>
    rcases obtained : cache.obtain selection fun _ => templates.materialize selection with
      ⟨text, between⟩
    rcases remaining : materializeAll templates rest between with ⟨others, last⟩
    simp only [materializeAll, obtained, remaining] at stopped
    cases text with
    | error fault =>
      obtain rfl : fault = missing := Except.error.inj (Prod.mk.inj stopped).1
      have failed := cache.compute_of_obtain_error selection _ obtained
      exact ⟨selection, List.mem_cons_self, Templates.materialize_eq_error_iff.mp failed⟩
    | ok text =>
      cases others with
      | ok others => cases (Prod.mk.inj stopped).1
      | error fault =>
        obtain rfl : fault = missing := Except.error.inj (Prod.mk.inj stopped).1
        obtain ⟨other, member, untemplated⟩ := ih between remaining
        exact ⟨other, List.mem_cons_of_mem _ member, untemplated⟩

/-- An evaluation completes, unless the flag is up or a chosen artifact has no template. -/
theorem completes_unless :
    let evaluation := generator.evaluateAmid interference cache environment raised options
    (∃ delivery, evaluation.outcome = .ok delivery) ∨
      evaluation.outcome = .error .cancelled ∧ evaluation.progress.raised = true ∨
      ∃ selection ∈ Selecting.chosen environment.answer (generator.resolve options).configuration
        generator.catalog, selection.id ∉ generator.templates ∧
          evaluation.outcome = .error (.missingTemplate ⟨selection.id⟩) := by
  intro evaluation
  have plan := (generator.yields_plan environment options).outcome { raised }
  have ending := ending_evaluateAmid generator interference cache environment raised options
  change Ending _ _ _ _ _ _ evaluation at ending
  generalize evaluation = evaluation at ending ⊢
  cases ending with
  | stopped planned =>
    rw [planned] at plan
    exact .inr (.inl ⟨rfl, by simpa using plan⟩)
  | missing planned materialized =>
    simp only [planned, Except.ok.injEq, Prod.mk.injEq, reduceCtorEq, false_and, or_false] at plan
    obtain ⟨-, -, rfl⟩ := plan
    obtain ⟨selection, member, untemplated, rfl⟩ := exists_of_materializeAll_error cache materialized
    exact .inr (.inr ⟨selection, (List.mem_filter.mp member).1, untemplated, rfl⟩)
  | givenUp => exact .inr (.inl ⟨rfl, rfl⟩)
  | @cancelledLate configuration _ _ progress _ _ _ planned _ run =>
    have finish := (generator.yields_finish environment configuration).outcome
      { progress with raised := progress.raised || interference.raisesAfter }
    rw [run] at finish
    exact .inr (.inl ⟨rfl, by simpa using finish⟩)
  | completed => exact .inl ⟨_, rfl⟩

/-- What is planned depends on the options through their configuration, the diagnostics apart. -/
theorem runFrom_plan (progress : Progress) :
    (generator.plan environment options).runFrom progress =
      ((ask environment .supportsPipeline >>= fun _ => Selecting.select generator.catalog environment
          (generator.resolve options).configuration).runFrom progress).map
        (Except.map fun selections => ((generator.resolve options).configuration,
          generator.diagnosticsOf environment.answer options, selections)) id := by
  simp only [plan, runFrom_bind, runFrom_ask]
  rcases Inquiry.runFrom (Selecting.select _ _ _) _ with ⟨_ | _, _⟩ <;> rfl

theorem unreported_evaluateAmid {other : Options}
    (same : (generator.resolve other).configuration = (generator.resolve options).configuration) :
    (generator.evaluateAmid interference cache environment raised other).unreported =
      (generator.evaluateAmid interference cache environment raised options).unreported := by
  simp only [evaluateAmid, runFrom_plan, same]
  rcases Inquiry.runFrom (ask environment .supportsPipeline >>= _) _ with ⟨stop | selections, progress⟩
  · rfl
  · simp only [Prod.map_apply, Except.map, id]
    rcases materializeAll _ _ _ with ⟨missing | artifacts, after⟩
    · rfl
    · simp only
      split
      · rfl
      · rcases Inquiry.runFrom (generator.finish _ _) _ with ⟨_ | _, _⟩ <;> rfl

/--
A completed evaluation hands exactly this over, in order: one diagnostic for each flag whose effective
value is malformed, one for each token of the exclusions and then of the inclusions that is no artifact's id,
as often as it is listed, and one if the language is too old, which alone makes an error of the report. No
evaluation ends early for what it would report: only for the flag or for a missing template. Options of the
same configuration are generated for alike.
-/
theorem evaluate_reports (generator : Generator) (interference : Interference) (cache : Cache)
    (environment : Environment) (raised : Bool) (options : Options) :
    let evaluation := generator.evaluateAmid interference cache environment raised options
    let known := generator.catalog.candidates.map (·.id)
    (∀ delivery, evaluation.outcome = .ok delivery →
      delivery.diagnostics =
          (OptionKey.flags.filterMap fun key =>
            ((options.effective? key).filter Configuration.IsMalformed).map fun value =>
              [value, key]).map (.ofDescriptor .invalidBoolOption) ++
          (OptionKey.lists.flatMap fun key =>
            ((Configuration.listed (options.effective? key)).filter (· ∉ known)).map fun token =>
              [token, key]).map (.ofDescriptor .unknownArtifactName) ++
          (if environment.answer .supportsPipeline then []
            else [.ofDescriptor .unsupportedLanguageLevel []]) ∧
        (∀ sinks, (evaluation.deliverTo sinks).diagnostics =
          sinks.diagnostics ++ delivery.diagnostics) ∧
        evaluation.summary?.map (·.diagnostics) = some delivery.diagnostics.length ∧
        ((Report.make delivery.sources delivery.diagnostics).hasErrors = true ↔
          environment.answer .supportsPipeline = false)) ∧
    ((∃ delivery, evaluation.outcome = .ok delivery) ∨
      evaluation.outcome = .error .cancelled ∧ evaluation.progress.raised = true ∨
      ∃ selection ∈ Selecting.chosen environment.answer (generator.resolve options).configuration
        generator.catalog, selection.id ∉ generator.templates ∧
          evaluation.outcome = .error (.missingTemplate ⟨selection.id⟩)) ∧
    ∀ other,
      (generator.resolve other).configuration = (generator.resolve options).configuration →
        (generator.evaluateAmid interference cache environment raised other).unreported =
          evaluation.unreported := by
  intro evaluation known
  refine ⟨fun delivery completed => ?_, ?_, ?_⟩
  · obtain ⟨diagnostics, -⟩ := delivered_of_completed completed
    refine ⟨?_, fun sinks => by rw [Evaluation.deliverTo_of_ok completed], ?_, ?_⟩
    · rw [diagnostics, diagnosticsOf_eq, Configuration.findings_eq]
    · rw [Evaluation.summary?, completed]
      rfl
    · rw [Report.hasErrors_make, diagnostics, any_isError_diagnosticsOf, Bool.not_eq_true']
  · exact completes_unless generator interference cache environment raised options
  · exact fun other same =>
      unreported_evaluateAmid generator interference cache environment raised options same

/-- Flags in two spellings and in other cases, a token listed twice, and a language that is too old. -/
theorem evaluate_reports_five :
    let generator : Generator :=
      { catalog := .ofDistinct [⟨"Demo.Alpha", .languageSupport, .empty⟩] (by simp)
        templates := ∅
        forwardCandidates := [] }
    let environment : Environment := { answer := fun _ => false, raises := fun _ _ => false }
    let options : Options := .ofList [("UsePublicAccessibility", "on"),
      ("build_property.UsePublicAccessibility", "TRUE"), ("ExcludeTypeForwards", "\x7b1\x7d"),
      ("IncludeRuntimeSupported", ""), ("IncludeGeneratedArtifacts", "Demo.Beta"),
      ("build_property.ExcludeGeneratedArtifacts", "Demo.Beta; demo.alpha,Demo.Alpha,Demo.Beta")]
    ∃ delivery, (generator.evaluate ∅ environment false options).outcome = .ok delivery ∧
      delivery.diagnostics =
        [.ofDescriptor .invalidBoolOption ["\x7b1\x7d", "ExcludeTypeForwards"],
          .ofDescriptor .unknownArtifactName ["Demo.Beta", "ExcludeGeneratedArtifacts"],
          .ofDescriptor .unknownArtifactName ["demo.alpha", "ExcludeGeneratedArtifacts"],
          .ofDescriptor .unknownArtifactName ["Demo.Beta", "ExcludeGeneratedArtifacts"],
          .ofDescriptor .unknownArtifactName ["Demo.Beta", "IncludeGeneratedArtifacts"],
          .ofDescriptor .unsupportedLanguageLevel []] ∧
      (Report.make delivery.sources delivery.diagnostics).hasErrors = true := by
  intro generator environment options
  have malformed : (OptionKey.flags.filterMap fun key =>
      ((options.effective? key).filter Configuration.IsMalformed).map fun value => [value, key]) =
        [["\x7b1\x7d", "ExcludeTypeForwards"]] := by decide +kernel
  have unknown : (OptionKey.lists.flatMap fun key =>
      ((Configuration.listed (options.effective? key)).filter
        (· ∉ generator.catalog.candidates.map (·.id))).map fun token => [token, key]) =
        [["Demo.Beta", "ExcludeGeneratedArtifacts"], ["demo.alpha", "ExcludeGeneratedArtifacts"],
          ["Demo.Beta", "ExcludeGeneratedArtifacts"], ["Demo.Beta", "IncludeGeneratedArtifacts"]] := by
    decide +kernel
  obtain ⟨reports, ends, -⟩ := evaluate_reports generator .none ∅ environment false options
  rcases ends with ⟨delivery, completed⟩ | ⟨-, up⟩ | ⟨selection, chosen, -⟩
  · obtain ⟨diagnostics, -, -, errors⟩ := reports delivery completed
    refine ⟨delivery, completed, diagnostics.trans ?_, errors.mpr rfl⟩
    rw [malformed, unknown]
    rfl
  · have down : (generator.evaluateAmid .none ∅ environment false options).progress.raised = false := by
      decide +kernel
    cases down.symm.trans up
  · cases chosen

end Generator

end Polyfill
