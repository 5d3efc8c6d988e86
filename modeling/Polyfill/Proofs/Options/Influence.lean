import Mathlib.Data.List.Basic
import Polyfill.Catalog.Builtin
import Polyfill.Proofs.Options.Effective

/-!
# What resolution depends on

Configuration and diagnostics depend on nothing but the effective values of the recognized keys, and the
configuration on even less: on whether a flag is on, and on which tokens a list has. Keys in any other
spelling do not count.
-/

namespace Polyfill

namespace OptionKey

def lists : List String :=
  [excludeGeneratedArtifacts, includeGeneratedArtifacts]

theorem mem_all_iff {key : String} : key ∈ all ↔ key ∈ flags ∨ key ∈ lists :=
  List.mem_append

theorem not_mem_flags_of_mem_lists {key : String} (list : key ∈ lists) : key ∉ flags := by
  revert key
  decide

end OptionKey

namespace Options

variable {options : Options} {key other : String}

theorem effective?_insert_of_not_mem (differs : key ∉ OptionKey.spellings other) (value : String) :
    effective? (options.insert key value) other = options.effective? other := by
  simp only [OptionKey.spellings, List.mem_cons, List.not_mem_nil, or_false, not_or] at differs
  simp [effective?, Std.TreeMap.getElem?_insert, differs]

theorem effective?_erase_of_not_mem (differs : key ∉ OptionKey.spellings other) :
    effective? (options.erase key) other = options.effective? other := by
  simp only [OptionKey.spellings, List.mem_cons, List.not_mem_nil, or_false, not_or] at differs
  simp [effective?, Std.TreeMap.getElem?_erase, differs]

end Options

namespace Configuration

/-- What is reported about the value of a flag. -/
def flagFindings (key : String) (value? : Option String) : List Diagnostic :=
  match value? with
  | none => []
  | some value =>
    if value.isEmpty || sameLetters value "true" || sameLetters value "false" then []
    else [.ofDescriptor .invalidBoolOption [value, key]]

/-- What is reported about the value of a list: each token that names no artifact. -/
def listFindings (catalog : Catalog) (key : String) (value? : Option String) : List Diagnostic :=
  ((listed value?).filter (!catalog.contains ·)).map fun name =>
    .ofDescriptor .unknownArtifactName [name, key]

/-- What is reported about values of the recognized keys. -/
def findings (catalog : Catalog) (value? : String → Option String) : List Diagnostic :=
  OptionKey.flags.flatMap (fun key => flagFindings key (value? key)) ++
    listFindings catalog OptionKey.excludeGeneratedArtifacts
      (value? OptionKey.excludeGeneratedArtifacts) ++
    listFindings catalog OptionKey.includeGeneratedArtifacts
      (value? OptionKey.includeGeneratedArtifacts)

theorem readFlag_snd (options : Options) (key : String) :
    (readFlag options key).2 = flagFindings key options[key]? := by
  unfold readFlag
  cases options[key]? with
  | none => rfl
  | some value =>
    simp only [flagFindings]
    split
    · simp_all
    · split <;> simp_all

theorem diagnostics_resolve (catalog : Catalog) (raw : Options) :
    (resolve catalog raw).diagnostics = findings catalog raw.effective? := by
  simp only [resolve, findings, readFlag_snd, readList, listFindings, listed, OptionKey.flags,
    List.flatMap_cons, List.flatMap_nil, List.append_nil]
  simp (disch := decide) only [Options.getElem?_underPlainKeys_of_mem, List.append_assoc]

/-- Resolving comes to what the effective values come to and to what is found about them. -/
theorem resolve_eq (catalog : Catalog) (raw : Options) :
    resolve catalog raw = ⟨ofValues raw.effective?, findings catalog raw.effective?⟩ := by
  rw [← configuration_resolve catalog, ← diagnostics_resolve]

theorem ofValues_eq_iff {value? other? : String → Option String} :
    ofValues value? = ofValues other? ↔
      (∀ key ∈ OptionKey.flags, isOn (value? key) = isOn (other? key)) ∧
      ∀ key ∈ OptionKey.lists, ∀ token, token ∈ listed (value? key) ↔ token ∈ listed (other? key) := by
  have sets (names names' : List String) :
      NameSet.ofList names = NameSet.ofList names' ↔ ∀ token, token ∈ names ↔ token ∈ names' := by
    rw [NameSet.ext_iff]
    simp only [NameSet.mem_ofList]
  simp only [ofValues, mk.injEq, sets, OptionKey.flags, OptionKey.lists, List.forall_mem_cons,
    List.not_mem_nil, false_implies, implies_true, and_true]
  constructor
  · rintro ⟨isPublic, runtime, altNamespace, noForwards, included, excluded⟩
    exact ⟨⟨isPublic, runtime, altNamespace, noForwards⟩, excluded, included⟩
  · rintro ⟨⟨isPublic, runtime, altNamespace, noForwards⟩, excluded, included⟩
    exact ⟨isPublic, runtime, altNamespace, noForwards, included, excluded⟩

theorem resolve_congr_of_listed (catalog : Catalog) {raw other : Options}
    (flags : ∀ key ∈ OptionKey.flags, raw.effective? key = other.effective? key)
    (lists : ∀ key ∈ OptionKey.lists,
      listed (raw.effective? key) = listed (other.effective? key)) :
    resolve catalog raw = resolve catalog other := by
  rw [resolve_eq, resolve_eq, Resolved.mk.injEq, ofValues_eq_iff]
  refine ⟨⟨fun key flag => by rw [flags key flag], fun key list token => by rw [lists key list]⟩, ?_⟩
  simp only [findings, listFindings]
  rw [lists _ (by decide), lists _ (by decide), List.flatMap_congr fun key flag => by rw [flags key flag]]

theorem resolve_congr (catalog : Catalog) {raw other : Options}
    (agree : ∀ key ∈ OptionKey.all, raw.effective? key = other.effective? key) :
    resolve catalog raw = resolve catalog other :=
  resolve_congr_of_listed catalog
    (fun key flag => agree key (OptionKey.mem_all_iff.mpr (.inl flag)))
    (fun key list => congrArg listed (agree key (OptionKey.mem_all_iff.mpr (.inr list))))

/--
Options with the same effective values of the recognized keys resolve alike, so that a key in any other
spelling may come or go. The configurations are equal if and only if the effective values turn on the same
flags and list the same tokens.
-/
theorem resolution_depends_on_effective_values (catalog : Catalog) (raw other : Options) :
    ((∀ key ∈ OptionKey.all, raw.effective? key = other.effective? key) →
      resolve catalog raw = resolve catalog other) ∧
    ((resolve catalog raw).configuration = (resolve catalog other).configuration ↔
      (∀ key ∈ OptionKey.flags, isOn (raw.effective? key) = isOn (other.effective? key)) ∧
      ∀ key ∈ OptionKey.lists, ∀ token,
        token ∈ listed (raw.effective? key) ↔ token ∈ listed (other.effective? key)) ∧
    ∀ key, (∀ recognized ∈ OptionKey.all, key ∉ OptionKey.spellings recognized) →
      (∀ value, resolve catalog (raw.insert key value) = resolve catalog raw) ∧
      resolve catalog (raw.erase key) = resolve catalog raw := by
  refine ⟨resolve_congr catalog, ?_, fun key unknown => ⟨fun value => ?_, ?_⟩⟩
  · rw [configuration_resolve, configuration_resolve, ofValues_eq_iff]
  · exact resolve_congr catalog fun recognized member =>
      Options.effective?_insert_of_not_mem (unknown recognized member) value
  · exact resolve_congr catalog fun recognized member =>
      Options.effective?_erase_of_not_mem (unknown recognized member)

/-- Two spellings of one key, tokens in another order, a key prefixed twice and one in lower case. -/
theorem resolution_depends_on_effective_values_of_two_spellings :
    let raw : Options := .ofList [("ExcludeTypeForwards", "no"),
      ("build_property.ExcludeTypeForwards", "TRUE"),
      ("IncludeGeneratedArtifacts", "System.Index;System.Range")]
    let other : Options := .ofList [("ExcludeTypeForwards", "true"),
      ("build_property.IncludeGeneratedArtifacts", " System.Range,System.Index;; System.Range")]
    resolve .builtin raw = resolve .builtin (raw.insert "ExcludeTypeForwards" "false") ∧
      (resolve .builtin raw).configuration = (resolve .builtin other).configuration ∧
      (∀ value, resolve .builtin (raw.insert "build_property.build_property.ExcludeTypeForwards" value) =
        resolve .builtin raw) ∧
      ∀ value, resolve .builtin (raw.insert "excludetypeforwards" value) = resolve .builtin raw := by
  intro raw other
  have same_values : ∀ key ∈ OptionKey.all,
      raw.effective? key = Options.effective? (raw.insert "ExcludeTypeForwards" "false") key := by
    decide +kernel
  have same_flags : ∀ key ∈ OptionKey.flags, isOn (raw.effective? key) = isOn (other.effective? key) := by
    decide +kernel
  have same_tokens : ∀ key ∈ OptionKey.lists,
      NameSet.ofList (listed (raw.effective? key)) = .ofList (listed (other.effective? key)) := by
    decide +kernel
  refine ⟨(resolution_depends_on_effective_values .builtin raw _).1 same_values,
    (resolution_depends_on_effective_values .builtin raw other).2.1.mpr ⟨same_flags, ?_⟩,
    ((resolution_depends_on_effective_values .builtin raw raw).2.2 _ (by decide +kernel)).1,
    ((resolution_depends_on_effective_values .builtin raw raw).2.2 _ (by decide +kernel)).1⟩
  intro key list token
  rw [← NameSet.mem_ofList, same_tokens key list, NameSet.mem_ofList]

end Configuration

end Polyfill
