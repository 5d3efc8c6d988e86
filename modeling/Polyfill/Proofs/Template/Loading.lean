import Polyfill.Proofs.Generation.Attempts
import Polyfill.Proofs.Generation.Emission
import Polyfill.Proofs.Template.Directory

/-!
# No template is missed

Catalog and templates of a directory are made from the same files, one candidate and one template from
each, and a file is named for the candidate. So the generator over a directory that could be taken has a
template for each of its artifacts, as the built-in one has, and never stops for want of one.
-/

namespace Polyfill

open Text

theorem Text.decode?_eq_some_iff {content : Octets} {text : String} :
    decode? content = some text ↔ content = octets text := by
  constructor
  · intro decoded
    rw [decode?, String.fromUTF8?] at decoded
    split at decoded
    case isTrue valid =>
      cases decoded
      rfl
    case isFalse => cases decoded
  · rintro rfl
    exact decode?_octets text

theorem Text.octets_injective : Function.Injective octets := by
  intro a b same
  have decoded := (decode?_octets a).symm.trans ((congrArg decode? same).trans (decode?_octets b))
  exact Option.some.inj decoded

theorem Artifact.eq_of_ofFileName? {name : Octets} {id : String}
    (named : Artifact.ofFileName? name = some id) : name = octets (id ++ ".cs") := by
  simp only [Artifact.ofFileName?, Option.bind_eq_bind, Option.bind_eq_some_iff] at named
  obtain ⟨text, decoded, named⟩ := named
  split at named
  case isTrue qualified =>
    cases named
    have extended := List.suffix_iff_eq_append.mp
      (List.isSuffixOf_iff_suffix.mp (Bool.and_eq_true_iff.mp qualified).1)
    rw [decode?_eq_some_iff.mp decoded]
    congr 1
    apply String.toList_injective
    rw [String.toList_append, String.toList_ofList]
    exact extended.symm
  case isFalse => cases named

theorem Files.mem_sorted {listing : List (Octets × Entry)} {name content : Octets} :
    (name, content) ∈ sorted listing ↔ (name, .file content) ∈ listing := by
  simp only [sorted, List.mem_mergeSort, plain, List.mem_filterMap]
  constructor
  · rintro ⟨⟨other, entry⟩, member, same⟩
    cases entry with
    | file found =>
      cases same
      exact member
    | directory => cases same
  · exact fun member => ⟨_, member, rfl⟩

namespace TemplateDirectory

def fileOf (template : String × String) : Octets × Octets :=
  (octets (template.1 ++ ".cs"), octets template.2)

def entryOf (category : Category) (template : String × String) : Candidate × String :=
  (⟨template.1, category, .empty⟩, template.2)

variable {listing : Category → List (Octets × Entry)} {directory after : TemplateDirectory}
  {category : Category}

theorem entries_takeFile {file : Octets × Octets}
    (taken : takeFile category directory file = .ok after) :
    ∃ template, file = fileOf template ∧
      after.entries = directory.entries ++ [entryOf category template] := by
  unfold takeFile at taken
  split at taken
  case h_1 => cases taken
  case h_2 id named =>
    split at taken
    case h_1 => cases taken
    case h_2 text decoded =>
      extract_lets candidate at taken
      split at taken
      case isTrue => cases taken
      case isFalse =>
        cases taken
        exact ⟨(id, text),
          Prod.ext (Artifact.eq_of_ofFileName? named) (decode?_eq_some_iff.mp decoded), rfl⟩

theorem entries_foldlM_takeFile {files : List (Octets × Octets)}
    (taken : files.foldlM (takeFile category) directory = .ok after) :
    ∃ templates : List (String × String), files = templates.map fileOf ∧
      after.entries = directory.entries ++ templates.map (entryOf category) := by
  induction files generalizing directory with
  | nil =>
    cases taken
    exact ⟨[], rfl, (List.append_nil _).symm⟩
  | cons file rest ih =>
    rw [List.foldlM_cons] at taken
    obtain ⟨next, first, others⟩ := exists_of_bind taken
    obtain ⟨template, rfl, added⟩ := entries_takeFile first
    obtain ⟨templates, rfl, entries⟩ := ih others
    refine ⟨template :: templates, rfl, ?_⟩
    rw [entries, added, List.append_assoc, List.map_cons, List.singleton_append]

theorem fileOf_injective : Function.Injective fileOf := by
  intro a b same
  obtain ⟨names, texts⟩ := Prod.mk.inj same
  exact Prod.ext ((String.append_left_inj ".cs").mp (octets_injective names)) (octets_injective texts)

theorem mem_entries_foldlM_takeCategory {categories : List Category}
    (taken : categories.foldlM (takeCategory listing) directory = .ok after)
    {entry : Candidate × String} :
    entry ∈ after.entries ↔ entry ∈ directory.entries ∨ ∃ category ∈ categories,
      ∃ template, fileOf template ∈ Files.sorted (listing category) ∧
        entryOf category template = entry := by
  induction categories generalizing directory with
  | nil =>
    cases taken
    simp
  | cons category rest ih =>
    rw [List.foldlM_cons] at taken
    obtain ⟨next, first, others⟩ := exists_of_bind taken
    obtain ⟨templates, files, added⟩ := entries_foldlM_takeFile first
    simp only [ih others, added, files, List.mem_append, List.mem_map, List.mem_cons,
      exists_eq_or_imp, or_assoc, fileOf_injective.eq_iff, exists_eq_right]

theorem mem_entries_iff (taken : ofListing listing = .ok directory) {entry : Candidate × String} :
    entry ∈ directory.entries ↔ entry.1.intrinsicFixups = .empty ∧
      (octets (entry.1.id ++ ".cs"), .file (octets entry.2)) ∈ listing entry.1.category := by
  rw [mem_entries_foldlM_takeCategory taken]
  constructor
  · rintro (none | ⟨category, -, template, file, rfl⟩)
    · cases none
    · exact ⟨rfl, Files.mem_sorted.mp file⟩
  · obtain ⟨⟨id, category, fixups⟩, text⟩ := entry
    rintro ⟨rfl, file⟩
    refine .inr ⟨category, ?_, (id, text), Files.mem_sorted.mpr file, rfl⟩
    cases category <;> decide

theorem getElem?_templates {candidate : Candidate} {text : String}
    (entry : (candidate, text) ∈ directory.entries) :
    directory.templates[candidate.id]? = some text := by
  refine Std.TreeMap.getElem?_ofList_of_mem Std.ReflCmp.compare_self ?_ (List.mem_map_of_mem entry)
  rw [List.pairwise_map]
  refine (List.pairwise_map.mp directory.ids_nodup).imp fun differ same => differ ?_
  exact Std.LawfulEqCmp.compare_eq_iff_eq.mp same

theorem mem_templates_iff (directory : TemplateDirectory) (id : String) :
    id ∈ directory.templates ↔ id ∈ directory.catalog.ids := by
  rw [mem_catalog_ids, templates, Std.TreeMap.mem_ofList, List.map_map, List.contains_iff_mem]
  rfl

end TemplateDirectory

namespace Generator

/--
Whatever its cache holds, no evaluation of a generator stops for want of a template: it materializes
nothing but the selections that it attempts, and each of these has one.
-/
structure NeverMisses (generator : Generator) : Prop where
  cache : ∀ (cache : Cache) (call : Call), (call.run generator cache).cache =
    (materializeAll generator.templates (call.attempts generator) cache).2
  templated : ∀ call : Call, ∀ selection ∈ call.attempts generator,
    selection.id ∈ generator.templates
  outcome : ∀ (cache : Cache) (call : Call) missing,
    (call.run generator cache).outcome ≠ .error (.missingTemplate missing)

theorem neverMisses_of_isCovered {generator : Generator} (covered : generator.IsCovered) :
    generator.NeverMisses where
  cache cache call := call.cache_run generator cache
  templated call _ member := call.id_mem_of_mem_attempts generator covered member
  outcome _ _ missing := outcome_evaluateAmid_of_isCovered generator _ _ _ _ covered _ missing

/--
The built-in generator and those over template directories never miss a template, whatever is to be
forwarded. A directory's catalog and store have the same artifacts, and each template is what the file
holds that is named for the artifact.
-/
theorem shipped_generators_never_miss :
    (∀ forwardCandidates, { builtin with forwardCandidates : Generator }.NeverMisses) ∧
    ∀ listing directory, TemplateDirectory.ofListing listing = .ok directory →
      (∀ forwardCandidates, { directory.generator with forwardCandidates : Generator }.NeverMisses) ∧
      (∀ id, id ∈ directory.generator.catalog.ids ↔ id ∈ directory.generator.templates) ∧
      ∀ candidate ∈ directory.generator.catalog.candidates, ∃ text,
        directory.generator.templates[candidate.id]? = some text ∧
        (octets (candidate.id ++ ".cs"), .file (octets text)) ∈ listing candidate.category := by
  refine ⟨fun _ => neverMisses_of_isCovered isCovered_builtin, fun listing directory taken =>
    ⟨fun _ => neverMisses_of_isCovered directory.isCovered, fun id => ?_, ?_⟩⟩
  · exact (directory.mem_templates_iff id).symm
  · intro candidate listed
    obtain ⟨⟨_, text⟩, entry, rfl⟩ := List.mem_map.mp (List.mem_mergeSort.mp listed)
    exact ⟨text, TemplateDirectory.getElem?_templates entry,
      ((TemplateDirectory.mem_entries_iff taken).mp entry).2⟩

/-- A directory with a file in each category, and with something that is no file. -/
theorem shipped_generators_never_miss_of_two_files :
    let listing : Category → List (Octets × Entry)
      | .languageSupport =>
        [(octets "Demo.Marker.cs", .file (octets "class Marker")), (octets "drafts", .directory)]
      | .runtimeSupported => [(octets "Demo.Helper.cs", .file (octets "class Helper"))]
    ∃ directory, TemplateDirectory.ofListing listing = .ok directory ∧
      "Demo.Marker" ∈ directory.catalog.ids ∧ "Demo.Helper" ∈ directory.catalog.ids ∧
      directory.generator.NeverMisses ∧
      ∀ id, id ∈ directory.generator.catalog.ids ↔ id ∈ directory.generator.templates := by
  intro listing
  have ids : (TemplateDirectory.ofListing listing).toOption.map (·.ids) =
      some ["Demo.Marker", "Demo.Helper"] := by
    cbv
  cases taken : TemplateDirectory.ofListing listing with
  | error fault =>
    rw [taken] at ids
    cases ids
  | ok directory =>
    obtain ⟨neverMisses, same, -⟩ := shipped_generators_never_miss.2 listing directory taken
    rw [taken] at ids
    have ids : directory.ids = ["Demo.Marker", "Demo.Helper"] := Option.some.inj ids
    exact ⟨directory, rfl, by simp [directory.mem_catalog_ids, ids],
      by simp [directory.mem_catalog_ids, ids], neverMisses directory.generator.forwardCandidates, same⟩

end Generator

end Polyfill
