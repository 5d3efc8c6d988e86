import Mathlib.Data.List.Nodup
import Polyfill.Proofs.Files.Writing
import Polyfill.Proofs.Generation.Exclusion
import Polyfill.Proofs.Template.Directory

/-!
# Names of delivered sources

Artifacts of a catalog have distinct names, and so have the forwards of distinct types. A source of one
kind has the name of one of another kind in two cases only: where the catalog holds the marker, and where
it holds an artifact whose id is that of a forwarded type with `.TypeForward` behind it. Sources with
distinct names, none of which has a slash in it, can all be read back once they are written.
-/

namespace Polyfill

namespace TypeForward

/-- The id of the artifact whose source would have the name of a forward. -/
def shadow (id : String) : String :=
  id ++ ".TypeForward"

theorem sourceName_eq (id : String) : sourceName id = Artifact.sourceName (shadow id) := by
  rw [sourceName, Artifact.sourceName, shadow, String.append_assoc, String.append_assoc,
    String.append_assoc]
  rfl

theorem shadow_injective : Function.Injective shadow := by
  intro a b same
  simpa [shadow] using same

theorem shadow_ne_embeddedMarker (id : String) : shadow id ≠ Artifact.embeddedMarker := by
  intro same
  have suffix : ".TypeForward".toList <:+ Artifact.embeddedMarker.toList := by
    rw [← same, shadow, String.toList_append]
    exact List.suffix_append ..
  exact absurd suffix (by decide)

theorem builtinCandidates_nodup : builtinCandidates.Nodup := by
  decide

theorem slash_not_mem_builtinCandidates : ∀ id ∈ builtinCandidates, '/' ∉ id.toList := by
  simp only [← Text.slash_mem_octets_iff]
  decide +kernel

end TypeForward

theorem Selecting.ids_chosen_sublist (answer : Query → Bool) (configuration : Configuration)
    (catalog : Catalog) :
    ((chosen answer configuration catalog).map (·.id)).Sublist catalog.ids := by
  unfold chosen
  split
  · rw [List.map_map]
    exact List.filter_sublist.map _
  · exact List.nil_sublist _

namespace Delivery

variable {delivery : Delivery} {ids : List String}

theorem generates_iff_mem
    (artifacts : delivery.artifacts.map (·.name) = ids.map Artifact.sourceName) (id : String) :
    delivery.Generates id ↔ id ∈ ids := by
  rw [Generates, artifacts, List.mem_map_of_injective Artifact.sourceName_injective]

theorem names_eq_map (artifacts : delivery.artifacts.map (·.name) = ids.map Artifact.sourceName) :
    delivery.names =
      (Artifact.embeddedMarker :: (ids ++ delivery.forwards.map TypeForward.shadow)).map
        Artifact.sourceName := by
  simp [names_eq, artifacts, TypeForward.sourceName_eq, Function.comp_def]

theorem names_nodup_iff_generates
    (artifacts : delivery.artifacts.map (·.name) = ids.map Artifact.sourceName)
    (distinct : ids.Nodup) (distinctForwards : delivery.forwards.Nodup) :
    delivery.names.Nodup ↔ ¬ delivery.Generates Artifact.embeddedMarker ∧
      ∀ id ∈ delivery.forwards, ¬ delivery.Generates (TypeForward.shadow id) := by
  rw [names_eq_map artifacts, List.nodup_map_iff Artifact.sourceName_injective, List.nodup_cons,
    List.nodup_append]
  simp only [generates_iff_mem artifacts, List.mem_append, not_or, List.mem_map]
  constructor
  · rintro ⟨⟨marker, _⟩, _, _, apart⟩
    exact ⟨marker, fun id forwarded generated => apart _ generated _ ⟨id, forwarded, rfl⟩ rfl⟩
  · rintro ⟨marker, apart⟩
    refine ⟨⟨marker, ?_⟩, distinct, distinctForwards.map TypeForward.shadow_injective, ?_⟩
    · rintro ⟨id, _, same⟩
      exact TypeForward.shadow_ne_embeddedMarker id same
    · rintro _ generated _ ⟨id, forwarded, rfl⟩ rfl
      exact apart id forwarded generated

/-- The sources can be read back from every directory that they are written into. -/
def ReadsBack (delivery : Delivery) : Prop :=
  ∀ (files after : Files) (directory : String), files.IsTree →
    Source.writeAll .ofFiles directory delivery.sources files = (.ok (), after) →
    ∀ source ∈ delivery.sources, after.readText (Path.join directory source.name) = .ok source.text

theorem readsBack_of_names (plain : ∀ name ∈ delivery.names, '/' ∉ name.toList)
    (distinct : delivery.names.Nodup) : delivery.ReadsBack :=
  fun _ _ _ tree written => Source.readText_of_writeAll tree
    (fun source member => plain source.name (List.mem_map_of_mem member)) distinct written

end Delivery

namespace Generator

section Completed

variable {generator : Generator} {interference : Interference} {cache : Cache}
  {environment : Environment} {raised : Bool} {options : Options} {delivery : Delivery}
  (completed : (generator.evaluateAmid interference cache environment raised options).outcome =
    .ok delivery)
include completed

theorem exists_delivered_ids :
    ∃ ids : List String, ids.Sublist generator.catalog.ids ∧
      delivery.artifacts.map (·.name) = ids.map Artifact.sourceName ∧
      delivery.forwards.Sublist generator.forwardCandidates := by
  obtain ⟨_, artifacts, forwards⟩ := delivered_of_completed completed
  refine ⟨_, Selecting.ids_chosen_sublist environment.answer
    (generator.resolve options).configuration generator.catalog, ?_, ?_⟩
  · rw [artifacts, List.map_map]
    rfl
  · rw [forwards]
    exact List.filter_sublist

theorem names_nodup_iff_of_completed (distinct : generator.forwardCandidates.Nodup) :
    delivery.names.Nodup ↔ ¬ delivery.Generates Artifact.embeddedMarker ∧
      ∀ id ∈ delivery.forwards, ¬ delivery.Generates (TypeForward.shadow id) := by
  obtain ⟨ids, listed, artifacts, forwards⟩ := exists_delivered_ids completed
  exact Delivery.names_nodup_iff_generates artifacts (listed.nodup generator.catalog.ids_nodup)
    (forwards.nodup distinct)

theorem mem_ids_of_generates {id : String} (generates : delivery.Generates id) :
    id ∈ generator.catalog.ids := by
  obtain ⟨ids, listed, artifacts, _⟩ := exists_delivered_ids completed
  exact listed.subset ((Delivery.generates_iff_mem artifacts id).mp generates)

theorem slash_not_mem_names
    (plain : ∀ id ∈ generator.catalog.ids ++ generator.forwardCandidates, '/' ∉ id.toList) :
    ∀ name ∈ delivery.names, '/' ∉ name.toList := by
  obtain ⟨ids, listed, artifacts, forwards⟩ := exists_delivered_ids completed
  rw [Delivery.names_eq_map artifacts]
  intro name member
  obtain ⟨id, among, rfl⟩ := List.mem_map.mp member
  have inner : '/' ∉ id.toList := by
    simp only [List.mem_cons, List.mem_append, List.mem_map] at among
    rcases among with rfl | generated | ⟨id, forwarded, rfl⟩
    · decide
    · exact plain id (List.mem_append_left _ (listed.subset generated))
    · have := plain id (List.mem_append_right _ (forwards.subset forwarded))
      simpa [TypeForward.shadow] using this
  simpa [Artifact.sourceName, Artifact.generatedSuffix] using inner

end Completed

/--
A catalog leads to distinct names in every completed evaluation if and only if it holds neither the
marker nor an artifact in the place of a forward. Distinct sources can be read back once written, if no
id has a slash in it.
-/
theorem names_nodup_iff (catalog : Catalog) {forwardCandidates : List String}
    (distinct : forwardCandidates.Nodup) :
    (∀ templates interference cache environment raised options delivery,
        (({ catalog, templates, forwardCandidates } : Generator).evaluateAmid interference cache
          environment raised options).outcome = .ok delivery →
        delivery.names.Nodup ∧
          ((∀ id ∈ catalog.ids ++ forwardCandidates, '/' ∉ id.toList) → delivery.ReadsBack)) ↔
      Artifact.embeddedMarker ∉ catalog.ids ∧
        ∀ id ∈ forwardCandidates, TypeForward.shadow id ∉ catalog.ids := by
  constructor
  · intro always
    -- A target that lacks all of these types, over a runtime that has them, contests every one.
    let snapshot : Snapshot :=
      { existing := [Artifact.rangeTuple], forwardTargets := catalog.ids ++ forwardCandidates }
    obtain ⟨templates, options, delivery, completed, generates, forwards⟩ :=
      exists_delivery_of_contests catalog forwardCandidates snapshot fun id listed =>
        ⟨rfl, List.not_mem_nil, fun _ => .inr List.mem_cons_self, List.not_mem_nil, listed⟩
    have nodup := (always templates .none ∅ snapshot.environment false options delivery completed).1
    rw [names_nodup_iff_of_completed completed distinct, forwards] at nodup
    exact ⟨mt (generates _) nodup.1, fun id listed => mt (generates _) (nodup.2 id listed)⟩
  · rintro ⟨marker, shadows⟩ templates interference cache environment raised options delivery completed
    have nodup : delivery.names.Nodup := by
      obtain ⟨_, _, _, forwards⟩ := exists_delivered_ids completed
      rw [names_nodup_iff_of_completed completed distinct]
      exact ⟨mt (mem_ids_of_generates completed) marker, fun id forwarded =>
        mt (mem_ids_of_generates completed) (shadows id (forwards.subset forwarded))⟩
    exact ⟨nodup, fun plain =>
      Delivery.readsBack_of_names (slash_not_mem_names completed plain) nodup⟩

/-- The built-in catalog keeps clear of the marker and of the forwards. -/
theorem names_of_builtin :
    TypeForward.builtinCandidates.Nodup ∧
      ∃ delivery, (builtin.evaluate ∅ ({ forwardTargets := ["System.Index"] } : Snapshot).environment
          false ∅).outcome = .ok delivery ∧
        delivery.names.Nodup ∧ delivery.ReadsBack := by
  have ids : Catalog.builtin.ids.Perm (Catalog.builtinCandidates.map (·.id)) :=
    (List.mergeSort_perm _ _).map _
  obtain ⟨delivery, completed⟩ := completes_of_isCovered isCovered_builtin ∅
    { forwardTargets := ["System.Index"] } ∅
  obtain ⟨nodup, readsBack⟩ := (names_nodup_iff .builtin TypeForward.builtinCandidates_nodup).mpr
    ⟨by rw [ids.mem_iff]; decide +kernel, by simp only [ids.mem_iff]; decide +kernel⟩
    _ _ _ _ _ _ delivery completed
  refine ⟨TypeForward.builtinCandidates_nodup, delivery, completed, nodup, readsBack ?_⟩
  refine List.forall_mem_append.mpr ⟨?_, TypeForward.slash_not_mem_builtinCandidates⟩
  simp only [ids.mem_iff, ← Text.slash_mem_octets_iff]
  decide +kernel

/-- A template file can be named for the marker; its source is delivered beside the marker. -/
theorem names_of_marker_template :
    let listing : Category → List (Text.Octets × Entry)
      | .languageSupport =>
        [(Text.octets "Microsoft.CodeAnalysis.EmbeddedAttribute.cs", .file (Text.octets "class Own"))]
      | .runtimeSupported => []
    ∃ directory delivery, TemplateDirectory.ofListing listing = .ok directory ∧
      (directory.generator.evaluate ∅ ({} : Snapshot).environment false ∅).outcome = .ok delivery ∧
      ¬ delivery.names.Nodup := by
  intro listing
  have candidates : (TemplateDirectory.ofListing listing).toOption.map (·.candidates) =
      some [⟨Artifact.embeddedMarker, .languageSupport, .empty⟩] := by
    cbv
  cases taken : TemplateDirectory.ofListing listing with
  | error fault =>
    rw [taken] at candidates
    cases candidates
  | ok directory =>
    obtain ⟨delivery, completed⟩ := completes_of_isCovered directory.isCovered ∅ {} ∅
    refine ⟨directory, delivery, rfl, completed, ?_⟩
    rw [names_nodup_iff_of_completed completed TypeForward.builtinCandidates_nodup]
    rintro ⟨marker, _⟩
    apply marker
    have only : directory.candidates = [⟨Artifact.embeddedMarker, .languageSupport, .empty⟩] := by
      rw [taken] at candidates
      exact Option.some.inj candidates
    have listed : directory.catalog.candidates =
        [⟨Artifact.embeddedMarker, .languageSupport, .empty⟩] := by
      simp only [TemplateDirectory.catalog, Catalog.ofDistinct, only, List.mergeSort_singleton]
    have wanted : ({} : Snapshot).Generates ∅ ⟨Artifact.embeddedMarker, .languageSupport, .empty⟩ :=
      of_decide_eq_true (by cbv)
    exact (generates_iff_of_snapshot completed _).mpr
      ⟨_, listed ▸ List.mem_cons_self, wanted, rfl⟩

end Generator

/-- Template files are named such that distinct sources can always be read back. -/
theorem TemplateDirectory.readsBack {listing : Category → List (Text.Octets × Entry)}
    {directory : TemplateDirectory} (taken : ofListing listing = .ok directory)
    {interference : Interference} {cache : Cache} {environment : Environment} {raised : Bool}
    {options : Options} {delivery : Delivery}
    (completed : (directory.generator.evaluateAmid interference cache environment raised
      options).outcome = .ok delivery)
    (distinct : delivery.names.Nodup) : delivery.ReadsBack := by
  refine Delivery.readsBack_of_names (Generator.slash_not_mem_names completed ?_) distinct
  exact List.forall_mem_append.mpr
    ⟨fun id listed => slash_not_mem_ids taken id ((mem_catalog_ids directory id).mp listed),
      TypeForward.slash_not_mem_builtinCandidates⟩

end Polyfill
