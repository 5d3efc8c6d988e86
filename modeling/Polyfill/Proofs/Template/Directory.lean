import Polyfill.Proofs.Files.Path
import Polyfill.Proofs.Files.Tree
import Polyfill.Proofs.Generation.Cancellation
import Polyfill.Template.Directory

/-!
# Generators over template directories

The templates of a directory cover its catalog, and as files are named for their artifacts, no id has a
slash in it.
-/

namespace Polyfill

namespace TemplateDirectory

theorem isCovered (directory : TemplateDirectory) : directory.generator.IsCovered := by
  intro candidate listed
  have listed : candidate ∈ directory.candidates := List.mem_mergeSort.mp listed
  show candidate.id ∈ directory.templates
  rw [templates, Std.TreeMap.mem_ofList, List.map_map, List.contains_iff_mem]
  obtain ⟨entry, member, rfl⟩ := List.mem_map.mp listed
  exact List.mem_map_of_mem member

theorem slash_not_mem_of_isQualified {name : List Char} (qualified : Artifact.isQualified name = true) :
    '/' ∉ name := by
  intro member
  obtain ⟨part, among, inside⟩ : ∃ part ∈ Text.pieces (· == '.') name, '/' ∈ part :=
    Text.exists_mem_pieces member (by decide)
  simp only [Artifact.isQualified, Bool.and_eq_true, List.all_eq_true, Artifact.isNamePart] at qualified
  exact absurd ((qualified.2 part among).2 _ inside) (by decide)

theorem slash_not_mem_of_ofFileName? {name : Text.Octets} {id : String}
    (named : Artifact.ofFileName? name = some id) : '/' ∉ id.toList := by
  simp only [Artifact.ofFileName?, Option.bind_eq_bind, Option.bind_eq_some_iff] at named
  obtain ⟨text, _, named⟩ := named
  split at named
  case isTrue qualified =>
    cases named
    rw [String.toList_ofList]
    exact slash_not_mem_of_isQualified (Bool.and_eq_true_iff.mp qualified).2
  case isFalse => cases named

theorem slash_not_mem_takeFile {category : Category} {directory after : TemplateDirectory}
    {file : Text.Octets × Text.Octets} (plain : ∀ id ∈ directory.ids, '/' ∉ id.toList)
    (taken : takeFile category directory file = .ok after) : ∀ id ∈ after.ids, '/' ∉ id.toList := by
  unfold takeFile at taken
  split at taken
  case h_1 => cases taken
  case h_2 id named =>
    split at taken
    case h_1 => cases taken
    case h_2 text _ =>
      extract_lets candidate at taken
      split at taken
      case isTrue => cases taken
      case isFalse =>
        cases taken
        have grown : (directory.add candidate text ‹_›).ids = directory.ids ++ [id] := by
          simp [ids, add, candidate]
        rw [grown, List.forall_mem_append]
        exact ⟨plain, by simpa using slash_not_mem_of_ofFileName? named⟩

theorem slash_not_mem_ids {listing : Category → List (Text.Octets × Entry)}
    {directory : TemplateDirectory} (taken : ofListing listing = .ok directory) :
    ∀ id ∈ directory.ids, '/' ∉ id.toList :=
  of_foldlM (fun directory => ∀ id ∈ directory.ids, '/' ∉ id.toList)
    (fun plain taken => of_foldlM _ slash_not_mem_takeFile plain taken)
    (fun _ member => absurd member List.not_mem_nil) taken

theorem mem_catalog_ids (directory : TemplateDirectory) (id : String) :
    id ∈ directory.catalog.ids ↔ id ∈ directory.ids := by
  have perm : directory.catalog.ids.Perm (directory.candidates.map (·.id)) :=
    (List.mergeSort_perm _ _).map _
  rw [perm.mem_iff, candidates, List.map_map]
  rfl

end TemplateDirectory

end Polyfill
