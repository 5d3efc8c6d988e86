import Polyfill.Proofs.Template.Loading
import Std.Data.HashMap

/-!
# What a file system lists

A file system lists what stands in the directories of the categories in any order, each name once. The
files among that come in one row: category by category, and by the octets of their names. Which files
there are is all that the row depends on.
-/

namespace Polyfill

open Text

namespace Files

variable {listing other : List (Octets × Entry)}

theorem nameLe_iff {a b : Octets} : nameLe a b = true ↔ a ≤ b := by
  rw [nameLe, Bool.not_eq_true', ← Bool.not_eq_true, List.lex_eq_true_iff_lt, List.not_lt]

/-! ## Files in ascending order -/

theorem nodup_plain (distinct : (listing.map Prod.fst).Nodup) : ((plain listing).map Prod.fst).Nodup := by
  refine distinct.sublist ?_
  clear distinct
  induction listing with
  | nil => exact List.Sublist.slnil
  | cons first rest ih =>
    obtain ⟨name, entry⟩ := first
    cases entry with
    | file content => exact ih.cons_cons name
    | directory => exact ih.cons name

theorem ascending_sorted (distinct : (listing.map Prod.fst).Nodup) :
    (sorted listing).Pairwise fun a b => a.1 < b.1 := by
  have ordered : (sorted listing).Pairwise fun a b => nameLe a.1 b.1 = true := by
    apply List.pairwise_mergeSort
    · intro a b c below above
      rw [nameLe_iff] at below above ⊢
      exact Std.le_trans below above
    · intro a b
      rw [Bool.or_eq_true, nameLe_iff, nameLe_iff]
      exact Std.le_total
  have names : ((sorted listing).map Prod.fst).Nodup :=
    ((List.mergeSort_perm _ _).map _).nodup_iff.mpr (nodup_plain distinct)
  refine (ordered.and (List.pairwise_map.mp names)).imp fun {a b} before => ?_
  rcases Std.le_iff_lt_or_eq.mp (nameLe_iff.mp before.1) with less | same
  · exact less
  · exact absurd same before.2

theorem sorted_congr (distinct : (listing.map Prod.fst).Nodup) (distinct_other : (other.map Prod.fst).Nodup)
    (same : ∀ name content, (name, .file content) ∈ other ↔ (name, .file content) ∈ listing) :
    sorted other = sorted listing := by
  have single {list : List (Octets × Entry)} (distinct : (list.map Prod.fst).Nodup) :
      (sorted list).Nodup := by
    refine (ascending_sorted distinct).imp ?_
    rintro a b less rfl
    exact List.lt_irrefl _ less
  have perm : (sorted other).Perm (sorted listing) := by
    rw [List.perm_ext_iff_of_nodup (single distinct_other) (single distinct)]
    rintro ⟨name, content⟩
    rw [mem_sorted, mem_sorted, same]
  exact perm.eq_of_pairwise (fun a b _ _ less greater => absurd greater (List.lt_asymm less))
    (ascending_sorted distinct_other) (ascending_sorted distinct)

/-! ## What stands in a directory -/

def child? (location : Location) (stored : Location × Entry) : Option (Octets × Entry) :=
  match stored.1 with
  | [] => none
  | name :: parent => if parent == location then some (name, stored.2) else none

theorem child?_eq_some_iff {location : Location} {stored : Location × Entry} {child : Octets × Entry} :
    child? location stored = some child ↔ stored = (child.1 :: location, child.2) := by
  obtain ⟨place, entry⟩ := stored
  obtain ⟨name, found⟩ := child
  cases place with
  | nil => simp [child?]
  | cons last parent =>
    simp only [child?, Option.ite_none_right_eq_some, beq_iff_eq, Option.some.injEq, Prod.mk.injEq,
      List.cons.injEq]
    constructor
    · rintro ⟨rfl, rfl, rfl⟩
      exact ⟨⟨rfl, rfl⟩, rfl⟩
    · rintro ⟨⟨rfl, rfl⟩, rfl⟩
      exact ⟨rfl, rfl, rfl⟩

theorem children_eq (files : Files) (location : Location) :
    files.children location = files.entries.toList.filterMap (child? location) :=
  rfl

theorem mem_children_iff {files : Files} {location : Location} {name : Octets} {entry : Entry} :
    (name, entry) ∈ files.children location ↔ files.entries[name :: location]? = some entry := by
  rw [← Std.HashMap.mem_toList_iff_getElem?_eq_some, children_eq, List.mem_filterMap]
  constructor
  · rintro ⟨stored, member, same⟩
    rw [child?_eq_some_iff] at same
    exact same ▸ member
  · exact fun member => ⟨_, member, child?_eq_some_iff.mpr rfl⟩

theorem nodup_children (files : Files) (location : Location) :
    ((files.children location).map Prod.fst).Nodup := by
  rw [List.nodup_iff_pairwise_ne, List.pairwise_map, children_eq, List.pairwise_filterMap]
  refine Std.HashMap.distinct_keys_toList.imp fun differ child found child' found' same => ?_
  rw [child?_eq_some_iff] at found found'
  rw [found, found', same, beq_self_eq_true] at differ
  cases differ

end Files

namespace TemplateDirectory

/-- What a file system lists for the categories that have a directory, each name once. -/
structure Listings where
  listing? : Category → Option (List (Octets × Entry))
  distinct : ∀ category listing, listing? category = some listing → (listing.map Prod.fst).Nodup

namespace Listings

/-- What is listed for a category: nothing, if it has no directory. -/
def contents (listings : Listings) (category : Category) : List (Octets × Entry) :=
  (listings.listing? category).getD []

theorem nodup_contents (listings : Listings) (category : Category) :
    ((listings.contents category).map Prod.fst).Nodup := by
  rw [contents]
  cases listed : listings.listing? category with
  | none => exact List.nodup_nil
  | some listing => exact listings.distinct category listing listed

/-- A file of a category, by its name, with what it holds. -/
abbrev Filed := Category × Octets × Octets

/-- Whether a file comes before another one: categories come in their order, and so do names within one. -/
def Precedes (a b : Filed) : Prop :=
  a.1 = .languageSupport ∧ b.1 = .runtimeSupported ∨ a.1 = b.1 ∧ a.2.1 < b.2.1

def Has (listings : Listings) (file : Filed) : Prop :=
  (file.2.1, .file file.2.2) ∈ listings.contents file.1

/-- The files of the categories in one row. -/
def row (listings : Listings) : List Filed :=
  Category.all.flatMap fun category => (Files.sorted (listings.contents category)).map (category, ·)

variable {listings other : Listings}

theorem mem_row_iff {file : Filed} : file ∈ listings.row ↔ listings.Has file := by
  obtain ⟨category, name, content⟩ := file
  have listed : category ∈ Category.all := by
    cases category <;> decide
  simp [row, Has, Files.mem_sorted, listed]

theorem Precedes.asymm {a b : Filed} (before : Precedes a b) : ¬ Precedes b a := by
  rcases before with ⟨first, second⟩ | ⟨same, less⟩
  · rintro (⟨first', -⟩ | ⟨same, -⟩)
    · rw [second] at first'
      cases first'
    · rw [first, second] at same
      cases same
  · rintro (⟨first, second⟩ | ⟨-, greater⟩)
    · rw [first, second] at same
      cases same
    · exact List.lt_asymm less greater

theorem pairwise_row (listings : Listings) : listings.row.Pairwise Precedes := by
  have inside (category : Category) :
      ((Files.sorted (listings.contents category)).map (category, ·)).Pairwise Precedes := by
    rw [List.pairwise_map]
    exact (Files.ascending_sorted (listings.nodup_contents category)).imp fun less => .inr ⟨rfl, less⟩
  rw [row, Category.all, List.flatMap_cons, List.flatMap_cons, List.flatMap_nil, List.append_nil,
    List.pairwise_append]
  refine ⟨inside _, inside _, fun a first b second => ?_⟩
  obtain ⟨_, -, rfl⟩ := List.mem_map.mp first
  obtain ⟨_, -, rfl⟩ := List.mem_map.mp second
  exact .inl ⟨rfl, rfl⟩

theorem row_congr (same : ∀ file, other.Has file ↔ listings.Has file) : other.row = listings.row := by
  rw [row, row]
  congr 1
  funext category
  rw [Files.sorted_congr (listings.nodup_contents category) (other.nodup_contents category)
    fun name content => same (category, name, content)]

end Listings

end TemplateDirectory

/-- What is listed below the working directory for the categories of a template directory. -/
def Files.listings (files : Files) (root : String) : TemplateDirectory.Listings where
  listing? category := files.list? (TemplateDirectory.categoryPath root category)
  distinct category listing listed := by
    unfold Files.list? at listed
    split at listed
    case h_2 => cases listed
    case h_1 location _ =>
      split at listed
      case isFalse => cases listed
      case isTrue =>
        cases listed
        exact (files.nodup_children location).sublist (List.filter_sublist.map _)

theorem Files.mem_listings_iff {files : Files} {root : String} {category : Category} {name : Octets}
    {entry : Entry} :
    (name, entry) ∈ (files.listings root).contents category ↔
      ∃ location, files.locate (TemplateDirectory.categoryPath root category) = .ok location ∧
        files.get? location = some .directory ∧ files.entries[name :: location]? = some entry ∧
        name.length ≤ Path.room (TemplateDirectory.categoryPath root category) := by
  simp only [TemplateDirectory.Listings.contents, listings, list?]
  split
  case h_1 location located =>
    split
    case isTrue directory =>
      rw [Option.getD_some, List.mem_filter, mem_children_iff, decide_eq_true_iff]
      constructor
      · exact fun ⟨stored, short⟩ => ⟨location, located, beq_iff_eq.mp directory, stored, short⟩
      · rintro ⟨_, same, -, stored, short⟩
        cases located.symm.trans same
        exact ⟨stored, short⟩
    case isFalse missing =>
      rw [Option.getD_none]
      refine iff_of_false List.not_mem_nil fun ⟨_, same, directory, _⟩ => ?_
      cases located.symm.trans same
      exact missing (beq_iff_eq.mpr directory)
  case h_2 fault located =>
    rw [Option.getD_none]
    refine iff_of_false List.not_mem_nil fun ⟨_, same, _⟩ => ?_
    cases located.symm.trans same

end Polyfill
