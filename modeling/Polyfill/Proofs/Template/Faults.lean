import Polyfill.Command.Run
import Polyfill.Proofs.Catalog.Lookup
import Polyfill.Proofs.Template.Listing

/-!
# Which template directories are taken

A template directory is taken if every file is named for an artifact and holds text, and no artifact is in
both categories. Otherwise the first file that offends is reported, in the order of categories and of the
octets of names. Neither depends on the order in which the file system lists the files.
-/

namespace Polyfill

open Text

/-! ## Names of template files -/

namespace Artifact

/-- Two or more words with dots between them, none of them empty. -/
def IsDotted (id : String) : Prop :=
  ∃ words : List String, 2 ≤ words.length ∧
    (∀ word ∈ words, word ≠ "" ∧ ∀ c ∈ word.toList, isWord c = true) ∧ id = ".".intercalate words

theorem isNamePart_iff {word : String} :
    isNamePart word.toList = true ↔ word ≠ "" ∧ ∀ c ∈ word.toList, isWord c = true := by
  simp [isNamePart]

theorem isQualified_iff {id : String} : isQualified id.toList = true ↔ IsDotted id := by
  simp only [isQualified, Bool.and_eq_true, decide_eq_true_eq, List.all_eq_true, pieces_eq_splitOnP]
  constructor
  · rintro ⟨two, parts⟩
    refine ⟨(id.toList.splitOn '.').map String.ofList, ?_, ?_, ?_⟩
    · rw [List.length_map]
      exact two
    · rw [List.forall_mem_map]
      intro part among
      rw [← isNamePart_iff, String.toList_ofList]
      exact parts part among
    · have letters : String.toList ∘ String.ofList = fun part => part :=
        funext fun _ => String.toList_ofList
      apply String.toList_injective
      rw [String.toList_intercalate, List.map_map, letters, List.map_id']
      exact (List.intercalate_splitOn '.').symm
  · rintro ⟨words, two, parts, rfl⟩
    have free : ∀ part ∈ words.map String.toList, '.' ∉ part := by
      rw [List.forall_mem_map]
      intro word among inside
      exact absurd ((parts word among).2 '.' inside) (by decide)
    have nonempty : words.map String.toList ≠ [] := by
      rintro empty
      rw [List.map_eq_nil_iff.mp empty] at two
      exact absurd two (by decide)
    have split : (".".intercalate words).toList.splitOnP (· == '.') = words.map String.toList := by
      rw [String.toList_intercalate]
      exact List.splitOn_intercalate '.' free nonempty
    rw [split, List.length_map, List.forall_mem_map]
    exact ⟨two, fun word among => isNamePart_iff.mpr (parts word among)⟩

theorem ofFileName?_eq_some_iff {name : Octets} {id : String} :
    ofFileName? name = some id ↔ IsDotted id ∧ name = octets (id ++ ".cs") := by
  constructor
  · intro named
    refine ⟨?_, eq_of_ofFileName? named⟩
    simp only [ofFileName?, Option.bind_eq_bind, Option.bind_eq_some_iff] at named
    obtain ⟨text, -, named⟩ := named
    split at named
    case isTrue qualified =>
      cases named
      rw [← isQualified_iff, String.toList_ofList]
      exact (Bool.and_eq_true_iff.mp qualified).2
    case isFalse => cases named
  · rintro ⟨dotted, rfl⟩
    have chars : (id ++ ".cs").toList = id.toList ++ templateExtension := String.toList_append
    have stem : (id ++ ".cs").toList.take ((id ++ ".cs").toList.length - templateExtension.length) =
        id.toList := by
      rw [chars, List.length_append, Nat.add_sub_cancel, List.take_left]
    have extended : templateExtension.isSuffixOf (id ++ ".cs").toList = true := by
      rw [chars]
      exact List.isSuffixOf_iff_suffix.mpr (List.suffix_append _ _)
    rw [ofFileName?, decode?_octets]
    simp only [Option.bind_eq_bind, Option.bind_some, stem, extended, isQualified_iff.mpr dotted,
      Bool.and_self, if_true, String.ofList_toList]

end Artifact

/-! ## Folding until something fails -/

section Failing

variable {ε α β : Type} {step : α → β → Except ε α} {Offends : β → ε → Prop} {first : α}
  {items : List β} {item : β} {fault : ε}

/-- The first item of a list that offends does so with a fault. -/
inductive StopsAt (Offends : β → ε → Prop) : List β → ε → Prop where
  | here {item : β} {rest : List β} {fault : ε} (offends : Offends item fault) :
    StopsAt Offends (item :: rest) fault
  | later {item : β} {rest : List β} {fault : ε} (fine : ∀ other, ¬ Offends item other)
    (stops : StopsAt Offends rest fault) : StopsAt Offends (item :: rest) fault

/-- In a list that is in order, the first item that offends is the one that no other one comes before. -/
theorem stopsAt_iff {Before : β → β → Prop} (asymm : ∀ a b, Before a b → ¬ Before b a)
    (ordered : items.Pairwise Before) :
    StopsAt Offends items fault ↔ ∃ item ∈ items, Offends item fault ∧
      ∀ other ∈ items, Before other item → ∀ fault, ¬ Offends other fault := by
  induction items with
  | nil => exact iff_of_false (by rintro ⟨⟩) (by simp)
  | cons item rest ih =>
    obtain ⟨before, ordered⟩ := List.pairwise_cons.mp ordered
    constructor
    · rintro (offends | ⟨fine, stops⟩)
      · refine ⟨item, List.mem_cons_self, offends, fun other member earlier => ?_⟩
        rcases List.mem_cons.mp member with rfl | member
        · exact absurd earlier (asymm _ _ earlier)
        · exact absurd earlier (asymm _ _ (before other member))
      · obtain ⟨found, member, offends, others⟩ := (ih ordered).mp stops
        exact ⟨found, List.mem_cons_of_mem item member, offends,
          List.forall_mem_cons.mpr ⟨fun _ => fine, others⟩⟩
    · rintro ⟨found, member, offends, others⟩
      obtain ⟨fine, others⟩ := List.forall_mem_cons.mp others
      rcases List.mem_cons.mp member with rfl | member
      · exact .here offends
      · exact .later (fine (before found member)) ((ih ordered).mpr ⟨found, member, offends, others⟩)

/-- Once a list is folded up to an item, the next step fails if the item offends, and only then. -/
def FailsWhere (step : α → β → Except ε α) (Offends : β → ε → Prop) (first : α) (items : List β) : Prop :=
  ∀ done item rest value, items = done ++ item :: rest → done.foldlM step first = .ok value →
    ∀ fault, step value item = .error fault ↔ Offends item fault

namespace FailsWhere

theorem head (fails : FailsWhere step Offends first (item :: items)) (fault : ε) :
    step first item = .error fault ↔ Offends item fault :=
  fails [] item items first rfl rfl fault

theorem fine {next : α} (fails : FailsWhere step Offends first (item :: items))
    (stepped : step first item = .ok next) (fault : ε) : ¬ Offends item fault := by
  intro offends
  rw [(fails.head fault).mpr offends] at stepped
  cases stepped

theorem tail {next : α} (fails : FailsWhere step Offends first (item :: items))
    (stepped : step first item = .ok next) : FailsWhere step Offends next items := by
  rintro done other rest value rfl folded
  refine fails (item :: done) other rest value rfl ?_
  rw [List.foldlM_cons, stepped]
  exact folded

theorem foldlM_eq_error_iff (fails : FailsWhere step Offends first items) :
    items.foldlM step first = .error fault ↔ StopsAt Offends items fault := by
  induction items generalizing first with
  | nil => exact iff_of_false (by rintro ⟨⟩) (by rintro ⟨⟩)
  | cons item items ih =>
    rw [List.foldlM_cons]
    cases stepped : step first item with
    | error found =>
      have offends := (fails.head found).mp stepped
      constructor
      · rintro ⟨⟩
        exact .here offends
      · rintro (offends' | ⟨fine, -⟩)
        · have stepped' := (fails.head fault).mpr offends'
          exact stepped.symm.trans stepped'
        · exact absurd offends (fine found)
    | ok next =>
      refine (ih (fails.tail stepped)).trans ⟨.later (fails.fine stepped), ?_⟩
      rintro (offends | ⟨-, stops⟩)
      · exact absurd offends (fails.fine stepped fault)
      · exact stops

theorem exists_foldlM_iff (fails : FailsWhere step Offends first items) :
    (∃ last, items.foldlM step first = .ok last) ↔ ∀ item ∈ items, ∀ fault, ¬ Offends item fault := by
  induction items generalizing first with
  | nil => exact iff_of_true ⟨first, rfl⟩ (by simp)
  | cons item items ih =>
    rw [List.foldlM_cons, List.forall_mem_cons]
    cases stepped : step first item with
    | error found =>
      refine iff_of_false (by rintro ⟨last, ⟨⟩⟩) fun fine => ?_
      exact fine.1 found ((fails.head found).mp stepped)
    | ok next =>
      exact (ih (fails.tail stepped)).trans ⟨fun others => ⟨fails.fine stepped, others⟩, And.right⟩

end FailsWhere

end Failing

/-! ## Taking the files -/

namespace TemplateDirectory

open Artifact

variable {listings : Listings} {directory after : TemplateDirectory}

/-- Why a file cannot be taken from what is listed. -/
inductive Offends (listings : Listings) : Listings.Filed → Fault → Prop where
  /-- Its name is no id with the extension, whatever it holds. -/
  | misnamed {category : Category} {name content : Octets}
    (unnamed : ∀ id, IsDotted id → name ≠ octets (id ++ ".cs")) :
    Offends listings (category, name, content) (.invalidName category name)
  /-- It holds no text. -/
  | broken {category : Category} {id : String} {content : Octets} (dotted : IsDotted id)
    (no_text : ∀ text, content ≠ octets text) :
    Offends listings (category, octets (id ++ ".cs"), content) .notText
  /-- Language support has a file of the name, too. -/
  | shared {id text : String} {other : Octets} (dotted : IsDotted id)
    (listed : listings.Has (.languageSupport, octets (id ++ ".cs"), other)) :
    Offends listings (.runtimeSupported, octets (id ++ ".cs"), octets text) (.duplicate ⟨id⟩)

theorem octets_cs_inj {a b : String} : octets (a ++ ".cs") = octets (b ++ ".cs") ↔ a = b := by
  rw [octets_injective.eq_iff, String.append_left_inj]

section Offending

-- A file has one fault at most, and which one is asked for in this order.

variable {category : Category} {name content : Octets} {id text : String} {fault : Fault}

theorem offends_iff_of_unnamed (unnamed : ∀ id, IsDotted id → name ≠ octets (id ++ ".cs")) :
    Offends listings (category, name, content) fault ↔ fault = .invalidName category name := by
  constructor
  · rintro (_ | ⟨dotted, -⟩ | ⟨dotted, -⟩)
    · rfl
    · exact absurd rfl (unnamed _ dotted)
    · exact absurd rfl (unnamed _ dotted)
  · rintro rfl
    exact .misnamed unnamed

theorem offends_iff_of_broken (dotted : IsDotted id) (no_text : ∀ text, content ≠ octets text) :
    Offends listings (category, octets (id ++ ".cs"), content) fault ↔ fault = .notText := by
  constructor
  · generalize named : octets (id ++ ".cs") = name
    rintro (unnamed | _ | _)
    · exact absurd named.symm (unnamed id dotted)
    · rfl
    · exact absurd rfl (no_text _)
  · rintro rfl
    exact .broken dotted no_text

theorem offends_iff_of_text (dotted : IsDotted id) :
    Offends listings (category, octets (id ++ ".cs"), octets text) fault ↔
      category = .runtimeSupported ∧ (∃ other, listings.Has (.languageSupport, octets (id ++ ".cs"), other)) ∧
        fault = .duplicate ⟨id⟩ := by
  constructor
  · generalize named : octets (id ++ ".cs") = name
    generalize held : octets text = content
    rintro (unnamed | ⟨-, no_text⟩ | ⟨-, listed⟩)
    · exact absurd named.symm (unnamed id dotted)
    · exact absurd held.symm (no_text text)
    · exact ⟨rfl, ⟨_, listed⟩, by rw [octets_cs_inj.mp named]⟩
  · rintro ⟨rfl, ⟨other, listed⟩, rfl⟩
    exact .shared dotted listed

end Offending

def takeFiled (directory : TemplateDirectory) (file : Listings.Filed) : Except Fault TemplateDirectory :=
  takeFile file.1 directory file.2

theorem ofListing_eq_foldlM (listings : Listings) :
    ofListing listings.contents = listings.row.foldlM takeFiled empty := by
  simp only [ofListing, Listings.row, Category.all, List.foldlM_cons, List.foldlM_nil, List.flatMap_cons,
    List.flatMap_nil, List.append_nil, List.foldlM_append, List.foldlM_map, bind_pure]
  rfl

theorem mem_ids_takeFiled {file : Listings.Filed} (taken : takeFiled directory file = .ok after)
    {id : String} : id ∈ after.ids ↔ id ∈ directory.ids ∨ file.2.1 = octets (id ++ ".cs") := by
  obtain ⟨template, same, entries⟩ := entries_takeFile taken
  simp only [ids, entries, same, fileOf, entryOf, octets_cs_inj, List.map_append, List.map_cons, List.map_nil,
    List.mem_append, List.mem_singleton, eq_comm]

theorem mem_ids_foldlM_takeFiled {files : List Listings.Filed}
    (taken : files.foldlM takeFiled directory = .ok after) {id : String} :
    id ∈ after.ids ↔ id ∈ directory.ids ∨ ∃ file ∈ files, file.2.1 = octets (id ++ ".cs") := by
  induction files generalizing directory with
  | nil =>
    cases taken
    simp
  | cons file rest ih =>
    rw [List.foldlM_cons] at taken
    obtain ⟨next, first, others⟩ := exists_of_bind taken
    rw [ih others, mem_ids_takeFiled first, or_assoc, List.exists_mem_cons_iff]

/-- What goes wrong with one file, where an id is taken if language support has a file for it. -/
theorem takeFile_eq_error_iff {category : Category} {name content : Octets}
    (taken : ∀ id, name = octets (id ++ ".cs") → (id ∈ directory.ids ↔
      category = .runtimeSupported ∧ ∃ other, listings.Has (.languageSupport, name, other)))
    {fault : Fault} :
    takeFile category directory (name, content) = .error fault ↔
      Offends listings (category, name, content) fault := by
  rw [takeFile]
  cases named : ofFileName? name with
  | none =>
    have unnamed : ∀ id, IsDotted id → name ≠ octets (id ++ ".cs") := by
      intro id dotted same
      rw [ofFileName?_eq_some_iff.mpr ⟨dotted, same⟩] at named
      cases named
    rw [offends_iff_of_unnamed unnamed, Except.error.injEq, eq_comm]
  | some id =>
    obtain ⟨dotted, rfl⟩ := ofFileName?_eq_some_iff.mp named
    cases decoded : decode? content with
    | none =>
      have no_text : ∀ text, content ≠ octets text := by
        rintro text rfl
        rw [decode?_octets] at decoded
        cases decoded
      rw [offends_iff_of_broken dotted no_text, Except.error.injEq, eq_comm]
    | some text =>
      obtain rfl := decode?_eq_some_iff.mp decoded
      rw [offends_iff_of_text dotted, ← and_assoc, ← taken id rfl]
      by_cases held : id ∈ directory.ids
      · simp [held, eq_comm]
      · simp [held]

/-- A file of the row cannot be taken if it offends, whatever was taken before it. -/
theorem failsWhere_row (listings : Listings) :
    FailsWhere takeFiled (Offends listings) empty listings.row := by
  rintro done ⟨category, name, content⟩ rest directory split folded fault
  refine takeFile_eq_error_iff ?_
  rintro id rfl
  have ordered := listings.pairwise_row
  rw [split, List.pairwise_append, List.pairwise_cons] at ordered
  obtain ⟨-, ⟨behind, -⟩, before⟩ := ordered
  have in_row (file : Listings.Filed) : file ∈ listings.row ↔
      file ∈ done ∨ file = (category, octets (id ++ ".cs"), content) ∨ file ∈ rest := by
    rw [split, List.mem_append, List.mem_cons]
  rw [mem_ids_foldlM_takeFiled folded]
  constructor
  · rintro (none | ⟨file, member, same⟩)
    · cases none
    · rcases before file member _ List.mem_cons_self with ⟨first, second⟩ | ⟨-, less⟩
      · have listed := Listings.mem_row_iff.mp ((in_row file).mpr (.inl member))
        rw [Listings.Has, first, same] at listed
        exact ⟨second, file.2.2, listed⟩
      · exact absurd (same ▸ less) (List.lt_irrefl _)
  · rintro ⟨rfl, other, listed⟩
    rcases (in_row _).mp (Listings.mem_row_iff.mpr listed) with earlier | same | later
    · exact .inr ⟨_, earlier, rfl⟩
    · cases same
    · rcases behind _ later with ⟨first, -⟩ | ⟨same, -⟩
      · cases first
      · cases same

/-- Every file is named for an artifact and holds text, and no artifact is in both categories. -/
structure AllFine (listings : Listings) : Prop where
  named : ∀ file, listings.Has file → ∃ id, IsDotted id ∧ file.2.1 = octets (id ++ ".cs")
  textual : ∀ file, listings.Has file → ∃ text, file.2.2 = octets text
  single : ∀ id content other, listings.Has (.languageSupport, octets (id ++ ".cs"), content) →
    ¬ listings.Has (.runtimeSupported, octets (id ++ ".cs"), other)

theorem allFine_iff :
    AllFine listings ↔ ∀ file, listings.Has file → ∀ fault, ¬ Offends listings file fault := by
  constructor
  · rintro fine file listed fault (unnamed | ⟨-, no_text⟩ | ⟨-, first⟩)
    · obtain ⟨id, dotted, same⟩ := fine.named _ listed
      exact unnamed id dotted same
    · obtain ⟨text, same⟩ := fine.textual _ listed
      exact no_text text same
    · exact fine.single _ _ _ first listed
  · intro fine
    have named : ∀ file, listings.Has file → ∃ id, IsDotted id ∧ file.2.1 = octets (id ++ ".cs") := by
      intro file listed
      by_contra unnamed
      exact fine file listed _ (.misnamed fun id dotted same => unnamed ⟨id, dotted, same⟩)
    have textual : ∀ file, listings.Has file → ∃ text, file.2.2 = octets text := by
      rintro ⟨category, name, content⟩ listed
      obtain ⟨id, dotted, same⟩ := named _ listed
      obtain rfl : name = octets (id ++ ".cs") := same
      by_contra broken
      exact fine _ listed _ (.broken dotted fun text same => broken ⟨text, same⟩)
    refine ⟨named, textual, fun id content other first second => ?_⟩
    obtain ⟨id', dotted, same⟩ := named _ second
    obtain ⟨text, rfl⟩ : ∃ text, other = octets text := textual _ second
    exact fine _ second _ (.shared (octets_cs_inj.mp same ▸ dotted) first)

/-- What it comes to that the files which are listed are taken. -/
structure Settles (listings : Listings) (outcome : Except Fault TemplateDirectory) : Prop where
  taken_iff : (∃ directory, outcome = .ok directory) ↔ AllFine listings
  catalog : ∀ directory, outcome = .ok directory →
    Catalog.ofList directory.candidates = .ok directory.catalog
  templates : ∀ directory, outcome = .ok directory → ∀ (candidate : Candidate) (text : String),
    candidate ∈ directory.catalog.candidates ∧ directory.templates[candidate.id]? = some text ↔
      candidate.intrinsicFixups = .empty ∧
        listings.Has (candidate.category, octets (candidate.id ++ ".cs"), octets text)
  refused_iff : ∀ fault, outcome = .error fault ↔ ∃ file, listings.Has file ∧ Offends listings file fault ∧
    ∀ earlier, listings.Has earlier → Listings.Precedes earlier file →
      ∀ other, ¬ Offends listings earlier other

theorem ofList_candidates (directory : TemplateDirectory) :
    Catalog.ofList directory.candidates = .ok directory.catalog := by
  obtain ⟨catalog, accepted⟩ := Catalog.exists_ofList directory.candidates_nodup
  have perm : directory.catalog.candidates.Perm directory.candidates := List.mergeSort_perm ..
  rw [accepted, Catalog.eq_of_perm ((Catalog.perm_of_ofList accepted).trans perm.symm)]

theorem mem_entries_iff_templates {candidate : Candidate} {text : String} :
    (candidate, text) ∈ directory.entries ↔
      candidate ∈ directory.catalog.candidates ∧ directory.templates[candidate.id]? = some text := by
  have listed : candidate ∈ directory.catalog.candidates ↔ ∃ text, (candidate, text) ∈ directory.entries := by
    simp [catalog, Catalog.ofDistinct, candidates]
  rw [listed]
  constructor
  · exact fun entry => ⟨⟨text, entry⟩, getElem?_templates entry⟩
  · rintro ⟨⟨other, entry⟩, found⟩
    rw [getElem?_templates entry] at found
    exact Option.some.inj found ▸ entry

theorem settles_ofListing (listings : Listings) : Settles listings (ofListing listings.contents) := by
  have fails := failsWhere_row listings
  constructor
  case taken_iff =>
    rw [ofListing_eq_foldlM, fails.exists_foldlM_iff, allFine_iff]
    simp only [Listings.mem_row_iff]
  case catalog => exact fun directory _ => directory.ofList_candidates
  case templates =>
    intro directory taken candidate text
    rw [← mem_entries_iff_templates, mem_entries_iff taken]
    rfl
  case refused_iff =>
    intro fault
    rw [ofListing_eq_foldlM, fails.foldlM_eq_error_iff,
      stopsAt_iff (fun _ _ => Listings.Precedes.asymm) listings.pairwise_row]
    simp only [Listings.mem_row_iff]

theorem ofListing_congr {other : Listings} (same : ∀ file, other.Has file ↔ listings.Has file) :
    ofListing other.contents = ofListing listings.contents := by
  rw [ofListing_eq_foldlM, ofListing_eq_foldlM, Listings.row_congr same]

/-- A command comes by the generator of the directory, or it stops with the fault. -/
theorem loadGenerator_ofFiles (files : Files) (root : String) (records : List LogRecord) :
    (((Command.loadGenerator .ofFiles (some root)).run.run records).run files).1.1 =
      ((ofListing (files.listings root).contents).map generator).mapError (.templates root) := by
  simp only [Command.loadGenerator, FileAccess.ofFiles, liftM, monadLift, MonadLift.monadLift, ExceptT.run,
    ExceptT.lift, ExceptT.mk, ExceptT.bind, ExceptT.bindCont, StateT.run, StateT.bind, StateT.lift,
    StateT.map, StateT.pure, bind, pure, Functor.map]
  generalize found : ofListing _ = outcome
  -- each category is looked up by itself, and that is what the listings of the files have for it
  have same : ofListing (files.listings root).contents = outcome := by
    rw [← found]
    congr 1
    funext category
    cases category <;> rfl
  rw [same]
  cases outcome with
  | error fault => rfl
  | ok directory => rfl

/--
Whatever is listed, and in whatever order, a template directory is taken if all of its files are fine, with
one candidate for each file. Otherwise the first file that offends counts. A command lists what stands in the
directories of the categories, and nothing where there is none.
-/
theorem loading_determined :
    (∀ listings : Listings, Settles listings (ofListing listings.contents) ∧
      ∀ other : Listings, (∀ file, other.Has file ↔ listings.Has file) →
        ofListing other.contents = ofListing listings.contents) ∧
    ∀ (files : Files) (root : String) (records : List LogRecord),
      (∀ category name entry, (name, entry) ∈ (files.listings root).contents category ↔
        ∃ location, files.locate (categoryPath root category) = .ok location ∧
          files.get? location = some .directory ∧ files.entries[name :: location]? = some entry ∧
          name.length ≤ Path.room (categoryPath root category)) ∧
      (((Command.loadGenerator .ofFiles (some root)).run.run records).run files).1.1 =
        ((ofListing (files.listings root).contents).map generator).mapError (.templates root) :=
  ⟨fun listings => ⟨settles_ofListing listings, fun _ => ofListing_congr⟩,
    fun files root records => ⟨fun _ _ _ => Files.mem_listings_iff, loadGenerator_ofFiles files root records⟩⟩

/-- What is listed where only language support has a directory. -/
def Listings.ofLanguageSupport (listing : List (Octets × Entry)) (distinct : (listing.map Prod.fst).Nodup) :
    Listings where
  listing?
    | .languageSupport => some listing
    | .runtimeSupported => none
  distinct := by
    rintro (_ | _) _ ⟨⟩
    exact distinct

theorem Listings.has_ofLanguageSupport {listing : List (Octets × Entry)}
    (distinct : (listing.map Prod.fst).Nodup) {file : Filed} :
    (ofLanguageSupport listing distinct).Has file ↔
      file.1 = .languageSupport ∧ (file.2.1, .file file.2.2) ∈ listing := by
  obtain ⟨_ | _, name, content⟩ := file <;> simp [Has, contents, ofLanguageSupport]

/-- Files in two orders with a directory between them, and two files that offend. -/
theorem loading_determined_of_two_orders :
    let listing : List (Octets × Entry) :=
      [(octets "Zed.Two.cs", .file (octets "two")), (octets "drafts", .directory),
        (octets "Alpha.One.cs.cs", .file (octets "one"))]
    let misfits : List (Octets × Entry) :=
      [(octets "Marker.cs", .file []), (octets "Demo.Marker.cs", .file [0xff])]
    ∃ directory, ofListing (Listings.ofLanguageSupport listing (by decide)).contents = .ok directory ∧
      ofListing (Listings.ofLanguageSupport listing.reverse (by decide)).contents = .ok directory ∧
      directory.templates["Alpha.One.cs"]? = some "one" ∧
      ofListing (Listings.ofLanguageSupport misfits (by decide)).contents = .error .notText := by
  intro listing misfits
  have distinct : (listing.map Prod.fst).Nodup := by decide
  have distinct_reverse : (listing.reverse.map Prod.fst).Nodup := by decide
  have distinct_misfits : (misfits.map Prod.fst).Nodup := by decide
  obtain ⟨settles, same⟩ := loading_determined.1 (.ofLanguageSupport listing distinct)
  have files {file : Listings.Filed} (listed : (Listings.ofLanguageSupport listing distinct).Has file) :
      file.2 = (octets "Zed.Two.cs", octets "two") ∨ file.2 = (octets "Alpha.One.cs.cs", octets "one") := by
    have member := ((Listings.has_ofLanguageSupport distinct).mp listed).2
    simpa [listing, Prod.ext_iff] using member
  have fine : AllFine (.ofLanguageSupport listing distinct) := by
    constructor
    case named =>
      intro file listed
      rcases files listed with same | same
      · exact ⟨"Zed.Two", isQualified_iff.mp (by decide +kernel), congrArg Prod.fst same⟩
      · exact ⟨"Alpha.One.cs", isQualified_iff.mp (by decide +kernel), congrArg Prod.fst same⟩
    case textual =>
      intro file listed
      rcases files listed with same | same
      · exact ⟨"two", congrArg Prod.snd same⟩
      · exact ⟨"one", congrArg Prod.snd same⟩
    case single =>
      intro id content other _ second
      cases ((Listings.has_ofLanguageSupport distinct).mp second).1
  obtain ⟨directory, taken⟩ := settles.taken_iff.mpr fine
  have held := (settles.templates directory taken ⟨"Alpha.One.cs", .languageSupport, .empty⟩ "one").mpr
    ⟨rfl, (Listings.has_ofLanguageSupport distinct).mpr ⟨rfl, by simp [listing]⟩⟩
  refine ⟨directory, taken, ?_, held.2, ?_⟩
  · refine (same (.ofLanguageSupport listing.reverse distinct_reverse) fun file => ?_).trans taken
    rw [Listings.has_ofLanguageSupport, Listings.has_ofLanguageSupport, List.mem_reverse]
  · have broken : decode? [0xff] = none := by decide +kernel
    have dotted : IsDotted "Demo.Marker" := isQualified_iff.mp (by decide +kernel)
    have first : octets "Demo.Marker.cs" < octets "Marker.cs" := by decide
    rw [(loading_determined.1 (.ofLanguageSupport misfits distinct_misfits)).1.refused_iff]
    refine ⟨(.languageSupport, octets ("Demo.Marker" ++ ".cs"), [0xff]),
      (Listings.has_ofLanguageSupport distinct_misfits).mpr ⟨rfl, by simp [misfits]⟩, .broken dotted ?_,
      fun earlier listed before => ?_⟩
    · intro text same
      rw [same, decode?_octets] at broken
      cases broken
    · have member := ((Listings.has_ofLanguageSupport distinct_misfits).mp listed).2
      have names : earlier.2.1 = octets "Marker.cs" ∨ earlier.2.1 = octets "Demo.Marker.cs" :=
        (by simpa [misfits] using member : _ ∧ _ ∨ _ ∧ _).imp And.left And.left
      rcases before with ⟨-, elsewhere⟩ | ⟨-, less⟩
      · cases elsewhere
      · rcases names with name | name
        · exact absurd (name ▸ less) (List.lt_asymm first)
        · exact absurd (name ▸ less) (List.lt_irrefl _)

end TemplateDirectory

end Polyfill
