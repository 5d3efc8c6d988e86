import Polyfill.Configuration
import Polyfill.Proofs.Text.Delimiter

/-!
# Effective option values

Two spellings of an option key count: the key itself and the key behind the build prefix. Resolving
takes options in ascending order, which puts the prefixed spelling of a recognized key last, so it
counts whenever it is there. A configuration depends on nothing but these effective values.
-/

namespace Polyfill

namespace OptionKey

def all : List String :=
  flags ++ [excludeGeneratedArtifacts, includeGeneratedArtifacts]

def prefixed (key : String) : String :=
  buildPrefix ++ key

/-- The spellings of a key, the one that counts more first. -/
def spellings (key : String) : List String :=
  [prefixed key, key]

theorem lt_buildPrefix_of_mem {key : String} (recognized : key ∈ all) : key < buildPrefix := by
  revert key
  decide

theorem buildPrefix_le_prefixed (key : String) : buildPrefix ≤ prefixed key := by
  show ¬ (buildPrefix ++ key).toList < buildPrefix.toList
  rw [String.toList_append]
  exact List.le_append_left

theorem lt_prefixed {key : String} (below : key < buildPrefix) : key < prefixed key :=
  Std.lt_of_lt_of_le below (buildPrefix_le_prefixed key)

theorem ne_prefixed {key : String} (below : key < buildPrefix) (other : String) :
    key ≠ prefixed other := by
  rintro rfl
  exact String.not_lt.mpr (buildPrefix_le_prefixed other) below

theorem plain_eq_iff {key other : String} (below : key < buildPrefix) :
    plain other = key ↔ other = prefixed key ∨ other = key := by
  unfold plain
  split
  next rest starts =>
    have spelled : other = prefixed (String.ofList rest) := by
      apply String.toList_injective
      rw [Text.after?_eq_some_iff.mp starts, prefixed, String.toList_append, String.toList_ofList]
    constructor
    · rintro rfl
      exact .inl spelled
    · rintro (same | rfl)
      · exact (String.append_right_inj buildPrefix).mp (spelled.symm.trans same)
      · rw [spelled] at below
        exact absurd below (String.not_lt.mpr (buildPrefix_le_prefixed _))
  next starts =>
    refine ⟨.inr, ?_⟩
    rintro (rfl | same)
    · have spelled : Text.after? buildPrefix.toList (prefixed key).toList = some key.toList :=
        Text.after?_eq_some_iff.mpr String.toList_append
      cases starts.symm.trans spelled
    · exact same

end OptionKey

namespace Options

/-- The value that counts for a key: that of the prefixed spelling, if there is one. -/
def effective? (options : Options) (key : String) : Option String :=
  options[OptionKey.prefixed key]? <|> options[key]?

theorem lookup_toList (options : Options) (key : String) :
    options.toList.lookup key = options[key]? := by
  cases found : options.toList.lookup key with
  | none =>
    have absent := List.lookup_eq_none_iff.mp found
    cases value : options[key]? with
    | none => rfl
    | some text =>
      have member := Std.TreeMap.mem_toList_iff_getElem?_eq_some.mpr value
      simpa using absent _ member
  | some value =>
    obtain ⟨before, after, split, _⟩ := List.lookup_eq_some_iff.mp found
    exact (Std.TreeMap.mem_toList_iff_getElem?_eq_some.mp (by simp [split])).symm

theorem getElem?_foldl_insert_plain {entries : List (String × String)}
    (ascending : entries.Pairwise (·.1 < ·.1)) {key : String} (below : key < OptionKey.buildPrefix)
    (earlier : Options) :
    (entries.foldl (fun plain entry => plain.insert (OptionKey.plain entry.1) entry.2) earlier)[key]? =
      (entries.lookup (OptionKey.prefixed key) <|> entries.lookup key <|> earlier[key]?) := by
  induction entries generalizing earlier with
  | nil => simp
  | cons entry rest ih =>
    obtain ⟨first, others⟩ := List.pairwise_cons.mp ascending
    obtain ⟨spelling, value⟩ := entry
    have absent (other : String) (le : other ≤ spelling) : rest.lookup other = none := by
      rw [List.lookup_eq_none_iff]
      intro later member
      have less := Std.lt_of_le_of_lt le (first later member)
      simpa using (String.ne_of_lt less)
    rw [List.foldl_cons, ih others, Std.TreeMap.getElem?_insert]
    by_cases counts : OptionKey.plain spelling = key
    · rcases (OptionKey.plain_eq_iff below).mp counts with rfl | rfl
      · rw [absent (OptionKey.prefixed key) (String.le_refl _),
          absent key (Std.le_of_lt (OptionKey.lt_prefixed below))]
        simp [counts]
      · have differs : (OptionKey.prefixed spelling == spelling) = false := by
          simpa using (String.ne_of_lt (OptionKey.lt_prefixed below)).symm
        rw [absent spelling (String.le_refl _), List.lookup_cons, differs]
        simp [counts]
    · have differs : (OptionKey.prefixed key == spelling) = false ∧ (key == spelling) = false := by
        constructor
        · exact beq_false_of_ne fun same => counts ((OptionKey.plain_eq_iff below).mpr (.inl same.symm))
        · exact beq_false_of_ne fun same => counts ((OptionKey.plain_eq_iff below).mpr (.inr same.symm))
      rw [List.lookup_cons, List.lookup_cons, differs.1, differs.2]
      simp [counts]

theorem getElem?_underPlainKeys (options : Options) {key : String}
    (below : key < OptionKey.buildPrefix) :
    options.underPlainKeys[key]? = options.effective? key := by
  have ascending : options.toList.Pairwise (·.1 < ·.1) :=
    options.ordered_keys_toList.imp fun less => compareOfLessAndEq_eq_lt.mp less
  rw [underPlainKeys, Std.TreeMap.foldl_eq_foldl_toList, getElem?_foldl_insert_plain ascending below,
    lookup_toList, lookup_toList]
  simp [effective?]

theorem getElem?_underPlainKeys_of_mem (options : Options) {key : String}
    (recognized : key ∈ OptionKey.all) : options.underPlainKeys[key]? = options.effective? key :=
  options.getElem?_underPlainKeys (OptionKey.lt_buildPrefix_of_mem recognized)

end Options

namespace Configuration

/-- Whether a value turns a flag on. -/
def isOn (value? : Option String) : Bool :=
  value?.any (sameLetters · "true")

/-- The names that a value lists, in order and with repetitions. -/
def listed (value? : Option String) : List String :=
  (value?.map Text.tokens).getD []

/-- The configuration that values of the recognized keys come down to. -/
def ofValues (value? : String → Option String) : Configuration where
  usePublicAccessibility := isOn (value? OptionKey.usePublicAccessibility)
  includeRuntimeSupported := isOn (value? OptionKey.includeRuntimeSupported)
  useAltNamespaceForNativeCall := isOn (value? OptionKey.useAltNamespaceForNativeCall)
  excludeTypeForwards := isOn (value? OptionKey.excludeTypeForwards)
  includeList := .ofList (listed (value? OptionKey.includeGeneratedArtifacts))
  excludeList := .ofList (listed (value? OptionKey.excludeGeneratedArtifacts))

theorem readFlag_fst (options : Options) (key : String) :
    (readFlag options key).1 = isOn options[key]? := by
  unfold readFlag
  cases options[key]? with
  | none => rfl
  | some value =>
    simp only [isOn, Option.any_some]
    split
    · simp_all
    · split <;> simp_all

/-- Resolving comes down to the effective values of the recognized keys. -/
theorem configuration_resolve (catalog : Catalog) (raw : Options) :
    (resolve catalog raw).configuration = ofValues raw.effective? := by
  simp only [resolve, ofValues, readFlag_fst, readList, listed]
  simp (disch := decide) only [Options.getElem?_underPlainKeys_of_mem]

end Configuration

end Polyfill
