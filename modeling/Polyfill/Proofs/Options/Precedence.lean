import Polyfill.Catalog.Builtin
import Polyfill.Options.Collection
import Polyfill.Proofs.Options.Effective

/-!
# Precedence of collected options

Flags are set after the options of the file, but under the keys as they are spelled. Which of two
spellings counts is decided later, by the order of the keys, and that order knows nothing of where a
value came from. So a flag wins over the file, and over earlier flags, in its own spelling only.
-/

namespace Polyfill

namespace Options

/-- The options that a file gives, if there is one. -/
def ofFile? (file : Option (String × Except FileFault String)) : Except OptionFault Options :=
  match file with
  | none => .ok ∅
  | some (path, content) => ofFile path content

/-- The spelling and the value of a flag whose key is one of some spellings. -/
def naming? (spellings : List String) (flag : String) : Option (String × String) :=
  (parseFlag flag).toOption.filter fun (key, _) => spellings.contains key

/-- The spelling and the value of the last flag whose key is one of some spellings. -/
def lastNaming? (spellings : List String) (flags : List String) : Option (String × String) :=
  flags.reverse.findSome? (naming? spellings)

/-- The value of the last flag with a key, in this very spelling. -/
def lastFlag? (key : String) (flags : List String) : Option String :=
  (lastNaming? [key] flags).map (·.2)

theorem lastNaming?_cons (spellings : List String) (flag : String) (flags : List String) :
    lastNaming? spellings (flag :: flags) =
      (lastNaming? spellings flags <|> naming? spellings flag) := by
  simp [lastNaming?, List.findSome?_append, List.findSome?_singleton]

theorem naming?_eq_some_iff {spellings : List String} {flag spelling value : String} :
    naming? spellings flag = some (spelling, value) ↔
      parseFlag flag = .ok (spelling, value) ∧ spelling ∈ spellings := by
  cases parsed : parseFlag flag with
  | error fault => simp [naming?, parsed, Except.toOption]
  | ok read =>
    simp only [naming?, parsed, Except.toOption, Option.filter_eq_some_iff]
    grind

theorem lastFlag?_of_lastNaming? {spellings flags : List String} {spelling value : String}
    (last : lastNaming? spellings flags = some (spelling, value)) :
    spelling ∈ spellings ∧ lastFlag? spelling flags = some value := by
  induction flags with
  | nil => simp [lastNaming?] at last
  | cons flag flags ih =>
    rw [lastNaming?_cons] at last
    rw [lastFlag?, lastNaming?_cons]
    cases later : lastNaming? spellings flags with
    | some found =>
      obtain rfl : found = (spelling, value) := by simpa [later] using last
      obtain ⟨member, same⟩ := ih later
      obtain ⟨_, found, rfl⟩ := Option.map_eq_some_iff.mp same
      exact ⟨member, by simp [found]⟩
    | none =>
      have named : naming? spellings flag = some (spelling, value) := by simpa [later] using last
      obtain ⟨parsed, member⟩ := naming?_eq_some_iff.mp named
      have itself : naming? [spelling] flag = some (spelling, value) :=
        naming?_eq_some_iff.mpr ⟨parsed, by simp⟩
      -- a later flag of this spelling would be a later flag of the given spellings
      have none_later : lastNaming? [spelling] flags = none := by
        rw [lastNaming?, List.findSome?_eq_none_iff] at later ⊢
        intro other listed
        rw [Option.eq_none_iff_forall_ne_some]
        rintro ⟨key, text⟩ found
        obtain ⟨read, only⟩ := naming?_eq_some_iff.mp found
        obtain rfl := List.mem_singleton.mp only
        have again := naming?_eq_some_iff.mpr ⟨read, member⟩
        simp [later other listed] at again
      exact ⟨member, by simp [none_later, itself]⟩

theorem withFlags_cons (options : Options) (flag : String) (flags : List String) :
    withFlags options (flag :: flags) =
      match parseFlag flag with
      | .ok (key, value) => withFlags (options.insert key value) flags
      | .error fault => .error fault := by
  rw [withFlags, List.foldlM_cons]
  cases parseFlag flag <;> rfl

theorem getElem?_withFlags {base options : Options} {flags : List String}
    (set : withFlags base flags = .ok options) (key : String) :
    options[key]? = (lastFlag? key flags <|> base[key]?) := by
  induction flags generalizing base with
  | nil =>
    cases set
    simp [lastFlag?, lastNaming?]
  | cons flag flags ih =>
    rw [withFlags_cons] at set
    cases parsed : parseFlag flag with
    | error fault => simp [parsed] at set
    | ok read =>
      obtain ⟨spelling, value⟩ := read
      simp only [parsed] at set
      rw [ih set, lastFlag?, lastFlag?, lastNaming?_cons, naming?, parsed, Std.TreeMap.getElem?_insert]
      cases lastNaming? [key] flags with
      | some later => simp
      | none =>
        by_cases same : spelling = key <;> simp [same, Except.toOption, Option.filter]

theorem exists_of_collect {file : Option (String × Except FileFault String)} {flags : List String}
    {options : Options} (collected : collect file flags = .ok options) :
    ∃ fromFile, ofFile? file = .ok fromFile ∧ withFlags fromFile flags = .ok options := by
  cases file with
  | none => exact ⟨∅, rfl, collected⟩
  | some file =>
    obtain ⟨path, content⟩ := file
    cases read : ofFile path content with
    | error fault => simp [collect, read, bind, Except.bind] at collected
    | ok fromFile =>
      refine ⟨fromFile, read, ?_⟩
      simpa [collect, read, bind, Except.bind] using collected

/--
The value of an option that some flag names. The last flag that names it decides, unless this flag has
the plain key and another flag, or the file, has the prefixed one: then the last prefixed flag decides,
and without one the file.
-/
theorem effective?_collect {file : Option (String × Except FileFault String)}
    {flags : List String} {options : Options} (collected : collect file flags = .ok options)
    (catalog : Catalog) {key spelling value : String}
    (named : lastNaming? (OptionKey.spellings key) flags = some (spelling, value)) :
    ∃ fromFile, ofFile? file = .ok fromFile ∧
      (Configuration.resolve catalog options).configuration =
        Configuration.ofValues options.effective? ∧
      options.effective? key = some
        (if spelling = key then
          (lastFlag? (OptionKey.prefixed key) flags <|>
            fromFile[OptionKey.prefixed key]?).getD value
        else value) := by
  obtain ⟨fromFile, read, set⟩ := exists_of_collect collected
  obtain ⟨member, last⟩ := lastFlag?_of_lastNaming? named
  refine ⟨fromFile, read, Configuration.configuration_resolve catalog options, ?_⟩
  rw [effective?, getElem?_withFlags set, getElem?_withFlags set]
  by_cases plain : spelling = key
  · subst plain
    rw [last, if_pos rfl]
    cases lastFlag? (OptionKey.prefixed spelling) flags with
    | some _ => rfl
    | none => cases fromFile[OptionKey.prefixed spelling]? <;> rfl
  · obtain rfl : spelling = OptionKey.prefixed key := by
      simpa [OptionKey.spellings, plain] using member
    rw [last, if_neg plain]
    rfl

/-- A plain flag after a prefixed one, and a file with neither of them. -/
theorem effective?_collect_two_spellings :
    let flags := ["build_property.ExcludeTypeForwards = TRUE", "ExcludeTypeForwards=false"]
    let file := some ("options.json", .ok "\x7b\"UsePublicAccessibility\": true\x7d")
    ∃ options, collect file flags = .ok options ∧
      lastNaming? (OptionKey.spellings OptionKey.excludeTypeForwards) flags =
        some (OptionKey.excludeTypeForwards, "false") ∧
      options.effective? OptionKey.excludeTypeForwards = some "TRUE" := by
  intro flags file
  have named : lastNaming? (OptionKey.spellings OptionKey.excludeTypeForwards) flags =
      some (OptionKey.excludeTypeForwards, "false") := by
    decide +kernel
  have succeeds : (collect file flags).toOption.isSome = true := by decide +kernel
  cases collected : collect file flags with
  | error fault => simp [collected, Except.toOption] at succeeds
  | ok options =>
    obtain ⟨fromFile, read, _, value⟩ := effective?_collect collected .builtin named
    refine ⟨options, rfl, named, value.trans ?_⟩
    have prefixed : lastFlag? (OptionKey.prefixed OptionKey.excludeTypeForwards) flags =
        some "TRUE" := by
      decide +kernel
    rw [prefixed, if_pos rfl]
    rfl

/-- A flag does not count against the prefixed spelling of its key in the file. -/
theorem collect_prefixed_in_file :
    lastNaming? (OptionKey.spellings OptionKey.excludeTypeForwards)
        ["ExcludeTypeForwards=false"] = some (OptionKey.excludeTypeForwards, "false") ∧
      (collect (some ("options.json", .ok "\x7b\"build_property.ExcludeTypeForwards\": true\x7d"))
          ["ExcludeTypeForwards=false"]).toOption.map (fun options =>
        (Configuration.resolve .builtin options).configuration.excludeTypeForwards) = some true := by
  constructor
  · decide +kernel
  · decide +kernel

end Options

end Polyfill
