import Polyfill.Proofs.Json.AnyValue
import Polyfill.Proofs.Options.Influence
import Polyfill.Proofs.Options.Precedence
import Polyfill.Proofs.Text.Tokens

/-!
# Lists, however they are written

A list of texts is given under a key by a flag that joins them with semicolons, by the joined text in the
options file, or by a list in the options file. The values that are collected differ in the white space
around them at most, so that they list the same tokens, and options that list the same tokens resolve
alike, whatever else is set before or afterwards.
-/

namespace Polyfill

open Json

namespace Options

variable {key : String} {a b : Options}

/-! ## Options that list the same tokens -/

/-- Options that agree on all keys but one, and list the same tokens under this one. -/
structure ListsAlike (key : String) (a b : Options) : Prop where
  others : ∀ other, other ≠ key → a[other]? = b[other]?
  tokens : Configuration.listed a[key]? = Configuration.listed b[key]?

theorem ListsAlike.of_forall (same : ∀ other : String, a[other]? = b[other]?) : ListsAlike key a b where
  others other _ := same other
  tokens := congrArg _ (same key)

theorem ListsAlike.refl (options : Options) : ListsAlike key options options :=
  .of_forall fun _ => rfl

theorem ListsAlike.trans {c : Options} (first : ListsAlike key a b) (second : ListsAlike key b c) :
    ListsAlike key a c where
  others other differs := (first.others other differs).trans (second.others other differs)
  tokens := first.tokens.trans second.tokens

theorem ListsAlike.insert (alike : ListsAlike key a b) (name value : String) :
    ListsAlike key (a.insert name value) (b.insert name value) where
  others other differs := by
    rw [Std.TreeMap.getElem?_insert, Std.TreeMap.getElem?_insert, alike.others other differs]
  tokens := by
    rw [Std.TreeMap.getElem?_insert, Std.TreeMap.getElem?_insert]
    split
    · rfl
    · exact alike.tokens

theorem ListsAlike.insert_comm {name : String} (differs : name ≠ key) (options : Options)
    (value given : String) :
    ListsAlike key ((options.insert name value).insert key given)
      ((options.insert key given).insert name value) := by
  refine .of_forall fun other => ?_
  simp only [Std.TreeMap.getElem?_insert, Std.compare_eq_iff_eq]
  split
  case isTrue same =>
    rw [if_neg fun also => differs (also.trans same.symm)]
  case isFalse => rfl

theorem ListsAlike.resolve_eq (alike : ListsAlike key a b) (list : key ∈ OptionKey.lists)
    (catalog : Catalog) : Configuration.resolve catalog a = Configuration.resolve catalog b := by
  have prefixed (other : String) (recognized : other ∈ OptionKey.all) :
      a[OptionKey.prefixed other]? = b[OptionKey.prefixed other]? := by
    have below := OptionKey.lt_buildPrefix_of_mem (OptionKey.mem_all_iff.mpr (.inr list))
    exact alike.others _ (OptionKey.ne_prefixed below other).symm
  apply Configuration.resolve_congr_of_listed
  · intro flag member
    have differs : flag ≠ key := by
      rintro rfl
      exact OptionKey.not_mem_flags_of_mem_lists list member
    rw [effective?, effective?, prefixed flag (OptionKey.mem_all_iff.mpr (.inl member)),
      alike.others flag differs]
  · intro other member
    rw [effective?, effective?, prefixed other (OptionKey.mem_all_iff.mpr (.inr member))]
    cases b[OptionKey.prefixed other]? with
    | some value => rfl
    | none =>
      by_cases same : other = key
      · exact same ▸ alike.tokens
      · exact congrArg _ (alike.others other same)

/-! ## Attempts that match -/

/-- Two attempts to collect options that fail alike, or come to related options. -/
inductive Matched (Related : Options → Options → Prop) :
    Except OptionFault Options → Except OptionFault Options → Prop where
  | failed (fault : OptionFault) : Matched Related (.error fault) (.error fault)
  | done {a b : Options} (related : Related a b) : Matched Related (.ok a) (.ok b)

namespace Matched

variable {Related Reached : Options → Options → Prop} {first second : Except OptionFault Options}

theorem refl (itself : ∀ options, Related options options) (attempt : Except OptionFault Options) :
    Matched Related attempt attempt := by
  cases attempt with
  | error fault => exact .failed fault
  | ok options => exact .done (itself options)

theorem bind (matched : Matched Related first second) {next next' : Options → Except OptionFault Options}
    (goes_on : ∀ a b, Related a b → Matched Reached (next a) (next' b)) :
    Matched Reached (first >>= next) (second >>= next') := by
  cases matched with
  | failed fault => exact .failed fault
  | done related => exact goes_on _ _ related

/-- Steps that keep options related lead to related options. -/
theorem foldlM {α : Type} {step : Options → α → Except OptionFault Options} {items : List α}
    (keeps : ∀ item ∈ items, ∀ a b, Related a b → Matched Related (step a item) (step b item))
    (related : Related a b) : Matched Related (items.foldlM step a) (items.foldlM step b) := by
  induction items generalizing a b with
  | nil => exact .done related
  | cons item rest ih =>
    obtain ⟨here, later⟩ := List.forall_mem_cons.mp keeps
    rw [List.foldlM_cons, List.foldlM_cons]
    exact (here a b related).bind fun a b related => ih later related

theorem resolve_eq (matched : Matched (ListsAlike key) first second) (list : key ∈ OptionKey.lists)
    (catalog : Catalog) :
    first.map (Configuration.resolve catalog) = second.map (Configuration.resolve catalog) := by
  cases matched with
  | failed => rfl
  | done alike => exact congrArg Except.ok (alike.resolve_eq list catalog)

end Matched

theorem matched_withFlags (alike : ListsAlike key a b) (flags : List String) :
    Matched (ListsAlike key) (withFlags a flags) (withFlags b flags) := by
  refine Matched.foldlM (fun flag _ a b alike => ?_) alike
  cases parseFlag flag with
  | error fault => exact .failed fault
  | ok read => exact .done (alike.insert read.1 read.2)

/-! ## Members of an options file -/

/-- Set what a member of an object gives. -/
def setMember (path : String) (options : Options) (member : String × Value) :
    Except OptionFault Options :=
  match valueText? member.2 with
  | some text => .ok (options.insert member.1 text)
  | none => .error (.nested path member.1)

theorem ofMembers_append (path : String) (front back : List (String × Value)) :
    ofMembers path (front ++ back) =
      ofMembers path front >>= (back.foldlM (setMember path) ·) :=
  List.foldlM_append

/-- Of the value of a member only the text counts that it comes down to. -/
theorem ofMembers_congr (path : String) (before after : List (String × Value)) {value other : Value}
    (same : valueText? value = valueText? other) :
    ofMembers path (before ++ (key, value) :: after) =
      ofMembers path (before ++ (key, other) :: after) := by
  simp only [ofMembers_append, List.foldlM_cons, setMember, same]

theorem valueText?_texts (texts : List String) :
    valueText? (.texts texts) = valueText? (.text (String.intercalate ";" texts)) := by
  simp [valueText?, Value.texts, Function.comp_def, itemText]

/-- One more member of a file comes to the same as setting the tokens of its value afterwards. -/
theorem matched_ofMembers (path : String) (before : List (String × Value))
    {after : List (String × Value)} (fresh : ∀ member ∈ after, member.1 ≠ key) {value : Value}
    {text given : String} (said : valueText? value = some text)
    (same : Text.tokens given = Text.tokens text) :
    Matched (fun a b => ListsAlike key (a.insert key given) b) (ofMembers path (before ++ after))
      (ofMembers path (before ++ (key, value) :: after)) := by
  rw [ofMembers_append, ofMembers_append]
  refine (Matched.refl (@rfl Options) _).bind fun base _ same_base => ?_
  subst same_base
  have first : setMember path base (key, value) = .ok (base.insert key text) := by rw [setMember, said]
  rw [List.foldlM_cons, first]
  refine Matched.foldlM (fun member among a b alike => ?_) ?_
  · rw [setMember, setMember]
    cases valueText? member.2 with
    | none => exact .failed _
    | some other =>
      have swapped := ListsAlike.insert_comm (fresh member among) a other given
      exact .done (swapped.trans (alike.insert member.1 other))
  · constructor
    case others => intro other differs; simp [Std.TreeMap.getElem?_insert, Ne.symm differs]
    case tokens => simp [Configuration.listed, same]

/-! ## Ways to give a list -/

theorem parseFlag_of_mem_lists (list : key ∈ OptionKey.lists) (value : String) :
    parseFlag (key ++ "=" ++ value) = .ok (key, Text.trim value) := by
  have plain : '=' ∉ key.toList ∧ Text.trimmed key.toList = key.toList ∧ key.toList ≠ [] := by
    revert key
    decide
  obtain ⟨fresh, kept, nonempty⟩ := plain
  have split : (key ++ "=" ++ value).toList = key.toList ++ '=' :: value.toList := by simp
  simp [parseFlag, split, Text.takeWhile_append_cons fresh, kept, nonempty, Text.trim]

/-- What is read of the options file: some members, or nothing where there is no file. -/
inductive Holds (path : String) :
    Option (String × Except FileFault String) → List (String × Value) → Prop where
  | file {content : String} {members : List (String × Value)}
      (reads : Json.read Reader.members content = .ok members) :
      Holds path (some (path, .ok content)) members
  | none : Holds path none []

theorem Holds.collect_eq {path : String} {file : Option (String × Except FileFault String)}
    {members : List (String × Value)} (holds : Holds path file members) (flags : List String) :
    collect file flags = ofMembers path members >>= (withFlags · flags) := by
  cases holds with
  | file reads => simp only [collect, ofFile, reads]
  | none => rfl

/--
The ways to give a list of texts under a key, with other members of the options file before and after
it: a flag with semicolons between the texts, or a member of the file, with the same value as the flag or
with the list itself.
-/
inductive GivesList (path key : String) (texts : List String) (before after : List (String × Value)) :
    Option (String × Except FileFault String) → List String → Prop where
  | flag {file} (holds : Holds path file (before ++ after)) :
      GivesList path key texts before after file [key ++ "=" ++ String.intercalate ";" texts]
  | text {file}
      (holds : Holds path file (before ++ (key, .text (String.intercalate ";" texts)) :: after)) :
      GivesList path key texts before after file []
  | list {file} (holds : Holds path file (before ++ (key, .texts texts) :: after)) :
      GivesList path key texts before after file []

section Ways

variable {path : String} {texts : List String} {before after : List (String × Value)}
  {file : Option (String × Except FileFault String)} {set : List String}

/-- However a list is given, it counts as the joined text in the options file does. -/
theorem GivesList.matched (gives : GivesList path key texts before after file set)
    (list : key ∈ OptionKey.lists) (fresh : ∀ member ∈ after, member.1 ≠ key) (flags : List String) :
    Matched (ListsAlike key) (collect file (set ++ flags))
      (ofMembers path (before ++ (key, .text (String.intercalate ";" texts)) :: after) >>=
        (withFlags · flags)) := by
  cases gives with
  | flag holds =>
    rw [holds.collect_eq]
    refine (matched_ofMembers path before fresh rfl (Text.tokens_trim _)).bind
      fun a b alike => ?_
    rw [List.singleton_append, withFlags_cons, parseFlag_of_mem_lists list]
    exact matched_withFlags alike flags
  | text holds =>
    rw [holds.collect_eq]
    exact .refl .refl _
  | list holds =>
    rw [holds.collect_eq, ofMembers_congr path before after (valueText?_texts texts)]
    exact .refl .refl _

theorem resolve_insert_empty (list : key ∈ OptionKey.lists) (catalog : Catalog) (value : String) :
    Configuration.resolve catalog ((∅ : Options).insert key value) =
      { configuration :=
          { includeList := .ofList
              (if key = OptionKey.includeGeneratedArtifacts then Text.tokens value else [])
            excludeList := .ofList
              (if key = OptionKey.excludeGeneratedArtifacts then Text.tokens value else []) }
        diagnostics := Configuration.listFindings catalog key (some value) } := by
  have below := OptionKey.lt_buildPrefix_of_mem (OptionKey.mem_all_iff.mpr (.inr list))
  have effective (other : String) :
      effective? ((∅ : Options).insert key value) other = if key = other then some value else none := by
    simp [effective?, Std.TreeMap.getElem?_insert, OptionKey.ne_prefixed below other]
  rw [Configuration.resolve_eq]
  simp only [Configuration.ofValues, Configuration.findings, effective, OptionKey.flags,
    List.flatMap_cons, List.flatMap_nil]
  have key_eq : key = OptionKey.excludeGeneratedArtifacts ∨ key = OptionKey.includeGeneratedArtifacts := by
    simpa [OptionKey.lists] using list
  rcases key_eq with rfl | rfl
  all_goals
    simp (disch := decide) only [if_neg, if_true]
    simp [Configuration.listFindings, Configuration.flagFindings, Configuration.listed, Configuration.isOn]

end Ways

theorem givesList_write {layout : Layout} (blank : layout.IsBlank) (path key : String)
    (texts : List String) :
    ∀ value ∈ [.text (String.intercalate ";" texts), .texts texts],
      GivesList path key texts [] []
        (some (path, .ok (String.ofList ((Value.object [(key, value)]).write layout 0)))) [] := by
  have reads {value : Value} (returns : value.Returns) :=
    read_members_write blank (List.pairwise_singleton _ (key, value)) (List.forall_mem_singleton.mpr returns)
  intro value member
  rcases List.mem_pair.mp member with rfl | rfl
  · exact .text (.file (reads (Value.returns_text _)))
  · exact .list (.file (reads (Value.returns_texts texts)))

/--
The tokens of two texts with a separator between them are the tokens of both, and a list consists of
tokens if and only if it comes back from its texts with semicolons between them. So a list of texts
resolves alike however it is given, whatever else is in the options file and in later flags, and by itself
it comes to the tokens of its texts. There are options files that give it, for every list of texts.
-/
theorem lists_however_given :
    (∀ a b : String, ∀ separator ∈ [",", ";"],
      Text.tokens (a ++ separator ++ b) = Text.tokens a ++ Text.tokens b) ∧
    (∀ value, ∀ token ∈ Text.tokens value, Text.IsToken token) ∧
    (∀ list, Text.tokens (String.intercalate ";" list) = list ↔ ∀ token ∈ list, Text.IsToken token) ∧
    ∀ key ∈ OptionKey.lists, ∀ (texts : List String) (catalog : Catalog) (path : String),
      (∀ before after, (∀ member ∈ after, member.1 ≠ key) → ∀ file set file' set',
        GivesList path key texts before after file set →
          GivesList path key texts before after file' set' → ∀ flags,
            (collect file (set ++ flags)).map (Configuration.resolve catalog) =
              (collect file' (set' ++ flags)).map (Configuration.resolve catalog)) ∧
      (∀ file set, GivesList path key texts [] [] file set →
        let names := texts.flatMap Text.tokens
        (collect file set).map (Configuration.resolve catalog) = .ok
          { configuration :=
              { includeList := .ofList (if key = OptionKey.includeGeneratedArtifacts then names else [])
                excludeList :=
                  .ofList (if key = OptionKey.excludeGeneratedArtifacts then names else []) }
            diagnostics := (names.filter (!catalog.contains ·)).map fun name =>
              .ofDescriptor .unknownArtifactName [name, key] }) ∧
      ∀ layout : Layout, layout.IsBlank →
        ∀ value ∈ [.text (String.intercalate ";" texts), .texts texts],
          GivesList path key texts [] []
            (some (path, .ok (String.ofList ((Value.object [(key, value)]).write layout 0)))) [] := by
  refine ⟨fun a b separator => Text.tokens_append_separator a b,
    fun value token => Text.isToken_of_mem_tokens, fun list => Text.tokens_intercalate_eq_iff, ?_⟩
  intro key list texts catalog path
  refine ⟨?alike, ?alone, fun layout blank => givesList_write blank path key texts⟩
  case alike =>
    intro before after fresh file set file' set' gives gives' flags
    rw [(gives.matched list fresh flags).resolve_eq list, (gives'.matched list fresh flags).resolve_eq list]
  case alone =>
    intro file set gives names
    have alike := (gives.matched list (List.forall_mem_nil _) []).resolve_eq list catalog
    have alone := resolve_insert_empty list catalog (String.intercalate ";" texts)
    rw [Configuration.listFindings, Configuration.listed, Option.map_some, Option.getD_some,
      Text.tokens_intercalate] at alone
    rw [List.append_nil] at alike
    exact alike.trans (congrArg Except.ok alone)

/-- A list with an empty text, white space, separators and an equals sign in it, and an option beside it. -/
theorem lists_however_given_of_three :
    let catalog : Catalog := ⟨[⟨"System.Index", .languageSupport, .empty⟩], by simp, by simp⟩
    let texts := [" System.Index", "", "a=b, System.Range;"]
    let flag := "IncludeGeneratedArtifacts" ++ "=" ++ String.intercalate ";" texts
    let list : String × Value := ("IncludeGeneratedArtifacts", .texts texts)
    let other : String × Value := ("UsePublicAccessibility", .text "TRUE")
    let file members := some ("options.json", .ok (Value.object members).pretty)
    (collect (file [list, other]) ["ExcludeTypeForwards=no"]).map (Configuration.resolve catalog) =
        (collect (file [other]) [flag, "ExcludeTypeForwards=no"]).map
          (Configuration.resolve catalog) ∧
      (collect none [flag]).map (Configuration.resolve catalog) = .ok
        { configuration := { includeList := .ofList ["System.Index", "a=b", "System.Range"] }
          diagnostics :=
            [.ofDescriptor .unknownArtifactName ["a=b", "IncludeGeneratedArtifacts"],
              .ofDescriptor .unknownArtifactName ["System.Range", "IncludeGeneratedArtifacts"]] } := by
  intro catalog texts flag list other file
  obtain ⟨alike, alone, -⟩ := lists_however_given.2.2.2 OptionKey.includeGeneratedArtifacts (by decide)
    texts catalog "options.json"
  have returns_other : other.2.Returns := Value.returns_text _
  have with_list : Holds "options.json" (file [list, other]) [list, other] :=
    .file (read_members_write Layout.isBlank_spread (List.pairwise_pair.mpr (by decide))
      (by simp [list, Value.returns_texts, returns_other]))
  have without : Holds "options.json" (file [other]) [other] :=
    .file (read_members_write Layout.isBlank_spread (by simp) (by simp [returns_other]))
  constructor
  · exact alike [] [other] (by decide) _ _ _ _ (.list with_list) (.flag without) _
  · have names : texts.flatMap Text.tokens = ["System.Index", "a=b", "System.Range"] := by decide +kernel
    simp only [names] at alone
    exact alone none [flag] (.flag .none)

end Options

end Polyfill
