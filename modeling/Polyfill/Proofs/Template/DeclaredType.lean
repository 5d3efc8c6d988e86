import Polyfill.Proofs.Template.Alias
import Polyfill.Proofs.Text.Opening

/-!
# The type that an alias names

A type is declared on a line that starts with modifiers, a kind and a name. The reader of declarations takes
the word behind the first word of the kind for the name. So the alias names the declared type if the kind is
one word, and the second word of the kind if it is written in two.
-/

namespace Polyfill.Template

open Text

theorem isNamespacePart_eq_false_of_isBlank {c : Char} (blank : isBlank c = true) :
    isNamespacePart c = false := by
  have other : c ≠ '.' := by
    rintro rfl
    cases blank
  simp [isNamespacePart, isWord_eq_false_of_isBlank blank, other]

/-! ## Declarations -/

/-- A line declares a namespace: it says the keyword, and the name behind it. -/
inductive DeclaresNamespace (ns : List Char) : List Char → Prop where
  | named {behind rest line} (keyword : StartsName isWord "namespace".toList behind line)
      (parted : startsWith isBlank behind = true) (name : StartsName isNamespacePart ns rest behind) :
      DeclaresNamespace ns line

/-- The kinds of types as they are written: in one word, or records in two. -/
def kinds : List (List (List Char)) :=
  typeKinds.map ([·]) ++ ["class", "struct"].map fun word => ["record".toList, word.toList]

/-- The words that a declaration is made of, names apart. -/
def keywords : List (List Char) :=
  modifiers ++ typeKinds

/-- A line declares a type: it starts with modifiers, the kind and the name. -/
def DeclaresType (kind : List (List Char)) (name line : List Char) : Prop :=
  ∃ before, (∀ word ∈ before, word ∈ modifiers) ∧ Opens (before ++ kind ++ [name]) line

/-- A line that declares a type of some kind under a name that is no keyword. -/
def IsTypeLine (line : List Char) : Prop :=
  ∃ kind ∈ kinds, ∃ name, name ∉ keywords ∧ DeclaresType kind name line

/-- A line that only reads like a declaration: a keyword stands where the name is to stand. -/
def NamesKeyword (line : List Char) : Prop :=
  ∃ kind ∈ typeKinds, ∃ word ∈ keywords, DeclaresType [kind] word line

/-- A line is the first one of a text with a property: it stands below lines without it. -/
structure IsFirst (Has : List Char → Prop) (above : List (List Char)) (line text : List Char) : Prop where
  among : ∃ below, lines text = above ++ line :: below
  here : Has line
  above : ∀ other ∈ above, ¬ Has other

theorem nameAfterBlanks?_eq_some_iff {cls : Char → Bool} (apart : ∀ c, isBlank c = true → cls c = false)
    {name text : List Char} :
    nameAfterBlanks? cls text = some name ↔
      startsWith isBlank text = true ∧ ∃ rest, StartsName cls name rest text := by
  simp only [nameAfterBlanks?, Option.ite_none_right_eq_some, Option.some.injEq, Bool.and_eq_true,
    Bool.not_eq_true', List.isEmpty_eq_false_iff, startsName_iff apart, exists_and_left, exists_eq',
    and_true, and_assoc]
  constructor
  · rintro ⟨blank, nonempty, rfl⟩
    exact ⟨blank, nonempty, rfl⟩
  · rintro ⟨blank, nonempty, rfl⟩
    exact ⟨blank, nonempty, rfl⟩

theorem namespaceOf?_eq_some_iff {ns line : List Char} :
    namespaceOf? line = some ns ↔ DeclaresNamespace ns line := by
  have part_apart : ∀ c, isBlank c = true → isNamespacePart c = false :=
    fun _ => isNamespacePart_eq_false_of_isBlank
  have keyword_inside : ∀ c ∈ "namespace".toList, isWord c = true := forall_mem_of_all (by decide)
  rw [namespaceOf?, Option.bind_eq_bind, Option.bind_eq_some_iff]
  simp only [after?_eq_some_iff, nameAfterBlanks?_eq_some_iff part_apart]
  constructor
  · rintro ⟨behind, keyword, parted, rest, name⟩
    refine .named ?_ parted name
    rw [← List.takeWhile_append_dropWhile (p := isBlank) (l := line), keyword]
    exact .behind (of_mem_takeWhile isBlank line) (by decide) keyword_inside
      (startsWith_isWord_of_isBlank parted)
  · rintro ⟨keyword, parted, name⟩
    obtain ⟨-, word, rest⟩ := (startsName_iff fun _ => isWord_eq_false_of_isBlank).mp keyword
    refine ⟨_, ?_, parted, _, name⟩
    rw [← word, ← rest, List.takeWhile_append_dropWhile]

theorem typeOf?_of_startsName {word rest line : List Char} (starts : StartsName isWord word rest line) :
    typeOf? line =
      if word ∈ typeKinds then nameAfterBlanks? isWord rest
      else if word ∈ modifiers ∧ startsWith isBlank rest = true then typeOf? rest
      else none := by
  obtain ⟨-, rfl, rfl⟩ := (startsName_iff fun _ => isWord_eq_false_of_isBlank).mp starts
  rw [typeOf?]

theorem not_mem_typeKinds_of_mem_modifiers {word : List Char} (modifier : word ∈ modifiers) :
    word ∉ typeKinds := by
  revert word
  decide

theorem typeOf?_of_opens {before : List (List Char)} {kind name line : List Char}
    (modified : ∀ word ∈ before, word ∈ modifiers) (isKind : kind ∈ typeKinds)
    (opens : Opens (before ++ [kind, name]) line) : typeOf? line = some name := by
  induction before generalizing line with
  | nil =>
    obtain ⟨rest, starts, behind⟩ := opens.exists_rest
    obtain ⟨parted, others⟩ := behind (List.cons_ne_nil _ _)
    obtain ⟨_, named, -⟩ := others.exists_rest
    rw [typeOf?_of_startsName starts, if_pos isKind,
      nameAfterBlanks?_eq_some_iff fun _ => isWord_eq_false_of_isBlank]
    exact ⟨parted, _, named⟩
  | cons word before ih =>
    rw [List.forall_mem_cons] at modified
    obtain ⟨rest, starts, behind⟩ := opens.exists_rest
    obtain ⟨parted, others⟩ := behind (by simp)
    rw [typeOf?_of_startsName starts, if_neg (not_mem_typeKinds_of_mem_modifiers modified.1),
      if_pos ⟨modified.1, parted⟩]
    exact ih modified.2 others

theorem startsName_of_mem {words : List (List Char)} (proper : [] ∉ words) {line : List Char}
    (listed : (line.dropWhile isBlank).takeWhile isWord ∈ words) :
    StartsName isWord ((line.dropWhile isBlank).takeWhile isWord)
      ((line.dropWhile isBlank).dropWhile isWord) line := by
  refine (startsName_iff fun _ => isWord_eq_false_of_isBlank).mpr ⟨?_, rfl, rfl⟩
  intro empty
  exact proper (empty ▸ listed)

/-- The reader finds a type by a kind of one word, and takes what follows for the name. -/
theorem typeOf?_eq_some_iff {name line : List Char} :
    typeOf? line = some name ↔ ∃ kind ∈ typeKinds, DeclaresType [kind] name line := by
  constructor
  · intro found
    induction line using typeOf?.induct with
    | case1 line start word kind =>
      rw [typeOf?, if_pos kind, nameAfterBlanks?_eq_some_iff fun _ => isWord_eq_false_of_isBlank] at found
      obtain ⟨parted, rest, named⟩ := found
      exact ⟨word, kind, [], by simp, .next (startsName_of_mem (by decide) kind) parted (.last named)⟩
    | case2 line start word behind other modifier ih =>
      rw [typeOf?, if_neg other, if_pos modifier] at found
      obtain ⟨kind, isKind, before, modified, opens⟩ := ih found
      exact ⟨kind, isKind, word :: before, List.forall_mem_cons.mpr ⟨modifier.1, modified⟩,
        .next (startsName_of_mem (by decide) modifier.1) modifier.2 opens⟩
    | case3 line start word behind other stop =>
      rw [typeOf?, if_neg other, if_neg stop] at found
      cases found
  · rintro ⟨kind, isKind, before, modified, opens⟩
    rw [List.append_assoc] at opens
    exact typeOf?_of_opens modified isKind opens

theorem word_behind {kind : List (List Char)} (isKind : kind ∈ kinds) (name : List Char) :
    kind.length = 1 ∧ (kind ++ [name])[1]? = some name ∨
      kind.length = 2 ∧ ∃ word ∈ keywords, (kind ++ [name])[1]? = some word := by
  rcases List.mem_append.mp isKind with single | double
  · obtain ⟨word, -, rfl⟩ := List.mem_map.mp single
    exact .inl ⟨rfl, rfl⟩
  · obtain ⟨word, second, rfl⟩ := List.mem_map.mp double
    refine .inr ⟨rfl, word.toList, ?_, rfl⟩
    revert word
    decide

/-- The reader takes the word behind the first word of the kind for the name. -/
theorem typeOf?_of_declaresType {kind : List (List Char)} {name line : List Char}
    (isKind : kind ∈ kinds) (declares : DeclaresType kind name line) :
    typeOf? line = (kind ++ [name])[1]? := by
  obtain ⟨before, modified, opens⟩ := declares
  rw [List.append_assoc] at opens
  rcases List.mem_append.mp isKind with single | double
  · obtain ⟨word, simple, rfl⟩ := List.mem_map.mp single
    exact typeOf?_of_opens modified simple opens
  · obtain ⟨word, -, rfl⟩ := List.mem_map.mp double
    have whole : Opens ((before ++ ["record".toList, word.toList]) ++ [name]) line := by
      rw [List.append_assoc]
      exact opens
    exact typeOf?_of_opens modified (by decide) (whole.of_append (by simp))

theorem namesKeyword_iff {line : List Char} :
    NamesKeyword line ↔ ∃ word ∈ keywords, typeOf? line = some word := by
  simp only [NamesKeyword, typeOf?_eq_some_iff]
  constructor
  · rintro ⟨kind, isKind, word, keyword, declares⟩
    exact ⟨word, keyword, kind, isKind, declares⟩
  · rintro ⟨word, keyword, kind, isKind, declares⟩
    exact ⟨kind, isKind, word, keyword, declares⟩

theorem not_isTypeLine {line : List Char} (silent : typeOf? line = none) : ¬ IsTypeLine line := by
  rintro ⟨kind, isKind, name, -, declares⟩
  rw [typeOf?_of_declaresType isKind declares] at silent
  rcases word_behind isKind name with ⟨-, behind⟩ | ⟨-, word, -, behind⟩ <;> simp [behind] at silent

theorem mem_keywords_of_typeOf? {name line : List Char} (other : ¬ IsTypeLine line)
    (found : typeOf? line = some name) : name ∈ keywords := by
  obtain ⟨kind, isKind, declares⟩ := typeOf?_eq_some_iff.mp found
  by_contra proper
  exact other ⟨[kind], List.mem_append_left _ (List.mem_map_of_mem isKind), name, proper, declares⟩

theorem aliasText_eq (ns type : List Char) : aliasText ns type = "global using ".toList ++
    (type ++ ' ' :: ("= global::".toList ++ (ns ++ (".".toList ++ (type ++ ";".toList))))) := by
  have equals : " = global::".toList = ' ' :: "= global::".toList := by decide
  unfold aliasText
  rw [equals]
  simp only [List.append_assoc, List.cons_append]

/-- An alias tells the type: its name stands behind the first words, up to a blank. -/
theorem aliasText_inj {ns type other : List Char} (inside : ∀ c ∈ type, isWord c = true)
    (inside' : ∀ c ∈ other, isWord c = true) (same : aliasText ns type = aliasText ns other) :
    type = other := by
  have space : isWord ' ' = false := by decide
  rw [aliasText_eq, aliasText_eq] at same
  exact (eq_of_append_cons_eq (not_mem_of_forall inside space) (not_mem_of_forall inside' space)
    (List.append_cancel_left same)).1

/-! ## The alias of a declared type -/

theorem firstAnswer?_of_isFirst {read : List Char → Option (List Char)} (reads : ReadsLines read)
    {Declares : List Char → List Char → Prop}
    (finds : ∀ {name line}, read line = some name ↔ Declares name line) {text : List Char}
    {above : List (List Char)} {line name : List Char}
    (first : IsFirst (fun line => ∃ name, Declares name line) above line text)
    (declares : Declares name line) : firstAnswer? read text = some name := by
  obtain ⟨below, split⟩ := first.among
  rw [firstAnswer?_eq_findSome? reads, split, List.findSome?_eq_some_iff]
  refine ⟨above, line, below, rfl, finds.mpr declares, fun other member => ?_⟩
  rw [Option.eq_none_iff_forall_ne_some]
  exact fun name found => first.above other member ⟨name, finds.mp found⟩

theorem exists_firstAnswer?_typeOf? {text : List Char} {above : List (List Char)}
    {line type : List Char} {kind : List (List Char)} (first : IsFirst IsTypeLine above line text)
    (isKind : kind ∈ kinds) (proper : type ∉ keywords) (declares : DeclaresType kind type line) :
    ∃ name, firstAnswer? typeOf? text = some name ∧ (name = type ∨ name ∈ keywords) ∧
      (name = type ↔ kind.length = 1 ∧ ∀ other ∈ above, ¬ NamesKeyword other) := by
  have here := typeOf?_of_declaresType isKind declares
  obtain ⟨below, split⟩ := first.among
  rw [firstAnswer?_eq_findSome? readsLines_typeOf?, split, List.findSome?_append]
  have keyword_ne {name : List Char} (keyword : name ∈ keywords) : name ≠ type :=
    fun same => proper (same ▸ keyword)
  cases found : above.findSome? typeOf? with
  | some name =>
    obtain ⟨other, member, reads⟩ := List.exists_of_findSome?_eq_some found
    have keyword := mem_keywords_of_typeOf? (first.above other member) reads
    refine ⟨name, rfl, .inr keyword, iff_of_false (keyword_ne keyword) fun proper_above => ?_⟩
    exact proper_above.2 other member (namesKeyword_iff.mpr ⟨name, keyword, reads⟩)
  | none =>
    have unnamed : ∀ other ∈ above, ¬ NamesKeyword other := by
      intro other member names
      obtain ⟨word, -, reads⟩ := namesKeyword_iff.mp names
      rw [List.findSome?_eq_none_iff.mp found other member] at reads
      cases reads
    rw [Option.none_or, List.findSome?_cons, here]
    rcases word_behind isKind type with ⟨single, behind⟩ | ⟨double, word, keyword, behind⟩
    · exact ⟨type, by rw [behind], .inl rfl, iff_of_true rfl ⟨single, unnamed⟩⟩
    · refine ⟨word, by rw [behind], .inr keyword, iff_of_false (keyword_ne keyword) fun single => ?_⟩
      rw [double] at single
      exact absurd single.1 (by decide)

theorem DeclaresType.isWord_of_mem {kind : List (List Char)} {name line : List Char}
    (declares : DeclaresType kind name line) : ∀ c ∈ name, isWord c = true := by
  obtain ⟨before, -, opens⟩ := declares
  generalize before ++ kind = front at opens
  induction front generalizing line with
  | nil =>
    obtain ⟨_, starts, -⟩ := opens.exists_rest
    exact starts.inside
  | cons word front ih =>
    obtain ⟨_, -, behind⟩ := opens.exists_rest
    exact ih (behind (by simp)).2

/--
A template that declares a namespace first on one line and a type first on another has an alias in this
namespace. It names the type if and only if the kind of the type is one word and no line above reads like a
declaration by naming a keyword; otherwise it names a keyword.
-/
theorem alias_names_declared_type {text : List Char} {spaceAbove above : List (List Char)}
    {spaceLine line ns type : List Char} {kind : List (List Char)}
    (space : IsFirst (fun line => ∃ ns, DeclaresNamespace ns line) spaceAbove spaceLine text)
    (declaresSpace : DeclaresNamespace ns spaceLine)
    (first : IsFirst IsTypeLine above line text)
    (isKind : kind ∈ kinds) (proper : type ∉ keywords) (declares : DeclaresType kind type line) :
    (globalAlias? text = some (aliasText ns type) ↔
      kind.length = 1 ∧ ∀ other ∈ above, ¬ NamesKeyword other) ∧
    ∃ name, globalAlias? text = some (aliasText ns name) ∧ (name = type ∨ name ∈ keywords) := by
  obtain ⟨name, found, either, named⟩ := exists_firstAnswer?_typeOf? first isKind proper declares
  have inNamespace := firstAnswer?_of_isFirst readsLines_namespaceOf? namespaceOf?_eq_some_iff space
    declaresSpace
  have inside : ∀ c ∈ name, isWord c = true := by
    obtain ⟨_, _, _, -, -, inside, -⟩ := holdsName_of_firstAnswer? holdsName_of_typeOf? found
    exact inside
  rw [globalAlias?_eq, inNamespace, found, Option.bind_some, Option.map_some]
  refine ⟨?_, name, rfl, either⟩
  rw [← named, Option.some.injEq]
  constructor
  · exact aliasText_inj inside declares.isWord_of_mem
  · rintro rfl
    rfl

/-- The name starts like a keyword, the type stands in front of the namespace, and a comment names a type. -/
theorem alias_names_declared_type_of_ref_struct :
    let comment := "// class Old\n".toList
    let line := "\tpublic readonly  ref struct classy<T>;\n".toList
    let spaceLine := "namespace N.M;".toList
    let text := comment ++ line ++ spaceLine
    IsFirst (fun line => ∃ ns, DeclaresNamespace ns line) [comment, line] spaceLine text ∧
      IsFirst IsTypeLine [comment] line text ∧
      DeclaresType ["struct".toList] "classy".toList line ∧
      globalAlias? text = some "global using classy = global::N.M.classy;".toList := by
  intro comment line spaceLine text
  have split : lines text = [comment, line, spaceLine] := by decide +kernel
  have declaresSpace : DeclaresNamespace "N.M".toList spaceLine :=
    namespaceOf?_eq_some_iff.mp (by decide +kernel)
  have declares : DeclaresType ["struct".toList] "classy".toList line :=
    ⟨["public", "readonly", "ref"].map String.toList, by decide, by decide +kernel⟩
  have spaceless : ∀ other ∈ [comment, line], namespaceOf? other = none := by decide +kernel
  have typeless : ∀ other ∈ [comment], typeOf? other = none := by decide +kernel
  have space : IsFirst (fun line => ∃ ns, DeclaresNamespace ns line) [comment, line] spaceLine text := by
    refine ⟨⟨[], split⟩, ⟨_, declaresSpace⟩, fun other member ⟨ns, declares⟩ => ?_⟩
    rw [← namespaceOf?_eq_some_iff, spaceless other member] at declares
    cases declares
  have first : IsFirst IsTypeLine [comment] line text :=
    ⟨⟨[spaceLine], split⟩, ⟨_, by decide, _, by decide, declares⟩,
      fun other member => not_isTypeLine (typeless other member)⟩
  refine ⟨space, first, declares, ?_⟩
  have alias_text : aliasText "N.M".toList "classy".toList =
      "global using classy = global::N.M.classy;".toList := by decide +kernel
  rw [← alias_text]
  refine (alias_names_declared_type space declaresSpace first (by decide) (by decide) declares).1.mpr
    ⟨rfl, fun other member names => ?_⟩
  obtain ⟨word, -, found⟩ := namesKeyword_iff.mp names
  rw [typeless other member] at found
  cases found

/-- A record that is written with two words is announced by the second one. -/
theorem alias_of_record_struct :
    let spaceLine := "namespace Demo;\n".toList
    let line := "public record struct Point(int X);\n".toList
    let text := spaceLine ++ line
    IsFirst (fun line => ∃ ns, DeclaresNamespace ns line) [] spaceLine text ∧
      DeclaresNamespace "Demo".toList spaceLine ∧ IsFirst IsTypeLine [spaceLine] line text ∧
      DeclaresType ["record".toList, "struct".toList] "Point".toList line ∧
      ["record".toList, "struct".toList] ∈ kinds ∧ "Point".toList ∉ keywords ∧
      globalAlias? text = some "global using struct = global::Demo.struct;".toList ∧
      globalAlias? text ≠ some (aliasText "Demo".toList "Point".toList) := by
  intro spaceLine line text
  have split : lines text = [spaceLine, line] := by decide +kernel
  have declaresSpace : DeclaresNamespace "Demo".toList spaceLine :=
    namespaceOf?_eq_some_iff.mp (by decide +kernel)
  have declares : DeclaresType ["record".toList, "struct".toList] "Point".toList line :=
    ⟨["public".toList], by decide, by decide +kernel⟩
  have typeless : typeOf? spaceLine = none := by decide +kernel
  refine ⟨⟨⟨[line], split⟩, ⟨_, declaresSpace⟩, by simp⟩, declaresSpace,
    ⟨⟨[], split⟩, ⟨_, by decide, _, by decide, declares⟩, ?_⟩, declares, by decide, by decide,
    by decide +kernel, by decide +kernel⟩
  simpa using not_isTypeLine typeless

end Polyfill.Template
