import Polyfill.Proofs.Text.Line
import Polyfill.Template.Declaration

/-!
# What a global alias is made of

The readers of declarations look at one line, and the names that they find stand between a blank and
the end of a name. So an inserted alias, a line of its own, declares nothing, and says nothing that
the text does not say.
-/

namespace Polyfill.Template

open Text

/-! ## Readers of declarations -/

section Break

variable {c : Char} (ends : isBreak c = true) (line rest : List Char)

include ends

theorem isNamespacePart_eq_false_of_isBreak : isNamespacePart c = false := by
  have other : c ≠ '.' := by
    rintro rfl
    cases ends
  simp [isNamespacePart, isWord_eq_false_of_isBreak ends, other]

theorem nameAfterBlanks?_append_cons {cls : Char → Bool} (outside : cls c = false) :
    nameAfterBlanks? cls (line ++ c :: rest) = nameAfterBlanks? cls line := by
  have blank := isBlank_eq_false_of_isBreak ends
  simp only [nameAfterBlanks?, dropWhile_append_cons line rest blank,
    startsWith_append_cons line rest blank, takeWhile_append_outside _ rest outside]

theorem typeOf?_append_cons :
    typeOf? (line ++ c :: rest) =
      if (line.dropWhile isBlank).takeWhile isWord ∈ typeKinds then
        nameAfterBlanks? isWord ((line.dropWhile isBlank).dropWhile isWord)
      else if (line.dropWhile isBlank).takeWhile isWord ∈ modifiers ∧
          startsWith isBlank ((line.dropWhile isBlank).dropWhile isWord) = true then
        typeOf? ((line.dropWhile isBlank).dropWhile isWord ++ c :: rest)
      else none := by
  have blank := isBlank_eq_false_of_isBreak ends
  have word := isWord_eq_false_of_isBreak ends
  rw [typeOf?]
  simp only [dropWhile_append_cons _ rest blank, dropWhile_append_cons _ rest word,
    takeWhile_append_outside _ rest word, startsWith_append_cons _ rest blank,
    nameAfterBlanks?_append_cons ends _ rest word]

end Break

theorem readsLines_namespaceOf? : ReadsLines namespaceOf? where
  empty := by decide
  stops c ends line rest := by
    have word : ∀ d ∈ "namespace".toList, isWord d = true := forall_mem_of_all (by decide)
    have fresh : c ∉ "namespace".toList := not_mem_of_forall word (isWord_eq_false_of_isBreak ends)
    rw [namespaceOf?, namespaceOf?, dropWhile_append_cons line rest (isBlank_eq_false_of_isBreak ends),
      after?_append_cons _ _ fresh]
    cases after? "namespace".toList (line.dropWhile isBlank) with
    | none => rfl
    | some behind =>
      exact nameAfterBlanks?_append_cons ends behind rest (isNamespacePart_eq_false_of_isBreak ends)

theorem readsLines_typeOf? : ReadsLines typeOf? where
  empty := by
    rw [typeOf?]
    decide
  stops c ends line rest := by
    induction line using typeOf?.induct with
    | case1 line start word kind =>
      rw [typeOf?_append_cons ends, typeOf?.eq_1 line, if_pos kind, if_pos kind]
    | case2 line start word behind other modifier ih =>
      rw [typeOf?_append_cons ends, typeOf?.eq_1 line, if_neg other, if_neg other, if_pos modifier,
        if_pos modifier]
      exact ih
    | case3 line start word behind other stop =>
      rw [typeOf?_append_cons ends, typeOf?.eq_1 line, if_neg other, if_neg other, if_neg stop,
        if_neg stop]

/-! ## Names -/

/-- A name stands in a text between a blank and the end of the name. -/
def HoldsName (cls : Char → Bool) (name text : List Char) : Prop :=
  ∃ front c rest, text = front ++ c :: (name ++ rest) ∧ isBlank c = true ∧
    (∀ d ∈ name, cls d = true) ∧ startsWith cls rest = false

theorem HoldsName.append {cls : Char → Bool} {name text : List Char}
    (holdsName : HoldsName cls name text) (front : List Char) : HoldsName cls name (front ++ text) := by
  obtain ⟨front', c, rest, rfl, blank, all, ends⟩ := holdsName
  exact ⟨front ++ front', c, rest, by simp, blank, all, ends⟩

theorem HoldsName.of_dropWhile {cls inner : Char → Bool} {name text : List Char}
    (holdsName : HoldsName cls name (text.dropWhile inner)) : HoldsName cls name text := by
  have whole := holdsName.append (text.takeWhile inner)
  rwa [List.takeWhile_append_dropWhile] at whole

theorem holdsName_of_nameAfterBlanks? {cls : Char → Bool} {name text : List Char}
    (found : nameAfterBlanks? cls text = some name) : HoldsName cls name text := by
  simp only [nameAfterBlanks?, Option.ite_none_right_eq_some, Option.some.injEq, Bool.and_eq_true]
    at found
  obtain ⟨⟨blank, -⟩, rfl⟩ := found
  have lead : text.takeWhile isBlank ≠ [] := by
    cases text with
    | nil => simp [startsWith] at blank
    | cons c text =>
      have inside : isBlank c = true := blank
      rw [List.takeWhile_cons_of_pos inside]
      exact List.cons_ne_nil _ _
  refine ⟨(text.takeWhile isBlank).dropLast, (text.takeWhile isBlank).getLast lead,
    (text.dropWhile isBlank).dropWhile cls, ?_, ?_, of_mem_takeWhile cls _, startsWith_dropWhile cls _⟩
  · rw [List.takeWhile_append_dropWhile, ← List.singleton_append, ← List.append_assoc,
      List.dropLast_append_getLast, List.takeWhile_append_dropWhile]
  · exact of_mem_takeWhile isBlank text _ (List.getLast_mem lead)

theorem holdsName_of_namespaceOf? {line ns : List Char} (found : namespaceOf? line = some ns) :
    HoldsName isNamespacePart ns line := by
  rw [namespaceOf?, Option.bind_eq_bind, Option.bind_eq_some_iff] at found
  obtain ⟨behind, start, found⟩ := found
  have held : HoldsName isNamespacePart ns (line.dropWhile isBlank) := by
    rw [after?_eq_some_iff.mp start]
    exact (holdsName_of_nameAfterBlanks? found).append _
  exact held.of_dropWhile

theorem holdsName_of_typeOf? {line type : List Char} (found : typeOf? line = some type) :
    HoldsName isWord type line := by
  induction line using typeOf?.induct with
  | case1 line start word kind =>
    rw [typeOf?, if_pos kind] at found
    exact (holdsName_of_nameAfterBlanks? found).of_dropWhile.of_dropWhile
  | case2 line start word behind other modifier ih =>
    rw [typeOf?, if_neg other, if_pos modifier] at found
    exact (ih found).of_dropWhile.of_dropWhile
  | case3 line start word behind other stop =>
    rw [typeOf?, if_neg other, if_neg stop] at found
    cases found

theorem holdsName_of_firstAnswer? {cls : Char → Bool} {read : List Char → Option (List Char)}
    (finds : ∀ {line name}, read line = some name → HoldsName cls name line) {text name : List Char}
    (found : firstAnswer? read text = some name) : HoldsName cls name text := by
  obtain ⟨⟨offset, _⟩, line_found, rfl⟩ := Option.map_eq_some_iff.mp found
  obtain ⟨front, rest, rfl, -, here, -⟩ := exists_of_firstLineFrom? line_found
  exact (finds here).append front

/-- What is found in the words of a name is found in the text that holds the name. -/
theorem HoldsName.occurs_eq_false {cls : Char → Bool} {name text : List Char} {pattern : Pattern}
    (wordwise : pattern.IsWordwise) (holdsName : HoldsName cls name text)
    (covers : ∀ c, cls c = false → isWord c = false) (free : occurs pattern text = false) :
    occurs pattern name = false := by
  obtain ⟨front, c, rest, rfl, blank, -, ends⟩ := holdsName
  rw [wordwise (isWord_eq_false_of_isBlank blank), Bool.or_eq_false_iff] at free
  cases rest with
  | nil => simpa using free.2
  | cons d rest =>
    have ended : isWord d = false := covers d (by simpa [startsWith] using ends)
    rw [wordwise ended, Bool.or_eq_false_iff] at free
    exact free.2.1

/-! ## The alias -/

theorem globalAlias?_eq_some_iff {text aliasLine : List Char} :
    globalAlias? text = some aliasLine ↔ ∃ offset ns type, firstNamespace? text = some (offset, ns) ∧
      firstType? text = some type ∧ aliasLine = aliasText ns type := by
  simp only [globalAlias?, Option.bind_eq_bind, Option.bind_eq_some_iff, Option.pure_def,
    Option.some.injEq, Prod.exists]
  constructor
  · rintro ⟨offset, ns, found_ns, type, found_type, rfl⟩
    exact ⟨offset, ns, type, found_ns, found_type, rfl⟩
  · rintro ⟨offset, ns, type, found_ns, found_type, rfl⟩
    exact ⟨offset, ns, found_ns, type, found_type, rfl⟩

theorem exists_of_globalAlias? {text aliasLine : List Char}
    (found : globalAlias? text = some aliasLine) :
    ∃ ns type, aliasLine = aliasText ns type ∧ HoldsName isNamespacePart ns text ∧
      HoldsName isWord type text := by
  obtain ⟨offset, ns, type, found_ns, found_type, rfl⟩ := globalAlias?_eq_some_iff.mp found
  exact ⟨ns, type, rfl,
    holdsName_of_firstAnswer? holdsName_of_namespaceOf? (Option.map_eq_some_iff.mpr ⟨_, found_ns, rfl⟩),
    holdsName_of_firstAnswer? holdsName_of_typeOf? found_type⟩

theorem HoldsName.not_mem {cls : Char → Bool} {name text : List Char} {c : Char}
    (holdsName : HoldsName cls name text) (outside : cls c = false) : c ∉ name := by
  obtain ⟨_, _, _, -, -, all, -⟩ := holdsName
  exact not_mem_of_forall all outside

theorem not_mem_aliasText {ns type : List Char} {c : Char} (fresh : c ∉ aliasText [] [])
    (ns_fresh : c ∉ ns) (type_fresh : c ∉ type) : c ∉ aliasText ns type := by
  unfold aliasText at fresh ⊢
  simp only [List.mem_append, not_or] at fresh ⊢
  exact ⟨⟨⟨⟨⟨⟨fresh.1.1.1.1.1.1, type_fresh⟩, fresh.1.1.1.1.2⟩, ns_fresh⟩, fresh.1.1.2⟩, type_fresh⟩,
    fresh.2⟩

theorem not_mem_of_globalAlias? {text aliasLine : List Char} {c : Char}
    (found : globalAlias? text = some aliasLine) (fresh : c ∉ aliasText [] [])
    (outside : isNamespacePart c = false) : c ∉ aliasLine := by
  obtain ⟨ns, type, rfl, ns_held, type_held⟩ := exists_of_globalAlias? found
  have outside_word : isWord c = false := (Bool.or_eq_false_iff.mp outside).1
  exact not_mem_aliasText fresh (ns_held.not_mem outside) (type_held.not_mem outside_word)

theorem exists_aliasText_eq (ns type : List Char) :
    ∃ rest, aliasText ns type = "global".toList ++ ' ' :: rest := by
  have start : "global using ".toList = "global".toList ++ ' ' :: "using ".toList := by decide
  refine ⟨"using ".toList ++ (type ++ (" = global::".toList ++ (ns ++ (".".toList ++ (type ++
    ";".toList))))), ?_⟩
  unfold aliasText
  simp only [start, List.append_assoc, List.cons_append]

theorem namespaceOf?_aliasText (ns type : List Char) : namespaceOf? (aliasText ns type) = none := by
  obtain ⟨rest, same⟩ := exists_aliasText_eq ns type
  have start : ("global".toList ++ ' ' :: rest).dropWhile isBlank = "global".toList ++ ' ' :: rest := rfl
  have other : after? "namespace".toList "global".toList = none := by decide
  rw [same, namespaceOf?, start, after?_append_cons _ _ (by decide), other]
  rfl

theorem typeOf?_aliasText (ns type : List Char) : typeOf? (aliasText ns type) = none := by
  obtain ⟨rest, same⟩ := exists_aliasText_eq ns type
  have start : ("global".toList ++ ' ' :: rest).dropWhile isBlank = "global".toList ++ ' ' :: rest := rfl
  have word : ("global".toList ++ ' ' :: rest).takeWhile isWord = "global".toList := by
    rw [takeWhile_append_outside _ _ (by decide)]
    decide
  rw [same, typeOf?, start, word, if_neg (by decide),
    if_neg fun modifier => absurd modifier.1 (by decide)]

theorem occurs_aliasText {ns type : List Char} {pattern : Pattern} (wordwise : pattern.IsWordwise)
    (alias_free : occurs pattern (aliasText [] []) = false) (ns_free : occurs pattern ns = false)
    (type_free : occurs pattern type = false) : occurs pattern (aliasText ns type) = false := by
  have parts (ns type : List Char) : aliasText ns type = "global using".toList ++ ' ' :: (type ++ ' ' ::
      ("= global:".toList ++ ':' :: (ns ++ '.' :: (type ++ ';' :: [])))) := by
    have start : "global using ".toList = "global using".toList ++ [' '] := by decide
    have equals : " = global::".toList = ' ' :: ("= global:".toList ++ [':']) := by decide
    have dot : ".".toList = ['.'] := by decide
    have close : ";".toList = [';'] := by decide
    unfold aliasText
    simp only [start, equals, dot, close, List.append_assoc, List.cons_append, List.nil_append]
  have space : isWord ' ' = false := by decide
  have colon : isWord ':' = false := by decide
  have dot : isWord '.' = false := by decide
  have semicolon : isWord ';' = false := by decide
  simp only [parts, wordwise space, wordwise colon, wordwise dot, wordwise semicolon,
    Bool.or_eq_false_iff] at alias_free ⊢
  exact ⟨alias_free.1, type_free, alias_free.2.2.1, ns_free, type_free, alias_free.2.2.2.2.2⟩

theorem occurs_of_globalAlias? {text aliasLine : List Char} {pattern : Pattern}
    (wordwise : pattern.IsWordwise) (alias_free : occurs pattern (aliasText [] []) = false)
    (free : occurs pattern text = false) (found : globalAlias? text = some aliasLine) :
    occurs pattern aliasLine = false := by
  obtain ⟨ns, type, rfl, ns_held, type_held⟩ := exists_of_globalAlias? found
  have part_of_name (c : Char) (outside : isNamespacePart c = false) : isWord c = false :=
    (Bool.or_eq_false_iff.mp outside).1
  exact occurs_aliasText wordwise alias_free (ns_held.occurs_eq_false wordwise part_of_name free)
    (type_held.occurs_eq_false wordwise (fun _ => id) free)

theorem globalAlias?_eq (text : List Char) :
    globalAlias? text = (firstAnswer? namespaceOf? text).bind fun ns =>
      (firstAnswer? typeOf? text).map (aliasText ns) := by
  rw [globalAlias?, firstAnswer?, firstAnswer?, firstNamespace?, firstType?]
  cases firstLine? namespaceOf? text <;> cases firstLine? typeOf? text <;> rfl

/-! ## Inserting the alias -/

/-- A start of a text is made of whole lines. -/
def IsLines (front : List Char) : Prop :=
  front = [] ∨ ∃ lines, front = lines ++ ['\n']

theorem isLines_of_startsLine {front : List Char} (starts : startsLine front.getLast? = true) :
    IsLines front := by
  rcases List.eq_nil_or_concat' front with rfl | ⟨lines, last, rfl⟩
  · exact .inl rfl
  · obtain rfl : last = '\n' := by simpa [startsLine] using starts
    exact .inr ⟨lines, rfl⟩

/-- A text with a line and an empty line between its lines. -/
def withLine (front line rest : List Char) : List Char :=
  front ++ (line ++ '\n' :: ([] ++ '\n' :: rest))

theorem withLine_eq (front line rest : List Char) :
    withLine front line rest = front ++ line ++ "\n\n".toList ++ rest := by
  have line_ends : "\n\n".toList = ['\n', '\n'] := by decide
  simp [withLine, line_ends]

/-- A text is cut in front of the line of its first namespace. -/
structure CutAtNamespace (front rest : List Char) : Prop where
  lines : IsLines front
  above : firstNamespace? front = none
  declares : (namespaceOf? rest).isSome = true

theorem exists_cutAtNamespace {text ns : List Char} {offset : Nat}
    (first : firstNamespace? text = some (offset, ns)) :
    ∃ front rest, text = front ++ rest ∧ offset = front.length ∧ CutAtNamespace front rest := by
  obtain ⟨front, rest, rfl, rfl, declares, starts⟩ := exists_of_firstLineFrom? first
  rw [Option.or_none] at starts
  refine ⟨front, rest, rfl, rfl, isLines_of_startsLine starts, ?_, by rw [declares]; rfl⟩
  cases isLines_of_startsLine starts with
  | inl empty =>
    subst empty
    decide
  | inr closed =>
    obtain ⟨lines, rfl⟩ := closed
    rw [List.append_assoc, List.singleton_append, List.length_append, List.length_singleton] at first
    exact firstLine?_eq_none_of_found readsLines_namespaceOf? first

/-- What inserting the alias may make of a text. -/
inductive Announced (text : List Char) : List Char → Prop where
  | nameless (missing : globalAlias? text = none) : Announced text text
  /-- The text says its alias already. -/
  | said {aliasLine} (found : globalAlias? text = some aliasLine) (within : aliasLine <:+: text) :
      Announced text text
  /-- The alias and an empty line stand in front of the line of the first namespace. -/
  | inserted {front rest aliasLine} (found : globalAlias? text = some aliasLine)
      (fresh : ¬ aliasLine <:+: text) (split : text = front ++ rest)
      (cut : CutAtNamespace front rest) :
      Announced text (front ++ aliasLine ++ "\n\n".toList ++ rest)

theorem announced_insertGlobalAlias (text : List Char) : Announced text (insertGlobalAlias text) := by
  cases found : globalAlias? text with
  | none =>
    have same : insertGlobalAlias text = text := by simp only [insertGlobalAlias, found]
    rw [same]
    exact .nameless found
  | some aliasLine =>
    obtain ⟨offset, ns, _, first, -⟩ := globalAlias?_eq_some_iff.mp found
    obtain ⟨front, rest, rfl, rfl, cut⟩ := exists_cutAtNamespace first
    cases held : holds aliasLine (front ++ rest) with
    | true =>
      have same : insertGlobalAlias (front ++ rest) = front ++ rest := by
        simp only [insertGlobalAlias, found, first, held, if_true]
      rw [same]
      exact .said found (holds_iff_isInfix.mp held)
    | false =>
      have fresh : ¬ aliasLine <:+: front ++ rest := by
        rw [← holds_iff_isInfix, held]
        exact Bool.false_ne_true
      simp only [insertGlobalAlias, found, first, held, Bool.false_eq_true, if_false, List.take_left,
        List.drop_left]
      exact .inserted found fresh rfl cut

theorem firstAnswer?_withLine {α : Type} {read : List Char → Option α} (reads : ReadsLines read)
    {front line : List Char} (lines : IsLines front) (single : '\n' ∉ line) (silent : read line = none)
    (rest : List Char) :
    firstAnswer? read (withLine front line rest) = firstAnswer? read (front ++ rest) := by
  have between : firstAnswer? read (line ++ '\n' :: ([] ++ '\n' :: rest)) = firstAnswer? read rest := by
    rw [firstAnswer?_append reads, firstAnswer?_append reads, firstAnswer?_eq_none single silent,
      firstAnswer?_eq_none List.not_mem_nil reads.empty, Option.none_or, Option.none_or]
  rw [withLine]
  rcases lines with rfl | ⟨lines, rfl⟩
  · exact between
  · rw [List.append_assoc, List.append_assoc, List.singleton_append, List.singleton_append,
      firstAnswer?_append reads, between, firstAnswer?_append reads]

/-- A text with its alias inserted has the same alias. -/
theorem globalAlias?_withLine {front rest aliasLine : List Char} (lines : IsLines front)
    (found : globalAlias? (front ++ rest) = some aliasLine) :
    globalAlias? (withLine front aliasLine rest) = some aliasLine := by
  have single : '\n' ∉ aliasLine := not_mem_of_globalAlias? found (by decide) (by decide)
  obtain ⟨ns, type, rfl, -, -⟩ := exists_of_globalAlias? found
  rw [← found, globalAlias?_eq, globalAlias?_eq,
    firstAnswer?_withLine readsLines_namespaceOf? lines single (namespaceOf?_aliasText ns type),
    firstAnswer?_withLine readsLines_typeOf? lines single (typeOf?_aliasText ns type)]

namespace Announced

variable {text out aliasLine : List Char}

theorem globalAlias?_eq (announced : Announced text out) : globalAlias? out = globalAlias? text := by
  cases announced with
  | nameless => rfl
  | said => rfl
  | inserted found fresh split cut =>
    subst split
    rw [← withLine_eq, globalAlias?_withLine cut.lines found, found]

theorem infix_of_globalAlias? (announced : Announced text out)
    (has_alias : globalAlias? text = some aliasLine) : aliasLine <:+: out := by
  cases announced with
  | nameless missing =>
    rw [missing] at has_alias
    cases has_alias
  | said found within =>
    rw [found] at has_alias
    cases has_alias
    exact within
  | @inserted front rest _ found =>
    rw [found] at has_alias
    cases has_alias
    exact ⟨front, "\n\n".toList ++ rest, by simp⟩

end Announced

theorem insertGlobalAlias_eq_self {text : List Char}
    (within : ∀ aliasLine, globalAlias? text = some aliasLine → aliasLine <:+: text) :
    insertGlobalAlias text = text := by
  have announced := announced_insertGlobalAlias text
  generalize insertGlobalAlias text = out at announced ⊢
  cases announced with
  | nameless => rfl
  | said => rfl
  | inserted found fresh => exact absurd (within _ found) fresh

theorem insertGlobalAlias_insertGlobalAlias (text : List Char) :
    insertGlobalAlias (insertGlobalAlias text) = insertGlobalAlias text := by
  have announced := announced_insertGlobalAlias text
  apply insertGlobalAlias_eq_self
  intro aliasLine found
  rw [announced.globalAlias?_eq] at found
  exact announced.infix_of_globalAlias? found

/-- What is found on lines only is found in a text with its alias inserted only if it is in the alias. -/
theorem occurs_insertGlobalAlias {pattern : Pattern} (linewise : pattern.IsLinewise) {text : List Char}
    (free : occurs pattern text = false)
    (alias_free : ∀ aliasLine, globalAlias? text = some aliasLine → occurs pattern aliasLine = false) :
    occurs pattern (insertGlobalAlias text) = false := by
  have announced := announced_insertGlobalAlias text
  generalize insertGlobalAlias text = out at announced ⊢
  cases announced with
  | nameless => exact free
  | said => exact free
  | @inserted front rest aliasLine found fresh split cut =>
    subst split
    have here := alias_free aliasLine found
    have between : occurs pattern (aliasLine ++ '\n' :: ([] ++ '\n' :: rest)) = occurs pattern rest := by
      rw [linewise.occurs_append, linewise.occurs_append, here]
      rfl
    rw [← withLine_eq, withLine]
    rcases cut.lines with rfl | ⟨lines, rfl⟩
    · exact between.trans free
    · rw [List.append_assoc, List.singleton_append, linewise.occurs_append] at free ⊢
      rw [between, free]

end Polyfill.Template
