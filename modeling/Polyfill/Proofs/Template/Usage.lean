import Polyfill.Proofs.Text.Line
import Polyfill.Template.Attribute

/-!
# What attribute readers read

A usage is an opening bracket, a body and the next closing bracket. `Attribute.Reads` ties a kind of
attribute to the bodies of its usages; behind it, no fact about usages depends on how a kind reads.
-/

namespace Polyfill.Template

open Text Attribute

/-! ## Closed calls -/

theorem closesCall_cons {c : Char} (go_on : isStop c = false) (open_call : c ≠ ')')
    (text : List Char) : closesCall (c :: text) = closesCall text := by
  cases text with
  | nil => simp [closesCall]
  | cons d rest =>
    by_cases close : d = ']'
    · simp [closesCall, open_call, close, isStop]
    · simp [closesCall, go_on, close]

theorem closesCall_append {start : List Char}
    (go_on : ∀ c ∈ start, isStop c = false ∧ c ≠ ')') (text : List Char) :
    closesCall (start ++ text) = closesCall text := by
  induction start with
  | nil => rfl
  | cons c start ih =>
    rw [List.forall_mem_cons] at go_on
    rw [List.cons_append, closesCall_cons go_on.1.1 go_on.1.2, ih go_on.2]

theorem closesCall_of_unclosed {text : List Char} (unclosed : ']' ∉ text) :
    closesCall text = false := by
  induction text with
  | nil => rfl
  | cons c rest ih =>
    rw [List.mem_cons, not_or] at unclosed
    have next : rest.head? ≠ some ']' := fun head => unclosed.2 (List.mem_of_head? head)
    simp [closesCall, next, ih unclosed.2]

/-- A call is closed before a bracket if the last parenthesis stands there and no line ends before. -/
theorem closesCall_append_cons_iff {body : List Char} (unclosed : ']' ∉ body) (rest : List Char) :
    closesCall (body ++ ']' :: rest) = true ↔
      ∃ inner, body = inner ++ [')'] ∧ ∀ c ∈ inner, isStop c = false := by
  induction body with
  | nil => simp [closesCall, isStop]
  | cons c body ih =>
    rw [List.mem_cons, not_or] at unclosed
    cases body with
    | nil =>
      have parenthesis : isStop ')' = false := by decide
      simp only [closesCall, List.cons_append, List.nil_append, List.head?_cons]
      constructor
      · intro closes
        obtain rfl : c = ')' := by
          by_contra other
          simp [other] at closes
        exact ⟨[], rfl, by simp⟩
      · rintro ⟨_ | ⟨d, inner⟩, same, -⟩
        · obtain rfl : c = ')' := by simpa using same
          simp [parenthesis]
        · simp at same
    | cons d body =>
      have next : d ≠ ']' := fun same => unclosed.2 (by simp [same])
      have step : closesCall (c :: d :: body ++ ']' :: rest) =
          (!isStop c && closesCall (d :: body ++ ']' :: rest)) := by
        cases stop : isStop c <;> simp [closesCall, stop, next]
      rw [step, Bool.and_eq_true, ih unclosed.2, Bool.not_eq_true']
      constructor
      · rintro ⟨go_on, inner, same, all⟩
        exact ⟨c :: inner, by rw [same, List.cons_append], List.forall_mem_cons.mpr ⟨go_on, all⟩⟩
      · rintro ⟨_ | ⟨e, inner⟩, same, all⟩
        · simp at same
        · obtain ⟨rfl, ending⟩ := List.cons.inj same
          rw [List.forall_mem_cons] at all
          exact ⟨all.1, inner, ending, all.2⟩

/-! ## Readers -/

/-- The bodies of the usages of an attribute. -/
abbrev Bodies := List Char → Prop

/-- An attribute reads the text up to the first closing bracket, if that is one of its bodies. -/
structure Attribute.Reads (kind : Attribute) (bodies : Bodies) : Prop where
  closed {body rest : List Char} {size : Nat} (unclosed : ']' ∉ body) :
    kind (closesCall (body ++ ']' :: rest)) (body ++ ']' :: rest) = some size ↔
      bodies body ∧ size = body.length + 1
  unclosed {text : List Char} (unclosed : ']' ∉ text) : kind (closesCall text) text = none

def OneOf (texts : List String) : Bodies := fun body =>
  ∃ text ∈ texts, body = text.toList

/-- A qualifier may stand in front of the body. -/
def Qualified (qualifier : String) (bodies : Bodies) : Bodies := fun body =>
  bodies body ∨ ∃ unqualified, body = qualifier.toList ++ unqualified ∧ bodies unqualified

/-- Arguments may be missing; otherwise they stand in parentheses on one line. -/
def IsArguments (arguments : List Char) : Prop :=
  arguments = [] ∨
    ∃ inner, arguments = '(' :: (inner ++ [')']) ∧ ∀ c ∈ inner, isStop c = false

/-- The name starts with the word of a hint, and arguments may follow it. -/
def Hint : Bodies := fun body =>
  ∃ more arguments, body = hintWord.toList ++ (more ++ arguments) ∧
    (∀ c ∈ more, isWord c = true) ∧ IsArguments arguments

theorem reads_oneOf {texts : List String} (unclosed : ∀ text ∈ texts, ']' ∉ text.toList) :
    (oneOf texts).Reads (OneOf texts) where
  closed {body rest size} body_unclosed := by
    induction texts with
    | nil => simp [oneOf, OneOf]
    | cons text texts ih =>
      rw [List.forall_mem_cons] at unclosed
      have later := ih unclosed.2
      by_cases same : body = text.toList
      · subst same
        have here : after? (text.toList ++ [']']) (text.toList ++ ']' :: rest) = some rest :=
          after?_eq_some_iff.mpr (by simp)
        have member : OneOf (text :: texts) text.toList := ⟨text, List.mem_cons_self, rfl⟩
        rw [oneOf, List.findSome?_cons, here, Option.map_some, Option.some.injEq,
          String.length_toList, eq_comm]
        exact (and_iff_right member).symm
      · have here : after? (text.toList ++ [']']) (body ++ ']' :: rest) = none := by
          rw [Option.eq_none_iff_forall_ne_some]
          intro more found
          rw [after?_eq_some_iff, List.append_assoc] at found
          exact same (eq_of_append_cons_eq body_unclosed unclosed.1 found).1
        simpa [oneOf, OneOf, here, same] using later
  unclosed {text} text_unclosed := by
    rw [oneOf, List.findSome?_eq_none_iff]
    intro body _
    rw [Option.map_eq_none_iff, Option.eq_none_iff_forall_ne_some]
    intro more found
    rw [after?_eq_some_iff] at found
    simp [found] at text_unclosed

theorem qualified_append {bodies : Bodies} {qualifier : String}
    (unqualified : ∀ body, ¬ bodies (qualifier.toList ++ body)) {body : List Char} :
    Qualified qualifier bodies (qualifier.toList ++ body) ↔ bodies body := by
  refine ⟨?_, fun is_body => .inr ⟨body, rfl, is_body⟩⟩
  rintro (whole | ⟨body', same, is_body⟩)
  · exact absurd whole (unqualified body)
  · rwa [List.append_cancel_left same]

theorem reads_qualified {qualifier : String} {kind : Attribute} {bodies : Bodies}
    (reads : kind.Reads bodies) (open_call : ∀ c ∈ qualifier.toList, isStop c = false ∧ c ≠ ')')
    (unqualified : ∀ body, ¬ bodies (qualifier.toList ++ body)) :
    (kind.qualified qualifier).Reads (Qualified qualifier bodies) := by
  have fresh : ']' ∉ qualifier.toList := fun member => by
    simpa [isStop] using (open_call _ member).1
  constructor
  case closed =>
    intro body rest size unclosed
    rw [qualified]
    split
    case h_1 tail found =>
      rw [after?_eq_some_iff] at found
      rw [found, closesCall_append open_call]
      obtain ⟨more, rfl, rfl⟩ := exists_of_append_eq_append_cons fresh found.symm
      rw [List.mem_append, not_or] at unclosed
      simp only [qualified_append unqualified, Option.map_eq_some_iff, reads.closed unclosed.2,
        List.length_append, String.length_toList]
      constructor
      · rintro ⟨_, ⟨is_body, rfl⟩, rfl⟩
        exact ⟨is_body, by omega⟩
      · rintro ⟨is_body, rfl⟩
        exact ⟨_, ⟨is_body, rfl⟩, by omega⟩
    case h_2 other =>
      rw [reads.closed unclosed]
      refine and_congr_left fun _ => ⟨.inl, ?_⟩
      rintro (whole | ⟨more, rfl, -⟩)
      · exact whole
      · rw [List.append_assoc, after?_eq_some_iff.mpr rfl] at other
        cases other
  case unclosed =>
    intro text unclosed
    rw [qualified]
    split
    case h_1 tail found =>
      rw [after?_eq_some_iff] at found
      rw [found, List.mem_append, not_or] at unclosed
      rw [found, closesCall_append open_call, reads.unclosed unclosed.2, Option.map_none]
    case h_2 => exact reads.unclosed unclosed

theorem usageEnd?_eq_some_iff {closed : Bool} {text : List Char} {size : Nat} :
    usageEnd? closed text = some size ↔
      (∃ rest, text = ']' :: rest ∧ size = 1) ∨
        ∃ rest, text = '(' :: rest ∧ closed = true ∧
          size = (rest.takeWhile (· != ']')).length + 2 := by
  rw [usageEnd?.eq_def]
  split <;> simp_all [eq_comm]

theorem plainHint_eq_some_iff {closed : Bool} {text : List Char} {size : Nat} :
    plainHint closed text = some size ↔
      ∃ more behind ending, text = hintWord.toList ++ (more ++ behind) ∧
        (∀ c ∈ more, isWord c = true) ∧ startsWith isWord behind = false ∧
        usageEnd? closed behind = some ending ∧ size = hintWord.length + more.length + ending := by
  simp only [plainHint, Option.bind_eq_bind, Option.bind_eq_some_iff, after?_eq_some_iff,
    drop_length_takeWhile, Option.pure_def, Option.some.injEq]
  constructor
  · rintro ⟨rest, rfl, ending, found, rfl⟩
    refine ⟨rest.takeWhile isWord, rest.dropWhile isWord, ending, ?_, ?_, ?_, found, rfl⟩
    · rw [List.takeWhile_append_dropWhile]
    · exact of_mem_takeWhile isWord rest
    · exact startsWith_dropWhile isWord rest
  · rintro ⟨more, behind, ending, rfl, all, ends, found, rfl⟩
    refine ⟨more ++ behind, rfl, ending, ?_, ?_⟩
    · rwa [dropWhile_append_of_ends all ends]
    · rw [takeWhile_append_of_ends all ends]

theorem isStop_of_mem_hint {more : List Char} (all : ∀ c ∈ more, isWord c = true) :
    ∀ c ∈ hintWord.toList ++ more, isStop c = false := by
  have word_free : ∀ c ∈ hintWord.toList, isStop c = false := forall_mem_of_all (by decide)
  refine List.forall_mem_append.mpr ⟨word_free, fun c member => ?_⟩
  rw [Bool.eq_false_iff]
  intro stop
  have outside : isWord c = false := by
    have : (c = ']' ∨ c = '\r') ∨ c = '\n' := by simpa [isStop] using stop
    rcases this with (rfl | rfl) | rfl <;> decide
  rw [all c member] at outside
  cases outside

theorem exists_of_append_call {front call inner : List Char}
    (whole : front ++ '(' :: call = inner ++ [')']) (inner_free : ∀ c ∈ inner, isStop c = false) :
    ∃ inner', call = inner' ++ [')'] ∧ ∀ c ∈ inner', isStop c = false := by
  rcases List.eq_nil_or_concat' call with rfl | ⟨inner', last, rfl⟩
  · obtain ⟨-, same⟩ := List.append_inj' whole rfl
    cases same
  · rw [← List.cons_append, ← List.append_assoc] at whole
    obtain ⟨rfl, same⟩ := List.append_inj' whole rfl
    refine ⟨inner', by rw [same], fun c member => inner_free c (by simp [member])⟩

theorem usageEnd?_append_cons_iff {front arguments rest : List Char} {size : Nat}
    (front_free : ∀ c ∈ front, isStop c = false) (unclosed : ']' ∉ front ++ arguments) :
    usageEnd? (closesCall (front ++ arguments ++ ']' :: rest)) (arguments ++ ']' :: rest) =
        some size ↔
      IsArguments arguments ∧ size = arguments.length + 1 := by
  cases arguments with
  | nil =>
    have missing : IsArguments [] := .inl rfl
    rw [List.append_nil, List.nil_append, usageEnd?, Option.some.injEq, and_iff_right missing]
    exact eq_comm
  | cons c call =>
    have call_unclosed : ']' ∉ call := fun member => unclosed (by simp [member])
    rw [usageEnd?_eq_some_iff, closesCall_append_cons_iff unclosed]
    constructor
    · rintro (⟨_, head, -⟩ | ⟨call', head, ⟨inner, whole, inner_free⟩, rfl⟩)
      · obtain ⟨rfl, -⟩ := List.cons.inj head
        simp at unclosed
      · rw [List.cons_append] at head
        obtain ⟨rfl, rfl⟩ := List.cons.inj head
        obtain ⟨inner', rfl, inner'_free⟩ := exists_of_append_call whole inner_free
        refine ⟨.inr ⟨inner', rfl, inner'_free⟩, ?_⟩
        rw [takeWhile_append_cons call_unclosed]
        rfl
    · rintro ⟨never | ⟨inner, same, inner_free⟩, rfl⟩
      · cases never
      · obtain ⟨rfl, rfl⟩ := List.cons.inj same
        refine .inr ⟨inner ++ [')'] ++ ']' :: rest, rfl, ⟨front ++ '(' :: inner, by simp, ?_⟩, ?_⟩
        · exact List.forall_mem_append.mpr
            ⟨front_free, List.forall_mem_cons.mpr ⟨by decide, inner_free⟩⟩
        · rw [takeWhile_append_cons call_unclosed]
          rfl

theorem startsWith_arguments {arguments : List Char} (form : IsArguments arguments)
    (rest : List Char) : startsWith isWord (arguments ++ ']' :: rest) = false := by
  have outside : isWord ']' = false ∧ isWord '(' = false := by decide
  rcases form with rfl | ⟨inner, rfl, -⟩
  · exact outside.1
  · exact outside.2

theorem reads_plainHint : plainHint.Reads Hint where
  closed {body rest size} unclosed := by
    rw [plainHint_eq_some_iff]
    constructor
    · rintro ⟨more, behind, ending, same, all, ends, ended, rfl⟩
      have free := isStop_of_mem_hint all
      have fresh : ']' ∉ hintWord.toList ++ more := not_mem_of_forall free (by decide)
      rw [← List.append_assoc] at same
      obtain ⟨arguments, rfl, rfl⟩ := exists_of_append_eq_append_cons fresh same.symm
      obtain ⟨form, rfl⟩ := (usageEnd?_append_cons_iff free unclosed).mp ended
      refine ⟨⟨more, arguments, List.append_assoc .., all, form⟩, ?_⟩
      simp only [List.length_append, String.length_toList]
      omega
    · rintro ⟨⟨more, arguments, rfl, all, form⟩, rfl⟩
      have free := isStop_of_mem_hint all
      rw [← List.append_assoc] at unclosed ⊢
      refine ⟨more, arguments ++ ']' :: rest, arguments.length + 1, by simp, all,
        startsWith_arguments form rest, ?_, ?_⟩
      · exact (usageEnd?_append_cons_iff free unclosed).mpr ⟨form, rfl⟩
      · simp only [List.length_append, String.length_toList]
        omega
  unclosed {text} unclosed := by
    rw [Option.eq_none_iff_forall_ne_some]
    intro size found
    rw [closesCall_of_unclosed unclosed, plainHint_eq_some_iff] at found
    obtain ⟨more, behind, ending, rfl, -, -, ended, -⟩ := found
    rcases usageEnd?_eq_some_iff.mp ended with ⟨rest, rfl, -⟩ | ⟨_, _, never, _⟩
    · simp at unclosed
    · cases never

/-! ## The kinds of attributes -/

theorem not_oneOf_append {qualifier : String} {texts : List String}
    (other : ∀ text ∈ texts, ¬ qualifier.toList <+: text.toList) (body : List Char) :
    ¬ OneOf texts (qualifier.toList ++ body) := by
  rintro ⟨text, member, same⟩
  exact other text member ⟨body, same⟩

theorem not_hint_append {qualifier : String} (apart : Apart qualifier.toList hintWord.toList)
    (body : List Char) : ¬ Hint (qualifier.toList ++ body) := by
  rintro ⟨more, arguments, same, -⟩
  exact apart.append_ne _ _ same

theorem reads_embeddedMarker :
    embeddedMarker.Reads (Qualified "global::Microsoft.CodeAnalysis."
      (OneOf ["Embedded", "EmbeddedAttribute"])) :=
  reads_qualified (reads_oneOf (by decide)) (forall_mem_of_all (by decide))
    (not_oneOf_append (by decide))

theorem reads_coverageExclusion :
    coverageExclusion.Reads (Qualified "global::System.Diagnostics.CodeAnalysis."
      (OneOf ["ExcludeFromCodeCoverage", "ExcludeFromCodeCoverage()",
        "ExcludeFromCodeCoverageAttribute", "ExcludeFromCodeCoverageAttribute()"])) :=
  reads_qualified (reads_oneOf (by decide)) (forall_mem_of_all (by decide))
    (not_oneOf_append (by decide))

theorem reads_methodImplHint :
    methodImplHint.Reads (Qualified "global::System.Runtime.CompilerServices." Hint) :=
  reads_qualified reads_plainHint (forall_mem_of_all (by decide)) (not_hint_append (by decide))

theorem isStop_of_isBreak {c : Char} (ends : isBreak c = true) : isStop c = true := by
  rcases isBreak_iff.mp ends with rfl | rfl <;> decide

/-- No usage goes on behind the end of a line. -/
def Bodies.OneLine (bodies : Bodies) : Prop :=
  ∀ ⦃body⦄, bodies body → ∀ c ∈ body, isBreak c = false

theorem oneLine_oneOf {texts : List String}
    (single : ∀ text ∈ texts, text.toList.any isBreak = false) : Bodies.OneLine (OneOf texts) := by
  rintro _ ⟨text, member, rfl⟩ c inside
  exact Bool.eq_false_iff.mpr (List.any_eq_false.mp (single text member) c inside)

theorem oneLine_hint : Bodies.OneLine Hint := by
  rintro _ ⟨more, arguments, rfl, all, form⟩ c member
  have free : ∀ c ∈ hintWord.toList ++ (more ++ arguments), isStop c = false := by
    rw [← List.append_assoc]
    refine List.forall_mem_append.mpr ⟨isStop_of_mem_hint all, ?_⟩
    rcases form with rfl | ⟨inner, rfl, inner_free⟩
    · exact fun c never => absurd never List.not_mem_nil
    · exact List.forall_mem_cons.mpr ⟨by decide,
        List.forall_mem_append.mpr ⟨inner_free, forall_mem_of_all (by decide)⟩⟩
  rw [Bool.eq_false_iff]
  intro ends
  exact absurd (isStop_of_isBreak ends) (Bool.eq_false_iff.mp (free c member))

theorem Bodies.OneLine.qualified {qualifier : String} {bodies : Bodies} (oneLine : bodies.OneLine)
    (single : ∀ c ∈ qualifier.toList, isBreak c = false) :
    Bodies.OneLine (Qualified qualifier bodies) := by
  rintro body (is_body | ⟨unqualified, rfl, is_body⟩)
  · exact oneLine is_body
  · exact List.forall_mem_append.mpr ⟨single, oneLine is_body⟩

theorem Bodies.OneLine.not_mem_usage {bodies : Bodies} (oneLine : bodies.OneLine) {body : List Char}
    (is_body : bodies body) {c : Char} (ends : isBreak c = true) : c ∉ '[' :: (body ++ [']']) := by
  have within : ∀ d ∈ '[' :: (body ++ [']']), isBreak d = false :=
    List.forall_mem_cons.mpr ⟨by decide,
      List.forall_mem_append.mpr ⟨oneLine is_body, forall_mem_of_all (by decide)⟩⟩
  exact not_mem_of_forall within ends

/-! ## Usages -/

section Usages

variable {kind : Attribute} {bodies : Bodies} (reads : kind.Reads bodies)

include reads

theorem usage?_eq_some_iff {text : List Char} {size : Nat} :
    kind.usage? (closesCall text) text = some size ↔
      ∃ body rest, text = '[' :: (body ++ ']' :: rest) ∧ ']' ∉ body ∧ bodies body ∧
        size = body.length + 2 := by
  constructor
  · intro found
    rw [usage?.eq_def] at found
    split at found
    case h_1 inside =>
      rw [closesCall_cons (by decide) (by decide), Option.map_eq_some_iff] at found
      obtain ⟨size, found, rfl⟩ := found
      by_cases close : ']' ∈ inside
      · obtain ⟨body, rest, rfl, unclosed⟩ := List.eq_append_cons_of_mem close
        obtain ⟨is_body, rfl⟩ := (reads.closed unclosed).mp found
        exact ⟨body, rest, rfl, unclosed, is_body, rfl⟩
      · rw [reads.unclosed close] at found
        cases found
    case h_2 => cases found
  · rintro ⟨body, rest, rfl, unclosed, is_body, rfl⟩
    rw [usage?, closesCall_cons (by decide) (by decide),
      (reads.closed unclosed).mpr ⟨is_body, rfl⟩]
    rfl

theorem inline_isSome_iff {before : Option Char} {text : List Char} :
    (kind.inline before text).isSome = true ↔
      ∃ body rest, text = '[' :: (body ++ ']' :: rest) ∧ ']' ∉ body ∧ bodies body := by
  have usage : (kind.inline before text).isSome = (kind.usage? (closesCall text) text).isSome := by
    rw [Attribute.inline, inlineUsage?]
    cases kind.usage? (closesCall text) text <;> rfl
  simp only [usage, Option.isSome_iff_exists, usage?_eq_some_iff reads]
  constructor
  · rintro ⟨_, body, rest, same, unclosed, is_body, -⟩
    exact ⟨body, rest, same, unclosed, is_body⟩
  · rintro ⟨body, rest, same, unclosed, is_body⟩
    exact ⟨_, body, rest, same, unclosed, is_body, rfl⟩

theorem isLinewise_inline (oneLine : bodies.OneLine) : kind.inline.IsLinewise where
  breaks before front rest := by
    rw [Bool.eq_iff_iff, inline_isSome_iff reads, inline_isSome_iff reads]
    constructor
    · rintro ⟨body, behind, same, unclosed, is_body⟩
      have single : '\n' ∉ '[' :: (body ++ [']']) := oneLine.not_mem_usage is_body rfl
      have split : '[' :: (body ++ [']']) ++ behind = front ++ '\n' :: rest := by simp [same]
      obtain ⟨more, rfl, -⟩ := exists_of_append_eq_append_cons single split
      exact ⟨body, more, by simp, unclosed, is_body⟩
    · rintro ⟨body, behind, rfl, unclosed, is_body⟩
      exact ⟨body, behind ++ '\n' :: rest, by simp, unclosed, is_body⟩
  empty before := by
    rw [← Option.not_isSome_iff_eq_none, inline_isSome_iff reads]
    rintro ⟨body, rest, same, -⟩
    cases same
  start _ := rfl

end Usages

/-- What may be removed together with a usage: blanks, and the end of a line. -/
def isGap (c : Char) : Bool :=
  isBlank c || c == '\r' || c == '\n'

/--
A block that is removed: a usage, and what is removed with it. In front of a usage blanks are only
removed from the start of a line on.
-/
def IsRemoval (bodies : Bodies) (before : Option Char) (block : List Char) : Prop :=
  ∃ lead body gap, block = lead ++ '[' :: (body ++ ']' :: gap) ∧
    (lead = [] ∨ startsLine before = true) ∧ (∀ c ∈ lead, isBlank c = true) ∧
    ']' ∉ body ∧ bodies body ∧ ∀ c ∈ gap, isGap c = true

/-- What a pattern finds are blocks to be removed. -/
def Removes (pattern : Pattern) (bodies : Bodies) : Prop :=
  ∀ ⦃before text size⦄, pattern before text = some size →
    ∃ block rest, text = block ++ rest ∧ size = block.length ∧ IsRemoval bodies before block

theorem Removes.isBounded {pattern : Pattern} {bodies : Bodies} (removes : Removes pattern bodies) :
    pattern.IsBounded := by
  intro before text size found
  obtain ⟨block, rest, rfl, rfl, lead, body, gap, rfl, -⟩ := removes found
  simp only [List.length_append, List.length_cons]
  omega

/-- What ends a line: a line feed, with a carriage return before it or without, or the end of the text. -/
def EndsLine (ending rest : List Char) : Prop :=
  (ending = [] ∧ rest = []) ∨ ending = ['\n'] ∨ ending = ['\r', '\n']

theorem EndsLine.isGap_of_mem {ending rest : List Char} (ends : EndsLine ending rest) :
    ∀ c ∈ ending, isGap c = true := by
  rcases ends with ⟨rfl, -⟩ | rfl | rfl
  · exact fun c never => absurd never List.not_mem_nil
  · exact forall_mem_of_all (by decide)
  · exact forall_mem_of_all (by decide)

theorem EndsLine.startsWith_isBlank {ending rest : List Char} (ends : EndsLine ending rest) :
    startsWith isBlank (ending ++ rest) = false := by
  rcases ends with ⟨rfl, rfl⟩ | rfl | rfl
  · rfl
  · rfl
  · rfl

theorem lineEnd?_eq_some_iff {text : List Char} {size : Nat} :
    lineEnd? text = some size ↔
      ∃ ending rest, text = ending ++ rest ∧ EndsLine ending rest ∧ size = ending.length := by
  constructor
  · intro found
    rw [lineEnd?.eq_def] at found
    split at found <;> cases found
    case h_1 => exact ⟨[], [], rfl, .inl ⟨rfl, rfl⟩, rfl⟩
    case h_2 rest => exact ⟨['\n'], rest, rfl, .inr (.inl rfl), rfl⟩
    case h_3 rest => exact ⟨['\r', '\n'], rest, rfl, .inr (.inr rfl), rfl⟩
  · rintro ⟨ending, rest, rfl, ⟨rfl, rfl⟩ | rfl | rfl, rfl⟩
    · rfl
    · rfl
    · rfl

theorem blanks_append {lead rest : List Char} (blank : ∀ c ∈ lead, isBlank c = true)
    (ends : startsWith isBlank rest = false) : blanks (lead ++ rest) = lead.length := by
  rw [blanks, takeWhile_append_of_ends blank ends]

theorem ownLine_eq_none (kind : Attribute) {before : Option Char} (inside : startsLine before = false)
    (text : List Char) : kind.ownLine before text = none := by
  rw [Attribute.ownLine, inside]
  rfl

theorem ownLine_eq (kind : Attribute) {before : Option Char} (starts : startsLine before = true)
    (text : List Char) :
    kind.ownLine before text = do
      let usage ← kind.usage? (closesCall (text.drop (blanks text))) (text.drop (blanks text))
      let trail := blanks (text.drop (blanks text + usage))
      let lineEnd ← lineEnd? (text.drop (blanks text + usage + trail))
      return blanks text + usage + trail + lineEnd := by
  rw [Attribute.ownLine, starts]
  rfl

section Removals

variable {kind : Attribute} {bodies : Bodies} (reads : kind.Reads bodies)

include reads

theorem inline_eq_some_iff {before : Option Char} {text : List Char} {size : Nat} :
    kind.inline before text = some size ↔
      ∃ body rest, text = '[' :: (body ++ ']' :: rest) ∧ ']' ∉ body ∧ bodies body ∧
        size = body.length + 2 + blanks rest := by
  have behind (body rest : List Char) :
      ('[' :: (body ++ ']' :: rest)).drop (body.length + 2) = rest := by simp
  simp only [Attribute.inline, inlineUsage?, Option.bind_eq_bind, Option.bind_eq_some_iff,
    usage?_eq_some_iff reads, Option.pure_def, Option.some.injEq]
  constructor
  · rintro ⟨_, ⟨body, rest, rfl, unclosed, is_body, rfl⟩, rfl⟩
    exact ⟨body, rest, rfl, unclosed, is_body, by rw [behind]⟩
  · rintro ⟨body, rest, rfl, unclosed, is_body, rfl⟩
    exact ⟨_, ⟨body, rest, rfl, unclosed, is_body, rfl⟩, by rw [behind]⟩

theorem ownLine_eq_some_iff {before : Option Char} {text : List Char} {size : Nat} :
    kind.ownLine before text = some size ↔
      startsLine before = true ∧ ∃ lead body trail ending rest,
        text = lead ++ '[' :: (body ++ ']' :: (trail ++ (ending ++ rest))) ∧
          (∀ c ∈ lead, isBlank c = true) ∧ ']' ∉ body ∧ bodies body ∧
          (∀ c ∈ trail, isBlank c = true) ∧ EndsLine ending rest ∧
          size = lead.length + (body.length + 2) + trail.length + ending.length := by
  cases starts : startsLine before with
  | false => simp only [ownLine_eq_none kind starts, reduceCtorEq, Bool.false_eq_true, false_and]
  | true =>
    have behind_lead (text : List Char) : text.drop (blanks text) = text.dropWhile isBlank :=
      drop_length_takeWhile isBlank text
    have behind_usage (body tail : List Char) :
        ('[' :: (body ++ ']' :: tail)).drop (body.length + 2) = tail := by simp
    simp only [ownLine_eq kind starts, Option.bind_eq_bind, Option.bind_eq_some_iff, Option.pure_def,
      Option.some.injEq, ← List.drop_drop, behind_lead, usage?_eq_some_iff reads, true_and]
    constructor
    · rintro ⟨_, ⟨body, tail, split, unclosed, is_body, rfl⟩, _, ended, rfl⟩
      rw [split, behind_usage] at ended
      obtain ⟨ending, rest, rest_eq, ends, rfl⟩ := lineEnd?_eq_some_iff.mp ended
      refine ⟨text.takeWhile isBlank, body, tail.takeWhile isBlank, ending, rest, ?_,
        of_mem_takeWhile isBlank text, unclosed, is_body, of_mem_takeWhile isBlank tail, ends, ?_⟩
      · rw [← rest_eq, List.takeWhile_append_dropWhile, ← split, List.takeWhile_append_dropWhile]
      · rw [split, behind_usage]
        rfl
    · rintro ⟨lead, body, trail, ending, rest, rfl, lead_blank, unclosed, is_body, trail_blank, ends,
        rfl⟩
      have opening : startsWith isBlank ('[' :: (body ++ ']' :: (trail ++ (ending ++ rest)))) = false :=
        rfl
      have usage : (lead ++ '[' :: (body ++ ']' :: (trail ++ (ending ++ rest)))).dropWhile isBlank =
          '[' :: (body ++ ']' :: (trail ++ (ending ++ rest))) := by
        rw [dropWhile_append_of_ends lead_blank opening]
      have line_end : (trail ++ (ending ++ rest)).dropWhile isBlank = ending ++ rest := by
        rw [dropWhile_append_of_ends trail_blank ends.startsWith_isBlank]
      refine ⟨_, ⟨body, _, usage, unclosed, is_body, rfl⟩, ending.length, ?_, ?_⟩
      · rw [usage, behind_usage, line_end]
        exact lineEnd?_eq_some_iff.mpr ⟨ending, rest, rfl, ends, rfl⟩
      · rw [usage, behind_usage, blanks_append lead_blank opening,
          blanks_append trail_blank ends.startsWith_isBlank]

theorem removes_inline : Removes kind.inline bodies := by
  intro before text size found
  obtain ⟨body, rest, rfl, unclosed, is_body, rfl⟩ := (inline_eq_some_iff reads).mp found
  refine ⟨'[' :: (body ++ ']' :: rest.takeWhile isBlank), rest.dropWhile isBlank, ?_, ?_,
    [], body, rest.takeWhile isBlank, rfl, .inl rfl, by simp, unclosed, is_body, ?_⟩
  · simp
  · simp only [blanks, List.length_cons, List.length_append]
    omega
  · intro c member
    rw [isGap, of_mem_takeWhile isBlank rest c member]
    rfl

theorem removes_ownLine : Removes kind.ownLine bodies := by
  intro before text size found
  obtain ⟨starts, lead, body, trail, ending, rest, rfl, lead_blank, unclosed, is_body, trail_blank,
    ends, rfl⟩ := (ownLine_eq_some_iff reads).mp found
  refine ⟨lead ++ '[' :: (body ++ ']' :: (trail ++ ending)), rest, by simp, ?_,
    lead, body, trail ++ ending, rfl, .inr starts, lead_blank, unclosed, is_body, ?_⟩
  · simp only [List.length_append, List.length_cons]
    omega
  · intro c member
    cases List.mem_append.mp member with
    | inl inside =>
      rw [isGap, trail_blank c inside]
      rfl
    | inr inside => exact ends.isGap_of_mem c inside

theorem occurs_ownLine_of_inline {text : List Char} (free : occurs kind.inline text = false) :
    occurs kind.ownLine text = false := by
  rw [Bool.eq_false_iff] at free ⊢
  rw [Ne, occurs, occursFrom_eq_true_iff] at free ⊢
  rintro ⟨front, rest, rfl, -, found⟩
  obtain ⟨size, found⟩ := Option.isSome_iff_exists.mp found
  obtain ⟨_, behind, rfl, -, lead, body, gap, rfl, -, -, unclosed, is_body, -⟩ :=
    removes_ownLine reads found
  refine free ⟨front ++ lead, '[' :: (body ++ ']' :: (gap ++ behind)), by simp, List.cons_ne_nil _ _, ?_⟩
  exact (inline_isSome_iff reads).mpr ⟨body, _, rfl, unclosed, is_body⟩

end Removals

end Polyfill.Template
