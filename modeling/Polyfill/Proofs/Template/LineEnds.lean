import Polyfill.Proofs.Template.Linewise
import Polyfill.Proofs.Text.Returns

/-!
# Templates with carriage returns

A template may end its lines with a carriage return and a line feed. What is made of it is what is made
of the template with plain line feeds: every step keeps the returns of the lines that it keeps, and an
alias has none.
-/

namespace Polyfill.Template

open Text Attribute

/-! ## Patterns -/

theorem lineEnd?_append {line ending : List Char} (single : ∀ c ∈ line, isBreak c = false)
    (ends : ending = ['\n'] ∨ ending = ['\r', '\n']) (rest : List Char) :
    lineEnd? (line ++ (ending ++ rest)) = (lineEnd? line).map (· + ending.length) := by
  cases line with
  | nil => rcases ends with rfl | rfl <;> rfl
  | cons c line =>
    have inside := single c List.mem_cons_self
    simp only [isBreak, Bool.or_eq_false_iff, beq_eq_false_iff_ne] at inside
    simp [lineEnd?, inside]

section Reading

variable {kind : Attribute} {bodies : Bodies} (reads : kind.Reads bodies) (oneLine : bodies.OneLine)

include reads

theorem ownLine_eq_length {before : Option Char} {line : List Char} {size : Nat}
    (single : ∀ c ∈ line, isBreak c = false) (found : kind.ownLine before line = some size) :
    size = line.length := by
  obtain ⟨-, lead, body, trail, ending, rest, rfl, -, -, -, -, ends, rfl⟩ :=
    (ownLine_eq_some_iff reads).mp found
  rcases ends with ⟨rfl, rfl⟩ | rfl | rfl
  · simp only [List.length_append, List.length_cons, List.length_nil]
    omega
  · exact absurd (single '\n' (by simp)) (by decide)
  · exact absurd (single '\n' (by simp)) (by decide)

include oneLine

theorem ownLine_append {line ending : List Char} (single : ∀ c ∈ line, isBreak c = false)
    (ends : ending = ['\n'] ∨ ending = ['\r', '\n']) (before : Option Char) (rest : List Char) :
    kind.ownLine before (line ++ (ending ++ rest)) =
      (kind.ownLine before line).map (· + ending.length) := by
  obtain ⟨c, more, same, first⟩ : ∃ c more, ending = c :: more ∧ isBreak c = true := by
    rcases ends with rfl | rfl
    · exact ⟨'\n', [], rfl, rfl⟩
    · exact ⟨'\r', ['\n'], rfl, rfl⟩
  have behind_trail (place : Nat) : lineEnd? (line.drop place ++ c :: (more ++ rest)) =
      (lineEnd? (line.drop place)).map (· + ending.length) := by
    have within : ∀ d ∈ line.drop place, isBreak d = false := fun d member =>
      single d (List.mem_of_mem_drop member)
    rw [← lineEnd?_append within ends rest, same, List.cons_append]
  cases starts : startsLine before with
  | false => rw [ownLine_eq_none kind starts, ownLine_eq_none kind starts, Option.map_none]
  | true =>
    rw [same, List.cons_append, ownLine_append_cons reads oneLine starts first, ownLine_eq kind starts]
    simp only [behind_trail, same]
    cases kind.usage? (closesCall (line.drop (blanks line))) (line.drop (blanks line)) with
    | none => rfl
    | some usage =>
      simp only [Option.bind_eq_bind, Option.bind_some]
      cases lineEnd? _ with
      | none => rfl
      | some size => exact congrArg some (Nat.add_assoc _ size _).symm

theorem ignoresReturns_inline : kind.inline.IgnoresReturns :=
  ignoresReturns_of_stopsAtBreaks (removes_inline reads).isBounded (stopsAtBreaks_inline reads oneLine)

theorem ignoresReturns_ownLine : kind.ownLine.IgnoresReturns where
  bounded := (removes_ownLine reads).isBounded
  newline before rest := by
    have single : ∀ c ∈ [], isBreak c = false := by simp
    have here := ownLine_append reads oneLine single (.inl rfl) before rest
    rw [(removes_ownLine reads).isBounded.eq_none] at here
    exact here
  finds before text plain := by
    by_cases member : '\n' ∈ text
    · obtain ⟨line, rest, rfl, feed_free⟩ := List.eq_append_cons_of_mem member
      have single : ∀ c ∈ line, isBreak c = false := by
        intro c inside
        rw [Bool.eq_false_iff, Ne, isBreak_iff]
        rintro (rfl | rfl)
        · exact plain (List.mem_append_left _ inside)
        · exact feed_free inside
      have feed := ownLine_append reads oneLine single (.inl rfl) before rest
      have both := ownLine_append reads oneLine single (.inr rfl) before (withReturns rest)
      simp only [List.cons_append, List.nil_append] at feed both
      rw [withReturns_append, withReturns_newline, withReturns_eq_self feed_free, feed, both]
      cases found : kind.ownLine before line with
      | none => rfl
      | some size =>
        obtain rfl := ownLine_eq_length reads single found
        have block : (line ++ '\n' :: rest).take (line.length + 1) = line ++ ['\n'] := by
          rw [List.take_length_add_append]
          rfl
        simp only [Option.map_some, List.length_cons, List.length_nil, Nat.zero_add, block,
          withReturns_append, withReturns_eq_self feed_free, List.length_append]
        rfl
    · exact (removes_ownLine reads).isBounded.finds_of_single member before

end Reading

/-! ## Steps -/

/-- A step makes the same of a text with returns as of the text, the returns apart, and brings none. -/
structure FollowsReturns (step : List Char → List Char) : Prop where
  withReturns {text : List Char} (plain : '\r' ∉ text) :
    step (withReturns text) = withReturns (step text)
  plain {text : List Char} (plain : '\r' ∉ text) : '\r' ∉ step text

namespace FollowsReturns

variable {step next : List Char → List Char}

theorem comp (first : FollowsReturns step) (second : FollowsReturns next) :
    FollowsReturns fun text => next (step text) where
  withReturns plain := by
    rw [first.withReturns plain, second.withReturns (first.plain plain)]
  plain plain := second.plain (first.plain plain)

theorem stepIf (follows : FollowsReturns step) (asked : Bool) : FollowsReturns (stepIf asked step) := by
  cases asked with
  | true => exact follows
  | false => exact ⟨fun _ => rfl, id⟩

theorem replaceAll {pattern : Pattern} (ignores : pattern.IgnoresReturns) {new : List Char}
    (single : '\n' ∉ new) (fresh : '\r' ∉ new) : FollowsReturns (replaceAll pattern new) where
  withReturns plain := ignores.replaceAll_withReturns single plain
  plain plain := not_mem_replaceAll ignores.bounded fresh plain

end FollowsReturns

theorem followsReturns_words {word new : List Char} (nonempty : word ≠ [])
    (word_single : ∀ c ∈ word, isBreak c = false) (single : '\n' ∉ new) (fresh : '\r' ∉ new) :
    FollowsReturns (replaceAll (wholeWord word) new) :=
  .replaceAll (ignoresReturns_of_stopsAtBreaks (isBounded_wholeWord nonempty)
    (stopsAtBreaks_wholeWord word_single)) single fresh

theorem followsReturns_strip {kind : Attribute} (removable : kind ∈ removableKinds) :
    FollowsReturns kind.strip := by
  obtain ⟨bodies, is_removable⟩ := exists_isRemovable removable
  have reads := is_removable.reads
  have lines : FollowsReturns (deleteAll kind.ownLine) :=
    .replaceAll (ignoresReturns_ownLine reads is_removable.oneLine) List.not_mem_nil List.not_mem_nil
  have usages : FollowsReturns (deleteAll kind.inline) :=
    .replaceAll (ignoresReturns_inline reads is_removable.oneLine) List.not_mem_nil List.not_mem_nil
  have whole : kind.strip = fun text => deleteAll kind.inline (deleteAll kind.ownLine text) :=
    funext kind.strip_eq
  rw [whole]
  exact lines.comp usages

theorem followsReturns_materializeBody (isPublic : Bool) (fixups : FixupSet) :
    FollowsReturns (materializeBody isPublic fixups) := by
  have publish : FollowsReturns publishWords :=
    followsReturns_words (by decide) (forall_mem_of_all (by decide)) (by decide) (by decide)
  have move : FollowsReturns moveNamespace :=
    followsReturns_words (by decide) (forall_mem_of_all (by decide)) (by decide) (by decide)
  have makePublic : FollowsReturns makePublic := publish.comp (followsReturns_strip embeddedMarker_mem)
  exact (((makePublic.stepIf _).comp ((followsReturns_strip methodImplHint_mem).stepIf _)).comp
    ((followsReturns_strip coverageExclusion_mem).stepIf _)).comp (move.stepIf _)

/-! ## The alias -/

theorem globalAlias?_withReturns (text : List Char) :
    globalAlias? (withReturns text) = globalAlias? text := by
  rw [globalAlias?_eq, globalAlias?_eq, firstAnswer?_withReturns readsLines_namespaceOf?,
    firstAnswer?_withReturns readsLines_typeOf?]

theorem aliasOnly_withReturns (text : List Char) : aliasOnly (withReturns text) = aliasOnly text := by
  rw [aliasOnly, aliasOnly, globalAlias?_withReturns]

theorem plain_of_globalAlias? {text aliasLine : List Char} (found : globalAlias? text = some aliasLine) :
    '\r' ∉ aliasLine :=
  not_mem_of_globalAlias? found (by decide) (by decide)

theorem plain_aliasOnly (text : List Char) : '\r' ∉ aliasOnly text := by
  have header_plain : '\r' ∉ generatedHeader := by decide
  rw [aliasOnly]
  split
  case h_1 aliasLine found => simp [header_plain, plain_of_globalAlias? found]
  case h_2 => exact header_plain

theorem firstNamespace?_withReturns (text : List Char) :
    firstNamespace? (withReturns text) = (firstNamespace? text).map fun found =>
      ((withReturns (text.take found.1)).length, found.2) :=
  firstLineFrom?_withReturns readsLines_namespaceOf? none text

theorem holds_withReturns {text aliasLine : List Char} (plain : '\r' ∉ text)
    (found : globalAlias? text = some aliasLine) :
    holds aliasLine (withReturns text) = holds aliasLine text := by
  have single : '\n' ∉ aliasLine := not_mem_of_globalAlias? found (by decide) (by decide)
  rw [Bool.eq_iff_iff, holds_iff_isInfix, holds_iff_isInfix,
    infix_withReturns_iff single (plain_of_globalAlias? found) plain]

/-- The alias is put in front of the same line, and the lines around it keep their returns. -/
theorem filter_insertGlobalAlias_withReturns {text : List Char} (plain : '\r' ∉ text) :
    (insertGlobalAlias (withReturns text)).filter (· != '\r') = insertGlobalAlias text := by
  cases found : globalAlias? text with
  | none => simp only [insertGlobalAlias, globalAlias?_withReturns, found, filter_withReturns plain]
  | some aliasLine =>
    obtain ⟨offset, ns, _, first, -⟩ := globalAlias?_eq_some_iff.mp found
    have front_plain : '\r' ∉ text.take offset := fun member => plain (List.mem_of_mem_take member)
    have rest_plain : '\r' ∉ text.drop offset := fun member => plain (List.mem_of_mem_drop member)
    have cut : withReturns text = withReturns (text.take offset) ++ withReturns (text.drop offset) := by
      rw [← withReturns_append, List.take_append_drop]
    have empty_line : "\n\n".toList.filter (· != '\r') = "\n\n".toList := by decide
    simp only [insertGlobalAlias, globalAlias?_withReturns, firstNamespace?_withReturns, found, first,
      Option.map_some, holds_withReturns plain found]
    split
    case isTrue => exact filter_withReturns plain
    case isFalse =>
      rw [cut, List.take_left, List.drop_left]
      simp only [List.filter_append, filter_withReturns front_plain, filter_withReturns rest_plain,
        filter_eq_self_of_plain (plain_of_globalAlias? found), empty_line]

/--
A template whose line feeds have carriage returns before them comes to the same text with such returns,
if no alias is asked for, and to the same text if only the alias is. Whatever is asked for, the returns
are the only difference.
-/
theorem materialize_withReturns (template : String) (plain : '\r' ∉ template.toList) (isPublic : Bool)
    (fixups : FixupSet) :
    let returned := String.ofList (withReturns template.toList)
    (.emitGlobalAliasForInlineArrayArtifact ∉ fixups → .generateAliasOnly ∉ fixups →
      (materialize returned isPublic fixups).toList =
        withReturns (materialize template isPublic fixups).toList) ∧
    (.generateAliasOnly ∈ fixups →
      materialize returned isPublic fixups = materialize template isPublic fixups) ∧
    (materialize returned isPublic fixups).toList.filter (· != '\r') =
      (materialize template isPublic fixups).toList := by
  intro returned
  have follows := followsReturns_materializeBody isPublic fixups
  have body := follows.withReturns plain
  have body_plain := follows.plain plain
  have chars : returned.toList = withReturns template.toList := String.toList_ofList
  simp only [FixupSet.mem_iff, String.ext_iff, toList_materialize, chars]
  refine ⟨?_, ?_, ?_⟩
  · intro uninserted whole
    rw [Bool.not_eq_true] at uninserted whole
    rw [materializeChars_of_no_alias whole uninserted, materializeChars_of_no_alias whole uninserted, body]
  · intro alone
    simp only [materializeChars, alone, if_true, body, aliasOnly_withReturns]
  · rw [materializeChars, materializeChars, body]
    cases alone : fixups.has .generateAliasOnly with
    | true =>
      simp only [if_true, aliasOnly_withReturns]
      exact filter_eq_self_of_plain (plain_aliasOnly _)
    | false =>
      cases inserted : fixups.has .emitGlobalAliasForInlineArrayArtifact with
      | true => exact filter_insertGlobalAlias_withReturns body_plain
      | false => exact filter_withReturns body_plain

/-- A marker and a hint that have lines to themselves, and an alias that is inserted or stands alone. -/
theorem materialize_withReturns_of_class :
    let template := "[Embedded]\nnamespace N;\n\n[MethodImpl(256)] \ninternal class A;"
    let returned := String.ofList (withReturns template.toList)
    let hints : FixupSet := .single .removeMethodImplHints
    let alone : FixupSet := .single .generateAliasOnly
    let inserted : FixupSet := .single .emitGlobalAliasForInlineArrayArtifact
    '\r' ∉ template.toList ∧
      (.emitGlobalAliasForInlineArrayArtifact ∉ hints ∧ .generateAliasOnly ∉ hints ∧
        (materialize returned true hints).toList = withReturns (materialize template true hints).toList) ∧
      (.generateAliasOnly ∈ alone ∧ materialize returned true alone = materialize template true alone) ∧
      (materialize returned true inserted).toList.filter (· != '\r') =
        (materialize template true inserted).toList := by
  intro template returned hints alone inserted
  have plain : '\r' ∉ template.toList := by decide
  have uninserted : .emitGlobalAliasForInlineArrayArtifact ∉ hints := by decide
  have whole : .generateAliasOnly ∉ hints := by decide
  have only : .generateAliasOnly ∈ alone := by decide
  exact ⟨plain, ⟨uninserted, whole, (materialize_withReturns template plain true hints).1 uninserted whole⟩,
    ⟨only, (materialize_withReturns template plain true alone).2.1 only⟩,
    (materialize_withReturns template plain true inserted).2.2⟩

end Polyfill.Template
