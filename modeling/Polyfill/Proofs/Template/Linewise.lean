import Polyfill.Proofs.Template.Alias
import Polyfill.Proofs.Template.Rewording

/-!
# Materialization line by line

No step before the alias looks across a line end: what it makes of a text is what it makes of the lines,
one after the other, and a line is changed within its bounds or goes as a whole. So a text may be cut
behind any of its line ends, and the parts may be materialized on their own.
-/

namespace Polyfill.Template

open Text Attribute

/-! ## Lines -/

theorem isLines_of_getLast? {text : List Char} (last : text.getLast? = some '\n') : IsLines text := by
  apply isLines_of_startsLine
  rw [last]
  rfl

/-! ## Scans that stay on a line -/

section Confined

variable {pattern : Pattern} {write : List Char → List Char}

/-- What a pattern says about a place depends on the line of the place only. -/
structure Confined (pattern : Pattern) : Prop where
  bounded : pattern.IsBounded
  start (text : List Char) : pattern (some '\n') text = pattern none text
  newline (before : Option Char) (front rest : List Char) :
    pattern before (front ++ '\n' :: rest) = pattern before (front ++ ['\n'])

/-- An occurrence that reaches over a line end has started its line, and nothing is written for it. -/
def ClosesLines (pattern : Pattern) (write : List Char → List Char) : Prop :=
  ∀ ⦃before block rest⦄, pattern before (block ++ rest) = some block.length →
    block.getLast? = some '\n' → startsLine before = true ∧ write block = []

theorem mapOccurrencesFrom_newline (confined : Confined pattern) (text : List Char) :
    mapOccurrencesFrom pattern write 0 (some '\n') text = mapOccurrences pattern write text := by
  cases text with
  | nil => rfl
  | cons c rest => simp only [mapOccurrences, mapOccurrencesFrom, confined.start]

/-- A scan that is inside an occurrence on its line starts anew on the next line. -/
theorem mapOccurrencesFrom_append_newline (confined : Confined pattern) (rest : List Char)
    {inside : Nat} {front : List Char} (short : inside ≤ front.length + 1) (before : Option Char) :
    mapOccurrencesFrom pattern write inside before (front ++ '\n' :: rest) =
      mapOccurrencesFrom pattern write inside before (front ++ ['\n']) ++
        mapOccurrences pattern write rest := by
  induction front generalizing inside before with
  | nil =>
    have onward : mapOccurrencesFrom pattern write 0 (some '\n') rest =
        Text.mapOccurrences pattern write rest := mapOccurrencesFrom_newline confined rest
    match inside, short with
    | 1, _ => exact onward
    | 0, _ =>
      have here := confined.newline before [] rest
      rw [List.nil_append, List.nil_append] at here
      simp only [List.nil_append, mapOccurrencesFrom, here]
      split
      case h_1 more found =>
        have fits := (confined.bounded found).2
        obtain rfl : more = 0 := by
          simp only [List.length_singleton] at fits
          omega
        simp [onward]
      case h_2 => simp [onward]
  | cons c front ih =>
    cases inside with
    | succ inside =>
      simp only [List.length_cons] at short
      exact ih (by omega) (some c)
    | zero =>
      have here := confined.newline before (c :: front) rest
      simp only [List.cons_append] at here
      simp only [List.cons_append, mapOccurrencesFrom, here]
      split
      case h_1 more found =>
        have fits := (confined.bounded found).2
        simp only [List.length_cons, List.length_append, List.length_nil] at fits
        -- the occurrence lies on the line, so that the same block is written for it
        have block : (front ++ '\n' :: rest).take more = (front ++ ['\n']).take more := by
          have whole : front ++ '\n' :: rest = (front ++ ['\n']) ++ rest := by simp
          rw [whole, List.take_append_of_le_length (by simp; omega)]
        rw [List.take_succ_cons, List.take_succ_cons, block, ih (by omega), List.append_assoc]
      case h_2 => rw [ih (by omega), List.cons_append]

theorem mapOccurrences_append (confined : Confined pattern) {text : List Char} (lines : IsLines text)
    (rest : List Char) :
    mapOccurrences pattern write (text ++ rest) =
      mapOccurrences pattern write text ++ mapOccurrences pattern write rest := by
  rcases lines with rfl | ⟨front, rfl⟩
  · rfl
  · rw [List.append_assoc, List.singleton_append]
    exact mapOccurrencesFrom_append_newline confined rest (Nat.zero_le _) none

theorem eq_nil_of_scanned (bounded : pattern.IsBounded) {before : Option Char} {out : List Char}
    (scanned : Scanned pattern write before [] out) : out = [] := by
  generalize whole : [] = text at scanned
  cases scanned with
  | done => rfl
  | keep => cases whole
  | change found =>
    obtain ⟨rfl, -⟩ := List.append_eq_nil_iff.mp whole.symm
    exact absurd (bounded found).1 (Nat.lt_irrefl 0)

/-- What is left of lines are lines: a last line end that is gone has taken its line with it. -/
theorem getLast?_of_scanned (bounded : pattern.IsBounded) (closes : ClosesLines pattern write)
    {before : Option Char} {text out : List Char} (scanned : Scanned pattern write before text out)
    (last : text.getLast? = some '\n') :
    out.getLast? = some '\n' ∨ (out = [] ∧ startsLine before = true) := by
  induction scanned with
  | done => cases last
  | @keep before c rest out free tail ih =>
    left
    cases rest with
    | nil =>
      obtain rfl := eq_nil_of_scanned bounded tail
      exact last
    | cons d rest =>
      rcases ih (by simpa using last) with ended | ⟨rfl, starts⟩
      · rw [List.getLast?_cons, ended]
        rfl
      · simpa [startsLine] using starts
  | @change before block rest out found tail ih =>
    cases rest with
    | nil =>
      obtain rfl := eq_nil_of_scanned bounded tail
      rw [List.append_nil] at last
      obtain ⟨starts, gone⟩ := closes found last
      exact .inr ⟨by rw [gone, List.nil_append], starts⟩
    | cons d rest =>
      have ending : (d :: rest).getLast? = some '\n' := by
        rwa [List.getLast?_append_of_ne_nil _ (List.cons_ne_nil d rest)] at last
      rcases ih ending with ended | ⟨rfl, starts⟩
      · left
        rw [List.getLast?_append, ended]
        rfl
      · have nonempty : block ≠ [] := List.length_pos_iff.mp (bounded found).1
        have closing : block.getLast? = some '\n' := by
          rw [List.getLast?_eq_some_getLast nonempty] at starts ⊢
          simpa [startsLine] using starts
        obtain ⟨starts, gone⟩ := closes found closing
        exact .inr ⟨by rw [gone, List.nil_append], starts⟩

end Confined

/-! ## Steps -/

/-- A step treats a text line by line, and makes lines of lines. -/
structure ByLine (step : List Char → List Char) : Prop where
  append {text : List Char} (lines : IsLines text) (rest : List Char) :
    step (text ++ rest) = step text ++ step rest
  isLines {text : List Char} (lines : IsLines text) : IsLines (step text)

namespace ByLine

variable {step next : List Char → List Char}

theorem comp (first : ByLine step) (second : ByLine next) :
    ByLine fun text => next (step text) where
  append lines rest := by
    rw [first.append lines, second.append (first.isLines lines)]
  isLines lines := second.isLines (first.isLines lines)

theorem stepIf (linewise : ByLine step) (asked : Bool) : ByLine (stepIf asked step) := by
  cases asked with
  | true => exact linewise
  | false => exact ⟨fun _ _ => rfl, id⟩

theorem mapOccurrences {pattern : Pattern} {write : List Char → List Char}
    (confined : Confined pattern) (closes : ClosesLines pattern write) :
    ByLine (mapOccurrences pattern write) where
  append lines rest := mapOccurrences_append confined lines rest
  isLines {text} lines := by
    rcases lines with rfl | ⟨front, rfl⟩
    · exact .inl rfl
    · have scanned : Scanned pattern write none (front ++ ['\n']) _ :=
        scanned_mapOccurrences confined.bounded (front ++ ['\n'])
      rcases getLast?_of_scanned confined.bounded closes scanned (by simp) with ended | ⟨gone, -⟩
      · exact isLines_of_getLast? ended
      · exact .inl gone

end ByLine

/-! ## Rewording -/

section Stops

variable {pattern : Pattern} (stops : pattern.StopsAtBreaks) (bounded : pattern.IsBounded)

include stops bounded

theorem closesLines_of_stopsAtBreaks (write : List Char → List Char) :
    ClosesLines pattern write := by
  intro before block rest found last
  obtain ⟨front, rfl⟩ := List.getLast?_eq_some_iff.mp last
  rw [List.append_assoc, List.singleton_append, stops before rfl] at found
  have fits := (bounded found).2
  simp only [List.length_append, List.length_singleton] at fits
  omega

theorem confined_of_stopsAtBreaks
    (start : ∀ text, pattern (some '\n') text = pattern none text) : Confined pattern where
  bounded := bounded
  start := start
  newline before front rest := by rw [stops before rfl, stops before rfl]

end Stops

theorem byLine_replaceAll {word new : List Char} (nonempty : word ≠ [])
    (single : ∀ c ∈ word, isBreak c = false) : ByLine (replaceAll (wholeWord word) new) := by
  have bounded := isBounded_wholeWord nonempty
  have stops := stopsAtBreaks_wholeWord single
  apply ByLine.mapOccurrences
  · exact confined_of_stopsAtBreaks stops bounded fun text => wholeWord_congr (by decide)
  · exact closesLines_of_stopsAtBreaks stops bounded _

/-! ## Stripping -/

section Stripping

variable {kind : Attribute} {bodies : Bodies}

theorem stopsAtBreaks_blanks : StopsAtBreaks blanks := by
  intro c ends front rest
  rw [blanks, blanks, takeWhile_append_outside _ _ (isBlank_eq_false_of_isBreak ends)]

theorem blanks_le (text : List Char) : blanks text ≤ text.length :=
  (List.takeWhile_sublist _).length_le

theorem lineEnd?_newline (front rest : List Char) :
    lineEnd? (front ++ '\n' :: rest) = lineEnd? (front ++ ['\n']) := by
  cases front with
  | nil => rfl
  | cons c front =>
    by_cases feed : c = '\n'
    · subst feed
      rfl
    · by_cases carriage : c = '\r'
      · subst carriage
        cases front with
        | nil => rfl
        | cons d front =>
          by_cases last : d = '\n'
          · subst last
            rfl
          · simp [lineEnd?, last]
      · simp [lineEnd?, feed, carriage]

theorem startsLine_of_ownLine {before : Option Char} {text : List Char} {size : Nat}
    (found : kind.ownLine before text = some size) : startsLine before = true := by
  cases starts : startsLine before with
  | true => rfl
  | false =>
    rw [ownLine_eq_none kind starts] at found
    cases found

section Reading

variable (reads : kind.Reads bodies) (oneLine : bodies.OneLine)

include reads

theorem usage?_le {text : List Char} {size : Nat}
    (found : kind.usage? (closesCall text) text = some size) : size ≤ text.length := by
  obtain ⟨body, rest, rfl, -, -, rfl⟩ := (usage?_eq_some_iff reads).mp found
  simp only [List.length_cons, List.length_append]
  omega

include oneLine

theorem stopsAtBreaks_usage? : StopsAtBreaks fun text => kind.usage? (closesCall text) text := by
  intro c ends front rest
  ext size
  rw [usage?_eq_some_iff reads, usage?_eq_some_iff reads]
  constructor
  · rintro ⟨body, behind, same, unclosed, is_body, rfl⟩
    have single : c ∉ '[' :: (body ++ [']']) := oneLine.not_mem_usage is_body ends
    have split : '[' :: (body ++ [']']) ++ behind = front ++ c :: rest := by simp [same]
    obtain ⟨more, rfl, -⟩ := exists_of_append_eq_append_cons single split
    exact ⟨body, more, by simp, unclosed, is_body, rfl⟩
  · rintro ⟨body, behind, rfl, unclosed, is_body, rfl⟩
    exact ⟨body, behind ++ c :: rest, by simp, unclosed, is_body, rfl⟩

theorem stopsAtBreaks_inline : kind.inline.StopsAtBreaks := by
  intro before c ends front rest
  have usage := stopsAtBreaks_usage? reads oneLine ends front rest
  simp only [Attribute.inline, inlineUsage?] at usage ⊢
  rw [usage]
  cases found : kind.usage? (closesCall front) front with
  | none => rfl
  | some size =>
    have fits := usage?_le reads found
    simp only [Option.bind_eq_bind, Option.bind_some, List.drop_append_of_le_length fits,
      stopsAtBreaks_blanks ends]

theorem confined_inline : Confined kind.inline :=
  confined_of_stopsAtBreaks (stopsAtBreaks_inline reads oneLine) (removes_inline reads).isBounded
    fun _ => rfl

theorem ownLine_append_cons {before : Option Char} (starts : startsLine before = true) {c : Char}
    (ends : isBreak c = true) (front rest : List Char) :
    kind.ownLine before (front ++ c :: rest) = do
      let usage ← kind.usage? (closesCall (front.drop (blanks front))) (front.drop (blanks front))
      let trail := blanks (front.drop (blanks front + usage))
      let lineEnd ← lineEnd? (front.drop (blanks front + usage + trail) ++ c :: rest)
      return blanks front + usage + trail + lineEnd := by
  have lead : (front ++ c :: rest).drop (blanks front) = front.drop (blanks front) ++ c :: rest :=
    List.drop_append_of_le_length (blanks_le front)
  have usage := stopsAtBreaks_usage? reads oneLine ends (front.drop (blanks front)) rest
  simp only [ownLine_eq kind starts, stopsAtBreaks_blanks ends, lead] at usage ⊢
  rw [usage]
  cases found : kind.usage? (closesCall (front.drop (blanks front))) (front.drop (blanks front)) with
  | none => rfl
  | some size =>
    have fits := usage?_le reads found
    have lead_fits := blanks_le front
    rw [List.length_drop] at fits
    have behind_usage : (front ++ c :: rest).drop (blanks front + size) =
        front.drop (blanks front + size) ++ c :: rest :=
      List.drop_append_of_le_length (by omega)
    have trail_fits := blanks_le (front.drop (blanks front + size))
    rw [List.length_drop] at trail_fits
    have behind_trail :
        (front ++ c :: rest).drop
            (blanks front + size + blanks (front.drop (blanks front + size))) =
          front.drop (blanks front + size + blanks (front.drop (blanks front + size))) ++ c :: rest :=
      List.drop_append_of_le_length (by omega)
    simp only [Option.bind_eq_bind, Option.bind_some, behind_usage, stopsAtBreaks_blanks ends,
      behind_trail]

theorem confined_ownLine : Confined kind.ownLine where
  bounded := (removes_ownLine reads).isBounded
  start _ := rfl
  newline before front rest := by
    cases starts : startsLine before with
    | false => rw [ownLine_eq_none kind starts, ownLine_eq_none kind starts]
    | true => simp only [ownLine_append_cons reads oneLine starts (c := '\n') rfl, lineEnd?_newline _ rest]

theorem byLine_strip_of_reads : ByLine kind.strip := by
  have lines : ByLine (deleteAll kind.ownLine) := by
    apply ByLine.mapOccurrences (confined_ownLine reads oneLine)
    intro before block rest found last
    exact ⟨startsLine_of_ownLine found, rfl⟩
  have usages : ByLine (deleteAll kind.inline) :=
    .mapOccurrences (confined_inline reads oneLine)
      (closesLines_of_stopsAtBreaks (stopsAtBreaks_inline reads oneLine)
        (removes_inline reads).isBounded _)
  have whole : kind.strip = fun text => deleteAll kind.inline (deleteAll kind.ownLine text) :=
    funext kind.strip_eq
  rw [whole]
  exact lines.comp usages

end Reading

theorem byLine_strip (removable : kind ∈ removableKinds) : ByLine kind.strip := by
  obtain ⟨bodies, is_removable⟩ := exists_isRemovable removable
  exact byLine_strip_of_reads is_removable.reads is_removable.oneLine

end Stripping

/-! ## Materialization -/

theorem byLine_materializeBody (isPublic : Bool) (fixups : FixupSet) :
    ByLine (materializeBody isPublic fixups) := by
  have publish : ByLine publishWords := byLine_replaceAll (by decide) (forall_mem_of_all (by decide))
  have move : ByLine moveNamespace := byLine_replaceAll (by decide) (forall_mem_of_all (by decide))
  have makePublic : ByLine makePublic := publish.comp (byLine_strip embeddedMarker_mem)
  exact (((makePublic.stepIf _).comp ((byLine_strip methodImplHint_mem).stepIf _)).comp
    ((byLine_strip coverageExclusion_mem).stepIf _)).comp (move.stepIf _)

theorem materializeChars_of_no_alias {isPublic : Bool} {fixups : FixupSet} {text : List Char}
    (whole : fixups.has .generateAliasOnly = false)
    (uninserted : fixups.has .emitGlobalAliasForInlineArrayArtifact = false) :
    materializeChars isPublic fixups text = materializeBody isPublic fixups text := by
  simp [materializeChars, stepIf, uninserted, whole]

/--
Without an alias, lines are materialized on their own: a text that ends behind a line end and what
follows it come to what both of them come to.
-/
theorem materialize_append {text : String} (lines : IsLines text.toList) (rest : String)
    (isPublic : Bool) {fixups : FixupSet}
    (uninserted : .emitGlobalAliasForInlineArrayArtifact ∉ fixups)
    (whole : .generateAliasOnly ∉ fixups) :
    materialize (text ++ rest) isPublic fixups =
      materialize text isPublic fixups ++ materialize rest isPublic fixups := by
  rw [FixupSet.mem_iff, Bool.not_eq_true] at uninserted whole
  rw [String.ext_iff]
  simp only [String.toList_append, toList_materialize, materializeChars_of_no_alias whole uninserted]
  exact (byLine_materializeBody isPublic fixups).append lines rest.toList

/-- A marker with its line to itself, words to publish, and a hint on a last line that is not closed. -/
theorem materialize_append_marked_lines :
    let text := "[Embedded]\r\ninternal class A\n"
    let rest := "\t[MethodImpl(256)] \x7b internal \x7d"
    let fixups : FixupSet := .single .removeMethodImplHints
    IsLines text.toList ∧ .emitGlobalAliasForInlineArrayArtifact ∉ fixups ∧
      .generateAliasOnly ∉ fixups ∧
      materialize (text ++ rest) true fixups =
        materialize text true fixups ++ materialize rest true fixups := by
  intro text rest fixups
  have lines : IsLines text.toList := by
    apply isLines_of_getLast?
    decide
  have uninserted : .emitGlobalAliasForInlineArrayArtifact ∉ fixups := by decide
  have whole : .generateAliasOnly ∉ fixups := by decide
  exact ⟨lines, uninserted, whole, materialize_append lines rest true uninserted whole⟩

end Polyfill.Template
