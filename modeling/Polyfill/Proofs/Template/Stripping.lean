import Polyfill.Proofs.Template.Clearance
import Polyfill.Proofs.Text.Pieces

/-!
# Stripping, line by line

What stripping makes of a text is said here without scans: a line of blanks and one usage goes with its
line end, and any other line loses its usages, each with the blanks behind it, and nothing else. In a
flat text usages do not overlap, so that this says of every character whether it stays.
-/

namespace Polyfill.Template

open Text Attribute

/-! ## Lines without their usages -/

/-- A usage stands at the start of a text. -/
def StartsUsage (bodies : Bodies) (text : List Char) : Prop :=
  ∃ body rest, text = '[' :: (body ++ ']' :: rest) ∧ ']' ∉ body ∧ bodies body

/-- Usages are left out, each with the blanks behind it, and the other characters stay. -/
inductive LeavesOut (bodies : Bodies) : List Char → List Char → Prop where
  | done : LeavesOut bodies [] []
  | keep {c rest out} (other : ¬ StartsUsage bodies (c :: rest)) (tail : LeavesOut bodies rest out) :
      LeavesOut bodies (c :: rest) (c :: out)
  | usage {body gap rest out} (is_body : bodies body) (single : '[' ∉ body) (unclosed : ']' ∉ body)
      (blank : ∀ c ∈ gap, isBlank c = true) (ends : startsWith isBlank rest = false)
      (tail : LeavesOut bodies rest out) :
      LeavesOut bodies ('[' :: (body ++ ']' :: (gap ++ rest))) out

/-- A line is made of blanks and one usage, its line end apart. -/
def IsUsageLine (bodies : Bodies) (line : List Char) : Prop :=
  ∃ lead body trail ending, line = lead ++ '[' :: (body ++ ']' :: (trail ++ ending)) ∧
    (∀ c ∈ lead, isBlank c = true) ∧ ']' ∉ body ∧ bodies body ∧ (∀ c ∈ trail, isBlank c = true) ∧
    (ending = [] ∨ ending = ['\n'] ∨ ending = ['\r', '\n'])

/-- What stripping is to leave of a line. -/
inductive StrippedLine (bodies : Bodies) (line : List Char) : List Char → Prop where
  | gone (own : IsUsageLine bodies line) : StrippedLine bodies line []
  | shared {out} (other : ¬ IsUsageLine bodies line) (leaves_out : LeavesOut bodies line out) :
      StrippedLine bodies line out

section Lines

variable {kind : Attribute} {bodies : Bodies} (reads : kind.Reads bodies) {text line out : List Char}

include reads

theorem inline_eq_none_iff {before : Option Char} :
    kind.inline before text = none ↔ ¬ StartsUsage bodies text := by
  rw [← Option.not_isSome_iff_eq_none, inline_isSome_iff reads]
  rfl

theorem LeavesOut.scanned (leaves_out : LeavesOut bodies text out) (before : Option Char) :
    Scanned kind.inline (fun _ => []) before text out := by
  induction leaves_out generalizing before with
  | done => exact .done
  | keep other _ ih => exact .keep ((inline_eq_none_iff reads).mpr other) (ih _)
  | @usage body gap rest out is_body _ unclosed blank ends _ ih =>
    have whole : '[' :: (body ++ ']' :: (gap ++ rest)) = '[' :: (body ++ ']' :: gap) ++ rest := by simp
    rw [whole]
    refine .change ?_ (ih _)
    rw [← whole, inline_eq_some_iff reads]
    refine ⟨body, gap ++ rest, rfl, unclosed, is_body, ?_⟩
    rw [blanks_append blank ends]
    simp only [List.length_cons, List.length_append]
    omega

theorem leavesOut_of_scanned (flat : BracketFlat text) {before : Option Char}
    (scanned : Scanned kind.inline (fun _ => []) before text out) : LeavesOut bodies text out := by
  induction scanned with
  | done => exact .done
  | keep free _ ih => exact .keep ((inline_eq_none_iff reads).mp free) (ih flat.of_cons)
  | @change before block rest out found _ ih =>
    obtain ⟨body, behind, whole, unclosed, is_body, size⟩ := (inline_eq_some_iff reads).mp found
    have single : '[' ∉ body := flat [] body behind whole unclosed
    have split : block ++ rest =
        '[' :: (body ++ ']' :: behind.takeWhile isBlank) ++ behind.dropWhile isBlank := by
      rw [whole]
      simp
    have length : block.length = ('[' :: (body ++ ']' :: behind.takeWhile isBlank)).length := by
      rw [size, blanks]
      simp only [List.length_cons, List.length_append]
      omega
    obtain ⟨rfl, rfl⟩ := List.append_inj split length
    have tail := ih flat.of_append
    have result := LeavesOut.usage is_body single unclosed (of_mem_takeWhile isBlank behind)
      (startsWith_dropWhile isBlank behind) tail
    rw [List.takeWhile_append_dropWhile] at result
    rwa [whole, List.nil_append]

theorem leavesOut_iff (flat : BracketFlat text) :
    LeavesOut bodies text out ↔ deleteAll kind.inline text = out := by
  have bounded : kind.inline.IsBounded := (removes_inline reads).isBounded
  constructor
  · intro leaves_out
    exact (leaves_out.scanned reads none).mapOccurrencesFrom_eq bounded
  · intro same
    subst same
    exact leavesOut_of_scanned reads flat (scanned_mapOccurrences bounded text)

/-! ## Lines that go -/

theorem ownLine_of_isUsageLine (own : IsUsageLine bodies line) :
    kind.ownLine none line = some line.length := by
  obtain ⟨lead, body, trail, ending, rfl, lead_blank, unclosed, is_body, trail_blank, ends⟩ := own
  rw [ownLine_eq_some_iff reads]
  refine ⟨rfl, lead, body, trail, ending, [], by simp, lead_blank, unclosed, is_body, trail_blank, ?_, ?_⟩
  · cases ends with
    | inl missing => exact .inl ⟨missing, rfl⟩
    | inr present => exact .inr present
  · simp only [List.length_append, List.length_cons]
    omega

/-- In a line that shares its usages no line of its own is found. -/
theorem occurs_ownLine_of_mem_lines (member : line ∈ lines text) (other : ¬ IsUsageLine bodies line) :
    occurs kind.ownLine line = false := by
  rw [Bool.eq_false_iff, Ne, occurs, occursFrom_eq_true_iff]
  rintro ⟨front, rest, rfl, nonempty, found⟩
  obtain ⟨size, found⟩ := Option.isSome_iff_exists.mp found
  obtain ⟨starts, lead, body, trail, ending, behind, rfl, lead_blank, unclosed, is_body, trail_blank,
    ends, -⟩ := (ownLine_eq_some_iff reads).mp found
  cases List.eq_nil_or_concat' front with
  | inr ended =>
    -- only the last character of a line is a line feed, but the usage follows this one
    obtain ⟨front, last, rfl⟩ := ended
    obtain rfl : last = '\n' := by simpa [startsLine] using starts
    rw [List.append_assoc, List.singleton_append] at member
    exact nonempty (eq_nil_of_mem_lines member)
  | inl empty =>
    subst empty
    refine other ⟨lead, body, trail, ending, ?_, lead_blank, unclosed, is_body, trail_blank,
      ends.imp And.left id⟩
    obtain rfl : behind = [] := by
      rcases ends with ⟨-, rfl⟩ | rfl | rfl
      · rfl
      · have ended : lead ++ '[' :: (body ++ ']' :: trail) ++ '\n' :: behind ∈ lines text := by
          simpa using member
        exact eq_nil_of_mem_lines ended
      · have ended : lead ++ '[' :: (body ++ ']' :: (trail ++ ['\r'])) ++ '\n' :: behind ∈ lines text := by
          simpa using member
        exact eq_nil_of_mem_lines ended
    simp

theorem strippedLine_iff (flat : BracketFlat line) (member : line ∈ lines text) :
    StrippedLine bodies line out ↔ kind.strip line = out := by
  by_cases own : IsUsageLine bodies line
  · have gone : kind.strip line = [] := by
      rw [strip_eq, deleteAll_of_whole (ownLine_of_isUsageLine reads own)]
      rfl
    rw [gone]
    constructor
    · intro stripped
      cases stripped with
      | gone => rfl
      | shared other => exact absurd own other
    · intro same
      subst same
      exact .gone own
  · have stays : deleteAll kind.ownLine line = line :=
      mapOccurrences_of_not_occurs (occurs_ownLine_of_mem_lines reads member own)
    rw [strip_eq, stays, ← leavesOut_iff reads flat]
    constructor
    · intro stripped
      cases stripped with
      | gone own' => exact absurd own' own
      | shared _ leaves_out => exact leaves_out
    · exact .shared own

end Lines

/-! ## Texts -/

/-- A step that treats a text line by line makes of it what it makes of its lines. -/
theorem ByLine.eq_flatten {step : List Char → List Char} (linewise : ByLine step) (text : List Char) :
    step text = ((lines text).map step).flatten := by
  have chain := isChain_lines text
  conv_lhs => rw [← flatten_lines text]
  generalize lines text = pieces at chain
  induction pieces with
  | nil =>
    have empty : IsLines [] := .inl rfl
    simpa using linewise.append empty []
  | cons line rest ih =>
    cases rest with
    | nil => simp
    | cons next more =>
      rw [List.isChain_cons_cons] at chain
      rw [List.flatten_cons, linewise.append (isLines_of_getLast? chain.1), ih chain.2]
      rfl

theorem forall₂_iff_map_eq {α β : Type} {R : α → β → Prop} {f : α → β} {items : List α}
    (same : ∀ a ∈ items, ∀ b, R a b ↔ f a = b) {outs : List β} :
    List.Forall₂ R items outs ↔ items.map f = outs := by
  induction items generalizing outs with
  | nil => simp [eq_comm]
  | cons a items ih =>
    rw [List.forall_mem_cons] at same
    cases outs with
    | nil => simp
    | cons b outs =>
      rw [List.forall₂_cons, same.1 b, ih same.2, List.map_cons, List.cons.injEq]

/-- What stands between the brackets of a usage. -/
def Removable.bodies : Removable → Bodies
  | .marker => Qualified "global::Microsoft.CodeAnalysis." (OneOf ["Embedded", "EmbeddedAttribute"])
  | .hint => Qualified "global::System.Runtime.CompilerServices." Hint
  | .exclusion => Qualified "global::System.Diagnostics.CodeAnalysis."
      (OneOf ["ExcludeFromCodeCoverage", "ExcludeFromCodeCoverage()",
        "ExcludeFromCodeCoverageAttribute", "ExcludeFromCodeCoverageAttribute()"])

theorem Removable.reads (removable : Removable) : removable.kind.Reads removable.bodies := by
  cases removable with
  | marker => exact reads_embeddedMarker
  | hint => exact reads_methodImplHint
  | exclusion => exact reads_coverageExclusion

theorem occurs_inline_eq_false_iff {kind : Attribute} {bodies : Bodies} (reads : kind.Reads bodies)
    {text : List Char} :
    occurs kind.inline text = false ↔ ∀ front rest, text = front ++ rest → ¬ StartsUsage bodies rest := by
  rw [Bool.eq_false_iff, Ne, occurs, occursFrom_eq_true_iff]
  constructor
  · intro free front rest split starts
    refine free ⟨front, rest, split, ?_, (inline_isSome_iff reads).mpr starts⟩
    obtain ⟨body, behind, rfl, -⟩ := starts
    exact List.cons_ne_nil _ _
  · intro free found
    obtain ⟨front, rest, split, -, starts⟩ := found
    exact free front rest split ((inline_isSome_iff reads).mp starts)

/--
Stripping a flat text leaves what is to be left of its lines, one after the other: a line of blanks and
one usage goes with its line end, and every other line loses its usages with the blanks behind them. A
text without usages stays as it is.
-/
theorem strip_by_line (removable : Removable) {text : List Char} (flat : BracketFlat text) :
    (∀ out, removable.kind.strip text = out ↔
      ∃ outs, List.Forall₂ (StrippedLine removable.bodies) (lines text) outs ∧ out = outs.flatten) ∧
    ((∀ front rest, text = front ++ rest → ¬ StartsUsage removable.bodies rest) →
      removable.kind.strip text = text) := by
  have reads := removable.reads
  constructor
  · intro out
    have each : ∀ line ∈ lines text, ∀ left,
        StrippedLine removable.bodies line left ↔ removable.kind.strip line = left := by
      intro line member left
      have inside : line <:+: text := by
        have whole := List.infix_of_mem_flatten member
        rwa [flatten_lines] at whole
      exact strippedLine_iff reads (flat.of_isInfix inside) member
    rw [(byLine_strip removable.kind_mem).eq_flatten text]
    simp only [forall₂_iff_map_eq each]
    constructor
    · intro same
      exact ⟨_, rfl, same.symm⟩
    · intro found
      obtain ⟨outs, rfl, rfl⟩ := found
      rfl
  · intro free
    exact strip_eq_self removable.kind_mem ((occurs_inline_eq_false_iff reads).mpr free)

/-- A marker on a line of its own, two that share a line, and one on a last line that is not closed. -/
theorem strip_by_line_of_markers :
    let text := "  [Embedded] \r\nclass [Embedded]\tA [EmbeddedAttribute]; [Other]\n[Embedded]".toList
    let out := "class A ; [Other]\n".toList
    BracketFlat text ∧ ∃ outs,
      List.Forall₂ (StrippedLine Removable.marker.bodies) (lines text) outs ∧ out = outs.flatten := by
  intro text out
  have flat : BracketFlat text := by decide +kernel
  have stripped : Removable.marker.kind.strip text = out := by decide +kernel
  exact ⟨flat, ((strip_by_line .marker flat).1 out).mp stripped⟩

end Polyfill.Template
