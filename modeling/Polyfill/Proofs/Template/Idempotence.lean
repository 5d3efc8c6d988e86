import Polyfill.Proofs.Template.Residue

/-!
# Idempotence

Materializing a final text again changes nothing if and only if nothing is left in it that a step would
change. One direction is plain; for the other, every step but the last can only make a text heavier,
by one weight or another, so a text that comes back to itself has been changed by no step.
-/

namespace Polyfill.Template

open Text Attribute

/-- Nothing is left in a text that a step before the alias would change. -/
structure IsSettled (isPublic : Bool) (fixups : FixupSet) (text : List Char) : Prop where
  usages : ∀ kind, Strips isPublic fixups kind → occurs kind.inline text = false
  visibility : isPublic = true → occurs (wholeWord restrictedVisibility) text = false
  nativeCall : fixups.has .aliasNamespaceForNativeCallArtifact = true →
    occurs (wholeWord nativeCallNamespace) text = false

/-! ## Settled texts stay -/

section Stays

variable {isPublic : Bool} {fixups : FixupSet} {kind : Attribute} {text : List Char}

theorem stepIf_eq_self {step : List Char → List Char} {asked : Bool}
    (stays : asked = true → step text = text) : stepIf asked step text = text := by
  cases asked with
  | false => rfl
  | true => exact stays rfl

theorem strip_eq_self (removable : kind ∈ removableKinds) (free : occurs kind.inline text = false) :
    kind.strip text = text := by
  obtain ⟨bodies, is_removable⟩ := exists_isRemovable removable
  have lines : deleteAll kind.ownLine text = text :=
    mapOccurrences_of_not_occurs (occurs_ownLine_of_inline is_removable.reads free)
  rw [strip_eq, lines]
  exact mapOccurrences_of_not_occurs free

theorem publishWords_eq_self (free : occurs (wholeWord restrictedVisibility) text = false) :
    publishWords text = text :=
  mapOccurrences_of_not_occurs free

theorem moveNamespace_eq_self (free : occurs (wholeWord nativeCallNamespace) text = false) :
    moveNamespace text = text :=
  mapOccurrences_of_not_occurs free

theorem IsSettled.materializeBody_eq (settled : IsSettled isPublic fixups text) :
    materializeBody isPublic fixups text = text := by
  have published_eq : published isPublic text = text := stepIf_eq_self fun asked => by
    rw [makePublic, publishWords_eq_self (settled.visibility asked),
      strip_eq_self embeddedMarker_mem (settled.usages _ (.marker asked))]
  have unhinted_eq : unhinted isPublic fixups text = text := by
    rw [unhinted, published_eq]
    exact stepIf_eq_self fun asked =>
      strip_eq_self methodImplHint_mem (settled.usages _ (.hints asked))
  have uncovered_eq : uncovered isPublic fixups text = text := by
    rw [uncovered, unhinted_eq]
    exact stepIf_eq_self fun asked =>
      strip_eq_self coverageExclusion_mem (settled.usages _ (.coverage asked))
  have body_eq : materializeBody isPublic fixups text =
      stepIf (fixups.has .aliasNamespaceForNativeCallArtifact) moveNamespace
        (uncovered isPublic fixups text) := rfl
  rw [body_eq, uncovered_eq]
  exact stepIf_eq_self fun asked => moveNamespace_eq_self (settled.nativeCall asked)

end Stays

/-! ## Weights of steps -/

/-- A step makes no text lighter. -/
def Grows (weight : Char → Int) (step : List Char → List Char) : Prop :=
  ∀ text, weigh weight text ≤ weigh weight (step text)

theorem Grows.stepIf {weight : Char → Int} {step : List Char → List Char} (grows : Grows weight step)
    (asked : Bool) : Grows weight (stepIf asked step) := by
  intro text
  cases asked with
  | false => exact Int.le_refl _
  | true => exact grows text

/-- Opening brackets weigh a text down. -/
def bracketWeight (c : Char) : Int :=
  if c = '[' then -1 else 0

/-- The weight by which `public` is more than `internal`. -/
def letterWeight (c : Char) : Int :=
  if c = 'p' then 1 else 0

/-- The weight by which the alternate namespace is more than the other one. -/
def lengthWeight (_ : Char) : Int :=
  1

theorem weigh_nonneg {weight : Char → Int} {text : List Char} (nonneg : ∀ c ∈ text, 0 ≤ weight c) :
    0 ≤ weigh weight text := by
  induction text with
  | nil => exact Int.le_refl _
  | cons c rest ih =>
    rw [List.forall_mem_cons] at nonneg
    have := ih nonneg.2
    rw [weigh_cons]
    omega

theorem weigh_bracketWeight_nonpos (text : List Char) : weigh bracketWeight text ≤ 0 := by
  induction text with
  | nil => exact Int.le_refl _
  | cons c rest ih =>
    rw [weigh_cons, bracketWeight]
    split <;> omega

theorem grows_replaceAll {weight : Char → Int} {old new : List Char} (nonempty : old ≠ [])
    (heavier : weigh weight old ≤ weigh weight new) : Grows weight (replaceAll (wholeWord old) new) := by
  refine fun text => weigh_le_mapOccurrences (isBounded_wholeWord nonempty) ?_ text
  intro before block rest found
  obtain ⟨-, size, _, split, -⟩ := wholeWord_eq_some_iff.mp found
  rwa [(List.append_inj split size).1]

theorem grows_publishWords {weight : Char → Int}
    (heavier : weigh weight restrictedVisibility ≤ weigh weight publicVisibility) :
    Grows weight publishWords :=
  grows_replaceAll rewords_visibility.old_like.ne_nil heavier

theorem grows_moveNamespace {weight : Char → Int}
    (heavier : weigh weight nativeCallNamespace ≤ weigh weight alternateNamespace) :
    Grows weight moveNamespace :=
  grows_replaceAll rewords_namespace.old_like.ne_nil heavier

/-- A text that does not get heavier where a word is replaced by a heavier one did not have the word. -/
theorem occurs_wholeWord_of_weigh_le {weight : Char → Int} {old new text : List Char}
    (nonempty : old ≠ []) (heavier : weigh weight old < weigh weight new)
    (same : weigh weight (replaceAll (wholeWord old) new text) ≤ weigh weight text) :
    occurs (wholeWord old) text = false := by
  refine occurs_eq_false_of_weigh_le (isBounded_wholeWord nonempty) ?_ same
  intro before block rest found
  obtain ⟨-, size, _, split, -⟩ := wholeWord_eq_some_iff.mp found
  rwa [(List.append_inj split size).1]

theorem IsRemoval.weigh_lt {bodies : Bodies} {before : Option Char} {block : List Char}
    (removed : IsRemoval bodies before block) : weigh bracketWeight block < weigh bracketWeight [] := by
  obtain ⟨lead, body, gap, rfl, -⟩ := removed
  have := weigh_bracketWeight_nonpos lead
  have := weigh_bracketWeight_nonpos (body ++ ']' :: gap)
  have bracket : bracketWeight '[' = -1 := by decide
  rw [weigh_append, weigh_cons, bracket]
  show _ < (0 : Int)
  omega

section Strips

variable {kind : Attribute} {pattern : Pattern} {bodies : Bodies} {text : List Char}

theorem Removes.grows (removes : Removes pattern bodies) : Grows bracketWeight (deleteAll pattern) :=
  weigh_le_mapOccurrences removes.isBounded fun _ _ _ found =>
    Int.le_of_lt (removes.isRemoval found).weigh_lt

theorem Removes.occurs_eq_false (removes : Removes pattern bodies)
    (same : weigh bracketWeight (deleteAll pattern text) ≤ weigh bracketWeight text) :
    occurs pattern text = false :=
  occurs_eq_false_of_weigh_le removes.isBounded (fun _ _ _ found => (removes.isRemoval found).weigh_lt)
    same

theorem grows_strip (removable : kind ∈ removableKinds) : Grows bracketWeight kind.strip := by
  obtain ⟨bodies, is_removable⟩ := exists_isRemovable removable
  intro text
  rw [strip_eq]
  exact Int.le_trans ((removes_ownLine is_removable.reads).grows text)
    ((removes_inline is_removable.reads).grows _)

theorem occurs_of_weigh_strip_le (removable : kind ∈ removableKinds)
    (same : weigh bracketWeight (kind.strip text) ≤ weigh bracketWeight text) :
    occurs kind.inline text = false := by
  obtain ⟨bodies, is_removable⟩ := exists_isRemovable removable
  have lines := removes_ownLine is_removable.reads
  have others := removes_inline is_removable.reads
  rw [strip_eq] at same
  have first := lines.grows text
  have second := others.grows (deleteAll kind.ownLine text)
  have line_free : deleteAll kind.ownLine text = text :=
    mapOccurrences_of_not_occurs (lines.occurs_eq_false (Int.le_trans second same))
  rw [line_free] at same
  exact others.occurs_eq_false same

end Strips

theorem grows_insertGlobalAlias {weight : Char → Int} (nonneg : ∀ c, c ≠ '[' → 0 ≤ weight c) :
    Grows weight insertGlobalAlias := by
  intro text
  have announced := announced_insertGlobalAlias text
  generalize insertGlobalAlias text = out at announced
  cases announced with
  | nameless => exact Int.le_refl _
  | said => exact Int.le_refl _
  | @inserted front rest aliasLine found _ split =>
    have single : '[' ∉ aliasLine := not_mem_of_globalAlias? found (by decide) (by decide)
    have line : 0 ≤ weigh weight aliasLine :=
      weigh_nonneg fun c member => nonneg c fun same => single (same ▸ member)
    have ending := nonneg '\n' (by decide)
    rw [split, ← withLine_eq, withLine]
    simp only [weigh_append, weigh_cons, List.nil_append]
    omega

/-! ## Texts that stay are settled -/

/-- A step that makes the texts heavier that it changes changes nothing where the text stays as light. -/
theorem stepIf_of_weigh_le {weight : Char → Int} {step : List Char → List Char}
    {text : List Char} {free : Prop} {asked : Bool}
    (heavier : weigh weight (step text) ≤ weigh weight text → free) (stays : free → step text = text)
    (same : weigh weight (stepIf asked step text) ≤ weigh weight text) :
    stepIf asked step text = text ∧ (asked = true → free) := by
  cases asked with
  | false => exact ⟨rfl, fun never => nomatch never⟩
  | true => exact ⟨stays (heavier same), fun _ => heavier same⟩

section Finish

variable {fixups : FixupSet} {weight : Char → Int}

variable (fixups) in
/-- The steps that follow the removal of attributes, if the alias is not everything. -/
def finish (text : List Char) : List Char :=
  stepIf (fixups.has .emitGlobalAliasForInlineArrayArtifact) insertGlobalAlias
    (stepIf (fixups.has .aliasNamespaceForNativeCallArtifact) moveNamespace text)

theorem materializeChars_eq_finish (whole : fixups.has .generateAliasOnly = false) (isPublic : Bool)
    (text : List Char) :
    materializeChars isPublic fixups text = finish fixups (uncovered isPublic fixups text) := by
  rw [materializeChars, whole]
  rfl

theorem grows_finish (nonneg : ∀ c, c ≠ '[' → 0 ≤ weight c)
    (heavier : weigh weight nativeCallNamespace ≤ weigh weight alternateNamespace) :
    Grows weight (finish fixups) := fun text =>
  Int.le_trans ((grows_moveNamespace heavier).stepIf _ text)
    ((grows_insertGlobalAlias nonneg).stepIf _ _)

end Finish

section Settled

variable {isPublic : Bool} {fixups : FixupSet} {text : List Char}

theorem published_eq_strip :
    published isPublic text =
      stepIf isPublic embeddedMarker.strip (stepIf isPublic publishWords text) := by
  cases isPublic <;> rfl

/-- Brackets do not come back: where the text does, stripping has found nothing. -/
theorem usages_of_finish_eq (same : finish fixups (uncovered isPublic fixups text) = text) :
    uncovered isPublic fixups text = stepIf isPublic publishWords text ∧
      ∀ kind, Strips isPublic fixups kind →
        occurs kind.inline (stepIf isPublic publishWords text) = false := by
  have publish : weigh bracketWeight text ≤ weigh bracketWeight (stepIf isPublic publishWords text) :=
    (grows_publishWords (by decide)).stepIf isPublic text
  have marker := (grows_strip embeddedMarker_mem).stepIf isPublic (stepIf isPublic publishWords text)
  have hints := (grows_strip methodImplHint_mem).stepIf (fixups.has .removeMethodImplHints)
    (published isPublic text)
  have coverage := (grows_strip coverageExclusion_mem).stepIf (fixups.has .removeCoverageExclusionHints)
    (unhinted isPublic fixups text)
  have back : weigh bracketWeight (uncovered isPublic fixups text) ≤ weigh bracketWeight text := by
    have grows : Grows bracketWeight (finish fixups) :=
      grows_finish (fun c other => by simp [bracketWeight, other]) (by decide)
    simpa only [same] using grows (uncovered isPublic fixups text)
  rw [← published_eq_strip] at marker
  -- no weight is gained from the text back to itself, so every step on the way stays
  have marker_light := Int.le_trans hints (Int.le_trans coverage (Int.le_trans back publish))
  have hints_light := Int.le_trans coverage (Int.le_trans back (Int.le_trans publish marker))
  have coverage_light := Int.le_trans back (Int.le_trans publish (Int.le_trans marker hints))
  rw [published_eq_strip] at marker_light
  obtain ⟨published_eq, marker_free⟩ := stepIf_of_weigh_le
    (occurs_of_weigh_strip_le embeddedMarker_mem) (strip_eq_self embeddedMarker_mem) marker_light
  obtain ⟨unhinted_eq, hints_free⟩ := stepIf_of_weigh_le
    (occurs_of_weigh_strip_le methodImplHint_mem) (strip_eq_self methodImplHint_mem) hints_light
  obtain ⟨uncovered_eq, coverage_free⟩ := stepIf_of_weigh_le
    (occurs_of_weigh_strip_le coverageExclusion_mem) (strip_eq_self coverageExclusion_mem) coverage_light
  rw [← published_eq_strip] at published_eq
  rw [← unhinted] at unhinted_eq
  rw [unhinted_eq] at coverage_free
  rw [published_eq] at hints_free coverage_free
  refine ⟨uncovered_eq.trans (unhinted_eq.trans published_eq), ?_⟩
  intro kind strips
  cases strips with
  | marker asked => exact marker_free asked
  | hints asked => exact hints_free asked
  | coverage asked => exact coverage_free asked

theorem isSettled_of_materializeChars_eq (whole : fixups.has .generateAliasOnly = false)
    (same : materializeChars isPublic fixups text = text) : IsSettled isPublic fixups text := by
  rw [materializeChars_eq_finish whole] at same
  obtain ⟨uncovered_eq, usages⟩ := usages_of_finish_eq same
  rw [uncovered_eq] at same
  -- the letters of the text tell that no word has been published
  have published_light : weigh letterWeight (stepIf isPublic publishWords text) ≤
      weigh letterWeight text := by
    have grows : Grows letterWeight (finish fixups) :=
      grows_finish (fun c _ => by rw [letterWeight]; split <;> decide) (by decide)
    simpa only [same] using grows (stepIf isPublic publishWords text)
  have heavier : weigh letterWeight (publishWords text) ≤ weigh letterWeight text →
      occurs (wholeWord restrictedVisibility) text = false :=
    occurs_wholeWord_of_weigh_le rewords_visibility.old_like.ne_nil (by decide)
  obtain ⟨published_eq, visibility⟩ :=
    stepIf_of_weigh_le heavier publishWords_eq_self published_light
  rw [published_eq] at usages same
  -- its length tells that no namespace has been moved
  have moved_light : weigh lengthWeight (stepIf (fixups.has .aliasNamespaceForNativeCallArtifact)
      moveNamespace text) ≤ weigh lengthWeight text := by
    have grows : Grows lengthWeight insertGlobalAlias :=
      grows_insertGlobalAlias fun _ _ => Int.one_nonneg
    rw [finish] at same
    simpa only [same] using grows.stepIf (fixups.has .emitGlobalAliasForInlineArrayArtifact)
      (stepIf (fixups.has .aliasNamespaceForNativeCallArtifact) moveNamespace text)
  obtain ⟨-, nativeCall⟩ := stepIf_of_weigh_le
    (occurs_wholeWord_of_weigh_le rewords_namespace.old_like.ne_nil (by decide)) moveNamespace_eq_self
    moved_light
  exact ⟨usages, visibility, nativeCall⟩

/-- Materializing a final text again changes nothing exactly where it is settled. -/
theorem materializeChars_materializeChars_iff (whole : fixups.has .generateAliasOnly = false) :
    materializeChars isPublic fixups (materializeChars isPublic fixups text) =
        materializeChars isPublic fixups text ↔
      IsSettled isPublic fixups (materializeChars isPublic fixups text) := by
  refine ⟨isSettled_of_materializeChars_eq whole, fun settled => ?_⟩
  have unfolded (text : List Char) : materializeChars isPublic fixups text =
      stepIf (fixups.has .emitGlobalAliasForInlineArrayArtifact) insertGlobalAlias
        (materializeBody isPublic fixups text) := by
    rw [materializeChars, whole]
    rfl
  rw [unfolded (materializeChars isPublic fixups text), settled.materializeBody_eq, unfolded]
  cases fixups.has .emitGlobalAliasForInlineArrayArtifact with
  | false => rfl
  | true => exact insertGlobalAlias_insertGlobalAlias _

theorem isSettled_materializeChars (flat : BracketFlat text)
    (unattached : isPublic = true → Unattached text)
    (renamed : fixups.has .aliasNamespaceForNativeCallArtifact = true →
      ∀ aliasLine, globalAlias? (materializeBody isPublic fixups text) = some aliasLine →
        occurs (wholeWord nativeCallNamespace) aliasLine = false) :
    IsSettled isPublic fixups (materializeChars isPublic fixups text) where
  usages _ strips := occurs_inline_materializeChars flat strips
  visibility asked := occurs_wholeWord_materializeChars flat (unattached asked) asked
  nativeCall asked := by
    refine occurs_materializeChars (isLinewise_wholeWord rewords_namespace.old_like.ne_nil (by decide))
      (by decide) ?_ (renamed asked)
    have body_eq : materializeBody isPublic fixups text =
        moveNamespace (uncovered isPublic fixups text) := by
      show stepIf _ _ _ = _
      rw [asked]
      rfl
    rw [body_eq]
    exact occurs_moveNamespace _

end Settled

/-! ## Materializing again -/

/--
Materializing a final text again changes nothing exactly where the final text is settled. It is settled
if brackets do not nest in the template, no usage there directly follows a word, and no alias names the
namespace that has been moved.
-/
theorem materialize_materialize (template : String) (isPublic : Bool) (fixups : FixupSet)
    (whole : fixups.has .generateAliasOnly = false) :
    (materialize (materialize template isPublic fixups) isPublic fixups =
        materialize template isPublic fixups ↔
      IsSettled isPublic fixups (materialize template isPublic fixups).toList) ∧
    (BracketFlat template.toList → (isPublic = true → Unattached template.toList) →
      (fixups.has .aliasNamespaceForNativeCallArtifact = true →
        ∀ aliasLine, globalAlias? (materializeBody isPublic fixups template.toList) = some aliasLine →
          occurs (wholeWord nativeCallNamespace) aliasLine = false) →
      materialize (materialize template isPublic fixups) isPublic fixups =
        materialize template isPublic fixups) := by
  have again : materialize (materialize template isPublic fixups) isPublic fixups =
      materialize template isPublic fixups ↔
        IsSettled isPublic fixups (materialize template isPublic fixups).toList := by
    rw [← String.toList_inj]
    simp only [toList_materialize]
    exact materializeChars_materializeChars_iff whole
  refine ⟨again, fun flat unattached renamed => again.mpr ?_⟩
  rw [toList_materialize]
  exact isSettled_materializeChars flat unattached renamed

/-- A class with a marker is published once and for all. -/
theorem materialize_materialize_marked_class :
    let fixups := FixupSet.single .aliasNamespaceForNativeCallArtifact
    let final := materialize "[Embedded]\ninternal class A;\n" true fixups
    fixups.has .generateAliasOnly = false ∧ materialize final true fixups = final := by
  intro fixups final
  have split : "[Embedded]\ninternal class A;\n".toList =
      '[' :: ("Embedded".toList ++ ']' :: "\ninternal class A;\n".toList) := by decide
  have flat : BracketFlat "[Embedded]\ninternal class A;\n".toList := by
    rw [split]
    exact .group (by decide) (.of_unclosed (by decide))
  have unattached : Unattached "[Embedded]\ninternal class A;\n".toList := by decide +kernel
  have nameless : globalAlias? (materializeBody true fixups "[Embedded]\ninternal class A;\n".toList) =
      none := by decide +kernel
  refine ⟨by decide, (materialize_materialize _ true fixups (by decide)).2 flat (fun _ => unattached) ?_⟩
  intro _ aliasLine found
  rw [nameless] at found
  cases found

/--
A marker within a marker is only found by the second pass, as is a word parted by a marker, and a
namespace that the alias of the first pass names.
-/
theorem materialize_materialize_ne :
    let renamed := FixupSet.ofList
      [.aliasNamespaceForNativeCallArtifact, .emitGlobalAliasForInlineArrayArtifact]
    let nested := materialize "[Embed[Embedded]ded]" true ∅
    let parted := materialize "inter[Embedded]nal class A;" true ∅
    let named := materialize "namespace System.Runtime;\nclass InteropServices;\n" false renamed
    materialize nested true ∅ ≠ nested ∧ materialize parted true ∅ ≠ parted ∧
      materialize named false renamed ≠ named := by
  decide +kernel

end Polyfill.Template
