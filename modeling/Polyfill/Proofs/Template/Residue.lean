import Polyfill.Proofs.Template.Alias
import Polyfill.Proofs.Template.Rewording

/-!
# No residue

What a step of materialization removes does not come back by a later one. Every step keeps brackets
flat, brings no usage and no restricted word forth, and moves no usage behind a word; `Keeps` says so
of two texts, and holds of every run of steps.
-/

namespace Polyfill.Template

open Text Attribute

/-- No usage that a text may have to lose stands directly behind a word. -/
def Unattached (text : List Char) : Prop :=
  ∀ kind ∈ removableKinds, occurs (attached kind) text = false

instance (text : List Char) : Decidable (Unattached text) :=
  inferInstanceAs (Decidable (∀ kind ∈ removableKinds, _))

/-- What is kept from one text to the next. -/
structure Keeps (text out : List Char) : Prop where
  flat : BracketFlat text → BracketFlat out
  usages : BracketFlat text → ∀ kind ∈ removableKinds,
    occurs kind.inline text = false → occurs kind.inline out = false
  unattached : BracketFlat text → Unattached text → Unattached out
  visibility : BracketFlat text → Unattached text →
    occurs (wholeWord restrictedVisibility) text = false →
    occurs (wholeWord restrictedVisibility) out = false

namespace Keeps

variable {text mid out : List Char}

theorem refl (text : List Char) : Keeps text text :=
  ⟨id, fun _ _ _ => id, fun _ => id, fun _ _ => id⟩

theorem trans (first : Keeps text mid) (second : Keeps mid out) : Keeps text out where
  flat flat := second.flat (first.flat flat)
  usages flat kind removable free :=
    second.usages (first.flat flat) kind removable (first.usages flat kind removable free)
  unattached flat unattached := second.unattached (first.flat flat) (first.unattached flat unattached)
  visibility flat unattached free :=
    second.visibility (first.flat flat) (first.unattached flat unattached)
      (first.visibility flat unattached free)

theorem stepIf {step : List Char → List Char} (keeps : ∀ text, Keeps text (step text)) (asked : Bool)
    (text : List Char) : Keeps text (stepIf asked step text) := by
  cases asked with
  | false => exact refl text
  | true => exact keeps text

end Keeps

/-! ## Rewording steps -/

theorem scanned_publishWords (text : List Char) :
    Scanned (wholeWord restrictedVisibility) (fun _ => publicVisibility) none text
      (publishWords text) :=
  scanned_mapOccurrences (isBounded_wholeWord rewords_visibility.old_like.ne_nil) text

theorem scanned_moveNamespace (text : List Char) :
    Scanned (wholeWord nativeCallNamespace) (fun _ => alternateNamespace) none text
      (moveNamespace text) :=
  scanned_mapOccurrences (isBounded_wholeWord rewords_namespace.old_like.ne_nil) text

theorem occurs_publishWords (text : List Char) :
    occurs (wholeWord restrictedVisibility) (publishWords text) = false :=
  (scanned_publishWords text).occursFrom_wholeWord ⟨by decide, by decide, .inl (by decide)⟩
    rewords_visibility.old_like.ne_nil rewords_visibility.old_like rewords_visibility.new_like (.inl rfl)

theorem occurs_moveNamespace (text : List Char) :
    occurs (wholeWord nativeCallNamespace) (moveNamespace text) = false :=
  (scanned_moveNamespace text).occursFrom_wholeWord ⟨by decide, by decide, .inr (by decide)⟩
    rewords_namespace.old_like.ne_nil rewords_namespace.old_like rewords_namespace.new_like (.inl rfl)

/-- Rewording keeps what is to be kept, if it does not bring forth the restricted word. -/
theorem Rewords.keeps {old new text out : List Char} (rewords : Rewords old new)
    (reflects : ∀ {kind bodies}, IsRemovable kind bodies → bodies.Reflects old new)
    (swaps : Swaps old new text out)
    (visibility : occurs (wholeWord restrictedVisibility) text = false →
      occurs (wholeWord restrictedVisibility) out = false) : Keeps text out where
  flat := rewords.flat swaps
  usages _ kind removable := by
    obtain ⟨bodies, is_removable⟩ := exists_isRemovable removable
    exact rewords.occurs_inline is_removable.reads (reflects is_removable) swaps
  unattached _ unattached kind removable := by
    obtain ⟨bodies, is_removable⟩ := exists_isRemovable removable
    exact rewords.occurs_attached is_removable.reads (reflects is_removable) swaps
      (unattached kind removable)
  visibility _ _ := visibility

theorem keeps_publishWords (text : List Char) : Keeps text (publishWords text) :=
  rewords_visibility.keeps (·.visibility) (scanned_publishWords text).swaps
    fun _ => occurs_publishWords text

theorem occurs_wholeWord_moveNamespace {text : List Char}
    (free : occurs (wholeWord restrictedVisibility) text = false) :
    occurs (wholeWord restrictedVisibility) (moveNamespace text) = false :=
  (scanned_moveNamespace text).occursFrom_wholeWord ⟨by decide, by decide, .inl (by decide)⟩
    rewords_visibility.old_like.ne_nil rewords_namespace.old_like rewords_namespace.new_like (.inr free)

theorem keeps_moveNamespace (text : List Char) : Keeps text (moveNamespace text) :=
  rewords_namespace.keeps (·.nativeCall) (scanned_moveNamespace text).swaps
    occurs_wholeWord_moveNamespace

/-! ## Removing steps -/

section Removing

variable {kind : Attribute} {text : List Char}

theorem Pruned.keeps {bodies kept : Bodies} {out : List Char} (removable : kind ∈ removableKinds)
    (reads : kind.Reads bodies) (pruned : Pruned bodies kept none text out) : Keeps text out where
  flat _ := pruned.flat
  usages _ other other_removable free := by
    obtain ⟨others, is_removable⟩ := exists_isRemovable other_removable
    exact pruned.occursFrom_usage (findsUsages_inline is_removable.reads) (.inr free)
  unattached _ unattached other other_removable := by
    obtain ⟨others, is_removable⟩ := exists_isRemovable other_removable
    exact pruned.occursFrom_attached reads is_removable.reads rfl (unattached kind removable)
      (unattached other other_removable)
  visibility _ unattached :=
    pruned.occursFrom_wholeWord reads (forall_mem_of_all (by decide))
      rewords_visibility.old_like.ne_nil rfl (unattached kind removable)

/-- Stripping a flat text prunes it twice, and keeps no usage the second time. -/
theorem exists_pruned_strip {bodies : Bodies} (reads : kind.Reads bodies) (flat : BracketFlat text) :
    ∃ others, Pruned bodies (fun _ => True) none text others ∧
      Pruned bodies (fun body => ¬ bodies body) none others (kind.strip text) := by
  have lines : Scanned kind.ownLine (fun _ => []) none text (deleteAll kind.ownLine text) :=
    scanned_mapOccurrences (removes_ownLine reads).isBounded text
  have first := pruned_of_scanned (removes_ownLine reads) (fun _ _ => trivial) flat lines
  refine ⟨_, first, ?_⟩
  rw [strip_eq]
  refine pruned_of_scanned (removes_inline reads) (fun {before body rest} unclosed free => ?_) first.flat
    (scanned_mapOccurrences (removes_inline reads).isBounded _)
  rw [← Option.not_isSome_iff_eq_none, inline_isSome_iff reads] at free
  exact fun is_body => free ⟨body, rest, rfl, unclosed, is_body⟩

theorem keeps_strip (removable : kind ∈ removableKinds) (text : List Char) :
    Keeps text (kind.strip text) := by
  obtain ⟨bodies, is_removable⟩ := exists_isRemovable removable
  have pruned (flat : BracketFlat text) : Keeps text (kind.strip text) := by
    obtain ⟨others, first, second⟩ := exists_pruned_strip is_removable.reads flat
    exact (first.keeps removable is_removable.reads).trans (second.keeps removable is_removable.reads)
  exact ⟨fun flat => (pruned flat).flat flat, fun flat => (pruned flat).usages flat,
    fun flat => (pruned flat).unattached flat, fun flat => (pruned flat).visibility flat⟩

theorem occurs_strip (removable : kind ∈ removableKinds) (flat : BracketFlat text) :
    occurs kind.inline (kind.strip text) = false := by
  obtain ⟨bodies, is_removable⟩ := exists_isRemovable removable
  obtain ⟨others, -, second⟩ := exists_pruned_strip is_removable.reads flat
  exact second.occursFrom_usage (findsUsages_inline is_removable.reads) (.inl fun _ => id)

end Removing

/-! ## The steps before the alias -/

/-- The kinds of attributes that materialization strips. -/
inductive Strips (isPublic : Bool) (fixups : FixupSet) : Attribute → Prop where
  | marker (asked : isPublic = true) : Strips isPublic fixups embeddedMarker
  | hints (asked : fixups.has .removeMethodImplHints = true) : Strips isPublic fixups methodImplHint
  | coverage (asked : fixups.has .removeCoverageExclusionHints = true) :
      Strips isPublic fixups coverageExclusion

section Body

variable {isPublic : Bool} {fixups : FixupSet} {kind : Attribute} {text : List Char}

theorem Strips.removable (strips : Strips isPublic fixups kind) : kind ∈ removableKinds := by
  cases strips with
  | marker => exact embeddedMarker_mem
  | hints => exact methodImplHint_mem
  | coverage => exact coverageExclusion_mem

def published (isPublic : Bool) (text : List Char) : List Char :=
  stepIf isPublic makePublic text

/-- The published text without hints, if they have to go. -/
def unhinted (isPublic : Bool) (fixups : FixupSet) (text : List Char) : List Char :=
  stepIf (fixups.has .removeMethodImplHints) methodImplHint.strip (published isPublic text)

/-- The text without hints and without exclusions, if they have to go. -/
def uncovered (isPublic : Bool) (fixups : FixupSet) (text : List Char) : List Char :=
  stepIf (fixups.has .removeCoverageExclusionHints) coverageExclusion.strip
    (unhinted isPublic fixups text)

theorem keeps_published : Keeps text (published isPublic text) :=
  .stepIf (fun text => (keeps_publishWords text).trans (keeps_strip embeddedMarker_mem _)) _ _

theorem keeps_unhinted : Keeps (published isPublic text) (unhinted isPublic fixups text) :=
  .stepIf (keeps_strip methodImplHint_mem) _ _

theorem keeps_uncovered : Keeps (unhinted isPublic fixups text) (uncovered isPublic fixups text) :=
  .stepIf (keeps_strip coverageExclusion_mem) _ _

theorem keeps_moved : Keeps (uncovered isPublic fixups text) (materializeBody isPublic fixups text) :=
  .stepIf keeps_moveNamespace _ _

theorem keeps_afterPublished :
    Keeps (published isPublic text) (materializeBody isPublic fixups text) :=
  keeps_unhinted.trans (keeps_uncovered.trans keeps_moved)

theorem occurs_inline_materializeBody (flat : BracketFlat text) (strips : Strips isPublic fixups kind) :
    occurs kind.inline (materializeBody isPublic fixups text) = false := by
  have removable := strips.removable
  have published_flat : BracketFlat (published isPublic text) := keeps_published.flat flat
  have unhinted_flat : BracketFlat (unhinted isPublic fixups text) :=
    keeps_unhinted.flat published_flat
  cases strips with
  | marker asked =>
    refine keeps_afterPublished.usages published_flat _ removable ?_
    rw [published, asked]
    exact occurs_strip removable ((keeps_publishWords text).flat flat)
  | hints asked =>
    refine (keeps_uncovered.trans keeps_moved).usages unhinted_flat _ removable ?_
    rw [unhinted, asked]
    exact occurs_strip removable published_flat
  | coverage asked =>
    refine keeps_moved.usages (keeps_uncovered.flat unhinted_flat) _ removable ?_
    rw [uncovered, asked]
    exact occurs_strip removable unhinted_flat

theorem occurs_wholeWord_materializeBody (flat : BracketFlat text) (unattached : Unattached text)
    (asked : isPublic = true) :
    occurs (wholeWord restrictedVisibility) (materializeBody isPublic fixups text) = false := by
  have words := keeps_publishWords text
  refine keeps_afterPublished.visibility (keeps_published.flat flat)
    (keeps_published.unattached flat unattached) ?_
  rw [published, asked]
  exact (keeps_strip embeddedMarker_mem _).visibility (words.flat flat)
    (words.unattached flat unattached) (occurs_publishWords text)

end Body

/-! ## The alias -/

section Alias

variable {pattern : Pattern} {isPublic : Bool} {fixups : FixupSet} {template : List Char}

/-- What is found neither in the text nor in its alias nor in the header is not found in the end. -/
theorem occurs_materializeChars (linewise : pattern.IsLinewise)
    (header_free : occurs pattern "// <auto-generated/>".toList = false)
    (free : occurs pattern (materializeBody isPublic fixups template) = false)
    (alias_free : ∀ aliasLine,
      globalAlias? (materializeBody isPublic fixups template) = some aliasLine →
        occurs pattern aliasLine = false) :
    occurs pattern (materializeChars isPublic fixups template) = false := by
  have header : generatedHeader = "// <auto-generated/>".toList ++ '\n' :: [] := by decide
  rw [materializeChars]
  split
  case isTrue =>
    rw [aliasOnly]
    split
    case h_1 aliasLine found =>
      rw [header, List.append_assoc, List.append_assoc, List.singleton_append, linewise.occurs_append,
        linewise.occurs_append, header_free, alias_free aliasLine found]
      rfl
    case h_2 =>
      rw [header, linewise.occurs_append, header_free]
      rfl
  case isFalse =>
    rw [stepIf]
    split
    case isTrue => exact occurs_insertGlobalAlias linewise free alias_free
    case isFalse => exact free

theorem occurs_wholeWord_of_globalAlias? {text aliasLine : List Char}
    (free : occurs (wholeWord restrictedVisibility) text = false)
    (found : globalAlias? text = some aliasLine) :
    occurs (wholeWord restrictedVisibility) aliasLine = false := by
  have wordwise : (wholeWord restrictedVisibility).IsWordwise :=
    isWordwise_wholeWord rewords_visibility.old_like.ne_nil (forall_mem_of_all (by decide))
  exact occurs_of_globalAlias? wordwise (by decide) free found

end Alias

/-! ## The final text -/

theorem occurs_inline_materializeChars {isPublic : Bool} {fixups : FixupSet} {kind : Attribute}
    {template : List Char} (flat : BracketFlat template) (strips : Strips isPublic fixups kind) :
    occurs kind.inline (materializeChars isPublic fixups template) = false := by
  obtain ⟨bodies, is_removable⟩ := exists_isRemovable strips.removable
  have finds := findsUsages_inline is_removable.reads
  exact occurs_materializeChars (isLinewise_inline is_removable.reads is_removable.oneLine)
    (finds.occursFrom_of_unclosed (by decide)) (occurs_inline_materializeBody flat strips)
    fun _ found => finds.occursFrom_of_unclosed (not_mem_of_globalAlias? found (by decide) (by decide))

theorem occurs_wholeWord_materializeChars {isPublic : Bool} {fixups : FixupSet} {template : List Char}
    (flat : BracketFlat template) (unattached : Unattached template) (asked : isPublic = true) :
    occurs (wholeWord restrictedVisibility) (materializeChars isPublic fixups template) = false := by
  have free : occurs (wholeWord restrictedVisibility) (materializeBody isPublic fixups template) =
      false := occurs_wholeWord_materializeBody flat unattached asked
  exact occurs_materializeChars (isLinewise_wholeWord rewords_visibility.old_like.ne_nil (by decide))
    (by decide) free fun _ found => occurs_wholeWord_of_globalAlias? free found

/--
What materialization strips from a flat template is not in the final text, neither on a line of its own
nor within a line. The final text of a public artifact does not say `internal` either, if no usage in
the template directly follows a word, so that stripping joins no words.
-/
theorem materialize_leaves_no_residue (template : String) (isPublic : Bool) (fixups : FixupSet)
    (flat : BracketFlat template.toList) :
    (∀ kind, Strips isPublic fixups kind →
      occurs kind.inline (materialize template isPublic fixups).toList = false ∧
        occurs kind.ownLine (materialize template isPublic fixups).toList = false) ∧
      (isPublic = true → Unattached template.toList →
        occurs (wholeWord restrictedVisibility) (materialize template isPublic fixups).toList =
          false) := by
  rw [toList_materialize]
  constructor
  · intro kind strips
    obtain ⟨bodies, is_removable⟩ := exists_isRemovable strips.removable
    have free := occurs_inline_materializeChars flat strips
    exact ⟨free, occurs_ownLine_of_inline is_removable.reads free⟩
  · intro asked unattached
    exact occurs_wholeWord_materializeChars flat unattached asked

/-- A class with a marker and a hint, all of which go. -/
theorem no_residue_of_hinted_class :
    let template := "[Embedded]\ninternal class A \x7b [MethodImpl(256)] internal int F(); \x7d\n"
    let final := (materialize template true (.single .removeMethodImplHints)).toList
    BracketFlat template.toList ∧ Unattached template.toList ∧
      occurs embeddedMarker.inline final = false ∧ occurs methodImplHint.inline final = false ∧
      occurs (wholeWord restrictedVisibility) final = false := by
  intro template final
  have split : template.toList = '[' :: ("Embedded".toList ++ ']' ::
      ("\ninternal class A \x7b ".toList ++ '[' :: ("MethodImpl(256)".toList ++ ']' ::
        " internal int F(); \x7d\n".toList))) := by decide
  have flat : BracketFlat template.toList := by
    rw [split]
    exact .group (by decide) (.append (by decide) (.group (by decide) (.of_unclosed (by decide))))
  have unattached : Unattached template.toList := by decide +kernel
  have clean := materialize_leaves_no_residue template true (.single .removeMethodImplHints) flat
  exact ⟨flat, unattached, (clean.1 _ (.marker rfl)).1, (clean.1 _ (.hints (by decide))).1,
    clean.2 rfl unattached⟩

end Polyfill.Template
