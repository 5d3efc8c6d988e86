import Polyfill.Proofs.Template.Removal
import Polyfill.Template.Materialization

/-!
# What rewording keeps

Writing one word for another leaves brackets and parentheses where they are, so every usage in the new
text has a counterpart in the old one. What remains to be shown is that the body of the counterpart is
a body, too.
-/

namespace Polyfill.Template

open Text Attribute

/-- The characters that hold usages together. -/
def isJoint (c : Char) : Bool :=
  isStop c || c == '[' || c == '(' || c == ')'

/-- A word is written for another one, neither of which holds usages together. -/
structure Rewords (old new : List Char) : Prop where
  old_like : IsWordLike old
  new_like : IsWordLike new
  old_plain : ∀ c ∈ old, isJoint c = false
  new_plain : ∀ c ∈ new, isJoint c = false
  one_word : (∀ c ∈ new, isWord c = true) → ∀ c ∈ old, isWord c = true

/-- A body of a text that is reworded has been a body before. -/
def Bodies.Reflects (bodies : Bodies) (old new : List Char) : Prop :=
  ∀ ⦃body body'⦄, Swaps old new body body' → bodies body' → bodies body

namespace Rewords

variable {old new : List Char} (rewords : Rewords old new)

include rewords

theorem not_mem_new {c : Char} (joint : isJoint c = true) : c ∉ new :=
  not_mem_of_forall rewords.new_plain joint

theorem not_mem_old {c : Char} (joint : isJoint c = true) : c ∉ old :=
  not_mem_of_forall rewords.old_plain joint

theorem not_mem {c : Char} (joint : isJoint c = true) {text out : List Char}
    (swaps : Swaps old new text out) (missing : c ∉ out) : c ∉ text := by
  have all := swaps.forall_mem (P := (· ≠ c)) ?_ fun d member same => missing (same ▸ member)
  · exact fun member => all c member rfl
  · exact fun _ d member same => rewords.not_mem_old joint (same ▸ member)

/-- A group of a reworded text has a counterpart in the text before. -/
theorem exists_group {text front body rest : List Char}
    (swaps : Swaps old new text (front ++ '[' :: (body ++ ']' :: rest))) :
    ∃ front' body' rest', text = front' ++ '[' :: (body' ++ ']' :: rest') ∧
      Swaps old new front' front ∧ Swaps old new body' body := by
  obtain ⟨front', rest', rfl, before, behind⟩ := swaps.of_append_cons (rewords.not_mem_new (by decide))
  obtain ⟨body', rest', rfl, inside, -⟩ := behind.of_append_cons (rewords.not_mem_new (by decide))
  exact ⟨front', body', rest', rfl, before, inside⟩

theorem flat {text out : List Char} (swaps : Swaps old new text out) (flat : BracketFlat text) :
    BracketFlat out := by
  rintro front body rest rfl unclosed
  obtain ⟨front', body', rest', rfl, -, inside⟩ := rewords.exists_group swaps
  have single := flat front' body' rest' rfl (rewords.not_mem (by decide) inside unclosed)
  have rewords' : ∀ c ∈ body', c ≠ '[' := fun c member same => single (same ▸ member)
  intro member
  refine inside.symm.forall_mem (P := (· ≠ '[')) ?_ rewords' '[' member rfl
  exact fun _ c member same => rewords.not_mem_new (by decide) (same ▸ member)

theorem occursFrom_usage {pattern : Pattern} {bodies : Option Char → Bodies}
    (finds : FindsUsages pattern bodies)
    (reflects : ∀ {before before' body body'}, before.any isWord = before'.any isWord →
      Swaps old new body body' → bodies before' body' → bodies before body)
    {before before' : Option Char} (same : before.any isWord = before'.any isWord)
    {text out : List Char} (swaps : Swaps old new text out)
    (free : occursFrom pattern before text = false) : occursFrom pattern before' out = false := by
  rw [Bool.eq_false_iff] at free ⊢
  rw [Ne, occursFrom_eq_true_iff] at free ⊢
  rintro ⟨front, rest, rfl, -, found⟩
  obtain ⟨body, rest, rfl, unclosed, is_body⟩ := (finds _ _).mp found
  obtain ⟨front', body', rest', rfl, ahead, inside⟩ := rewords.exists_group swaps
  refine free ⟨front', _, rfl, List.cons_ne_nil _ _, (finds _ _).mpr ⟨body', rest', rfl, ?_, ?_⟩⟩
  · exact rewords.not_mem (by decide) inside unclosed
  · exact reflects (ahead.any_getLast?_or_eq rewords.old_like rewords.new_like same) inside is_body

theorem occurs_inline {kind : Attribute} {bodies : Bodies} (reads : kind.Reads bodies)
    (reflects : bodies.Reflects old new) {text out : List Char} (swaps : Swaps old new text out)
    (free : occurs kind.inline text = false) : occurs kind.inline out = false :=
  rewords.occursFrom_usage (findsUsages_inline reads) (fun _ swaps body => reflects swaps body) rfl
    swaps free

theorem occurs_attached {kind : Attribute} {bodies : Bodies} (reads : kind.Reads bodies)
    (reflects : bodies.Reflects old new) {text out : List Char} (swaps : Swaps old new text out)
    (free : occurs (attached kind) text = false) : occurs (attached kind) out = false :=
  rewords.occursFrom_usage (findsUsages_attached reads)
    (fun same swaps body => ⟨same.trans body.1, reflects swaps body.2⟩) rfl swaps free

/-! ## Bodies -/

theorem reflects_oneOf {texts : List String} (apart : ∀ text ∈ texts, EndsApart text.toList new) :
    Bodies.Reflects (OneOf texts) old new := by
  rintro body _ swaps ⟨text, member, rfl⟩
  exact ⟨text, member, swaps.eq_of_endsApart rewords.new_like.ne_nil (apart text member)⟩

theorem reflects_hint (apart : EndsApart hintWord.toList new) : Bodies.Reflects Hint old new := by
  rintro body _ swaps ⟨more, arguments, rfl, all, form⟩
  obtain ⟨behind, rfl, after_word⟩ := swaps.of_append apart
  rcases form with rfl | ⟨inner, rfl, inner_free⟩
  · rw [List.append_nil] at after_word
    exact ⟨behind, [], by simp, after_word.forall_mem rewords.one_word all, .inl rfl⟩
  · obtain ⟨more', call, rfl, name, after_name⟩ :=
      after_word.of_append_cons (rewords.not_mem_new (c := '(') (by decide))
    obtain ⟨inner', rest, rfl, inside, last⟩ :=
      after_name.of_append_cons (rewords.not_mem_new (c := ')') (by decide))
    obtain rfl : rest = [] := last.eq_nil rewords.new_like.ne_nil
    refine ⟨more', _, rfl, name.forall_mem rewords.one_word all, .inr ⟨inner', rfl, ?_⟩⟩
    refine inside.forall_mem (fun _ c member => ?_) inner_free
    have plain := rewords.old_plain c member
    simp only [isJoint, Bool.or_eq_false_iff] at plain
    exact plain.1.1.1

end Rewords

theorem Bodies.Reflects.qualified {qualifier : String} {bodies : Bodies} {old new : List Char}
    (reflects : bodies.Reflects old new) (apart : EndsApart qualifier.toList new) :
    Bodies.Reflects (Qualified qualifier bodies) old new := by
  rintro body _ swaps (is_body | ⟨unqualified, rfl, is_body⟩)
  · exact .inl (reflects swaps is_body)
  · obtain ⟨behind, rfl, after_qualifier⟩ := swaps.of_append apart
    exact .inr ⟨behind, rfl, reflects after_qualifier is_body⟩

/-! ## The words of the steps -/

theorem rewords_visibility : Rewords restrictedVisibility publicVisibility where
  old_like := ⟨by decide, by decide⟩
  new_like := ⟨by decide, by decide⟩
  old_plain := forall_mem_of_all (by decide)
  new_plain := forall_mem_of_all (by decide)
  one_word _ := forall_mem_of_all (by decide)

theorem rewords_namespace : Rewords nativeCallNamespace alternateNamespace where
  old_like := ⟨by decide, by decide⟩
  new_like := ⟨by decide, by decide⟩
  old_plain := forall_mem_of_all (by decide)
  new_plain := forall_mem_of_all (by decide)
  one_word all := absurd (all '.' (by decide)) (by decide)

/-- The kinds of attributes that a text may have to lose. -/
def removableKinds : List Attribute :=
  [embeddedMarker, methodImplHint, coverageExclusion]

theorem embeddedMarker_mem : embeddedMarker ∈ removableKinds := by
  simp [removableKinds]

theorem methodImplHint_mem : methodImplHint ∈ removableKinds := by
  simp [removableKinds]

theorem coverageExclusion_mem : coverageExclusion ∈ removableKinds := by
  simp [removableKinds]

/-- What holds of every kind that a text may have to lose: rewording does not bring forth its usages. -/
structure IsRemovable (kind : Attribute) (bodies : Bodies) : Prop where
  reads : kind.Reads bodies
  oneLine : bodies.OneLine
  visibility : bodies.Reflects restrictedVisibility publicVisibility
  nativeCall : bodies.Reflects nativeCallNamespace alternateNamespace

theorem exists_isRemovable {kind : Attribute} (removable : kind ∈ removableKinds) :
    ∃ bodies, IsRemovable kind bodies := by
  simp only [removableKinds, List.mem_cons, List.not_mem_nil, or_false] at removable
  rcases removable with rfl | rfl | rfl
  · exact ⟨_, reads_embeddedMarker, (oneLine_oneOf (by decide)).qualified (forall_mem_of_all (by decide)),
      (rewords_visibility.reflects_oneOf (by decide)).qualified (by decide),
      (rewords_namespace.reflects_oneOf (by decide)).qualified (by decide)⟩
  · exact ⟨_, reads_methodImplHint, oneLine_hint.qualified (forall_mem_of_all (by decide)),
      (rewords_visibility.reflects_hint (by decide)).qualified (by decide),
      (rewords_namespace.reflects_hint (by decide)).qualified (by decide)⟩
  · exact ⟨_, reads_coverageExclusion, (oneLine_oneOf (by decide)).qualified (forall_mem_of_all (by decide)),
      (rewords_visibility.reflects_oneOf (by decide)).qualified (by decide),
      (rewords_namespace.reflects_oneOf (by decide)).qualified (by decide)⟩

end Polyfill.Template
