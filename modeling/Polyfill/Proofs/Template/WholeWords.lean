import Polyfill.Proofs.Template.Stripping
import Polyfill.Proofs.Text.Wording

/-!
# Words that are rewritten

The two words that materialization rewrites are described without a scan. The visibility is a single
run, so it is rewritten run by run. The namespace is made of several, so it is told place by place where
it ends; its alternate is the namespace with one more character.
-/

namespace Polyfill.Template

open Text Attribute

/-- The visibility of a public artifact, written for the restricted one. -/
def publicRun (run : List Char) : List Char :=
  if run = restrictedVisibility then publicVisibility else run

theorem publishWords_eq (text : List Char) : publishWords text = (runs text).flatMap publicRun :=
  replaceAll_eq_flatMap_runs rewords_visibility.old_like.ne_nil (forall_mem_of_all (by decide)) text

theorem moveNamespace_eq (text : List Char) :
    moveNamespace text = markWords nativeCallNamespace ['2'] text := by
  have alternate : alternateNamespace = nativeCallNamespace ++ ['2'] := by decide
  rw [moveNamespace, alternate]
  exact replaceAll_eq_markWords rewords_namespace.old_like.ne_nil (by decide) ['2'] text

theorem bracket_not_mem_publishWords {text : List Char} (plain : '[' ∉ text) :
    '[' ∉ publishWords text :=
  not_mem_replaceAll (isBounded_wholeWord rewords_visibility.old_like.ne_nil) (by decide) plain

theorem strip_of_bracket_not_mem {kind : Attribute} (removable : kind ∈ removableKinds)
    {text : List Char} (plain : '[' ∉ text) : kind.strip text = text := by
  obtain ⟨bodies, is_removable⟩ := exists_isRemovable removable
  apply strip_eq_self removable
  rw [occurs_inline_eq_false_iff is_removable.reads]
  intro front rest split starts
  obtain ⟨body, behind, rfl, -⟩ := starts
  exact plain (by simp [split])

theorem toList_materialize_public (template : String) :
    (materialize template true ∅).toList = embeddedMarker.strip (publishWords template.toList) := by
  rw [toList_materialize]
  rfl

theorem toList_materialize_moved (template : String) :
    (materialize template false (.single .aliasNamespaceForNativeCallArtifact)).toList =
      moveNamespace template.toList := by
  rw [toList_materialize]
  rfl

/--
Publishing writes `public` for exactly those runs that are the word `internal`, and that is all that is
done to a public artifact without brackets. Moving the namespace puts a `2` behind exactly those places
where it stands alone, after which it stands alone nowhere.
-/
theorem words_rewritten_exactly (template : String) :
    publishWords template.toList = (runs template.toList).flatMap publicRun ∧
    ('[' ∉ template.toList →
      (materialize template true ∅).toList = (runs template.toList).flatMap publicRun) ∧
    (materialize template false (.single .aliasNamespaceForNativeCallArtifact)).toList =
      markWords nativeCallNamespace ['2'] template.toList ∧
    ∀ front rest,
      (materialize template false (.single .aliasNamespaceForNativeCallArtifact)).toList = front ++ rest →
        ¬ EndsWord nativeCallNamespace front rest := by
  refine ⟨publishWords_eq _, ?_, ?_, ?_⟩
  · intro plain
    have published_plain := bracket_not_mem_publishWords plain
    rw [toList_materialize_public, strip_of_bracket_not_mem embeddedMarker_mem published_plain,
      publishWords_eq]
  · rw [toList_materialize_moved, moveNamespace_eq]
  · intro front rest split
    rw [toList_materialize_moved] at split
    exact not_endsWord_of_not_occurs rewords_namespace.old_like.ne_nil (occurs_moveNamespace _) split

/-- A word within a longer one and a word next to a letter that is not ASCII stay. -/
theorem words_rewritten_exactly_of_declaration :
    let template := "internal(internals, internalé) internal-internal"
    '[' ∉ template.toList ∧
      (materialize template true ∅).toList = (runs template.toList).flatMap publicRun ∧
      (runs template.toList).flatMap publicRun = "public(internals, internalé) public-public".toList := by
  intro template
  have plain : '[' ∉ template.toList := by decide
  exact ⟨plain, (words_rewritten_exactly template).2.1 plain, by decide +kernel⟩

/-- The namespace stands alone next to a dot, but neither before a letter nor behind one. -/
example : markWords nativeCallNamespace ['2']
    "System.Runtime.InteropServices.System.Runtime.InteropServices2".toList =
      "System.Runtime.InteropServices2.System.Runtime.InteropServices2".toList := by
  decide +kernel

end Polyfill.Template
