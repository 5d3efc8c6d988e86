import Polyfill.Proofs.Template.Alias
import Polyfill.Template.Materialization

/-!
# The alias, inserted and alone

A text with its alias inserted declares first what it has declared before. So the alias that is emitted
alone and the one that is inserted are the same, if both are asked of one template.
-/

namespace Polyfill

def FixupSet.erase (set : FixupSet) (fixup : Fixup) : FixupSet :=
  set.diff (.single fixup)

@[simp] theorem FixupSet.has_erase (set : FixupSet) (fixup other : Fixup) :
    (set.erase fixup).has other = (set.has other && !decide (fixup = other)) := by
  rw [← FixupSet.has_single]
  cases other <;> simp [FixupSet.erase, FixupSet.diff, FixupSet.has, Fixup.index]

namespace Template

open Text

/-! ## The alias of a template -/

/-- An alias names the namespace and the type that a text declares first. -/
def NamesFirst (aliasLine text : List Char) : Prop :=
  ∃ offset ns type, aliasLine = aliasText ns type ∧ firstNamespace? text = some (offset, ns) ∧
    firstType? text = some type

theorem namesFirst_of_globalAlias? {text aliasLine : List Char}
    (found : globalAlias? text = some aliasLine) : NamesFirst aliasLine text := by
  obtain ⟨offset, ns, type, found_ns, found_type, same⟩ := globalAlias?_eq_some_iff.mp found
  exact ⟨offset, ns, type, same, found_ns, found_type⟩

theorem globalAlias?_of_aliasOnly {text aliasLine : List Char}
    (alone : aliasOnly text = generatedHeader ++ aliasLine ++ ['\n']) :
    globalAlias? text = some aliasLine := by
  rw [aliasOnly] at alone
  split at alone
  case h_1 found =>
    rw [found, List.append_cancel_left (List.append_cancel_right alone)]
  case h_2 =>
    have length := congrArg List.length alone
    simp only [List.length_append, List.length_singleton] at length
    omega

theorem globalAlias?_of_aliasOnly_eq_header {text : List Char} (bare : aliasOnly text = generatedHeader) :
    globalAlias? text = none := by
  rw [aliasOnly] at bare
  split at bare
  case h_1 =>
    have length := congrArg List.length bare
    simp only [List.length_append, List.length_singleton] at length
    omega
  case h_2 missing => exact missing

/-! ## What is asked of the alias -/

/-- Two sets ask for the same steps before the alias. -/
def SameBody (fixups others : FixupSet) : Prop :=
  ∀ fixup, fixup ≠ .emitGlobalAliasForInlineArrayArtifact → fixup ≠ .generateAliasOnly →
    others.has fixup = fixups.has fixup

theorem toList_materialize_of_sameBody {fixups others : FixupSet} (same : SameBody fixups others)
    (template : String) (isPublic : Bool) :
    (materialize template isPublic others).toList =
      if others.has .generateAliasOnly then aliasOnly (materializeBody isPublic fixups template.toList)
      else stepIf (others.has .emitGlobalAliasForInlineArrayArtifact) insertGlobalAlias
        (materializeBody isPublic fixups template.toList) := by
  have body : materializeBody isPublic others template.toList =
      materializeBody isPublic fixups template.toList := by
    have hints := same .removeMethodImplHints (by decide) (by decide)
    have coverage := same .removeCoverageExclusionHints (by decide) (by decide)
    have namespaces := same .aliasNamespaceForNativeCallArtifact (by decide) (by decide)
    rw [materializeBody, hints, coverage, namespaces]
    rfl
  rw [toList_materialize, materializeChars, body]

section Asked

variable (template : String) (isPublic : Bool) (fixups : FixupSet)

theorem toList_materialize_alone :
    (materialize template isPublic (fixups.insert .generateAliasOnly)).toList =
      aliasOnly (materializeBody isPublic fixups template.toList) := by
  have same : SameBody fixups (fixups.insert .generateAliasOnly) := by
    intro fixup _ other
    simp [Ne.symm other]
  rw [toList_materialize_of_sameBody same, FixupSet.has_insert]
  simp

theorem toList_materialize_inserted :
    (materialize template isPublic
      ((fixups.erase .generateAliasOnly).insert .emitGlobalAliasForInlineArrayArtifact)).toList =
      insertGlobalAlias (materializeBody isPublic fixups template.toList) := by
  have same : SameBody fixups
      ((fixups.erase .generateAliasOnly).insert .emitGlobalAliasForInlineArrayArtifact) := by
    intro fixup inserted alone
    simp [Ne.symm inserted, Ne.symm alone]
  rw [toList_materialize_of_sameBody same, FixupSet.has_insert, FixupSet.has_insert]
  simp [stepIf]

theorem toList_materialize_without :
    (materialize template isPublic
      ((fixups.erase .generateAliasOnly).erase .emitGlobalAliasForInlineArrayArtifact)).toList =
      materializeBody isPublic fixups template.toList := by
  have same : SameBody fixups
      ((fixups.erase .generateAliasOnly).erase .emitGlobalAliasForInlineArrayArtifact) := by
    intro fixup inserted alone
    simp [Ne.symm inserted, Ne.symm alone]
  rw [toList_materialize_of_sameBody same, FixupSet.has_erase, FixupSet.has_erase]
  simp [stepIf]

end Asked

/--
Inserting the alias leaves a text as it is, or puts the alias and an empty line in front of the line of
its first namespace; either way the text has the same alias afterwards. So what is emitted if only the
alias is asked for tells what is emitted if it is to be inserted: that alias, in a text that declares
first what it names, or else the text as it is without an alias.
-/
theorem alias_inserted_as_alone :
    (∀ text, Announced text (insertGlobalAlias text) ∧
      globalAlias? (insertGlobalAlias text) = globalAlias? text) ∧
    ∀ (template : String) (isPublic : Bool) (fixups : FixupSet),
      let alone := (materialize template isPublic (fixups.insert .generateAliasOnly)).toList
      let inserted := (materialize template isPublic
        ((fixups.erase .generateAliasOnly).insert .emitGlobalAliasForInlineArrayArtifact)).toList
      let without := (materialize template isPublic
        ((fixups.erase .generateAliasOnly).erase .emitGlobalAliasForInlineArrayArtifact)).toList
      (∀ aliasLine, alone = generatedHeader ++ aliasLine ++ ['\n'] →
        aliasLine <:+: inserted ∧ NamesFirst aliasLine inserted) ∧
      (alone = generatedHeader → inserted = without) := by
  constructor
  · intro text
    have announced := announced_insertGlobalAlias text
    exact ⟨announced, announced.globalAlias?_eq⟩
  · intro template isPublic fixups
    simp only [toList_materialize_alone, toList_materialize_inserted, toList_materialize_without]
    have announced := announced_insertGlobalAlias (materializeBody isPublic fixups template.toList)
    constructor
    · intro aliasLine alone
      have found := globalAlias?_of_aliasOnly alone
      refine ⟨announced.infix_of_globalAlias? found, namesFirst_of_globalAlias? ?_⟩
      rw [announced.globalAlias?_eq, found]
    · intro bare
      apply insertGlobalAlias_eq_self
      intro aliasLine found
      rw [globalAlias?_of_aliasOnly_eq_header bare] at found
      cases found

/-- The type is declared above its namespace, and has its alias put between them. -/
theorem alias_inserted_as_alone_of_class :
    let template := "class A;\nnamespace N.M;\n"
    let aliasLine := "global using A = global::N.M.A;".toList
    let inserted := (materialize template true
      ((FixupSet.empty.erase .generateAliasOnly).insert .emitGlobalAliasForInlineArrayArtifact)).toList
    (materialize template true (FixupSet.empty.insert .generateAliasOnly)).toList =
        generatedHeader ++ aliasLine ++ ['\n'] ∧
      aliasLine <:+: inserted ∧ NamesFirst aliasLine inserted := by
  intro template aliasLine inserted
  have alone : (materialize template true (FixupSet.empty.insert .generateAliasOnly)).toList =
      generatedHeader ++ aliasLine ++ ['\n'] := by
    rw [toList_materialize]
    decide +kernel
  exact ⟨alone, (alias_inserted_as_alone.2 template true FixupSet.empty).1 aliasLine alone⟩

end Template

end Polyfill
