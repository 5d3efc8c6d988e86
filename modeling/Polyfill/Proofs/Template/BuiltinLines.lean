import Mathlib.Data.List.Forall2
import Polyfill.Catalog.Builtin
import Polyfill.Proofs.Template.Clearance

/-!
# The lines of built-in templates

Every built-in template is tidy, and those of the index and the range type alone use hints. A literal is
not taken apart where a fact about it is computed: it is spelled out first, character by character.
-/

namespace Polyfill.Template

open Text

/-! ## Spelling -/

/-- A text is spelled with these characters. -/
inductive Spells : String → List Char → Prop where
  | append {a b : String} {as bs : List Char} (first : Spells a as) (second : Spells b bs) :
      Spells (a ++ b) (as ++ bs)
  | literal (chars : List Char) : Spells (String.ofList chars) chars

theorem Spells.toList_eq {text : String} {chars : List Char} (spells : Spells text chars) :
    text.toList = chars := by
  induction spells with
  | append _ _ ih₁ ih₂ => rw [String.toList_append, ih₁, ih₂]
  | literal chars => exact String.toList_ofList

/-! ## Lines -/

/-- A line of a template: a usage that has it to itself, or other characters. -/
inductive LineForm where
  | usage (removable : Removable)
  | plain (chars : List Char)

/-- A line has a form; usages are written in the same way in all built-in templates. -/
inductive HasForm : String → LineForm → Prop where
  | marker : HasForm "    [global::Microsoft.CodeAnalysis.Embedded]" (.usage .marker)
  | exclusion : HasForm "    [global::System.Diagnostics.CodeAnalysis.ExcludeFromCodeCoverage]"
      (.usage .exclusion)
  | hint : HasForm "        [global::System.Runtime.CompilerServices.MethodImpl(global::System.Runtime.CompilerServices.MethodImplOptions.AggressiveInlining)]"
      (.usage .hint)
  | plain {text : String} {chars : List Char} (spells : Spells text chars) :
      HasForm text (.plain chars)

/-- Whether the form of a line is tidy where hints are used, or where they are not. -/
def LineForm.isTidy (hinted : Bool) : LineForm → Bool
  | .usage .hint => hinted
  | .usage _ => true
  | .plain chars => isPlain chars

/-- The attributes that templates use, among them hints or not. -/
def Uses (hinted : Bool) (removable : Removable) : Prop :=
  removable = .hint → hinted = true

theorem owns_of_spells {removable : Removable} {text : String} {chars : List Char}
    (spells : Spells text chars)
    (own : removable.kind.ownLine none (chars ++ ['\n']) = some (chars ++ ['\n']).length)
    (others : ∀ other ∈ [Removable.marker, .hint, .exclusion], other ≠ removable →
      occurs (verbatim other.letters) (chars ++ ['\n']) = false)
    (still : ∀ pattern ∈ [wholeWord restrictedVisibility, wholeWord nativeCallNamespace,
      verbatim globalUsing], occurs pattern (chars ++ ['\n']) = false) :
    Owns removable (text.toList ++ ['\n']) := by
  rw [spells.toList_eq]
  refine ⟨own, fun other => others other ?_, still _ ?_, still _ ?_, still _ ?_⟩
  · cases other <;> simp
  all_goals simp

set_option maxRecDepth 2000 in
theorem HasForm.tidyLine {hinted : Bool} {text : String} {form : LineForm}
    (has_form : HasForm text form) (tidy : form.isTidy hinted = true) :
    TidyLine (Uses hinted) text.toList := by
  cases has_form with
  | plain spells =>
    rw [spells.toList_eq]
    exact .plain tidy
  | marker =>
    exact @TidyLine.usage _ _ .marker nofun
      (owns_of_spells (.literal _) (by decide +kernel) (by decide +kernel) (by decide +kernel))
  | exclusion =>
    exact @TidyLine.usage _ _ .exclusion nofun
      (owns_of_spells (.literal _) (by decide +kernel) (by decide +kernel) (by decide +kernel))
  | hint =>
    exact @TidyLine.usage _ _ .hint (fun _ => tidy)
      (owns_of_spells (.literal _) (by decide +kernel) (by decide +kernel) (by decide +kernel))

/-! ## Texts -/

theorem intercalate_newline (lines : List (List Char)) :
    List.intercalate ['\n'] (lines ++ [[]]) = lines.flatMap (· ++ ['\n']) := by
  induction lines with
  | nil => rfl
  | cons line lines ih =>
    rw [List.cons_append, List.intercalate_cons_of_ne_nil (by simp), ih, List.flatMap_cons,
      List.append_assoc]

theorem isTidy_intercalate {uses : Removable → Prop} {lines : List String}
    (last : lines.getLast? = some "") (tidy : ∀ line ∈ lines, TidyLine uses line.toList) :
    IsTidy uses (String.intercalate "\n" lines).toList := by
  obtain ⟨front, rfl⟩ := List.getLast?_eq_some_iff.mp last
  refine ⟨front.map (·.toList), ?_, ?_⟩
  · have newline : "\n".toList = ['\n'] := by decide
    have empty : "".toList = [] := by decide
    rw [String.toList_intercalate, newline, List.map_append, List.map_singleton, empty,
      intercalate_newline]
  · intro line member
    obtain ⟨text, listed, rfl⟩ := List.mem_map.mp member
    exact tidy text (List.mem_append_left _ listed)

theorem tidyLine_of_mem_heading (uses : Removable → Prop) :
    ∀ line ∈ Builtin.heading, TidyLine uses line.toList := by
  have plain {text : String} {chars : List Char} (spells : Spells text chars)
      (plain : isPlain chars = true) : TidyLine uses text.toList := spells.toList_eq ▸ .plain plain
  simp only [Builtin.heading, List.forall_mem_cons, List.not_mem_nil, false_imp_iff, implies_true,
    and_true]
  refine ⟨?_, ?_, ?_, ?_, ?_, ?_, ?_⟩ <;> exact plain (.literal _) (by decide +kernel)

theorem isTidy_withHeading {hinted : Bool} {lines : List String} {forms : List LineForm}
    (have_forms : List.Forall₂ HasForm lines forms)
    (last : lines.getLast? = some "") (tidy : forms.all (·.isTidy hinted) = true) :
    IsTidy (Uses hinted) (Builtin.withHeading lines).toList := by
  have lines_tidy : ∀ line ∈ lines, TidyLine (Uses hinted) line.toList := by
    clear last
    induction have_forms with
    | nil => exact fun line member => absurd member List.not_mem_nil
    | cons has_form _ ih =>
      rw [List.all_cons, Bool.and_eq_true] at tidy
      exact List.forall_mem_cons.mpr ⟨has_form.tidyLine tidy.1, ih tidy.2⟩
  refine isTidy_intercalate ?_ (List.forall_mem_append.mpr ⟨tidyLine_of_mem_heading _, lines_tidy⟩)
  rw [List.getLast?_append, last]
  rfl

/-! ## The templates -/

namespace Builtin

/-- The artifacts whose templates use hints. -/
def isHinted (id : String) : Bool :=
  id == Artifact.index || id == Artifact.range

set_option maxRecDepth 4000 in
theorem isTidy_of_mem_languageSupport :
    ∀ entry ∈ languageSupport, IsTidy (Uses (isHinted entry.1)) entry.2.toList := by
  simp only [languageSupport, List.forall_mem_cons, List.not_mem_nil, false_imp_iff, implies_true,
    and_true]
  and_intros
  all_goals
    apply isTidy_withHeading
    · repeat' constructor
    · rfl
    · decide +kernel

set_option maxRecDepth 4000 in
theorem isTidy_of_mem_runtimeSupported :
    ∀ entry ∈ runtimeSupported, IsTidy (Uses (isHinted entry.1)) entry.2.toList := by
  simp only [runtimeSupported, List.forall_mem_cons, List.not_mem_nil, false_imp_iff, implies_true,
    and_true]
  and_intros
  all_goals
    apply isTidy_withHeading
    · repeat' constructor
    · rfl
    · decide +kernel

/-- Every built-in template is tidy, and uses hints only if it is one of those that do. -/
theorem isTidy_of_mem_all :
    ∀ entry ∈ all, IsTidy (Uses (isHinted entry.1)) entry.2.toList :=
  List.forall_mem_append.mpr ⟨isTidy_of_mem_languageSupport, isTidy_of_mem_runtimeSupported⟩

end Builtin

end Polyfill.Template
