import Polyfill.Proofs.Template.Idempotence
import Polyfill.Proofs.Template.Linewise
import Polyfill.Proofs.Text.Verbatim

/-!
# Templates that materialization clears

A tidy template gives each usage that may have to go a line of its own, and says nothing of it on any
other line. What is left of such a template does not only lack the usages that had to go: it does not
say their names at all, so that no other way of writing them is left either.
-/

namespace Polyfill.Template

open Text Attribute

/-- The attributes that a text may have to lose. -/
inductive Removable where
  | marker
  | hint
  | exclusion
  deriving DecidableEq

namespace Removable

/-- How the usages of an attribute are read. -/
def kind : Removable → Attribute
  | .marker => embeddedMarker
  | .hint => methodImplHint
  | .exclusion => coverageExclusion

/-- What every usage of an attribute says. -/
def letters : Removable → List Char
  | .marker => ['E', 'm', 'b', 'e', 'd', 'd', 'e', 'd']
  | .hint => ['M', 'e', 't', 'h', 'o', 'd', 'I', 'm', 'p', 'l']
  | .exclusion => ['E', 'x', 'c', 'l', 'u', 'd', 'e', 'F', 'r', 'o', 'm', 'C', 'o', 'd', 'e', 'C', 'o',
      'v', 'e', 'r', 'a', 'g', 'e']

/-- Whether materialization removes the usages of an attribute. -/
def isAsked (isPublic : Bool) (fixups : FixupSet) : Removable → Bool
  | .marker => isPublic
  | .hint => fixups.has .removeMethodImplHints
  | .exclusion => fixups.has .removeCoverageExclusionHints

theorem kind_mem (removable : Removable) : removable.kind ∈ removableKinds := by
  cases removable with
  | marker => exact embeddedMarker_mem
  | hint => exact methodImplHint_mem
  | exclusion => exact coverageExclusion_mem

theorem letters_ne_nil (removable : Removable) : removable.letters ≠ [] := by
  cases removable <;> exact List.cons_ne_nil _ _

theorem isWord_of_mem_letters (removable : Removable) : ∀ c ∈ removable.letters, isWord c = true := by
  cases removable <;> exact forall_mem_of_all (by decide)

end Removable

/-- The start of an alias for all files. -/
def globalUsing : List Char :=
  ['g', 'l', 'o', 'b', 'a', 'l', ' ', 'u', 's', 'i', 'n', 'g']

theorem globalUsing_ne_nil : globalUsing ≠ [] :=
  List.cons_ne_nil _ _

/-! ## Names of usages -/

/-- All bodies say a block. -/
def Bodies.Say (bodies : Bodies) (block : List Char) : Prop :=
  ∀ ⦃body⦄, bodies body → block <:+: body

theorem say_oneOf {texts : List String} {block : List Char}
    (say : ∀ text ∈ texts, block <:+: text.toList) : Bodies.Say (OneOf texts) block := by
  rintro _ ⟨text, member, rfl⟩
  exact say text member

theorem say_hint : Bodies.Say Hint hintWord.toList := by
  rintro _ ⟨more, arguments, rfl, -⟩
  exact (List.prefix_append _ _).isInfix

theorem Bodies.Say.qualified {qualifier : String} {bodies : Bodies} {block : List Char}
    (say : bodies.Say block) : Bodies.Say (Qualified qualifier bodies) block := by
  rintro body (is_body | ⟨unqualified, rfl, is_body⟩)
  · exact say is_body
  · exact (say is_body).trans (List.suffix_append _ _).isInfix

theorem occurs_inline_of_say {kind : Attribute} {bodies : Bodies} {block text : List Char}
    (reads : kind.Reads bodies) (say : bodies.Say block) (nonempty : block ≠ [])
    (free : occurs (verbatim block) text = false) : occurs kind.inline text = false := by
  rw [occurs_verbatim_eq_false_iff nonempty] at free
  rw [Bool.eq_false_iff, Ne, occurs, occursFrom_eq_true_iff]
  rintro ⟨front, rest, rfl, -, found⟩
  obtain ⟨body, behind, rfl, -, is_body⟩ := (inline_isSome_iff reads).mp found
  have inside : body <:+: front ++ '[' :: (body ++ ']' :: behind) := ⟨front ++ ['['], ']' :: behind, by simp⟩
  exact free ((say is_body).trans inside)

theorem Removable.occurs_inline (removable : Removable) {text : List Char}
    (free : occurs (verbatim removable.letters) text = false) :
    occurs removable.kind.inline text = false := by
  cases removable with
  | marker =>
    exact occurs_inline_of_say reads_embeddedMarker (say_oneOf (by decide)).qualified
      (letters_ne_nil .marker) free
  | hint =>
    have word : hintWord.toList = Removable.hint.letters := by decide
    exact occurs_inline_of_say reads_methodImplHint (word ▸ say_hint).qualified
      (letters_ne_nil .hint) free
  | exclusion =>
    exact occurs_inline_of_say reads_coverageExclusion (say_oneOf (by decide)).qualified
      (letters_ne_nil .exclusion) free

/-! ## Plain texts -/

/-- What a plain text does not say. -/
def unsaid : List (List Char) :=
  [Removable.marker.letters, Removable.hint.letters, Removable.exclusion.letters, globalUsing]

/-- A text says nothing of what may have to go, all of which starts with one of three letters. -/
def isPlain : List Char → Bool
  | [] => true
  | c :: rest =>
    match c with
    | 'E' | 'M' | 'g' => unsaid.all (fun block => !block.isPrefixOf (c :: rest)) && isPlain rest
    | _ => isPlain rest

theorem ne_nil_of_mem_unsaid {block : List Char} (member : block ∈ unsaid) : block ≠ [] := by
  rintro rfl
  exact absurd member (by decide)

theorem isPlain_cons {c : Char} {rest : List Char} :
    isPlain (c :: rest) = true ↔ (∀ block ∈ unsaid, ¬ block <+: c :: rest) ∧ isPlain rest = true := by
  have initials : ∀ block ∈ unsaid, block.head? = some 'E' ∨ block.head? = some 'M' ∨
      block.head? = some 'g' := by decide
  rw [isPlain.eq_def]
  dsimp only
  split
  case h_4 other_E other_M other_g =>
    refine (and_iff_right fun block member starts => ?_).symm
    obtain ⟨d, more, rfl⟩ := List.exists_cons_of_ne_nil (ne_nil_of_mem_unsaid member)
    obtain ⟨rfl, -⟩ := List.cons_prefix_cons.mp starts
    rcases initials _ member with same | same | same
    · exact other_E (Option.some.inj same)
    · exact other_M (Option.some.inj same)
    · exact other_g (Option.some.inj same)
  all_goals simp [← List.isPrefixOf_iff_prefix]

theorem isPlain_iff_forall {text : List Char} :
    isPlain text = true ↔ ∀ block ∈ unsaid, occurs (verbatim block) text = false := by
  induction text with
  | nil => exact iff_of_true rfl fun _ _ => rfl
  | cons c rest ih =>
    rw [isPlain_cons, ih, ← forall₂_and]
    refine forall₂_congr fun block _ => ?_
    exact occurs_verbatim_cons_eq_false.symm

theorem isPlain_iff {text : List Char} :
    isPlain text = true ↔ (∀ removable : Removable, occurs (verbatim removable.letters) text = false) ∧
      occurs (verbatim globalUsing) text = false := by
  simp only [isPlain_iff_forall, unsaid, List.forall_mem_cons]
  constructor
  · rintro ⟨marker, hint, exclusion, alias_free, -⟩
    refine ⟨fun removable => ?_, alias_free⟩
    cases removable <;> assumption
  · rintro ⟨free, alias_free⟩
    exact ⟨free .marker, free .hint, free .exclusion, alias_free, nofun⟩

section Plain

variable {isPublic : Bool} {fixups : FixupSet} {text : List Char}

theorem isPlain_of_swaps {old new out : List Char}
    (apart : ∀ block ∈ unsaid, EndsApart block new ∧ EndsApart new block)
    (swaps : Swaps old new text out) (plain : isPlain text = true) : isPlain out = true := by
  rw [isPlain_iff_forall] at plain ⊢
  intro block member
  obtain ⟨reaches, within⟩ := apart block member
  exact swaps.occurs_verbatim reaches within (plain block member)

theorem isPlain_publishWords (plain : isPlain text = true) : isPlain (publishWords text) = true :=
  isPlain_of_swaps (by decide) (scanned_publishWords text).swaps plain

theorem isPlain_moveNamespace (plain : isPlain text = true) : isPlain (moveNamespace text) = true :=
  isPlain_of_swaps (by decide) (scanned_moveNamespace text).swaps plain

theorem strip_of_isPlain (plain : isPlain text = true) (removable : Removable) :
    removable.kind.strip text = text :=
  strip_eq_self removable.kind_mem (removable.occurs_inline ((isPlain_iff.mp plain).1 removable))

theorem isPlain_published (plain : isPlain text = true) :
    isPlain (stepIf isPublic publishWords text) = true := by
  cases isPublic with
  | false => exact plain
  | true => exact isPlain_publishWords plain

theorem materializeBody_of_isPlain (plain : isPlain text = true) :
    materializeBody isPublic fixups text =
      stepIf (fixups.has .aliasNamespaceForNativeCallArtifact) moveNamespace
        (stepIf isPublic publishWords text) := by
  have words : isPlain (stepIf isPublic publishWords text) = true := isPlain_published plain
  have published : stepIf isPublic makePublic text = stepIf isPublic publishWords text := by
    cases isPublic with
    | false => rfl
    | true => exact strip_of_isPlain words .marker
  have unhinted (asked : Bool) : stepIf asked methodImplHint.strip
      (stepIf isPublic publishWords text) = stepIf isPublic publishWords text :=
    stepIf_eq_self fun _ => strip_of_isPlain words .hint
  have uncovered (asked : Bool) : stepIf asked coverageExclusion.strip
      (stepIf isPublic publishWords text) = stepIf isPublic publishWords text :=
    stepIf_eq_self fun _ => strip_of_isPlain words .exclusion
  rw [materializeBody, published, unhinted, uncovered]

end Plain

/-! ## What must not be left -/

/-- What must not be left of a text that has usages of some attributes only. -/
inductive Banned (uses : Removable → Prop) (isPublic : Bool) (fixups : FixupSet) : Pattern → Prop where
  | restricted (asked : isPublic = true) :
      Banned uses isPublic fixups (wholeWord restrictedVisibility)
  | usage (removable : Removable)
      (asked : uses removable → removable.isAsked isPublic fixups = true) :
      Banned uses isPublic fixups (verbatim removable.letters)
  | aliases : Banned uses isPublic fixups (verbatim globalUsing)

section Clearing

variable {uses : Removable → Prop} {isPublic : Bool} {fixups : FixupSet} {pattern : Pattern}

theorem Banned.isLinewise (banned : Banned uses isPublic fixups pattern) : pattern.IsLinewise := by
  cases banned with
  | restricted => exact isLinewise_wholeWord rewords_visibility.old_like.ne_nil (by decide)
  | usage removable =>
    exact isLinewise_verbatim removable.letters_ne_nil
      (not_mem_of_forall removable.isWord_of_mem_letters (by decide))
  | aliases => exact isLinewise_verbatim globalUsing_ne_nil (by decide)

theorem occurs_of_isPlain {text : List Char} (plain : isPlain text = true)
    (banned : Banned uses isPublic fixups pattern) :
    occurs pattern (materializeBody isPublic fixups text) = false := by
  have moved : isPlain (materializeBody isPublic fixups text) = true := by
    rw [materializeBody_of_isPlain plain, stepIf]
    split
    · exact isPlain_moveNamespace (isPlain_published plain)
    · exact isPlain_published plain
  cases banned with
  | restricted asked =>
    subst asked
    rw [materializeBody_of_isPlain plain, stepIf]
    split
    · exact occurs_wholeWord_moveNamespace (occurs_publishWords text)
    · exact occurs_publishWords text
  | usage removable => exact (isPlain_iff.mp moved).1 removable
  | aliases => exact (isPlain_iff.mp moved).2

/-! ## Lines of usages -/

/-- A line is nothing but a usage, and only the step that strips such usages changes it. -/
structure Owns (removable : Removable) (line : List Char) : Prop where
  own : removable.kind.ownLine none line = some line.length
  others : ∀ other : Removable, other ≠ removable → occurs (verbatim other.letters) line = false
  visibility : occurs (wholeWord restrictedVisibility) line = false
  nativeCall : occurs (wholeWord nativeCallNamespace) line = false
  aliases : occurs (verbatim globalUsing) line = false

theorem deleteAll_of_whole {text : List Char} (found : pattern none text = some text.length) :
    deleteAll pattern text = [] := by
  cases text with
  | nil => rfl
  | cons c rest =>
    have passed := mapOccurrencesFrom_append pattern (fun _ => []) (some c) rest []
    rw [deleteAll, replaceAll, mapOccurrences, mapOccurrencesFrom, found, List.length_cons]
    rw [List.append_nil] at passed
    exact passed

namespace Owns

variable {removable : Removable} {line : List Char} (owns : Owns removable line)

include owns

theorem strip_own : removable.kind.strip line = [] := by
  rw [strip_eq, deleteAll_of_whole owns.own]
  rfl

theorem strip_other {other : Removable} (apart : other ≠ removable) : other.kind.strip line = line :=
  strip_eq_self other.kind_mem (other.occurs_inline (owns.others other apart))

/-- Stripping other usages leaves the line as it is, and leaves nothing where it has gone. -/
theorem stepIf_strip (other : Removable) (asked gone : Bool) :
    stepIf asked other.kind.strip (bif gone then [] else line) =
      bif gone || (asked && decide (other = removable)) then [] else line := by
  cases gone with
  | true => cases asked <;> rfl
  | false =>
    cases asked with
    | false => rfl
    | true =>
      by_cases same : other = removable
      · subst same
        simpa [stepIf] using owns.strip_own
      · simpa [stepIf, same] using owns.strip_other same

/-- The line goes as a whole, or stays as it is. -/
theorem materializeBody_eq :
    materializeBody isPublic fixups line = bif removable.isAsked isPublic fixups then [] else line := by
  have publish : stepIf isPublic makePublic line = stepIf isPublic embeddedMarker.strip line := by
    rw [stepIf, stepIf, makePublic, publishWords_eq_self owns.visibility]
  have move (gone asked : Bool) :
      stepIf asked moveNamespace (bif gone then [] else line) = bif gone then [] else line := by
    cases gone with
    | true => cases asked <;> rfl
    | false => exact stepIf_eq_self fun _ => moveNamespace_eq_self owns.nativeCall
  have whole : materializeBody isPublic fixups line =
      stepIf (fixups.has .aliasNamespaceForNativeCallArtifact) moveNamespace
        (stepIf (fixups.has .removeCoverageExclusionHints) Removable.exclusion.kind.strip
          (stepIf (fixups.has .removeMethodImplHints) Removable.hint.kind.strip
            (stepIf isPublic Removable.marker.kind.strip (bif false then [] else line)))) := by
    rw [materializeBody, publish]
    rfl
  rw [whole, owns.stepIf_strip .marker, owns.stepIf_strip .hint, owns.stepIf_strip .exclusion, move]
  cases removable <;> simp [Removable.isAsked]

theorem occurs_eq_false (used : uses removable) (banned : Banned uses isPublic fixups pattern) :
    occurs pattern (materializeBody isPublic fixups line) = false := by
  rw [owns.materializeBody_eq]
  cases asked : removable.isAsked isPublic fixups with
  | true => rfl
  | false =>
    cases banned with
    | restricted => exact owns.visibility
    | usage other must =>
      apply owns.others
      rintro rfl
      rw [must used] at asked
      cases asked
    | aliases => exact owns.aliases

end Owns

/-! ## Tidy texts -/

/-- A line is a usage of an attribute that the text uses, or a plain line. -/
inductive TidyLine (uses : Removable → Prop) (line : List Char) : Prop where
  | usage {removable : Removable} (used : uses removable) (owns : Owns removable (line ++ ['\n']))
  | plain (plain : isPlain line = true)

/-- A text is made of tidy lines. -/
def IsTidy (uses : Removable → Prop) (text : List Char) : Prop :=
  ∃ lines : List (List Char), text = lines.flatMap (· ++ ['\n']) ∧ ∀ line ∈ lines, TidyLine uses line

theorem occurs_append_of_isLines (linewise : pattern.IsLinewise) {upper : List Char}
    (lines : IsLines upper) (lower : List Char) :
    occurs pattern (upper ++ lower) = (occurs pattern upper || occurs pattern lower) := by
  rcases lines with rfl | ⟨front, rfl⟩
  · rfl
  · rw [List.append_assoc, List.singleton_append, linewise.occurs_append, linewise.occurs_append]
    exact congrArg (· || _) (Bool.or_false _).symm

theorem isPlain_newline {line : List Char} (plain : isPlain line = true) :
    isPlain (line ++ ['\n']) = true := by
  obtain ⟨free, alias_free⟩ := isPlain_iff.mp plain
  refine isPlain_iff.mpr ⟨fun removable => ?_, ?_⟩
  · have single : '\n' ∉ removable.letters := not_mem_of_forall removable.isWord_of_mem_letters (by decide)
    rw [occurs_verbatim_append_cons removable.letters_ne_nil single, free]
    rfl
  · rw [occurs_verbatim_append_cons globalUsing_ne_nil (by decide), alias_free]
    rfl

theorem TidyLine.occurs_eq_false {line : List Char} (tidy : TidyLine uses line)
    (banned : Banned uses isPublic fixups pattern) :
    occurs pattern (materializeBody isPublic fixups (line ++ ['\n'])) = false := by
  cases tidy with
  | usage used owns => exact owns.occurs_eq_false used banned
  | plain plain => exact occurs_of_isPlain (isPlain_newline plain) banned

theorem IsTidy.occurs_materializeBody {text : List Char} (tidy : IsTidy uses text)
    (banned : Banned uses isPublic fixups pattern) :
    occurs pattern (materializeBody isPublic fixups text) = false := by
  obtain ⟨lines, rfl, tidy⟩ := tidy
  have byLine := byLine_materializeBody isPublic fixups
  induction lines with
  | nil => exact occurs_of_isPlain rfl banned
  | cons line lines ih =>
    rw [List.forall_mem_cons] at tidy
    have closed : IsLines (line ++ ['\n']) := .inr ⟨line, rfl⟩
    rw [List.flatMap_cons, byLine.append closed,
      occurs_append_of_isLines banned.isLinewise (byLine.isLines closed),
      tidy.1.occurs_eq_false banned, ih tidy.2]
    rfl

theorem IsTidy.occurs_materializeChars {template : List Char} (tidy : IsTidy uses template)
    (banned : Banned uses isPublic fixups pattern) (wordwise : pattern.IsWordwise)
    (header_free : occurs pattern "// <auto-generated/>".toList = false)
    (alias_free : occurs pattern (aliasText [] []) = false) :
    occurs pattern (materializeChars isPublic fixups template) = false := by
  have free := tidy.occurs_materializeBody banned
  exact Template.occurs_materializeChars banned.isLinewise header_free free
    fun _ found => occurs_of_globalAlias? wordwise alias_free free found

theorem IsTidy.occurs_restricted {template : List Char} (tidy : IsTidy uses template)
    (asked : isPublic = true) :
    occurs (wholeWord restrictedVisibility) (materializeChars isPublic fixups template) = false :=
  tidy.occurs_materializeChars (.restricted asked)
    (isWordwise_wholeWord rewords_visibility.old_like.ne_nil (forall_mem_of_all (by decide)))
    (by decide) (by decide)

theorem IsTidy.occurs_letters {template : List Char} (tidy : IsTidy uses template)
    {removable : Removable} (asked : uses removable → removable.isAsked isPublic fixups = true) :
    occurs (verbatim removable.letters) (materializeChars isPublic fixups template) = false := by
  apply tidy.occurs_materializeChars (.usage removable asked)
  · exact isWordwise_verbatim removable.letters_ne_nil removable.isWord_of_mem_letters
  · cases removable <;> decide
  · cases removable <;> decide

theorem IsTidy.occurs_globalUsing {template : List Char} (tidy : IsTidy uses template)
    (whole : fixups.has .generateAliasOnly = false)
    (uninserted : fixups.has .emitGlobalAliasForInlineArrayArtifact = false) :
    occurs (verbatim globalUsing) (materializeChars isPublic fixups template) = false := by
  rw [materializeChars_of_no_alias whole uninserted]
  exact tidy.occurs_materializeBody (.aliases)

end Clearing

end Polyfill.Template
