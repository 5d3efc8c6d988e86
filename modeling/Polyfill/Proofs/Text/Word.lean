import Mathlib.Data.List.Infix
import Polyfill.Proofs.Text.Delimiter
import Polyfill.Proofs.Text.Scan

/-!
# Laws of whole words

Replacing a whole word by another text swaps blocks of characters and keeps the rest. Which words can
come out of such a swap depends on how the block that is written overlaps with the word; `Apart` and
`EndsApart` rule overlaps out, and are decided for given texts.
-/

namespace Polyfill.Text

/-! ## Overlaps -/

/-- Neither text starts with the other one. -/
def Apart (s t : List Char) : Prop :=
  ¬ s <+: t ∧ ¬ t <+: s

instance (s t : List Char) : Decidable (Apart s t) :=
  inferInstanceAs (Decidable (_ ∧ _))

/-- No ending of a text overlaps with the start of another one. -/
def EndsApart (s t : List Char) : Prop :=
  ∀ ending ∈ s.tails, ending ≠ [] → Apart ending t

instance (s t : List Char) : Decidable (EndsApart s t) :=
  inferInstanceAs (Decidable (∀ ending ∈ s.tails, _))

theorem Apart.append_ne {s t : List Char} (apart : Apart s t) (x y : List Char) :
    s ++ x ≠ t ++ y := by
  intro same
  rcases List.prefix_or_prefix_of_prefix (List.prefix_append s x)
    (same ▸ List.prefix_append t y) with h | h
  · exact apart.1 h
  · exact apart.2 h

theorem EndsApart.tail {c : Char} {s t : List Char} (apart : EndsApart (c :: s) t) :
    EndsApart s t := fun ending member =>
  apart ending (List.tails_cons c s ▸ List.mem_cons_of_mem _ member)

/-! ## Ends of words -/

/-- A block starts and ends with characters of words. -/
structure IsWordLike (block : List Char) : Prop where
  starts : startsWith isWord block = true
  ends : block.getLast?.any isWord = true

theorem IsWordLike.ne_nil {block : List Char} (wordLike : IsWordLike block) : block ≠ [] := by
  rintro rfl
  simpa [startsWith] using wordLike.starts

theorem IsWordLike.any_getLast?_or {block : List Char} (wordLike : IsWordLike block)
    {before : Option Char} : (block.getLast?.or before).any isWord = true := by
  have ends := wordLike.ends
  cases last : block.getLast? with
  | none => simp [last] at ends
  | some c => simpa [last] using ends

/-! ## Swaps -/

/-- A text is changed by writing a block in place of some of the places where another one stands. -/
inductive Swaps (old new : List Char) : List Char → List Char → Prop where
  | nil : Swaps old new [] []
  | keep {c text out} (tail : Swaps old new text out) : Swaps old new (c :: text) (c :: out)
  | swap {text out} (tail : Swaps old new text out) : Swaps old new (old ++ text) (new ++ out)

namespace Swaps

variable {old new text out : List Char}

/-- A start that the new block cannot reach into has been there before. -/
theorem of_append {start rest : List Char} (apart : EndsApart start new)
    (swaps : Swaps old new text (start ++ rest)) :
    ∃ rest', text = start ++ rest' ∧ Swaps old new rest' rest := by
  induction start generalizing text with
  | nil => exact ⟨text, rfl, swaps⟩
  | cons c start ih =>
    generalize whole : c :: start ++ rest = out at swaps
    cases swaps with
    | nil => exact absurd whole (List.cons_ne_nil _ _)
    | keep tail =>
      obtain ⟨rfl, rfl⟩ := List.cons.inj whole
      obtain ⟨rest', rfl, swaps⟩ := ih apart.tail tail
      exact ⟨rest', rfl, swaps⟩
    | swap tail =>
      exact absurd whole (Apart.append_ne (apart (c :: start) (by simp) (List.cons_ne_nil _ _)) _ _)

theorem eq_nil (nonempty : new ≠ []) (swaps : Swaps old new text []) : text = [] := by
  generalize whole : [] = out at swaps
  cases swaps with
  | nil => rfl
  | keep => exact absurd whole.symm (List.cons_ne_nil _ _)
  | swap => exact absurd (List.append_eq_nil_iff.mp whole.symm).1 nonempty

theorem eq_of_endsApart (nonempty : new ≠ []) (apart : EndsApart out new)
    (swaps : Swaps old new text out) : text = out := by
  rw [← List.append_nil out] at swaps
  obtain ⟨rest, rfl, tail⟩ := of_append apart swaps
  obtain rfl : rest = [] := tail.eq_nil nonempty
  exact List.append_nil _

theorem of_append_cons {c : Char} {front rest : List Char} (fresh : c ∉ new)
    (swaps : Swaps old new text (front ++ c :: rest)) :
    ∃ front' rest', text = front' ++ c :: rest' ∧
      Swaps old new front' front ∧ Swaps old new rest' rest := by
  generalize whole : front ++ c :: rest = out at swaps
  induction swaps generalizing front with
  | nil => simp at whole
  | @keep d text out tail ih =>
    cases front with
    | nil =>
      obtain ⟨rfl, rfl⟩ := List.cons.inj whole
      exact ⟨[], text, rfl, .nil, tail⟩
    | cons e front =>
      obtain ⟨rfl, rest_eq⟩ := List.cons.inj whole
      obtain ⟨front', rest', rfl, before, behind⟩ := ih rest_eq
      exact ⟨e :: front', rest', rfl, .keep before, behind⟩
  | swap tail ih =>
    -- the parting character lies behind the new block, not in it
    rcases List.append_eq_append_iff.mp whole with ⟨more, new_eq, tail_eq⟩ | ⟨more, rfl, tail_eq⟩
    · cases more with
      | nil =>
        obtain ⟨front', rest', rfl, before, behind⟩ := @ih [] tail_eq
        have front_eq : front = new ++ [] := by rw [new_eq, List.append_nil, List.append_nil]
        exact ⟨old ++ front', rest', by simp, front_eq ▸ .swap before, behind⟩
      | cons d more =>
        obtain ⟨rfl, -⟩ := List.cons.inj tail_eq
        exact absurd (by simp [new_eq]) fresh
    · obtain ⟨front', rest', rfl, before, behind⟩ := ih tail_eq.symm
      exact ⟨old ++ front', rest', by simp, .swap before, behind⟩

theorem forall_mem {P : Char → Prop} (passes : (∀ c ∈ new, P c) → ∀ c ∈ old, P c)
    (swaps : Swaps old new text out) (all : ∀ c ∈ out, P c) : ∀ c ∈ text, P c := by
  induction swaps with
  | nil => exact all
  | keep _ ih =>
    rw [List.forall_mem_cons] at all ⊢
    exact ⟨all.1, ih all.2⟩
  | swap _ ih =>
    rw [List.forall_mem_append] at all ⊢
    exact ⟨passes all.1, ih all.2⟩

theorem symm (swaps : Swaps old new text out) : Swaps new old out text := by
  induction swaps with
  | nil => exact .nil
  | keep _ ih => exact .keep ih
  | swap _ ih => exact .swap ih

section WordLike

variable (old_like : IsWordLike old) (new_like : IsWordLike new)

include old_like new_like

theorem startsWith_eq (swaps : Swaps old new text out) :
    startsWith isWord text = startsWith isWord out := by
  cases swaps with
  | nil => rfl
  | keep => rfl
  | swap => rw [startsWith_append old_like.starts, startsWith_append new_like.starts]

theorem any_getLast?_or_eq (swaps : Swaps old new text out) {before before' : Option Char}
    (same : before.any isWord = before'.any isWord) :
    (text.getLast?.or before).any isWord = (out.getLast?.or before').any isWord := by
  induction swaps generalizing before before' with
  | nil => exact same
  | keep _ ih =>
    rw [getLast?_cons_or, getLast?_cons_or]
    exact ih rfl
  | swap _ ih =>
    rw [List.getLast?_append, List.getLast?_append, Option.or_assoc, Option.or_assoc]
    exact ih (old_like.any_getLast?_or.trans new_like.any_getLast?_or.symm)

end WordLike

end Swaps

/-! ## Whole words -/

section WholeWord

variable {word : List Char} {before before' : Option Char} {text : List Char}

theorem wholeWord_eq_some_iff {size : Nat} :
    wholeWord word before text = some size ↔
      before.any isWord = false ∧ size = word.length ∧
        ∃ rest, text = word ++ rest ∧ startsWith isWord rest = false := by
  have outside : before.all (!isWord ·) = !before.any isWord := by cases before <;> rfl
  simp only [wholeWord, outside, Option.ite_none_right_eq_some, Option.some.injEq, Bool.and_eq_true,
    Bool.not_eq_true', List.isPrefixOf_iff_prefix]
  constructor
  · rintro ⟨⟨⟨⟨rest, rfl⟩, outside⟩, ends⟩, rfl⟩
    exact ⟨outside, rfl, rest, rfl, by rwa [List.drop_left] at ends⟩
  · rintro ⟨outside, rfl, rest, rfl, ends⟩
    exact ⟨⟨⟨List.prefix_append .., outside⟩, by rwa [List.drop_left]⟩, rfl⟩

theorem wholeWord_isSome_iff :
    (wholeWord word before text).isSome = true ↔
      before.any isWord = false ∧ ∃ rest, text = word ++ rest ∧ startsWith isWord rest = false := by
  simp only [Option.isSome_iff_exists, wholeWord_eq_some_iff]
  constructor
  · rintro ⟨_, outside, -, found⟩
    exact ⟨outside, found⟩
  · rintro ⟨outside, found⟩
    exact ⟨_, outside, rfl, found⟩

theorem isBounded_wholeWord (nonempty : word ≠ []) : (wholeWord word).IsBounded := by
  intro before text size found
  obtain ⟨-, rfl, rest, rfl, -⟩ := wholeWord_eq_some_iff.mp found
  have := List.length_pos_iff.mpr nonempty
  simp only [List.length_append]
  omega

theorem wholeWord_nil (nonempty : word ≠ []) (before : Option Char) :
    wholeWord word before [] = none :=
  (isBounded_wholeWord nonempty).eq_none before

/-- Of the character before a place, a whole word only asks whether it belongs to a word. -/
theorem wholeWord_congr (same : before.any isWord = before'.any isWord) :
    wholeWord word before text = wholeWord word before' text := by
  have outside (before : Option Char) : before.all (!isWord ·) = !before.any isWord := by
    cases before <;> rfl
  simp only [wholeWord, outside, same]

theorem occursFrom_wholeWord_congr (same : before.any isWord = before'.any isWord) :
    occursFrom (wholeWord word) before text = occursFrom (wholeWord word) before' text := by
  cases text with
  | nil => rfl
  | cons c rest => rw [occursFrom, occursFrom, wholeWord_congr same]

theorem breaksAt_wholeWord {c : Char} (fresh : c ∉ word) (outside : isWord c = false) :
    (wholeWord word).BreaksAt c := by
  intro before front rest
  rw [Bool.eq_iff_iff, wholeWord_isSome_iff, wholeWord_isSome_iff]
  refine and_congr_right fun _ => ⟨?_, ?_⟩
  · rintro ⟨after, split, ends⟩
    rcases List.append_eq_append_iff.mp split with ⟨more, rfl, more_eq⟩ | ⟨more, rfl, more_eq⟩
    · cases more with
      | nil => exact ⟨[], by simp, rfl⟩
      | cons d more =>
        obtain ⟨rfl, -⟩ := List.cons.inj more_eq
        simp at fresh
    · refine ⟨more, rfl, ?_⟩
      cases more with
      | nil => rfl
      | cons d more => simpa [more_eq, startsWith] using ends
  · rintro ⟨more, rfl, ends⟩
    refine ⟨more ++ c :: rest, by simp, ?_⟩
    cases more with
    | nil => simpa [startsWith] using outside
    | cons d more => simpa [startsWith] using ends

/-- A text is searched for whole words part by part, between the breaks. -/
theorem occursFrom_wholeWord_append_cons {c : Char} (nonempty : word ≠ []) (fresh : c ∉ word)
    (outside : isWord c = false) (before : Option Char) (front rest : List Char) :
    occursFrom (wholeWord word) before (front ++ c :: rest) =
      (occursFrom (wholeWord word) before front || occursFrom (wholeWord word) (some c) rest) :=
  (breaksAt_wholeWord fresh outside).occursFrom_append_cons (wholeWord_nil nonempty) before front rest

theorem occursFrom_wholeWord_cons {c : Char} (nonempty : word ≠ []) (fresh : c ∉ word)
    (outside : isWord c = false) (before : Option Char) (rest : List Char) :
    occursFrom (wholeWord word) before (c :: rest) = occursFrom (wholeWord word) (some c) rest :=
  occursFrom_wholeWord_append_cons nonempty fresh outside before [] rest

theorem occurs_wholeWord_append_cons {c : Char} (nonempty : word ≠ [])
    (all : ∀ c ∈ word, isWord c = true) (outside : isWord c = false) (front rest : List Char) :
    occurs (wholeWord word) (front ++ c :: rest) =
      (occurs (wholeWord word) front || occurs (wholeWord word) rest) := by
  have fresh : c ∉ word := not_mem_of_forall all outside
  have behind : (some c).any isWord = (none : Option Char).any isWord := outside
  rw [occurs, occursFrom_wholeWord_append_cons nonempty fresh outside,
    occursFrom_wholeWord_congr behind]
  rfl

/-- A pattern looks at single words: what stands before another character is searched on its own. -/
def Pattern.IsWordwise (pattern : Pattern) : Prop :=
  ∀ ⦃c⦄, isWord c = false → ∀ front rest,
    occurs pattern (front ++ c :: rest) = (occurs pattern front || occurs pattern rest)

theorem isWordwise_wholeWord (nonempty : word ≠ []) (all : ∀ c ∈ word, isWord c = true) :
    (wholeWord word).IsWordwise := by
  intro c outside
  exact occurs_wholeWord_append_cons nonempty all outside

/-- A word of word characters only stands alone where the run of such characters is the word. -/
theorem wholeWord_isSome_iff_takeWhile (all : ∀ c ∈ word, isWord c = true) :
    (wholeWord word before text).isSome = true ↔
      before.any isWord = false ∧ text.takeWhile isWord = word := by
  rw [wholeWord_isSome_iff]
  refine and_congr_right fun _ => ⟨?_, ?_⟩
  · rintro ⟨rest, rfl, ends⟩
    exact takeWhile_append_of_ends all ends
  · rintro rfl
    exact ⟨_, List.takeWhile_append_dropWhile.symm, startsWith_dropWhile isWord text⟩

end WholeWord

/-! ## Replacing whole words -/

theorem Scanned.swaps {old new : List Char} {before : Option Char} {text out : List Char}
    (scanned : Scanned (wholeWord old) (fun _ => new) before text out) : Swaps old new text out := by
  induction scanned with
  | done => exact .nil
  | keep _ _ ih => exact .keep ih
  | change found _ ih =>
    obtain ⟨-, size, rest, split, -⟩ := wholeWord_eq_some_iff.mp found
    obtain ⟨rfl, -⟩ := List.append_inj split size
    exact .swap ih

/--
Writing a block brings forth no whole word: the block neither is one nor overlaps with one, and a word
that the block starts with goes on in the block.
-/
structure Clears (new word : List Char) : Prop where
  within : EndsApart new.tail word
  across : EndsApart word.tail new
  start : Apart word new ∨ startsWith isWord (new.drop word.length) = true

section Replacing

variable {old new word : List Char}

theorem Clears.wholeWord_eq_none (clears : Clears new word) (nonempty : word ≠ [])
    {front back : List Char} (split : new = front ++ back) (some_left : back ≠ [])
    (before : Option Char) (rest : List Char) : wholeWord word before (back ++ rest) = none := by
  rw [← Option.not_isSome_iff_eq_none, wholeWord_isSome_iff]
  rintro ⟨-, more, same, ends⟩
  cases front with
  | cons c front =>
    have ending : back ∈ new.tail.tails := by simp [split]
    exact (clears.within back ending some_left).append_ne _ _ same
  | nil =>
    obtain rfl : new = back := split
    rcases clears.start with apart | goes_on
    · exact apart.append_ne _ _ same.symm
    · rcases List.append_eq_append_iff.mp same with ⟨last, rfl, rest_eq⟩ | ⟨last, rfl, more_eq⟩
      · rw [List.drop_eq_nil_of_le (by simp)] at goes_on
        simp [startsWith] at goes_on
      · rw [List.drop_left] at goes_on
        rw [more_eq, startsWith_append goes_on] at ends
        cases ends

/-- After replacing whole words, the replaced word does not stand alone, nor one that did not before. -/
theorem Scanned.occursFrom_wholeWord (clears : Clears new word) (nonempty : word ≠ [])
    (old_like : IsWordLike old) (new_like : IsWordLike new)
    {before : Option Char} {text out : List Char}
    (scanned : Scanned (wholeWord old) (fun _ => new) before text out)
    (free : word = old ∨ occursFrom (wholeWord word) before text = false) :
    occursFrom (wholeWord word) before out = false := by
  induction scanned with
  | done => rfl
  | @keep before c rest out kept tail ih =>
    refine occursFrom_cons_eq_false.mpr ⟨?_, ih (free.imp id (occursFrom_cons_eq_false.mp · |>.2))⟩
    have here : wholeWord word before (c :: rest) = none := by
      rcases free with rfl | free
      · exact kept
      · exact (occursFrom_cons_eq_false.mp free).1
    rw [← Option.not_isSome_iff_eq_none, wholeWord_isSome_iff] at here ⊢
    -- the new block cannot reach into a word that starts here, so the word has been here before
    rintro ⟨outside, more, split, ends⟩
    obtain ⟨d, word, rfl⟩ := List.exists_cons_of_ne_nil nonempty
    obtain ⟨rfl, rfl⟩ := List.cons.inj split
    obtain ⟨more', rfl, swaps⟩ := tail.swaps.of_append clears.across
    exact here ⟨outside, more', rfl, (swaps.startsWith_eq old_like new_like).trans ends⟩
  | @change before block rest out found tail ih =>
    obtain ⟨-, size, more, split, -⟩ := wholeWord_eq_some_iff.mp found
    obtain ⟨rfl, -⟩ := List.append_inj split size
    refine occursFrom_append_eq_false
      (fun front back split some_left => clears.wholeWord_eq_none nonempty split some_left _ _) ?_
    rw [occursFrom_wholeWord_congr (new_like.any_getLast?_or.trans old_like.ends.symm)]
    refine ih (free.imp id fun free => ?_)
    have later := occursFrom_of_append free
    rwa [occursFrom_wholeWord_congr (old_like.any_getLast?_or.trans old_like.ends.symm)] at later

end Replacing

end Polyfill.Text
