import Polyfill.Proofs.Template.Usage

/-!
# What removals keep

In a text whose brackets do not nest, a bracket and the next closing one bound a group that removals
take out as a whole or keep as a whole. `Pruned` says so, and everything that removals keep is proved
by induction on it.
-/

namespace Polyfill.Template

open Text Attribute

/-! ## Flat texts -/

/-- Between an opening bracket and the next closing one there is no other opening bracket. -/
def BracketFlat (text : List Char) : Prop :=
  ∀ before body after, text = before ++ '[' :: (body ++ ']' :: after) → ']' ∉ body → '[' ∉ body

namespace BracketFlat

variable {front body rest text : List Char} {c : Char}

theorem of_append (flat : BracketFlat (front ++ rest)) : BracketFlat rest := by
  rintro before body after rfl
  exact flat (front ++ before) body after (by simp)

theorem of_cons (flat : BracketFlat (c :: rest)) : BracketFlat rest := by
  rintro before body after rfl
  exact flat (c :: before) body after rfl

theorem of_isInfix (flat : BracketFlat text) (inside : rest <:+: text) : BracketFlat rest := by
  obtain ⟨start, more, rfl⟩ := inside
  rintro before body after rfl
  exact flat (start ++ before) body (after ++ more) (by simp)

theorem of_unclosed (unclosed : ']' ∉ text) : BracketFlat text := by
  rintro before body after rfl
  simp at unclosed

theorem cons (plain : c ≠ '[') (flat : BracketFlat rest) : BracketFlat (c :: rest) := by
  rintro (_ | ⟨d, before⟩) body after same
  · exact absurd (List.cons.inj same).1 plain
  · exact flat before body after (List.cons.inj same).2

theorem group (single : '[' ∉ body) (flat : BracketFlat rest) :
    BracketFlat ('[' :: (body ++ ']' :: rest)) := by
  rintro (_ | ⟨d, before⟩) body' after same unclosed member
  · obtain ⟨more, rfl, same⟩ := exists_of_append_eq_append_cons unclosed (List.cons.inj same).2.symm
    exact single (List.mem_append_left more member)
  · obtain ⟨more, rfl, rest_eq⟩ := exists_of_append_eq_append_cons single (List.cons.inj same).2
    cases more with
    | nil => exact absurd (List.cons.inj rest_eq).1 (by decide)
    | cons d more => exact flat more body' after (List.cons.inj rest_eq).2 unclosed member

theorem append (plain : '[' ∉ front) (flat : BracketFlat rest) : BracketFlat (front ++ rest) := by
  induction front with
  | nil => exact flat
  | cons d front ih =>
    rw [List.mem_cons, not_or] at plain
    exact .cons (Ne.symm plain.1) (ih plain.2)

theorem iff_forall_tails : BracketFlat text ↔
    ∀ tail ∈ text.tails, tail.head? = some '[' → ']' ∈ tail → '[' ∉ tail.tail.takeWhile (· != ']') := by
  simp only [List.mem_tails]
  constructor
  · intro flat tail ending opens closes
    obtain ⟨before, rfl⟩ := ending
    obtain ⟨rest, rfl⟩ := List.head?_eq_some_iff.mp opens
    have closed : ']' ∈ rest := by simpa using closes
    obtain ⟨body, after, rfl, unclosed⟩ := List.eq_append_cons_of_mem closed
    rw [List.tail_cons, takeWhile_append_cons unclosed]
    exact flat before body after rfl unclosed
  · intro all before body after split unclosed
    have ending : '[' :: (body ++ ']' :: after) <:+ text := ⟨before, split.symm⟩
    have free := all _ ending rfl (by simp)
    rwa [List.tail_cons, takeWhile_append_cons unclosed] at free

instance (text : List Char) : Decidable (BracketFlat text) :=
  decidable_of_iff _ iff_forall_tails.symm

end BracketFlat

/-! ## Finding usages -/

/-- A pattern finds usages whose bodies may depend on the character before them. -/
def FindsUsages (pattern : Pattern) (bodies : Option Char → Bodies) : Prop :=
  ∀ before text, (pattern before text).isSome = true ↔
    ∃ body rest, text = '[' :: (body ++ ']' :: rest) ∧ ']' ∉ body ∧ bodies before body

namespace FindsUsages

variable {pattern : Pattern} {bodies : Option Char → Bodies} {before : Option Char}
  {body rest text : List Char} {c : Char}

theorem occursFrom_of_unclosed (finds : FindsUsages pattern bodies) (unclosed : ']' ∉ text) :
    occursFrom pattern before text = false := by
  induction text generalizing before with
  | nil => rfl
  | cons c text ih =>
    rw [List.mem_cons, not_or] at unclosed
    refine occursFrom_cons_eq_false.mpr ⟨?_, ih unclosed.2⟩
    rw [← Option.not_isSome_iff_eq_none, finds]
    rintro ⟨body, rest, same, -⟩
    obtain ⟨-, rfl⟩ := List.cons.inj same
    simp at unclosed

theorem occursFrom_cons (finds : FindsUsages pattern bodies) (plain : c ≠ '[') :
    occursFrom pattern before (c :: rest) = occursFrom pattern (some c) rest := by
  have here : pattern before (c :: rest) = none := by
    rw [← Option.not_isSome_iff_eq_none, finds]
    rintro ⟨body, rest, same, -⟩
    exact plain (List.cons.inj same).1
  rw [occursFrom, here, Option.isSome_none, Bool.false_or]

theorem occursFrom_plain (finds : FindsUsages pattern bodies) (single : '[' ∉ body) :
    occursFrom pattern before (body ++ ']' :: rest) = occursFrom pattern (some ']') rest := by
  induction body generalizing before with
  | nil => exact finds.occursFrom_cons (by decide)
  | cons c body ih =>
    rw [List.mem_cons, not_or] at single
    rw [List.cons_append, finds.occursFrom_cons (Ne.symm single.1), ih single.2]

theorem occursFrom_group_eq_false (finds : FindsUsages pattern bodies) (single : '[' ∉ body)
    (unclosed : ']' ∉ body) :
    occursFrom pattern before ('[' :: (body ++ ']' :: rest)) = false ↔
      ¬ bodies before body ∧ occursFrom pattern (some ']') rest = false := by
  rw [occursFrom_cons_eq_false, finds.occursFrom_plain single, ← Option.not_isSome_iff_eq_none, finds]
  refine and_congr_left fun _ => not_congr ⟨?_, fun is_body => ⟨body, rest, rfl, unclosed, is_body⟩⟩
  rintro ⟨body', rest', same, unclosed', is_body⟩
  rwa [(eq_of_append_cons_eq unclosed unclosed' (List.cons.inj same).2).1]

end FindsUsages

/-- The usages of an attribute directly behind a word. -/
def attached (kind : Attribute) : Pattern := fun before text =>
  if before.any isWord then kind.inline before text else none

theorem findsUsages_inline {kind : Attribute} {bodies : Bodies} (reads : kind.Reads bodies) :
    FindsUsages kind.inline fun _ => bodies := fun _ _ =>
  inline_isSome_iff reads

theorem findsUsages_attached {kind : Attribute} {bodies : Bodies} (reads : kind.Reads bodies) :
    FindsUsages (attached kind) fun before body => before.any isWord = true ∧ bodies body := by
  intro before text
  rw [attached]
  split
  case isTrue behind => simp [inline_isSome_iff reads, behind]
  case isFalse free => simp [free]

/-! ## Pruned texts -/

/-- What removals make of a flat text. A group that is not removed is among those kept. -/
inductive Pruned (bodies kept : Bodies) : Option Char → List Char → List Char → Prop where
  /-- Without a closing bracket there is no usage. -/
  | unclosed {before text} (unclosed : ']' ∉ text) : Pruned bodies kept before text text
  | plain {before c rest out} (plain : c ≠ '[') (tail : Pruned bodies kept (some c) rest out) :
      Pruned bodies kept before (c :: rest) (c :: out)
  | group {before body rest out} (single : '[' ∉ body) (unclosed : ']' ∉ body) (stays : kept body)
      (tail : Pruned bodies kept (some ']') rest out) :
      Pruned bodies kept before ('[' :: (body ++ ']' :: rest)) ('[' :: (body ++ ']' :: out))
  | removal {before block rest out} (removed : IsRemoval bodies before block)
      (tail : Pruned bodies kept block.getLast? rest out) :
      Pruned bodies kept before (block ++ rest) out

theorem IsRemoval.append_ne {bodies : Bodies} {before : Option Char} {block body : List Char}
    (removed : IsRemoval bodies before block) (single : '[' ∉ body) (rest rest' : List Char) :
    block ++ rest' ≠ body ++ ']' :: rest := by
  obtain ⟨lead, inner, gap, rfl, -, blank, -⟩ := removed
  intro same
  rw [List.append_assoc] at same
  obtain ⟨more, rfl, rest_eq⟩ := exists_of_append_eq_append_cons single same.symm
  cases more with
  | nil => exact absurd (List.cons.inj rest_eq).1 (by decide)
  | cons d more =>
    obtain ⟨rfl, -⟩ := List.cons.inj rest_eq
    exact absurd (blank ']' (by simp)) (by decide)

section OfScanned

variable {pattern : Pattern} {bodies kept : Bodies} (removes : Removes pattern bodies)
  {before : Option Char} {body rest text out : List Char}

include removes

theorem Removes.isRemoval {block : List Char}
    (found : pattern before (block ++ rest) = some block.length) : IsRemoval bodies before block := by
  obtain ⟨block', rest', same, size, removed⟩ := removes found
  rwa [(List.append_inj same size).1]

theorem Removes.eq_none (single : '[' ∉ body) : pattern before (body ++ ']' :: rest) = none := by
  rw [Option.eq_none_iff_forall_ne_some]
  intro size found
  obtain ⟨block, rest', same, -, removed⟩ := removes found
  exact removed.append_ne single rest rest' same.symm

theorem scanned_unclosed (scanned : Scanned pattern (fun _ => []) before text out)
    (unclosed : ']' ∉ text) : out = text := by
  induction scanned with
  | done => rfl
  | keep _ _ ih => rw [ih fun member => unclosed (List.mem_cons_of_mem _ member)]
  | change found =>
    obtain ⟨lead, body, gap, rfl, -⟩ := removes.isRemoval found
    simp at unclosed

theorem scanned_plain (single : '[' ∉ body)
    (scanned : Scanned pattern (fun _ => []) before (body ++ ']' :: rest) out) :
    ∃ out', out = body ++ ']' :: out' ∧ Scanned pattern (fun _ => []) (some ']') rest out' := by
  have free : pattern before (body ++ ']' :: rest) = none := removes.eq_none single
  induction body generalizing before out with
  | nil => exact scanned.exists_of_none free
  | cons c body ih =>
    obtain ⟨out, rfl, tail⟩ := scanned.exists_of_none free
    have later : '[' ∉ body := fun member => single (List.mem_cons_of_mem c member)
    obtain ⟨out, rfl, behind⟩ := ih later tail (removes.eq_none later)
    exact ⟨out, rfl, behind⟩

/-- Removals prune a flat text; a group stays where the pattern does not find it. -/
theorem pruned_of_scanned
    (stays : ∀ {before body rest}, ']' ∉ body → pattern before ('[' :: (body ++ ']' :: rest)) = none →
      kept body)
    (flat : BracketFlat text) (scanned : Scanned pattern (fun _ => []) before text out) :
    Pruned bodies kept before text out := by
  -- a group is passed over as a whole, so the induction is on the length of the text
  induction size : text.length using Nat.strongRecOn generalizing before text out with
  | ind size ih =>
    cases scanned with
    | done => exact .unclosed (by simp)
    | @keep _ c rest out free tail =>
      by_cases opening : c = '['
      · subst opening
        by_cases close : ']' ∈ rest
        · obtain ⟨body, rest, rfl, unclosed⟩ := List.eq_append_cons_of_mem close
          have single : '[' ∉ body := flat [] body rest rfl unclosed
          obtain ⟨out, rfl, behind⟩ := scanned_plain removes single tail
          have rest_flat : BracketFlat rest := flat.of_cons.of_append.of_cons
          refine .group single unclosed (stays unclosed free) (ih _ ?_ rest_flat behind rfl)
          simp only [← size, List.length_cons, List.length_append]
          omega
        · rw [scanned_unclosed removes tail close]
          exact .unclosed (by simpa using close)
      · exact .plain opening (ih _ (by simp [← size]) flat.of_cons tail rfl)
    | change found tail =>
      refine .removal (removes.isRemoval found) (ih _ ?_ flat.of_append tail rfl)
      have bounds := removes.isBounded found
      simp only [← size, List.length_append]
      omega

end OfScanned

/-! ## What pruned texts keep -/

theorem isWord_eq_false_of_isGap {c : Char} (gap : isGap c = true) : isWord c = false := by
  have : (isBlank c = true ∨ c = '\r') ∨ c = '\n' := by simpa [isGap] using gap
  rcases this with (blank | rfl) | rfl
  · exact isWord_eq_false_of_isBlank blank
  · decide
  · decide

theorem IsRemoval.exists_getLast? {bodies : Bodies} {before : Option Char} {block : List Char}
    (removed : IsRemoval bodies before block) :
    ∃ c, block.getLast? = some c ∧ isWord c = false := by
  obtain ⟨lead, body, gap, rfl, -, -, -, -, spaced⟩ := removed
  have nonempty : ']' :: gap ≠ [] := List.cons_ne_nil _ _
  refine ⟨(']' :: gap).getLast nonempty, ?_, ?_⟩
  · rw [← List.cons_append, ← List.append_assoc, List.getLast?_append_of_ne_nil _ nonempty,
      List.getLast?_eq_some_getLast nonempty]
  · rcases List.mem_cons.mp (List.getLast_mem nonempty) with same | member
    · rw [same]
      decide
    · exact isWord_eq_false_of_isGap (spaced _ member)

theorem IsRemoval.occursFrom_of_append {pattern : Pattern} {bodies : Bodies} {before : Option Char}
    {block rest : List Char} (removed : IsRemoval bodies before block)
    (free : occursFrom pattern before (block ++ rest) = false) :
    occursFrom pattern block.getLast? rest = false := by
  obtain ⟨c, last, -⟩ := removed.exists_getLast?
  have later := Text.occursFrom_of_append free
  rwa [last, Option.some_or, ← last] at later

theorem IsRemoval.any_before {kind : Attribute} {bodies : Bodies} (reads : kind.Reads bodies)
    {before : Option Char} {block rest : List Char} (removed : IsRemoval bodies before block)
    (free : occursFrom (attached kind) before (block ++ rest) = false) :
    before.any isWord = false := by
  obtain ⟨lead, body, gap, rfl, rfl | starts, -, unclosed, is_body, -⟩ := removed
  · rw [Bool.eq_false_iff]
    intro behind
    have here := (occursFrom_cons_eq_false.mp free).1
    rw [← Option.not_isSome_iff_eq_none, findsUsages_attached reads] at here
    exact here ⟨body, gap ++ rest, by simp, unclosed, behind, is_body⟩
  · cases before with
    | none => rfl
    | some c =>
      obtain rfl : c = '\n' := by simpa [startsLine] using starts
      decide

namespace Pruned

variable {bodies kept : Bodies} {before before' : Option Char} {text out : List Char}

theorem flat (pruned : Pruned bodies kept before text out) : BracketFlat out := by
  induction pruned with
  | unclosed unclosed => exact .of_unclosed unclosed
  | plain plain _ ih => exact .cons plain ih
  | group single _ _ _ ih => exact .group single ih
  | removal _ _ ih => exact ih

/-- Usages that are removed from every kept group, or were not there before, are not there. -/
theorem occursFrom_usage {pattern : Pattern} {others : Bodies}
    (finds : FindsUsages pattern fun _ => others) (pruned : Pruned bodies kept before text out)
    (free : (∀ body, kept body → ¬ others body) ∨ occursFrom pattern before text = false) :
    occursFrom pattern before' out = false := by
  induction pruned generalizing before' with
  | unclosed unclosed => exact finds.occursFrom_of_unclosed unclosed
  | plain plain _ ih =>
    rw [finds.occursFrom_cons plain]
    exact ih (free.imp id fun free => (finds.occursFrom_cons plain).symm.trans free)
  | group single unclosed stays _ ih =>
    rw [finds.occursFrom_group_eq_false single unclosed] at free ⊢
    exact ⟨free.elim (fun removed => removed _ stays) (·.1), ih (free.imp id (·.2))⟩
  | removal removed _ ih => exact ih (free.imp id removed.occursFrom_of_append)

section Attached

variable {kind : Attribute} (reads : kind.Reads bodies)

include reads

theorem occursFrom_attached {other : Attribute} {others : Bodies} (finds : other.Reads others)
    (pruned : Pruned bodies kept before text out) (same : before'.any isWord = before.any isWord)
    (free : occursFrom (attached kind) before text = false)
    (other_free : occursFrom (attached other) before text = false) :
    occursFrom (attached other) before' out = false := by
  have other_finds := findsUsages_attached finds
  have kind_finds := findsUsages_attached reads
  induction pruned generalizing before' with
  | unclosed unclosed => exact other_finds.occursFrom_of_unclosed unclosed
  | plain plain _ ih =>
    rw [other_finds.occursFrom_cons plain] at other_free ⊢
    rw [kind_finds.occursFrom_cons plain] at free
    exact ih rfl free other_free
  | group single unclosed _ _ ih =>
    rw [other_finds.occursFrom_group_eq_false single unclosed] at other_free ⊢
    rw [kind_finds.occursFrom_group_eq_false single unclosed] at free
    exact ⟨same ▸ other_free.1, ih rfl free.2 other_free.2⟩
  | removal removed _ ih =>
    obtain ⟨c, last, outside⟩ := removed.exists_getLast?
    refine ih ?_ (removed.occursFrom_of_append free) (removed.occursFrom_of_append other_free)
    rw [same, removed.any_before reads free, last]
    exact outside.symm

/-- Behind a word, a pruned text goes on with the same characters of that word. -/
theorem takeWhile_isWord (pruned : Pruned bodies kept before text out)
    (behind : before.any isWord = true) (free : occursFrom (attached kind) before text = false) :
    out.takeWhile isWord = text.takeWhile isWord := by
  have kind_finds := findsUsages_attached reads
  induction pruned with
  | unclosed => rfl
  | @plain _ c _ _ plain _ ih =>
    rw [kind_finds.occursFrom_cons plain] at free
    cases inside : isWord c with
    | true =>
      rw [List.takeWhile_cons_of_pos inside, List.takeWhile_cons_of_pos inside, ih inside free]
    | false =>
      have outside : ¬ isWord c = true := by simp [inside]
      rw [List.takeWhile_cons_of_neg outside, List.takeWhile_cons_of_neg outside]
  | group =>
    have outside : ¬ isWord '[' = true := by decide
    rw [List.takeWhile_cons_of_neg outside, List.takeWhile_cons_of_neg outside]
  | removal removed =>
    rw [removed.any_before reads free] at behind
    cases behind

theorem occursFrom_wholeWord {word : List Char} (all : ∀ c ∈ word, isWord c = true)
    (nonempty : word ≠ []) (pruned : Pruned bodies kept before text out)
    (same : before'.any isWord = before.any isWord)
    (free : occursFrom (attached kind) before text = false)
    (word_free : occursFrom (wholeWord word) before text = false) :
    occursFrom (wholeWord word) before' out = false := by
  have kind_finds := findsUsages_attached reads
  induction pruned generalizing before' with
  | unclosed => rwa [occursFrom_wholeWord_congr same]
  | @plain before c rest out plain tail ih =>
    rw [kind_finds.occursFrom_cons plain] at free
    obtain ⟨here, later⟩ := occursFrom_cons_eq_false.mp word_free
    refine occursFrom_cons_eq_false.mpr ⟨?_, ih rfl free later⟩
    rw [← Option.not_isSome_iff_eq_none, wholeWord_isSome_iff_takeWhile all] at here ⊢
    -- a word that starts here goes on as the run of its characters, which removals do not change
    rintro ⟨outside, run⟩
    refine here ⟨same ▸ outside, ?_⟩
    cases inside : isWord c with
    | true =>
      rw [List.takeWhile_cons_of_pos inside] at run ⊢
      rwa [← tail.takeWhile_isWord reads inside free]
    | false =>
      rw [List.takeWhile_cons_of_neg (by simp [inside])] at run
      exact absurd run.symm nonempty
  | @group before body rest out single unclosed _ _ ih =>
    rw [kind_finds.occursFrom_group_eq_false single unclosed] at free
    have opening : isWord '[' = false := by decide
    have closing : isWord ']' = false := by decide
    rw [occursFrom_wholeWord_cons nonempty (not_mem_of_forall all opening) opening,
      occursFrom_wholeWord_append_cons nonempty (not_mem_of_forall all closing) closing,
      Bool.or_eq_false_iff] at word_free ⊢
    exact ⟨word_free.1, ih rfl free.2 word_free.2⟩
  | removal removed _ ih =>
    obtain ⟨c, last, outside⟩ := removed.exists_getLast?
    refine ih ?_ (removed.occursFrom_of_append free) (removed.occursFrom_of_append word_free)
    rw [same, removed.any_before reads free, last]
    exact outside.symm

end Attached

end Pruned

end Polyfill.Template
