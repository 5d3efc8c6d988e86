import Polyfill.Proofs.Text.Line

/-!
# Laws of verbatim blocks

A block is looked for as it stands, within words and across them. Swaps bring it forth only if what is
written overlaps with it, and a block of word characters lies in a single word.
-/

namespace Polyfill.Text

/-- A block stands at a place, whatever stands around it. -/
def verbatim (block : List Char) : Pattern := fun _ text =>
  if block.isPrefixOf text then some block.length else none

section Verbatim

variable {block : List Char} {before before' : Option Char} {text : List Char}

theorem verbatim_isSome_iff : (verbatim block before text).isSome = true ↔ block <+: text := by
  rw [verbatim]
  split
  case isTrue starts => simpa using starts
  case isFalse other => simpa using other

theorem verbatim_eq_none_iff : verbatim block before text = none ↔ ¬ block <+: text := by
  rw [← verbatim_isSome_iff, Option.not_isSome_iff_eq_none]

theorem verbatim_nil (nonempty : block ≠ []) (before : Option Char) :
    verbatim block before [] = none := by
  rw [verbatim_eq_none_iff, List.prefix_nil]
  exact nonempty

theorem occurs_verbatim_iff (nonempty : block ≠ []) :
    occurs (verbatim block) text = true ↔ block <:+: text := by
  rw [occurs, occursFrom_eq_true_iff]
  simp only [verbatim_isSome_iff]
  constructor
  · rintro ⟨front, rest, rfl, -, starts⟩
    exact starts.isInfix.trans (List.suffix_append front rest).isInfix
  · rintro ⟨front, rest, rfl⟩
    refine ⟨front, block ++ rest, by simp, ?_, List.prefix_append block rest⟩
    simp [nonempty]

theorem occurs_verbatim_eq_false_iff (nonempty : block ≠ []) :
    occurs (verbatim block) text = false ↔ ¬ block <:+: text := by
  rw [← occurs_verbatim_iff nonempty, Bool.not_eq_true]

theorem occursFrom_verbatim :
    occursFrom (verbatim block) before text = occursFrom (verbatim block) before' text := by
  cases text <;> rfl

theorem occurs_verbatim_cons_eq_false {c : Char} {rest : List Char} :
    occurs (verbatim block) (c :: rest) = false ↔
      ¬ block <+: c :: rest ∧ occurs (verbatim block) rest = false := by
  rw [occurs, occursFrom_cons_eq_false, verbatim_eq_none_iff, @occursFrom_verbatim block (some c) none]
  rfl

/-! ## Breaks -/

theorem breaksAt_verbatim {c : Char} (fresh : c ∉ block) : (verbatim block).BreaksAt c := by
  intro before front rest
  rw [Bool.eq_iff_iff, verbatim_isSome_iff, verbatim_isSome_iff]
  constructor
  · rintro ⟨tail, same⟩
    obtain ⟨more, rfl, -⟩ := exists_of_append_eq_append_cons fresh same
    exact List.prefix_append block more
  · intro starts
    exact starts.trans (List.prefix_append front _)

theorem occurs_verbatim_append_cons (nonempty : block ≠ []) {c : Char} (fresh : c ∉ block)
    (front rest : List Char) :
    occurs (verbatim block) (front ++ c :: rest) =
      (occurs (verbatim block) front || occurs (verbatim block) rest) := by
  rw [occurs, (breaksAt_verbatim fresh).occursFrom_append_cons (verbatim_nil nonempty)]
  rw [occurs, occurs, @occursFrom_verbatim block (some c) none]

theorem isLinewise_verbatim (nonempty : block ≠ []) (single : '\n' ∉ block) :
    (verbatim block).IsLinewise where
  breaks := breaksAt_verbatim single
  empty := verbatim_nil nonempty
  start _ := rfl

theorem isWordwise_verbatim (nonempty : block ≠ []) (all : ∀ c ∈ block, isWord c = true) :
    (verbatim block).IsWordwise := by
  intro c outside
  exact occurs_verbatim_append_cons nonempty (not_mem_of_forall all outside)

/-! ## Swaps -/

/-- A block that does not overlap with what is written has been there before. -/
theorem Swaps.occurs_verbatim {old new out : List Char} (reaches : EndsApart block new)
    (within : EndsApart new block) (swaps : Swaps old new text out)
    (free : occurs (verbatim block) text = false) : occurs (verbatim block) out = false := by
  induction swaps with
  | nil => rfl
  | @keep c text out tail ih =>
    obtain ⟨here, later⟩ := occursFrom_cons_eq_false.mp free
    rw [occursFrom_verbatim] at later
    refine occursFrom_cons_eq_false.mpr ⟨?_, occursFrom_verbatim.trans (ih later)⟩
    rw [verbatim_eq_none_iff] at here ⊢
    rintro ⟨rest, same⟩
    -- the block starts where nothing is written, and nothing that is written overlaps with it
    have swaps : Swaps old new (c :: text) (block ++ rest) := same ▸ .keep tail
    obtain ⟨rest', split, -⟩ := swaps.of_append reaches
    exact here ⟨rest', split.symm⟩
  | @swap text out tail ih =>
    have later := occursFrom_of_append free
    rw [occursFrom_verbatim] at later
    refine occursFrom_append_eq_false ?_ (occursFrom_verbatim.trans (ih later))
    intro front back split some_left
    rw [verbatim_eq_none_iff]
    rintro ⟨rest, same⟩
    have ending : back ∈ new.tails := by simp [split]
    exact (within back ending some_left).append_ne _ _ same.symm

end Verbatim

end Polyfill.Text
