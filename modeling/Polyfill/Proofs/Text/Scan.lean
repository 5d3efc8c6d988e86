import Polyfill.Text.Scan

/-!
# Laws of scans

A scan is a sequence of steps: a character is kept where no occurrence starts, or an occurrence is
changed as a whole. `Scanned` says so once for every pattern, and facts about scans are proved by
induction on it.
-/

namespace Polyfill.Text

/-- An occurrence takes at least one character, and none that is not there. -/
def Pattern.IsBounded (pattern : Pattern) : Prop :=
  ∀ ⦃before text size⦄, pattern before text = some size → 0 < size ∧ size ≤ text.length

theorem Pattern.IsBounded.eq_none {pattern : Pattern} (bounded : pattern.IsBounded)
    (before : Option Char) : pattern before [] = none := by
  rw [Option.eq_none_iff_forall_ne_some]
  intro size found
  obtain ⟨positive, fits⟩ := bounded found
  exact absurd fits (Nat.not_le_of_lt positive)

/-- What a scan makes of a text, given the character before it. -/
inductive Scanned (pattern : Pattern) (write : List Char → List Char) :
    Option Char → List Char → List Char → Prop where
  /-- The text is at its end. -/
  | done {before} : Scanned pattern write before [] []
  /-- No occurrence starts here. -/
  | keep {before c rest out} (free : pattern before (c :: rest) = none)
      (tail : Scanned pattern write (some c) rest out) :
      Scanned pattern write before (c :: rest) (c :: out)
  /-- An occurrence starts here and is changed. -/
  | change {before block rest out} (found : pattern before (block ++ rest) = some block.length)
      (tail : Scanned pattern write block.getLast? rest out) :
      Scanned pattern write before (block ++ rest) (write block ++ out)

variable {pattern : Pattern} {write : List Char → List Char}

theorem getLast?_cons_or (c : Char) (front : List Char) (before : Option Char) :
    (c :: front).getLast?.or before = front.getLast?.or (some c) := by
  rw [List.getLast?_cons]
  cases front.getLast? <;> rfl

theorem getLast?_or_some (c : Char) (front : List Char) :
    front.getLast?.or (some c) = (c :: front).getLast? := by
  rw [← getLast?_cons_or c front none, Option.or_none]

variable (pattern write) in
theorem mapOccurrencesFrom_append (before : Option Char) (block rest : List Char) :
    mapOccurrencesFrom pattern write block.length before (block ++ rest) =
      mapOccurrencesFrom pattern write 0 (block.getLast?.or before) rest := by
  induction block generalizing before with
  | nil => rfl
  | cons c block ih =>
    rw [List.length_cons, List.cons_append, mapOccurrencesFrom, ih, getLast?_cons_or]

theorem scanned_mapOccurrencesFrom (bounded : pattern.IsBounded) (before : Option Char)
    (text : List Char) :
    Scanned pattern write before text (mapOccurrencesFrom pattern write 0 before text) := by
  -- an occurrence is passed over as a whole, so the induction is on the length of the text
  induction size : text.length using Nat.strongRecOn generalizing before text with
  | ind size ih =>
    cases text with
    | nil => exact .done
    | cons c rest =>
      rw [mapOccurrencesFrom]
      split
      case h_1 more found =>
        obtain ⟨_, fits⟩ := bounded found
        have split : (c :: rest) = (c :: rest.take more) ++ rest.drop more := by simp
        have short : (rest.take more).length = more := by
          simp only [List.length_cons] at fits
          rw [List.length_take]
          omega
        have skipped := mapOccurrencesFrom_append pattern write (some c) (rest.take more)
          (rest.drop more)
        rw [short, List.take_append_drop] at skipped
        rw [skipped, getLast?_or_some, List.take_succ_cons]
        conv in Scanned _ _ _ _ _ => rw [split]
        refine .change ?_ (ih _ ?_ _ _ rfl)
        · rw [← split, found, List.length_cons, short]
        · simp only [← size, List.length_drop, List.length_cons]
          omega
      case h_2 free =>
        refine .keep ?_ (ih _ (by simp [← size]) _ _ rfl)
        cases found : pattern before (c :: rest) with
        | none => rfl
        | some taken =>
          cases taken with
          | zero => exact absurd (bounded found).1 (Nat.lt_irrefl 0)
          | succ more => exact absurd found (free more)

theorem scanned_mapOccurrences (bounded : pattern.IsBounded) (text : List Char) :
    Scanned pattern write none text (mapOccurrences pattern write text) :=
  scanned_mapOccurrencesFrom bounded none text

theorem Scanned.mapOccurrencesFrom_eq (bounded : pattern.IsBounded) {before : Option Char}
    {text out : List Char} (scanned : Scanned pattern write before text out) :
    mapOccurrencesFrom pattern write 0 before text = out := by
  induction scanned with
  | done => rfl
  | keep free _ ih =>
    rw [mapOccurrencesFrom, free, ih]
  | @change before block rest out found _ ih =>
    cases block with
    | nil => exact absurd (bounded found).1 (Nat.lt_irrefl 0)
    | cons c block =>
      rw [List.length_cons, List.cons_append] at found
      rw [List.cons_append, mapOccurrencesFrom, found]
      simp only [List.take_succ_cons, List.take_left, mapOccurrencesFrom_append, getLast?_or_some, ih]

theorem mapOccurrencesFrom_append_of_some (bounded : pattern.IsBounded) {before : Option Char}
    {block rest : List Char} (found : pattern before (block ++ rest) = some block.length) :
    mapOccurrencesFrom pattern write 0 before (block ++ rest) =
      write block ++ mapOccurrencesFrom pattern write 0 block.getLast? rest :=
  (Scanned.change found (scanned_mapOccurrencesFrom bounded _ rest)).mapOccurrencesFrom_eq bounded

theorem Scanned.not_mem {c : Char} (fresh : ∀ block, c ∉ write block) {before : Option Char}
    {text out : List Char} (scanned : Scanned pattern write before text out) (missing : c ∉ text) :
    c ∉ out := by
  induction scanned with
  | done => exact missing
  | keep _ _ ih =>
    rw [List.mem_cons, not_or] at missing ⊢
    exact ⟨missing.1, ih missing.2⟩
  | change _ _ ih =>
    rw [List.mem_append, not_or] at missing ⊢
    exact ⟨fresh _, ih missing.2⟩

theorem not_mem_replaceAll (bounded : pattern.IsBounded) {c : Char} {new text : List Char}
    (fresh : c ∉ new) (missing : c ∉ text) : c ∉ replaceAll pattern new text := by
  have scanned : Scanned pattern (fun _ => new) none text (replaceAll pattern new text) :=
    scanned_mapOccurrences bounded text
  exact scanned.not_mem (fun _ => fresh) missing

theorem Scanned.exists_of_none {before : Option Char} {c : Char} {rest out : List Char}
    (free : pattern before (c :: rest) = none)
    (scanned : Scanned pattern write before (c :: rest) out) :
    ∃ out', out = c :: out' ∧ Scanned pattern write (some c) rest out' := by
  generalize whole : c :: rest = text at scanned
  cases scanned with
  | done => cases whole
  | keep _ tail =>
    obtain ⟨rfl, rfl⟩ := List.cons.inj whole
    exact ⟨_, rfl, tail⟩
  | change found =>
    rw [← whole, free] at found
    cases found

/-! ## Texts without occurrences -/

theorem occursFrom_cons_eq_false {before : Option Char} {c : Char} {rest : List Char} :
    occursFrom pattern before (c :: rest) = false ↔
      pattern before (c :: rest) = none ∧ occursFrom pattern (some c) rest = false := by
  simp [occursFrom]

theorem occursFrom_of_append {before : Option Char} {start rest : List Char}
    (free : occursFrom pattern before (start ++ rest) = false) :
    occursFrom pattern (start.getLast?.or before) rest = false := by
  induction start generalizing before with
  | nil => exact free
  | cons c start ih =>
    rw [getLast?_cons_or]
    exact ih (occursFrom_cons_eq_false.mp free).2

theorem mapOccurrencesFrom_of_occursFrom {before : Option Char} {text : List Char}
    (free : occursFrom pattern before text = false) :
    mapOccurrencesFrom pattern write 0 before text = text := by
  induction text generalizing before with
  | nil => rfl
  | cons c rest ih =>
    obtain ⟨none, later⟩ := occursFrom_cons_eq_false.mp free
    rw [mapOccurrencesFrom, none]
    exact congrArg (c :: ·) (ih later)

theorem mapOccurrences_of_not_occurs {text : List Char} (free : occurs pattern text = false) :
    mapOccurrences pattern write text = text :=
  mapOccurrencesFrom_of_occursFrom free

/-- Occurrences are found at the places of a text, each with the character before it. -/
theorem occursFrom_eq_true_iff {before : Option Char} {text : List Char} :
    occursFrom pattern before text = true ↔
      ∃ front rest, text = front ++ rest ∧ rest ≠ [] ∧
        (pattern (front.getLast?.or before) rest).isSome = true := by
  induction text generalizing before with
  | nil =>
    simp only [occursFrom, Bool.false_eq_true, false_iff]
    rintro ⟨front, rest, split, nonempty, -⟩
    exact nonempty (List.append_eq_nil_iff.mp split.symm).2
  | cons c text ih =>
    rw [occursFrom, Bool.or_eq_true, ih]
    constructor
    · rintro (here | ⟨front, rest, rfl, nonempty, found⟩)
      · exact ⟨[], c :: text, rfl, List.cons_ne_nil _ _, here⟩
      · exact ⟨c :: front, rest, rfl, nonempty, getLast?_cons_or .. ▸ found⟩
    · rintro ⟨_ | ⟨d, front⟩, rest, split, nonempty, found⟩
      · exact .inl (by rw [split]; exact found)
      · obtain ⟨rfl, rfl⟩ := List.cons.inj split
        exact .inr ⟨front, rest, rfl, nonempty, getLast?_cons_or .. ▸ found⟩

theorem occursFrom_append_eq_false {before : Option Char} {start rest : List Char}
    (here : ∀ front back, start = front ++ back → back ≠ [] →
      pattern (front.getLast?.or before) (back ++ rest) = none)
    (later : occursFrom pattern (start.getLast?.or before) rest = false) :
    occursFrom pattern before (start ++ rest) = false := by
  induction start generalizing before with
  | nil => exact later
  | cons c start ih =>
    refine occursFrom_cons_eq_false.mpr ⟨here [] (c :: start) rfl (List.cons_ne_nil _ _), ih ?_ ?_⟩
    · intro front back split nonempty
      rw [← getLast?_cons_or _ _ before]
      exact here (c :: front) back (by rw [split]; rfl) nonempty
    · rw [← getLast?_cons_or _ _ before]
      exact later

theorem mapOccurrencesFrom_append_of_none {before : Option Char} {start rest : List Char}
    (here : ∀ front back, start = front ++ back → back ≠ [] →
      pattern (front.getLast?.or before) (back ++ rest) = none) :
    mapOccurrencesFrom pattern write 0 before (start ++ rest) =
      start ++ mapOccurrencesFrom pattern write 0 (start.getLast?.or before) rest := by
  induction start generalizing before with
  | nil => rfl
  | cons c start ih =>
    have free : pattern before (c :: (start ++ rest)) = none :=
      here [] (c :: start) rfl (List.cons_ne_nil _ _)
    rw [List.cons_append, mapOccurrencesFrom, free, getLast?_cons_or, List.cons_append]
    refine congrArg (c :: ·) (ih fun front back split nonempty => ?_)
    rw [← getLast?_cons_or _ _ before]
    exact here (c :: front) back (by rw [split]; rfl) nonempty

/-! ## Breaks -/

/-- No occurrence reaches up to a break, and none before the break asks for what follows it. -/
def Pattern.BreaksAt (pattern : Pattern) (c : Char) : Prop :=
  ∀ before front rest,
    (pattern before (front ++ c :: rest)).isSome = (pattern before front).isSome

/-- A text with a break in it is searched part by part. -/
theorem Pattern.BreaksAt.occursFrom_append_cons {c : Char} (breaks : pattern.BreaksAt c)
    (empty : ∀ before, pattern before [] = none) (before : Option Char) (front rest : List Char) :
    occursFrom pattern before (front ++ c :: rest) =
      (occursFrom pattern before front || occursFrom pattern (some c) rest) := by
  induction front generalizing before with
  | nil =>
    have here := breaks before [] rest
    rw [List.nil_append, empty] at here
    simp only [List.nil_append, occursFrom, here, Option.isSome_none, Bool.false_or]
  | cons d front ih =>
    rw [List.cons_append, occursFrom, occursFrom, ← List.cons_append, breaks, ih, Bool.or_assoc]

/-! ## Weights -/

/-- The weight of a text, from the weights of its characters. -/
def weigh (weight : Char → Int) : List Char → Int
  | [] => 0
  | c :: rest => weight c + weigh weight rest

@[simp] theorem weigh_cons (weight : Char → Int) (c : Char) (text : List Char) :
    weigh weight (c :: text) = weight c + weigh weight text :=
  rfl

@[simp] theorem weigh_append (weight : Char → Int) (a b : List Char) :
    weigh weight (a ++ b) = weigh weight a + weigh weight b := by
  induction a with
  | nil => exact (Int.zero_add _).symm
  | cons c a ih => rw [List.cons_append, weigh_cons, weigh_cons, ih, Int.add_assoc]

namespace Scanned

variable {weight : Char → Int} {before : Option Char} {text out : List Char}

theorem weigh_le (scanned : Scanned pattern write before text out)
    (heavier : ∀ before block rest, pattern before (block ++ rest) = some block.length →
      weigh weight block ≤ weigh weight (write block)) :
    weigh weight text ≤ weigh weight out := by
  induction scanned with
  | done => exact Int.le_refl _
  | keep _ _ ih => simpa using ih
  | change found _ ih =>
    have here := heavier _ _ _ found
    rw [weigh_append, weigh_append]
    omega

theorem weigh_lt (scanned : Scanned pattern write before text out)
    (heavier : ∀ before block rest, pattern before (block ++ rest) = some block.length →
      weigh weight block < weigh weight (write block))
    (occurs : occursFrom pattern before text = true) :
    weigh weight text < weigh weight out := by
  induction scanned with
  | done => simp [occursFrom] at occurs
  | keep free _ ih =>
    simp only [occursFrom, free, Option.isSome_none, Bool.false_or] at occurs
    simpa using ih occurs
  | change found tail =>
    have here := heavier _ _ _ found
    have there := tail.weigh_le fun before block rest found =>
      Int.le_of_lt (heavier before block rest found)
    rw [weigh_append, weigh_append]
    omega

end Scanned

section Heavier

variable {weight : Char → Int} (bounded : pattern.IsBounded)

include bounded

theorem weigh_le_mapOccurrences
    (heavier : ∀ before block rest, pattern before (block ++ rest) = some block.length →
      weigh weight block ≤ weigh weight (write block)) (text : List Char) :
    weigh weight text ≤ weigh weight (mapOccurrences pattern write text) :=
  (scanned_mapOccurrences bounded text).weigh_le heavier

/-- Where every change makes the text heavier, a text that does not get heavier is not changed. -/
theorem occurs_eq_false_of_weigh_le
    (heavier : ∀ before block rest, pattern before (block ++ rest) = some block.length →
      weigh weight block < weigh weight (write block)) {text : List Char}
    (same : weigh weight (mapOccurrences pattern write text) ≤ weigh weight text) :
    occurs pattern text = false := by
  rw [Bool.eq_false_iff]
  intro found
  have scanned : Scanned pattern write none text _ := scanned_mapOccurrences bounded text
  have := scanned.weigh_lt heavier found
  omega

end Heavier

end Polyfill.Text
