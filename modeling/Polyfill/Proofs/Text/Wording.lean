import Polyfill.Proofs.Text.Pieces
import Polyfill.Proofs.Text.Word

/-!
# Whole words, run by run and place by place

A word made of word characters stands alone exactly where it is a whole run, so that replacing it is a
map over the runs of a text. A word with other characters in it may be made of several runs; of such a
word it is said at each place of a text whether it ends there.
-/

namespace Polyfill.Text

/-! ## Runs -/

section Runs

variable {word new : List Char}

theorem wholeWord_eq_none_of_outside (nonempty : word ≠ []) (all : ∀ c ∈ word, isWord c = true)
    {before : Option Char} {c : Char} {rest : List Char} (outside : isWord c = false) :
    wholeWord word before (c :: rest) = none := by
  rw [← Option.not_isSome_iff_eq_none, wholeWord_isSome_iff_takeWhile all]
  intro found
  rw [List.takeWhile_cons_of_neg (by simp [outside])] at found
  exact nonempty found.2.symm

theorem wholeWord_eq_none_of_behind {before : Option Char} (behind : before.any isWord = true)
    (text : List Char) : wholeWord word before text = none := by
  rw [← Option.not_isSome_iff_eq_none, wholeWord_isSome_iff, behind]
  simp

theorem mapOccurrencesFrom_run {write : List Char → List Char} {run : List Char}
    (inside : ∀ c ∈ run, isWord c = true) {before : Option Char} (behind : before.any isWord = true)
    (rest : List Char) :
    mapOccurrencesFrom (wholeWord word) write 0 before (run ++ rest) =
      run ++ mapOccurrencesFrom (wholeWord word) write 0 (run.getLast?.or before) rest := by
  refine mapOccurrencesFrom_append_of_none fun front back split _ => ?_
  refine wholeWord_eq_none_of_behind ?_ (back ++ rest)
  cases last : front.getLast? with
  | none => exact behind
  | some c =>
    have among : c ∈ run := split ▸ List.mem_append_left back (List.mem_of_getLast? last)
    exact inside c among

theorem mapOccurrencesFrom_run_append (nonempty : word ≠ []) (all : ∀ c ∈ word, isWord c = true)
    {before : Option Char} (outside : before.any isWord = false) {run rest : List Char}
    (run_nonempty : run ≠ []) (inside : ∀ c ∈ run, isWord c = true)
    (ends : startsWith isWord rest = false) :
    mapOccurrencesFrom (wholeWord word) (fun _ => new) 0 before (run ++ rest) =
      (if run = word then new else run) ++
        mapOccurrencesFrom (wholeWord word) (fun _ => new) 0 run.getLast? rest := by
  by_cases same : run = word
  · subst same
    have bounded : (wholeWord run).IsBounded := isBounded_wholeWord nonempty
    have found : wholeWord run before (run ++ rest) = some run.length :=
      wholeWord_eq_some_iff.mpr ⟨outside, rfl, rest, rfl, ends⟩
    rw [if_pos rfl, mapOccurrencesFrom_append_of_some bounded found]
  · have whole : (run ++ rest).takeWhile isWord = run := takeWhile_append_of_ends inside ends
    have here : wholeWord word before (run ++ rest) = none := by
      rw [← Option.not_isSome_iff_eq_none, wholeWord_isSome_iff_takeWhile all, whole]
      exact fun found => same found.2
    rw [if_neg same]
    cases run with
    | nil => exact absurd rfl run_nonempty
    | cons c run =>
      rw [List.forall_mem_cons] at inside
      rw [List.cons_append] at here
      have behind : (some c).any isWord = true := inside.1
      rw [List.cons_append, mapOccurrencesFrom, here, ← getLast?_or_some, List.cons_append]
      exact congrArg (c :: ·) (mapOccurrencesFrom_run inside.2 behind rest)

theorem mapOccurrencesFrom_eq_flatMap_runs (nonempty : word ≠ [])
    (all : ∀ c ∈ word, isWord c = true) (before : Option Char) (text : List Char)
    (apart : before.any isWord = false ∨ startsWith isWord text = false) :
    mapOccurrencesFrom (wholeWord word) (fun _ => new) 0 before text =
      (runs text).flatMap fun run => if run = word then new else run := by
  -- a run is passed over as a whole, so the induction is on the length of the text
  induction size : text.length using Nat.strongRecOn generalizing before text with
  | ind size ih =>
    cases text with
    | nil => rfl
    | cons c rest =>
      cases inside : isWord c with
      | false =>
        have here : wholeWord word before (c :: rest) = none :=
          wholeWord_eq_none_of_outside nonempty all inside
        have other : [c] ≠ word := by
          intro same
          have member : c ∈ word := same ▸ List.mem_singleton_self c
          rw [all c member] at inside
          cases inside
        have later := ih rest.length (by simp [← size]) (some c) rest (.inl inside) rfl
        rw [mapOccurrencesFrom, here, runs_cons_of_outside inside, List.flatMap_cons, if_neg other]
        exact congrArg (c :: ·) later
      | true =>
        have outside : before.any isWord = false := by
          refine apart.resolve_right ?_
          simp [startsWith, inside]
        have run_nonempty : (c :: rest).takeWhile isWord ≠ [] := by
          rw [List.takeWhile_cons_of_pos inside]
          exact List.cons_ne_nil _ _
        have run_all := of_mem_takeWhile isWord (c :: rest)
        have ends := startsWith_dropWhile isWord (c :: rest)
        have split : (c :: rest).takeWhile isWord ++ (c :: rest).dropWhile isWord = c :: rest :=
          List.takeWhile_append_dropWhile
        have length := congrArg List.length split
        have run_length := List.length_pos_iff.mpr run_nonempty
        rw [List.length_append, size] at length
        generalize (c :: rest).takeWhile isWord = run at *
        generalize (c :: rest).dropWhile isWord = behind at *
        rw [← split, mapOccurrencesFrom_run_append nonempty all outside run_nonempty run_all ends,
          ih behind.length (by omega) run.getLast? behind (.inr ends) rfl,
          runs_append run_nonempty run_all ends, List.flatMap_cons]

/-- Replacing a word made of word characters maps the runs of a text. -/
theorem replaceAll_eq_flatMap_runs (nonempty : word ≠ []) (all : ∀ c ∈ word, isWord c = true)
    (text : List Char) :
    replaceAll (wholeWord word) new text =
      (runs text).flatMap fun run => if run = word then new else run :=
  mapOccurrencesFrom_eq_flatMap_runs nonempty all none text (.inl rfl)

end Runs

/-! ## Places -/

/-- A word that stands alone ends at a place, given the text before the place and the one behind it. -/
def EndsWord (word front rest : List Char) : Prop :=
  ∃ before, front = before ++ word ∧ before.getLast?.any isWord = false ∧ startsWith isWord rest = false

theorem endsWord_iff {word front rest : List Char} :
    EndsWord word front rest ↔ word <:+ front ∧
      (front.take (front.length - word.length)).getLast?.any isWord = false ∧
      startsWith isWord rest = false := by
  constructor
  · intro ends
    obtain ⟨before, rfl, outside, free⟩ := ends
    refine ⟨List.suffix_append before word, ?_, free⟩
    rwa [List.length_append, Nat.add_sub_cancel, List.take_left]
  · intro found
    obtain ⟨⟨before, rfl⟩, outside, free⟩ := found
    rw [List.length_append, Nat.add_sub_cancel, List.take_left] at outside
    exact ⟨before, rfl, outside, free⟩

instance (word front rest : List Char) : Decidable (EndsWord word front rest) :=
  decidable_of_iff _ endsWord_iff.symm

/-- What is left of a text, with a mark wherever a word has ended, given the text before it. -/
def markFrom (word mark front : List Char) : List Char → List Char
  | [] => []
  | c :: rest =>
    c :: ((if EndsWord word (front ++ [c]) rest then mark else []) ++ markFrom word mark (front ++ [c]) rest)

/-- A text with a mark behind every place where a word stands alone. -/
def markWords (word mark text : List Char) : List Char :=
  markFrom word mark [] text

/-- No word that stands alone ends so shortly behind a place that it has started before the place. -/
def Between (word front text : List Char) : Prop :=
  ∀ more rest, text = more ++ rest → more ≠ [] → more.length < word.length →
    ¬ EndsWord word (front ++ more) rest

section Places

variable {word mark front rest : List Char}

theorem endsWord_append_iff {more : List Char} (length : more.length = word.length) :
    EndsWord word (front ++ more) rest ↔
      more = word ∧ wholeWord word front.getLast? (more ++ rest) = some word.length := by
  rw [wholeWord_eq_some_iff]
  constructor
  · intro ends
    obtain ⟨before, split, outside, free⟩ := ends
    obtain ⟨rfl, rfl⟩ := List.append_inj' split length
    exact ⟨rfl, outside, rfl, rest, rfl, free⟩
  · intro found
    obtain ⟨rfl, outside, -, behind, split, free⟩ := found
    rw [List.append_cancel_left split]
    exact ⟨front, rfl, outside, free⟩

theorem Between.of_free {text : List Char} (between : Between word front text)
    (free : wholeWord word front.getLast? text = none) {more : List Char} (split : text = more ++ rest)
    (nonempty : more ≠ []) (short : more.length ≤ word.length) :
    ¬ EndsWord word (front ++ more) rest := by
  cases Nat.lt_or_eq_of_le short with
  | inl shorter => exact between more rest split nonempty shorter
  | inr length =>
    rw [endsWord_append_iff length, ← split, free]
    exact fun found => nomatch found.2

/-- Behind a word that does not overlap with itself, no word ends that has started in it. -/
theorem between_of_borderless (borderless : EndsApart word.tail word) (front text : List Char) :
    Between word (front ++ word) text := by
  intro more rest _ nonempty short ends
  obtain ⟨before, split, -⟩ := ends
  -- the end of the word would start the next one
  have cut : front ++ word ++ more =
      front ++ word.take more.length ++ (word.drop more.length ++ more) := by
    simp only [List.append_assoc]
    rw [← List.append_assoc (word.take _), List.take_append_drop]
  have length : (word.drop more.length ++ more).length = word.length := by
    rw [List.length_append, List.length_drop]
    omega
  rw [cut] at split
  obtain ⟨-, same⟩ := List.append_inj' split length
  have ending : word.drop more.length ∈ word.tail.tails := by
    have positive := List.length_pos_iff.mpr nonempty
    rw [List.mem_tails, ← List.drop_one]
    obtain ⟨count, count_eq⟩ := Nat.exists_eq_add_of_le' positive
    rw [count_eq, Nat.add_comm count, ← List.drop_drop]
    exact List.drop_suffix count _
  have some_left : word.drop more.length ≠ [] := by
    rw [Ne, List.drop_eq_nil_iff]
    omega
  exact (borderless _ ending some_left).1 ⟨more, same⟩

theorem markFrom_append {block : List Char}
    (free : ∀ start back, block = start ++ back → start ≠ [] →
      ¬ EndsWord word (front ++ start) (back ++ rest)) :
    markFrom word mark front (block ++ rest) = block ++ markFrom word mark (front ++ block) rest := by
  induction block generalizing front with
  | nil => simp
  | cons c block ih =>
    have here : ¬ EndsWord word (front ++ [c]) (block ++ rest) :=
      free [c] block rfl (List.cons_ne_nil c [])
    have later : ∀ start back, block = start ++ back → start ≠ [] →
        ¬ EndsWord word (front ++ [c] ++ start) (back ++ rest) := by
      intro start back split _
      rw [List.append_assoc]
      exact free (c :: start) back (congrArg (c :: ·) split) (List.cons_ne_nil c start)
    rw [List.cons_append, markFrom, if_neg here, ih later]
    simp

/-- A word that stands alone is marked behind its last character, and nowhere else. -/
theorem markFrom_word (nonempty : word ≠ []) (between : Between word front (word ++ rest))
    (ends : EndsWord word (front ++ word) rest) :
    markFrom word mark front (word ++ rest) = word ++ mark ++ markFrom word mark (front ++ word) rest := by
  obtain ⟨init, last, rfl⟩ : ∃ init last, word = init ++ [last] :=
    (List.eq_nil_or_concat' word).resolve_left nonempty
  have unmarked : ∀ start back, init = start ++ back → start ≠ [] →
      ¬ EndsWord (init ++ [last]) (front ++ start) (back ++ last :: rest) := by
    intro start back split some_start
    refine between start (back ++ last :: rest) ?_ some_start ?_
    · simp [split]
    · simp only [split, List.length_append, List.length_singleton]
      omega
  rw [← List.append_assoc] at ends
  rw [List.append_assoc, List.singleton_append, markFrom_append unmarked, markFrom, if_pos ends]
  simp

theorem Scanned.markFrom_eq (nonempty : word ≠ []) (borderless : EndsApart word.tail word)
    {before : Option Char} {text out : List Char}
    (scanned : Scanned (wholeWord word) (fun _ => word ++ mark) before text out)
    (last : front.getLast? = before) (between : Between word front text) :
    markFrom word mark front text = out := by
  induction scanned generalizing front with
  | done => rfl
  | @keep before c rest out free tail ih =>
    subst last
    have positive := List.length_pos_iff.mpr nonempty
    have here : ¬ EndsWord word (front ++ [c]) rest :=
      between.of_free free rfl (List.cons_ne_nil c []) positive
    have onward : Between word (front ++ [c]) rest := by
      intro more behind split _ shorter
      rw [List.append_assoc]
      exact between.of_free free (congrArg (c :: ·) split) (List.cons_ne_nil c more) shorter
    rw [markFrom, if_neg here, List.nil_append, ih (by simp) onward]
  | @change before block rest out found tail ih =>
    subst last
    obtain ⟨-, size, more, split, -⟩ := wholeWord_eq_some_iff.mp found
    obtain ⟨rfl, -⟩ := List.append_inj split size
    have ends : EndsWord block (front ++ block) rest := (endsWord_append_iff rfl).mpr ⟨rfl, found⟩
    have onward : Between block (front ++ block) rest := between_of_borderless borderless front rest
    have end_of_front : (front ++ block).getLast? = block.getLast? :=
      List.getLast?_append_of_ne_nil front nonempty
    rw [markFrom_word nonempty between ends, ih end_of_front onward]

theorem replaceAll_eq_markWords (nonempty : word ≠ []) (borderless : EndsApart word.tail word)
    (mark text : List Char) :
    replaceAll (wholeWord word) (word ++ mark) text = markWords word mark text := by
  have scanned : Scanned (wholeWord word) (fun _ => word ++ mark) none text _ :=
    scanned_mapOccurrences (isBounded_wholeWord nonempty) text
  have start : Between word [] text := by
    intro more rest _ _ shorter ends
    obtain ⟨before, split, -⟩ := ends
    have length := congrArg List.length split
    simp only [List.nil_append, List.length_append] at length
    omega
  exact (scanned.markFrom_eq nonempty borderless rfl start).symm

theorem not_endsWord_of_not_occurs (nonempty : word ≠ []) {text : List Char}
    (free : occurs (wholeWord word) text = false) (split : text = front ++ rest) :
    ¬ EndsWord word front rest := by
  intro ends
  obtain ⟨before, rfl, outside, open_end⟩ := ends
  rw [Bool.eq_false_iff] at free
  apply free
  rw [occurs, occursFrom_eq_true_iff]
  refine ⟨before, word ++ rest, by rw [split, List.append_assoc], by simp [nonempty], ?_⟩
  rw [Option.or_none, wholeWord_isSome_iff]
  exact ⟨outside, rest, rfl, open_end⟩

end Places

end Polyfill.Text
