import Polyfill.Proofs.Text.Line

/-!
# Carriage returns before line feeds

The lines of a text end with line feeds, and each of these may have a carriage return before it. A scan
changes both texts alike if its pattern finds the same blocks in them, the returns apart; the first line
about which there is an answer is the same line.
-/

namespace Polyfill.Text

/-- A text with a carriage return before each of its line feeds. -/
def withReturns (text : List Char) : List Char :=
  text.flatMap fun c => if c = '\n' then ['\r', '\n'] else [c]

@[simp] theorem withReturns_append (a b : List Char) :
    withReturns (a ++ b) = withReturns a ++ withReturns b :=
  List.flatMap_append

@[simp] theorem withReturns_newline (rest : List Char) :
    withReturns ('\n' :: rest) = '\r' :: '\n' :: withReturns rest :=
  rfl

theorem withReturns_cons {c : Char} (other : c ≠ '\n') (rest : List Char) :
    withReturns (c :: rest) = c :: withReturns rest := by
  simp [withReturns, other]

theorem withReturns_eq_self {text : List Char} (single : '\n' ∉ text) : withReturns text = text := by
  induction text with
  | nil => rfl
  | cons c rest ih =>
    rw [List.mem_cons, not_or] at single
    rw [withReturns_cons (Ne.symm single.1), ih single.2]

theorem getLast?_withReturns (text : List Char) : (withReturns text).getLast? = text.getLast? := by
  cases List.eq_nil_or_concat' text with
  | inl empty =>
    subst empty
    rfl
  | inr ended =>
    obtain ⟨front, last, rfl⟩ := ended
    rw [withReturns_append, List.getLast?_concat]
    by_cases feed : last = '\n'
    · subst feed
      rw [withReturns_newline, ← List.singleton_append, ← List.append_assoc]
      exact List.getLast?_concat
    · rw [withReturns_cons feed]
      exact List.getLast?_concat

/-- The returns can be taken out again of a text that has had none. -/
theorem filter_withReturns {text : List Char} (plain : '\r' ∉ text) :
    (withReturns text).filter (· != '\r') = text := by
  induction text with
  | nil => rfl
  | cons c rest ih =>
    rw [List.mem_cons, not_or] at plain
    by_cases feed : c = '\n'
    · subst feed
      rw [withReturns_newline, List.filter_cons_of_neg (by decide), List.filter_cons_of_pos (by decide),
        ih plain.2]
    · have kept : (c != '\r') = true := bne_iff_ne.mpr (Ne.symm plain.1)
      simp only [withReturns_cons feed, List.filter_cons, kept, if_true, ih plain.2]

theorem filter_eq_self_of_plain {text : List Char} (plain : '\r' ∉ text) :
    text.filter (· != '\r') = text := by
  rw [List.filter_eq_self]
  intro c member
  exact bne_iff_ne.mpr fun same => plain (same ▸ member)

theorem infix_withReturns_iff {block text : List Char} (single : '\n' ∉ block) (block_plain : '\r' ∉ block)
    (plain : '\r' ∉ text) : block <:+: withReturns text ↔ block <:+: text := by
  constructor
  · rintro ⟨front, rest, whole⟩
    refine ⟨front.filter (· != '\r'), rest.filter (· != '\r'), ?_⟩
    rw [← filter_withReturns plain, ← whole, List.filter_append, List.filter_append,
      filter_eq_self_of_plain block_plain]
  · rintro ⟨front, rest, rfl⟩
    refine ⟨withReturns front, withReturns rest, ?_⟩
    rw [withReturns_append, withReturns_append, withReturns_eq_self single]

theorem StopsAtBreaks.read_withReturns {α : Type} {read : List Char → α} (stops : StopsAtBreaks read)
    (text : List Char) : read (withReturns text) = read text := by
  by_cases member : '\n' ∈ text
  · obtain ⟨line, rest, rfl, single⟩ := List.eq_append_cons_of_mem member
    rw [withReturns_append, withReturns_newline, withReturns_eq_self single, stops rfl, stops rfl]
  · rw [withReturns_eq_self member]

/-! ## Scans -/

/-- A pattern finds the same blocks in a text with returns, each with the returns that belong to it. -/
structure Pattern.IgnoresReturns (pattern : Pattern) : Prop where
  bounded : pattern.IsBounded
  newline (before : Option Char) (rest : List Char) : pattern before ('\n' :: rest) = none
  finds (before : Option Char) {text : List Char} (plain : '\r' ∉ text) :
    pattern before (withReturns text) =
      (pattern before text).map fun size => (withReturns (text.take size)).length

/-- In a text without line feeds there are no returns that could belong to a block. -/
theorem Pattern.IsBounded.finds_of_single {pattern : Pattern} (bounded : pattern.IsBounded)
    {text : List Char} (single : '\n' ∉ text) (before : Option Char) :
    pattern before (withReturns text) =
      (pattern before text).map fun size => (withReturns (text.take size)).length := by
  rw [withReturns_eq_self single]
  cases found : pattern before text with
  | none => rfl
  | some size =>
    have fits := (bounded found).2
    have within : '\n' ∉ text.take size := fun inside => single (List.mem_of_mem_take inside)
    rw [Option.map_some, withReturns_eq_self within, List.length_take, min_eq_left fits]

theorem ignoresReturns_of_stopsAtBreaks {pattern : Pattern} (bounded : pattern.IsBounded)
    (stops : pattern.StopsAtBreaks) : pattern.IgnoresReturns where
  bounded := bounded
  newline before rest := by
    have here : pattern before ('\n' :: rest) = pattern before [] := stops before rfl [] rest
    rw [here, bounded.eq_none]
  finds before text plain := by
    by_cases member : '\n' ∈ text
    · obtain ⟨line, rest, rfl, single⟩ := List.eq_append_cons_of_mem member
      have on_line := bounded.finds_of_single single before
      rw [withReturns_eq_self single] at on_line
      rw [(stops before).read_withReturns, stops before rfl]
      cases found : pattern before line with
      | none => rfl
      | some size =>
        rw [found] at on_line
        rw [Option.map_some, List.take_append_of_le_length (bounded found).2]
        exact on_line
    · exact bounded.finds_of_single member before

namespace Pattern.IgnoresReturns

variable {pattern : Pattern} {write : List Char → List Char} (ignores : pattern.IgnoresReturns)

include ignores

theorem scanned (steady : ∀ block, write (withReturns block) = withReturns (write block))
    {before : Option Char} {text out : List Char} (scanned : Scanned pattern write before text out)
    (plain : '\r' ∉ text) : Scanned pattern write before (withReturns text) (withReturns out) := by
  induction scanned with
  | done => exact .done
  | @keep before c rest out free tail ih =>
    have found := ignores.finds before plain
    rw [free, Option.map_none] at found
    have later := ih (List.not_mem_of_not_mem_cons plain)
    by_cases feed : c = '\n'
    · subst feed
      exact .keep found (.keep (ignores.newline _ _) later)
    · rw [withReturns_cons feed] at found ⊢
      rw [withReturns_cons feed]
      exact .keep found later
  | @change before block rest out here tail ih =>
    have found := ignores.finds before plain
    rw [here, Option.map_some, List.take_left, withReturns_append] at found
    rw [List.mem_append, not_or] at plain
    rw [withReturns_append, withReturns_append, ← steady]
    refine .change found ?_
    rw [getLast?_withReturns]
    exact ih plain.2

theorem replaceAll_withReturns {new text : List Char} (single : '\n' ∉ new) (plain : '\r' ∉ text) :
    replaceAll pattern new (withReturns text) = withReturns (replaceAll pattern new text) := by
  have scan : Scanned pattern (fun _ => new) none text (replaceAll pattern new text) :=
    scanned_mapOccurrences ignores.bounded text
  have steady (block : List Char) : new = withReturns new := (withReturns_eq_self single).symm
  exact (ignores.scanned steady scan plain).mapOccurrencesFrom_eq ignores.bounded

end Pattern.IgnoresReturns

/-! ## Lines -/

theorem firstLineFrom?_withReturns {α : Type} {read : List Char → Option α} (reads : ReadsLines read)
    (before : Option Char) (text : List Char) :
    firstLineFrom? read before (withReturns text) =
      (firstLineFrom? read before text).map fun found =>
        ((withReturns (text.take found.1)).length, found.2) := by
  induction text generalizing before with
  | nil =>
    have same : withReturns [] = [] := rfl
    simp only [same, firstLineFrom?, reads.empty, Option.map_none, ite_self]
  | cons c rest ih =>
    by_cases feed : c = '\n'
    · subst feed
      have silent (c : Char) (ends : isBreak c = true) (rest : List Char) : read (c :: rest) = none :=
        (reads.stops ends [] rest).trans reads.empty
      simp only [withReturns_newline, firstLineFrom?, silent '\r' rfl, silent '\n' rfl, ite_self, ih,
        Option.map_map]
      rfl
    · have same : read (c :: withReturns rest) = read (c :: rest) := by
        rw [← withReturns_cons feed]
        exact reads.stops.read_withReturns (c :: rest)
      rw [withReturns_cons feed, firstLineFrom?, firstLineFrom?, same, ih]
      split
      case h_1 => rfl
      case h_2 =>
        simp only [Option.map_map]
        congr 1
        funext found
        simp [withReturns_cons feed]

theorem firstAnswer?_withReturns {α : Type} {read : List Char → Option α} (reads : ReadsLines read)
    (text : List Char) : firstAnswer? read (withReturns text) = firstAnswer? read text := by
  rw [firstAnswer?, firstLine?, firstLineFrom?_withReturns reads, Option.map_map]
  rfl

end Polyfill.Text
