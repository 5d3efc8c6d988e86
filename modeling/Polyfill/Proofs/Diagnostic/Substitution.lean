import Mathlib.Logic.ExistsUnique
import Polyfill.Diagnostic
import Polyfill.Proofs.Text.Delimiter
import Polyfill.Proofs.Text.Scan

/-!
# Messages of formats

A format can be cut into placeholders and literal pieces without placeholders, and in one way only. In the
message the pieces stand as they are. A placeholder gives way to the argument whose number it writes,
whatever zeros stand in front of the number, and stays if there is no such argument. Arguments come in at
once and as they are, so that nothing in them is taken for a placeholder.
-/

namespace Polyfill.Diagnostic

open Text

/-! ## Numerals -/

/-- A numeral has digits, of any script. -/
def IsNumeral (digits : List Char) : Prop :=
  digits ≠ [] ∧ ∀ c ∈ digits, isDecimalDigit c = true

instance (digits : List Char) : Decidable (IsNumeral digits) :=
  decidable_of_iff (digits ≠ [] ∧ digits.all isDecimalDigit = true) (by rw [List.all_eq_true, IsNumeral])

def braced (digits : List Char) : List Char :=
  '{' :: (digits ++ ['}'])

theorem exists_digitChar {c : Char} (ascii : c.isDigit = true) : ∃ digit < 10, Nat.digitChar digit = c := by
  obtain ⟨least, most⟩ : 48 ≤ c.toNat ∧ c.toNat ≤ 57 := Char.isDigit_iff_toNat.mp ascii
  refine ⟨c.toNat - 48, by omega, Char.toNat_inj.mp ?_⟩
  rw [Nat.toNat_digitChar_of_lt_ten (by omega)]
  omega

/-- Digits behind a number in which there is one other than zero go on with its decimal form. -/
theorem toDigits_append {number : Nat} (positive : 0 < number) {digits : List Char}
    (ascii : ∀ c ∈ digits, c.isDigit = true) :
    Nat.toDigits 10 number ++ digits = Nat.toDigits 10 (Nat.ofDigitChars 10 digits number) := by
  induction digits generalizing number with
  | nil => rw [List.append_nil, Nat.ofDigitChars_nil]
  | cons c rest ih =>
    obtain ⟨first, later⟩ := List.forall_mem_cons.mp ascii
    obtain ⟨digit, small, rfl⟩ := exists_digitChar first
    have longer : Nat.toDigits 10 number ++ [digit.digitChar] = Nat.toDigits 10 (10 * number + digit) := by
      rw [← Nat.toDigits_of_lt_base small, Nat.toDigits_append_toDigits (by decide) positive small]
    rw [Nat.ofDigitChars_cons_digitChar_of_lt_ten small, ← ih (by omega) later, ← longer, List.append_assoc]
    rfl

theorem exists_zeros {digits : List Char} (nonempty : digits ≠ [])
    (ascii : ∀ c ∈ digits, c.isDigit = true) :
    ∃ zeros, digits = List.replicate zeros '0' ++ Nat.toDigits 10 (Nat.ofDigitChars 10 digits 0) := by
  induction digits with
  | nil => exact absurd rfl nonempty
  | cons c rest ih =>
    obtain ⟨first, later⟩ := List.forall_mem_cons.mp ascii
    obtain ⟨digit, small, rfl⟩ := exists_digitChar first
    rw [Nat.ofDigitChars_cons_digitChar_of_lt_ten small, Nat.mul_zero, Nat.zero_add]
    cases digit with
    | zero =>
      cases rest with
      | nil => exact ⟨0, rfl⟩
      | cons d rest =>
        obtain ⟨zeros, split⟩ := ih (List.cons_ne_nil d rest) later
        refine ⟨zeros + 1, ?_⟩
        rw [List.replicate_succ, List.cons_append, ← split]
        rfl
    | succ digit =>
      refine ⟨0, ?_⟩
      rw [← toDigits_append digit.succ_pos later, Nat.toDigits_of_lt_base small]
      rfl

theorem numeral?_eq_some_iff {digits : List Char} (nonempty : digits ≠ []) {number : Nat} :
    numeral? digits = some number ↔
      ∃ zeros, digits = List.replicate zeros '0' ++ Nat.toDigits 10 number := by
  have value : numeral? digits =
      if digits.all Char.isDigit then some (Nat.ofDigitChars 10 digits 0) else none := rfl
  constructor
  · intro valued
    rw [value, Option.ite_none_right_eq_some, List.all_eq_true, Option.some.injEq] at valued
    obtain ⟨ascii, rfl⟩ := valued
    exact exists_zeros nonempty ascii
  · rintro ⟨zeros, rfl⟩
    have ascii : (List.replicate zeros '0' ++ Nat.toDigits 10 number).all Char.isDigit = true := by
      rw [List.all_append, Bool.and_eq_true, List.all_replicate, List.all_eq_true]
      refine ⟨by simp, fun c among => ?_⟩
      exact Nat.isDigit_of_mem_toDigits (by decide) (by decide) among
    rw [value, if_pos ascii, Nat.ofDigitChars_append, Nat.ofDigitChars_replicate_zero, Nat.mul_zero,
      Nat.ofDigitChars_ten_toDigits]

/-! ## Fillings -/

/-- What stands in a message where the format has a placeholder with a numeral. -/
inductive Fills (args : List String) (digits : List Char) : List Char → Prop where
  /-- An argument is counted to, with zeros in front of its number or not. -/
  | argument (zeros : Nat) (index : Fin args.length)
      (counts : digits = List.replicate zeros '0' ++ Nat.toDigits 10 index) :
      Fills args digits args[index].toList
  /-- No argument is counted to: the number is too great, or not written in ASCII. -/
  | kept (beyond : ∀ zeros, ∀ index < args.length,
      digits ≠ List.replicate zeros '0' ++ Nat.toDigits 10 index) :
      Fills args digits (braced digits)

theorem fills_iff {args : List String} {digits : List Char} (nonempty : digits ≠ [])
    {block : List Char} : Fills args digits block ↔ block = fill args (braced digits) := by
  have inner : ((braced digits).drop 1).dropLast = digits := by simp [braced]
  rw [fill, inner]
  constructor
  · intro fills
    cases fills with
    | argument zeros index counts =>
      rw [(numeral?_eq_some_iff nonempty).mpr ⟨zeros, counts⟩]
      simp
    | kept beyond =>
      have unvalued : (numeral? digits).bind (args[·]?) = none := by
        rw [Option.bind_eq_none_iff]
        intro index valued
        obtain ⟨zeros, counts⟩ := (numeral?_eq_some_iff nonempty).mp valued
        rw [List.getElem?_eq_none_iff, ← Nat.not_lt]
        exact fun within => beyond zeros index within counts
      rw [unvalued]
  · rintro rfl
    split
    next arg found =>
      obtain ⟨index, valued, found⟩ := Option.bind_eq_some_iff.mp found
      obtain ⟨zeros, counts⟩ := (numeral?_eq_some_iff nonempty).mp valued
      obtain ⟨within, rfl⟩ := List.getElem?_eq_some_iff.mp found
      exact .argument zeros ⟨index, within⟩ counts
    next missing =>
      refine .kept fun zeros index within counts => ?_
      have valued := (numeral?_eq_some_iff nonempty).mpr ⟨zeros, counts⟩
      rw [valued, Option.bind_some, List.getElem?_eq_getElem within] at missing
      cases missing

/-! ## Placeholders -/

theorem isDecimalDigit_eq_false_of_brace {c : Char} (brace : c = '{' ∨ c = '}') :
    isDecimalDigit c = false := by
  rcases brace with rfl | rfl <;> decide

theorem placeholder_eq_some_iff {before : Option Char} {text : List Char} {size : Nat} :
    placeholder before text = some size ↔
      ∃ digits rest, IsNumeral digits ∧ text = braced digits ++ rest ∧
        size = (braced digits).length := by
  constructor
  · intro found
    unfold placeholder at found
    split at found
    case h_1 rest =>
      simp only [Option.ite_none_right_eq_some, Bool.and_eq_true, Bool.not_eq_true',
        List.isEmpty_eq_false_iff, beq_iff_eq, Option.some.injEq, drop_length_takeWhile] at found
      obtain ⟨⟨nonempty, closed⟩, rfl⟩ := found
      obtain ⟨behind, split⟩ := List.head?_eq_some_iff.mp closed
      have decimal := of_mem_takeWhile isDecimalDigit rest
      refine ⟨rest.takeWhile isDecimalDigit, behind, ⟨nonempty, decimal⟩, ?_, by simp [braced]⟩
      rw [braced, List.cons_append, List.append_assoc, List.singleton_append, ← split,
        List.takeWhile_append_dropWhile]
    case h_2 => cases found
  · rintro ⟨digits, rest, ⟨nonempty, decimal⟩, rfl, rfl⟩
    have ends : startsWith isDecimalDigit ('}' :: rest) = false :=
      isDecimalDigit_eq_false_of_brace (.inr rfl)
    have whole := takeWhile_append_of_ends decimal ends
    have split : braced digits ++ rest = '{' :: (digits ++ '}' :: rest) := by simp [braced]
    rw [split, placeholder]
    simp [whole, nonempty, braced]

theorem placeholder_braced {digits : List Char} (numeral : IsNumeral digits) (before : Option Char)
    (rest : List Char) : placeholder before (braced digits ++ rest) = some (braced digits).length :=
  placeholder_eq_some_iff.mpr ⟨digits, rest, numeral, rfl, rfl⟩

theorem isBounded_placeholder : placeholder.IsBounded := by
  intro before text size found
  obtain ⟨digits, rest, -, rfl, rfl⟩ := placeholder_eq_some_iff.mp found
  exact ⟨Nat.succ_pos _, by simp⟩

/-- A literal piece holds no placeholder. -/
def IsFree (literal : List Char) : Prop :=
  ∀ digits, IsNumeral digits → ¬ braced digits <:+: literal

theorem isFree_iff {literal : List Char} : IsFree literal ↔ occurs placeholder literal = false := by
  rw [← Bool.not_eq_true, occurs, occursFrom_eq_true_iff]
  constructor
  · rintro free ⟨front, rest, rfl, -, found⟩
    obtain ⟨size, found⟩ := Option.isSome_iff_exists.mp found
    obtain ⟨digits, more, numeral, rfl, -⟩ := placeholder_eq_some_iff.mp found
    exact free digits numeral ⟨front, more, List.append_assoc _ _ _⟩
  · rintro unfound digits numeral ⟨front, more, rfl⟩
    exact unfound ⟨front, braced digits ++ more, List.append_assoc _ _ _, by simp [braced],
      by rw [placeholder_braced numeral, Option.isSome_some]⟩

instance (literal : List Char) : Decidable (IsFree literal) :=
  decidable_of_iff _ isFree_iff.symm

/-- What may stand behind a literal piece: nothing, or a placeholder. -/
def Follows (rest : List Char) : Prop :=
  rest = [] ∨ ∃ digits more, IsNumeral digits ∧ rest = braced digits ++ more

/-- No placeholder starts in a literal piece and reaches into what follows it. -/
theorem placeholder_eq_none {front back rest : List Char} (free : IsFree (front ++ back))
    (nonempty : back ≠ []) (follows : Follows rest) (before : Option Char) :
    placeholder before (back ++ rest) = none := by
  rw [Option.eq_none_iff_forall_ne_some]
  intro size found
  obtain ⟨digits, more, numeral, split, -⟩ := placeholder_eq_some_iff.mp found
  rcases List.append_eq_append_iff.mp split with ⟨inner, closes, behind⟩ | ⟨inner, rfl, -⟩
  · cases inner with
    | nil =>
      rw [List.append_nil] at closes
      exact free digits numeral ⟨front, [], by rw [closes, List.append_nil]⟩
    | cons c inner =>
      -- what follows starts inside the placeholder, and so with a digit or with the closing brace
      obtain ⟨d, back, rfl⟩ := List.exists_cons_of_ne_nil nonempty
      have among : c ∈ digits ++ ['}'] := by
        rw [(List.cons.inj closes).2]
        simp
      rcases follows with rfl | ⟨digits', more', -, rfl⟩
      · cases behind
      · obtain ⟨rfl, -⟩ := List.cons.inj behind
        rcases List.mem_append.mp among with digit | closing
        · cases (numeral.2 _ digit).symm.trans (isDecimalDigit_eq_false_of_brace (.inl rfl))
        · simp at closing
  · exact free digits numeral ⟨front, inner, by rw [List.append_assoc]⟩

/-! ## Cuts -/

/-- A format, cut into literal pieces and placeholders. -/
inductive Cut where
  | last (literal : List Char) (free : IsFree literal)
  /-- A literal piece, and a placeholder behind it. -/
  | next (literal : List Char) (free : IsFree literal) (digits : List Char) (numeral : IsNumeral digits)
    (rest : Cut)

namespace Cut

def text : Cut → List Char
  | last literal _ => literal
  | next literal _ digits _ rest => literal ++ (braced digits ++ rest.text)

/-- A message of a cut format: its pieces, and in the place of each placeholder what fills it. -/
inductive Message (args : List String) : Cut → List Char → Prop where
  | last {literal free} : Message args (last literal free) literal
  | next {literal free digits numeral rest block out} (fills : Fills args digits block)
      (others : Message args rest out) :
      Message args (next literal free digits numeral rest) (literal ++ (block ++ out))

/-! ## The one cut of a format -/

theorem exists_text_cons {c : Char} (cut : Cut) {before : Option Char}
    (unfound : placeholder before (c :: cut.text) = none) :
    ∃ longer : Cut, longer.text = c :: cut.text := by
  have free_cons {literal rest : List Char} (free : IsFree literal)
      (unfound : placeholder before (c :: (literal ++ rest)) = none) : IsFree (c :: literal) := by
    intro digits numeral inside
    rcases List.infix_cons_iff.mp inside with ⟨more, split⟩ | inside
    · rw [← List.cons_append, ← split, List.append_assoc, placeholder_braced numeral] at unfound
      cases unfound
    · exact free digits numeral inside
  cases cut with
  | last literal free =>
    exact ⟨last (c :: literal) (free_cons free (by rwa [List.append_nil])), rfl⟩
  | next literal free digits numeral rest =>
    exact ⟨next (c :: literal) (free_cons free unfound) digits numeral rest, rfl⟩

/-- A scan for placeholders cuts the format that it scans. -/
theorem exists_of_scanned {write : List Char → List Char} {before : Option Char} {format out : List Char}
    (scanned : Scanned placeholder write before format out) : ∃ cut : Cut, cut.text = format := by
  have free_nil : IsFree [] := by decide
  induction scanned with
  | done => exact ⟨last [] free_nil, rfl⟩
  | keep unfound _ ih =>
    obtain ⟨cut, rfl⟩ := ih
    exact exists_text_cons cut unfound
  | @change _ block rest _ found _ ih =>
    obtain ⟨cut, rfl⟩ := ih
    obtain ⟨digits, more, numeral, split, size⟩ := placeholder_eq_some_iff.mp found
    obtain ⟨rfl, rfl⟩ := List.append_inj split size
    exact ⟨next [] free_nil digits numeral cut, rfl⟩

theorem eq_nil_of_free {literal more rest rest' : List Char} (free : IsFree (literal ++ more))
    {digits : List Char} (numeral : IsNumeral digits) (follows : Follows rest')
    (same : braced digits ++ rest = more ++ rest') : more = [] := by
  cases more with
  | nil => rfl
  | cons c more =>
    have found := placeholder_braced numeral none rest
    rw [same, placeholder_eq_none free (List.cons_ne_nil c more) follows] at found
    cases found

theorem first_eq {literal literal' digits digits' rest rest' : List Char}
    (free : IsFree literal) (free' : IsFree literal') (numeral : IsNumeral digits)
    (numeral' : IsNumeral digits')
    (same : literal ++ (braced digits ++ rest) = literal' ++ (braced digits' ++ rest')) :
    literal = literal' ∧ digits = digits' ∧ rest = rest' := by
  have pieces : literal = literal' ∧ braced digits ++ rest = braced digits' ++ rest' := by
    rcases List.append_eq_append_iff.mp same with ⟨more, rfl, behind⟩ | ⟨more, rfl, behind⟩
    · obtain rfl := eq_nil_of_free free' numeral (.inr ⟨_, _, numeral', rfl⟩) behind
      exact ⟨(List.append_nil _).symm, behind⟩
    · obtain rfl := eq_nil_of_free free numeral' (.inr ⟨_, _, numeral, rfl⟩) behind
      exact ⟨List.append_nil _, behind.symm⟩
  obtain ⟨rfl, behind⟩ := pieces
  have closing {digits : List Char} (numeral : IsNumeral digits) : '}' ∉ digits :=
    not_mem_of_forall numeral.2 (isDecimalDigit_eq_false_of_brace (.inr rfl))
  simp only [braced, List.cons_append, List.append_assoc, List.cons.injEq, true_and] at behind
  exact ⟨rfl, eq_of_append_cons_eq (closing numeral) (closing numeral') behind⟩

theorem text_injective : Function.Injective text := by
  intro cut other same
  -- the induction is on one of the cuts; the other one has to end, or to go on, where this one does
  induction cut generalizing other with
  | last literal free =>
    cases other with
    | last literal' free' =>
      obtain rfl : literal = literal' := same
      rfl
    | next literal' free' digits' numeral' rest' =>
      obtain rfl : literal = literal' ++ (braced digits' ++ rest'.text) := same
      exact absurd ⟨literal', rest'.text, List.append_assoc _ _ _⟩ (free digits' numeral')
  | next literal free digits numeral rest ih =>
    cases other with
    | last literal' free' =>
      obtain rfl : literal ++ (braced digits ++ rest.text) = literal' := same
      exact absurd ⟨literal, rest.text, List.append_assoc _ _ _⟩ (free' digits numeral)
    | next literal' free' digits' numeral' rest' =>
      obtain ⟨rfl, rfl, others⟩ := first_eq free free' numeral numeral' same
      obtain rfl := ih others
      rfl

theorem mapOccurrencesFrom_of_free {write : List Char → List Char} {literal rest : List Char}
    (free : IsFree literal) (follows : Follows rest) (before : Option Char) :
    mapOccurrencesFrom placeholder write 0 before (literal ++ rest) =
      literal ++ mapOccurrencesFrom placeholder write 0 (literal.getLast?.or before) rest := by
  refine mapOccurrencesFrom_append_of_none fun front back split nonempty => ?_
  subst split
  exact placeholder_eq_none free nonempty follows _

/-- What a cut format comes to is what a scan for placeholders makes of it. -/
theorem message_iff {args : List String} {cut : Cut} (before : Option Char) {out : List Char} :
    cut.Message args out ↔
      out = mapOccurrencesFrom placeholder (fill args) 0 before cut.text := by
  induction cut generalizing before out with
  | last literal free =>
    have kept : mapOccurrencesFrom placeholder (fill args) 0 before (literal ++ []) = literal ++ [] :=
      mapOccurrencesFrom_of_free free (.inl rfl) before
    rw [List.append_nil] at kept
    rw [text, kept]
    constructor
    · rintro ⟨⟩
      rfl
    · rintro rfl
      exact .last
  | next literal free digits numeral rest ih =>
    rw [text, mapOccurrencesFrom_of_free free (.inr ⟨_, _, numeral, rfl⟩),
      mapOccurrencesFrom_append_of_some isBounded_placeholder (placeholder_braced numeral _ _)]
    constructor
    · rintro (_ | ⟨fills, others⟩)
      rw [(fills_iff numeral.1).mp fills, (ih _).mp others]
    · rintro rfl
      exact .next ((fills_iff numeral.1).mpr rfl) ((ih _).mpr rfl)

end Cut

/--
A format is cut in exactly one way into placeholders and literal pieces that hold none. Its message consists
of the same pieces, and of what fills the placeholders, and of nothing else: the argument that is counted to,
as it is, or the placeholder itself if there is none.
-/
theorem formatMessage_substitutes (format : String) (args : List String) :
    (∃! cut : Cut, cut.text = format.toList) ∧
    ∀ cut : Cut, cut.text = format.toList → ∀ message : String,
      cut.Message args message.toList ↔ message = formatMessage format args := by
  constructor
  · have scanned : Scanned placeholder (fill args) none format.toList _ :=
      scanned_mapOccurrences isBounded_placeholder format.toList
    obtain ⟨cut, cuts⟩ := Cut.exists_of_scanned scanned
    exact ⟨cut, cuts, fun other same => Cut.text_injective (same.trans cuts.symm)⟩
  · intro cut cuts message
    rw [Cut.message_iff none, cuts, ← String.toList_inj, formatMessage, String.toList_ofList]
    rfl

/-- Braces around a placeholder, zeros in front, numbers out of range, and a digit of another script. -/
theorem formatMessage_substitutes_in_braces :
    let args := ["\x7b1\x7d", "beta"]
    let format := "\x7b\x7b00\x7d\x7d \x7b1\x7d\x7b2\x7d\x7b99999999999999999999\x7d\x7b\u0660\x7d\x7b\x7d"
    let message := "\x7b\x7b1\x7d\x7d beta\x7b2\x7d\x7b99999999999999999999\x7d\x7b\u0660\x7d\x7b\x7d"
    let cut : Cut :=
      .next ['{'] (by decide) ['0', '0'] (by decide) <|
        .next ['}', ' '] (by decide) ['1'] (by decide) <|
          .next [] (by decide) ['2'] (by decide) <|
            .next [] (by decide) (List.replicate 20 '9') (by decide) <|
              .next [] (by decide) ['\u0660'] (by decide) <| .last ['{', '}'] (by decide)
    cut.text = format.toList ∧ cut.Message args message.toList := by
  intro args format message cut
  have cuts : cut.text = format.toList := by decide +kernel
  exact ⟨cuts, ((formatMessage_substitutes format args).2 cut cuts message).mpr (by decide +kernel)⟩

end Polyfill.Diagnostic
