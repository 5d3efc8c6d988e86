import Polyfill.Json.Value
import Polyfill.Json.Token

/-!
# Laws of written scalars

What is written for a text or for an integer is scanned as one scalar, and that scalar says what was
written.
-/

namespace Polyfill.Json

/-! ## Literals -/

namespace Literal

/-- The piece that a written character is scanned as. -/
def piece (c : Char) : Piece :=
  if c.toNat < 0x20 && !(['\x08', '\x0c', '\n', '\r', '\t'].contains c) then .unit c.toNat
  else .char c

/-- The literal that a written text is scanned as. -/
def written (text : String) : Literal :=
  ⟨text.toList.map piece, none⟩

theorem hexDigit?_digitChar : ∀ digit < 16, hexDigit? (Nat.digitChar digit) = some digit := by
  decide

theorem scanUnit_hexPair {number : Nat} (small : number < 0x20) (rest : List Char) :
    scanUnit ('0' :: '0' :: hexPair number ++ rest) = .ok number := by
  have zero : hexDigit? '0' = some 0 := by decide
  have high := hexDigit?_digitChar (number / 16) (by omega)
  have low := hexDigit?_digitChar (number % 16) (by omega)
  have value : 16 * (number / 16) + number % 16 = number := by omega
  simp [scanUnit, hexPair, hexValue?, zero, high, low, value]

theorem exists_scanPiece_writeChar (c : Char) :
    ∃ first more, writeChar c = first :: more ∧ first ≠ '"' ∧
      ∀ rest, scanPiece first (more ++ rest) = .ok (piece c, more.length) := by
  unfold writeChar
  split
  case h_8 quote backslash backspace feed newline ret tab =>
    split
    case isTrue small =>
      refine ⟨'\\', ['u', '0', '0'] ++ hexPair c.toNat, rfl, by decide, fun rest => ?_⟩
      have numbered : piece c = .unit c.toNat := by simp_all [piece]
      have scans := scanUnit_hexPair small rest
      simp only [List.cons_append, List.nil_append, scanPiece, beq_self_eq_true, ↓reduceIte, numbered]
      rw [← List.cons_append, ← List.cons_append, scans]
      rfl
    case isFalse large =>
      have other : (c == '\\') = false := beq_eq_false_iff_ne.mpr backslash
      refine ⟨c, [], rfl, quote, fun rest => ?_⟩
      simp [scanPiece, piece, large, other]
  all_goals exact ⟨_, _, rfl, by decide, fun rest => rfl⟩

theorem scanFrom_length_append (skipped rest : List Char) :
    scanFrom skipped.length (skipped ++ rest) =
      ((scanFrom 0 rest).1, (scanFrom 0 rest).2 + skipped.length) := by
  induction skipped with
  | nil => rfl
  | cons c skipped ih =>
    rw [List.length_cons, List.cons_append, scanFrom, ih]
    simp only [Prod.mk.injEq, true_and]
    omega

theorem scanFrom_writeChar (c : Char) (rest : List Char) :
    scanFrom 0 (writeChar c ++ rest) =
      (⟨piece c :: (scanFrom 0 rest).1.pieces, (scanFrom 0 rest).1.ending⟩,
        (scanFrom 0 rest).2 + (writeChar c).length) := by
  obtain ⟨first, more, written, goesOn, scans⟩ := exists_scanPiece_writeChar c
  rw [written, List.cons_append, scanFrom, scans]
  simp only [beq_iff_eq, goesOn, ↓reduceIte, scanFrom_length_append]
  rw [List.length_cons, Nat.add_assoc]

theorem scan_flatMap_writeChar (chars rest : List Char) :
    scan (chars.flatMap writeChar ++ '"' :: rest) =
      (⟨chars.map piece, none⟩, (chars.flatMap writeChar).length + 1) := by
  rw [scan]
  induction chars with
  | nil => rfl
  | cons c chars ih =>
    rw [List.flatMap_cons, List.append_assoc, scanFrom_writeChar, ih, List.length_append]
    simp only [List.map_cons, Prod.mk.injEq, true_and]
    omega

theorem readPieces_piece (c : Char) (rest : List Piece) :
    readPieces none (piece c :: rest) = (c :: ·) <$> readPieces none rest := by
  rw [piece]
  split
  case isTrue numbered =>
    have small : c.toNat < 0x20 := by simp_all
    have low : isLow c.toNat = false := by simp [isLow]; omega
    have high : isHigh c.toNat = false := by simp [isHigh]; omega
    rw [readPieces.eq_def]
    simp only [low, high, Bool.false_eq_true, ↓reduceIte, Char.ofNat_toNat]
    rfl
  case isFalse plain => rfl

@[simp] theorem read_written (text : String) : (written text).read = .ok text := by
  have pieces (chars : List Char) : readPieces none (chars.map piece) = .ok chars := by
    induction chars with
    | nil => rfl
    | cons c chars ih => rw [List.map_cons, readPieces_piece, ih]; rfl
  simp [read, written, pieces, Functor.map, Except.map]

end Literal

/-! ## Numerals -/

namespace Numeral

/-- The decimal digits of a number, the greatest first. -/
def digits (number : Nat) : List Nat :=
  (Nat.toDigits 10 number).map fun c => c.toNat - '0'.toNat

/-- The numeral that a written integer is scanned as. -/
def ofInt (value : Int) : Numeral where
  negative := decide (value < 0)
  whole := digits value.natAbs

/-- Whether a text goes on with a character that belongs to a numeral in front of it. -/
def isContinued : List Char → Bool
  | [] => false
  | c :: _ => c.isDigit || c == '.' || c == 'e' || c == 'E'

@[simp] theorem length_digits (number : Nat) :
    (digits number).length = (Nat.toDigits 10 number).length := by
  simp [digits]

theorem digits_of_lt {number : Nat} (small : number < 10) : digits number = [number] := by
  rw [digits, Nat.toDigits_of_lt_base small, List.map_singleton]
  exact congrArg ([·]) (Nat.toNat_digitChar_sub_48_of_lt_ten small)

theorem digits_of_le {number : Nat} (large : 10 ≤ number) :
    digits number = digits (number / 10) ++ [number % 10] := by
  rw [digits, Nat.toDigits_of_base_le (by decide) large, List.map_append, List.map_singleton]
  have last : number % 10 < 10 := Nat.mod_lt _ (by decide)
  exact congrArg (digits (number / 10) ++ [·]) (Nat.toNat_digitChar_sub_48_of_lt_ten last)

theorem head?_digits {number : Nat} (positive : 0 < number) : (digits number).head? ≠ some 0 := by
  induction number using Nat.strongRecOn with
  | ind number ih =>
    by_cases small : number < 10
    · rw [digits_of_lt small]
      simp; omega
    · have front := ih (number / 10) (by omega) (by omega)
      rw [digits_of_le (by omega)]
      cases same : digits (number / 10) with
      | nil => simp [digits] at same
      | cons digit rest => simpa [same] using front

theorem digits_ne_zero_cons (number digit : Nat) (rest : List Nat) :
    digits number ≠ 0 :: digit :: rest := by
  intro same
  cases number with
  | zero => simp [digits_of_lt] at same
  | succ number => exact head?_digits number.succ_pos (by simp [same])

theorem absorb_append {significand result : Nat} {front back : List Nat}
    (fits : absorb significand front = (result, 0)) :
    absorb significand (front ++ back) = absorb result back := by
  induction front generalizing significand with
  | nil =>
    cases fits
    rfl
  | cons digit front ih =>
    rw [absorb] at fits
    rw [List.cons_append, absorb]
    split at fits
    case isTrue below => rw [if_pos below, ih fits]
    case isFalse above => simp at fits

theorem absorb_digits {number : Nat} (below : number < wordLimit) :
    absorb 0 (digits number) = (number, 0) := by
  induction number using Nat.strongRecOn with
  | ind number ih =>
    by_cases small : number < 10
    · simp [digits_of_lt small, absorb, below]
    · have value : 10 * (number / 10) + number % 10 = number := by omega
      rw [digits_of_le (by omega), absorb_append (ih (number / 10) (by omega) (by omega))]
      simp [absorb, value, below]

theorem value_ofInt {number : Nat} (below : number < wordLimit) :
    (ofInt number).value = .ok (.integer number) := by
  simp [value, ofInt, isWhole, absorb_digits below]

theorem leadingDigits_toDigits_append (number : Nat) {rest : List Char}
    (ends : isContinued rest = false) :
    leadingDigits (Nat.toDigits 10 number ++ rest) = digits number := by
  rw [leadingDigits, digits, List.takeWhile_append_of_pos]
  · cases rest with
    | nil => simp
    | cons c rest =>
      have other : c.isDigit = false := by simp_all [isContinued]
      simp [other]
  · intro c among
    exact Nat.isDigit_of_mem_toDigits (by decide) (by decide) among

theorem scanDigits_of_leadingDigits {text : List Char} {found : List Nat}
    (leading : leadingDigits text = found) (nonempty : found ≠ []) : scanDigits text = .ok found := by
  subst leading
  unfold scanDigits
  split
  case h_1 none_left => exact absurd none_left nonempty
  case h_2 none_left => exact absurd none_left nonempty
  case h_3 => rfl

theorem scanWhole_toDigits_append (number : Nat) {rest : List Char}
    (ends : isContinued rest = false) :
    scanWhole (Nat.toDigits 10 number ++ rest) = .ok (digits number) := by
  have leading := leadingDigits_toDigits_append number ends
  rw [scanWhole, scanDigits_of_leadingDigits leading (by simp [digits])]
  split
  case h_1 digit rest same => exact absurd (Except.ok.inj same) (digits_ne_zero_cons number digit rest)
  case h_2 => rfl

theorem scanFraction_of_ends {rest : List Char} (ends : isContinued rest = false) :
    scanFraction rest = .ok ([], 0) := by
  unfold scanFraction
  split
  case h_1 => simp [isContinued] at ends
  case h_2 => rfl

theorem scanExponent_of_ends {rest : List Char} (ends : isContinued rest = false) :
    scanExponent rest = .ok (none, 0) := by
  cases rest with
  | nil => rfl
  | cons c rest =>
    simp only [isContinued, Bool.or_eq_false_iff] at ends
    simp only [scanExponent, ends.1.2, ends.2]
    rfl

theorem text_integer (value : Int) :
    (Number.integer value).text =
      (if value < 0 then ['-'] else []) ++ Nat.toDigits 10 value.natAbs := by
  rw [Number.text, Int.toString_eq_repr]
  cases value with
  | ofNat number => simp [Int.repr]
  | negSucc number => simp [Int.repr, String.toList_append, Int.negSucc_lt_zero]

theorem head?_text_integer (value : Int) (rest : List Char) :
    (((Number.integer value).text ++ rest).head? == some '-') = decide (value < 0) := by
  rw [text_integer]
  by_cases negative : value < 0
  · simp [negative]
  · have digit : ∀ c ∈ Nat.toDigits 10 value.natAbs, c.isDigit = true := by
      intro c among
      exact Nat.isDigit_of_mem_toDigits (by decide) (by decide) among
    cases same : Nat.toDigits 10 value.natAbs with
    | nil => simp at same
    | cons first more =>
      have other : first ≠ '-' := by
        rintro rfl
        exact absurd (digit '-' (by simp [same])) (by decide)
      simp [negative, other]

/-- A written integer is scanned as a whole, and no further than it goes. -/
theorem scan_text_integer (value : Int) {rest : List Char} (ends : isContinued rest = false) :
    scan ((Number.integer value).text ++ rest) =
      .ok (ofInt value, (Number.integer value).text.length) := by
  rw [scan, head?_text_integer, text_integer]
  have sign : (if decide (value < 0) then 1 else 0) = (if value < 0 then ['-'] else []).length := by
    by_cases negative : value < 0 <;> simp [negative]
  generalize (if value < 0 then ['-'] else []) = front at sign ⊢
  simp only [sign, List.append_assoc, List.drop_left, scanWhole_toDigits_append _ ends]
  -- behind the sign and the digits, only the rest is left
  simp [scanFraction_of_ends ends, scanExponent_of_ends ends, bind, Except.bind, pure, Except.pure,
    ofInt]

end Numeral

/-! ## Tokens -/

namespace Token

theorem scanFrom_length_append (skipped rest : List Char) :
    scanFrom skipped.length (skipped ++ rest) = scanFrom 0 rest := by
  induction skipped with
  | nil => rfl
  | cons c skipped ih => exact ih

theorem scanFrom_gaps {gaps : List Char} (blank : ∀ c ∈ gaps, isGap c = true) (rest : List Char) :
    scanFrom 0 (gaps ++ rest) = scanFrom 0 rest := by
  induction gaps with
  | nil => rfl
  | cons c gaps ih =>
    rw [List.cons_append, scanFrom, if_pos (blank c (by simp))]
    exact ih fun c among => blank c (by simp [among])

theorem scanFrom_of_scanToken {c : Char} {more rest : List Char} {token : Token}
    (solid : isGap c = false) (scans : scanToken c (more ++ rest) = (token, more.length)) :
    scanFrom 0 (c :: more ++ rest) = token :: scanFrom 0 rest := by
  rw [List.cons_append, scanFrom, scans]
  simp [solid, scanFrom_length_append]

theorem scanFrom_write (text : String) (rest : List Char) :
    scanFrom 0 (Literal.write text ++ rest) =
      .scalar (.text (.written text)) :: scanFrom 0 rest := by
  have scans := Literal.scan_flatMap_writeChar text.toList rest
  refine scanFrom_of_scanToken rfl ?_
  simp [scanToken, scans, Literal.written]

theorem scanToken_of_startsNumeral {c : Char} (starts : c == '-' || c.isDigit) (rest : List Char) :
    isGap c = false ∧ scanToken c rest = scanNumeral c rest := by
  constructor
  · rw [Bool.eq_false_iff]
    intro gap
    simp only [isGap, Bool.or_eq_true, beq_iff_eq] at gap
    obtain ((rfl | rfl) | rfl) | rfl := gap <;> exact absurd starts (by decide)
  · unfold scanToken
    split
    case h_11 => rw [if_pos starts]
    all_goals exact absurd starts (by decide)

theorem scanFrom_text_integer (value : Int) {rest : List Char}
    (ends : Numeral.isContinued rest = false) :
    scanFrom 0 ((Number.integer value).text ++ rest) =
      .scalar (.number (.ofInt value)) :: scanFrom 0 rest := by
  have scans := Numeral.scan_text_integer value ends
  have starts : ∀ c ∈ (Number.integer value).text.head?, c == '-' || c.isDigit := by
    rw [Numeral.text_integer]
    split
    case isTrue => simp
    case isFalse =>
      intro c first
      have digit : c.isDigit := 
        Nat.isDigit_of_mem_toDigits (by decide) (by decide) (List.mem_of_mem_head? first)
      simp [digit]
  cases same : (Number.integer value).text with
  | nil => simp [Numeral.text_integer] at same
  | cons c more =>
    rw [same] at scans starts
    obtain ⟨solid, token⟩ := scanToken_of_startsNumeral (starts c rfl) (more ++ rest)
    refine scanFrom_of_scanToken solid ?_
    rw [token, scanNumeral, ← List.cons_append, scans]
    rfl

end Token

end Polyfill.Json
