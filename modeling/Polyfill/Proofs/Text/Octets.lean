import Mathlib.Algebra.Group.Nat.Defs
import Polyfill.Files.Basic

/-!
# The order of octets

Texts are ordered by their characters. UTF-8 keeps this order: where two characters differ, so do their
octets, and the first octets that differ stand in the order of the characters. So names that are listed
by their octets are listed in the order of the names.
-/

namespace Polyfill.Text

/-- The last octets of a number, with six bits in each. -/
def tailOctets : Nat → Nat → Octets
  | 0, _ => []
  | count + 1, n => .ofNat (n / 64 ^ count % 64 + 0x80) :: tailOctets count n

/-- How a number is spread over a first octet and others: few bits in the first one, under a mark. -/
inductive Spread (n : Nat) : (count lead : Nat) → Prop where
  | one (top : n ≤ 0x7f) : Spread n 0 n
  | two (low : 0x7f < n) (top : n ≤ 0x7ff) : Spread n 1 (n / 64 + 0xc0)
  | three (low : 0x7ff < n) (top : n ≤ 0xffff) : Spread n 2 (n / 4096 + 0xe0)
  | four (low : 0xffff < n) (top : n ≤ 0x10ffff) : Spread n 3 (n / 262144 + 0xf0)

theorem exists_spread (c : Char) :
    ∃ count lead, Spread c.val.toNat count lead ∧
      String.utf8EncodeChar c = .ofNat lead :: tailOctets count c.val.toNat := by
  have inRange : c.val.toNat ≤ 0x10ffff := by
    rcases c.valid with low | ⟨_, high⟩
    · exact Nat.le_of_lt (Nat.lt_trans low (by decide))
    · exact Nat.le_of_lt_succ high
  fun_cases String.utf8EncodeChar c with
  | case1 n top => exact ⟨_, _, .one top, rfl⟩
  | case2 n low top =>
    refine ⟨_, _, .two (Nat.not_le.mp low) top, ?_⟩
    have lead : n / 64 % 32 = n / 64 := by omega
    simp only [tailOctets, lead, n, Nat.pow_zero, Nat.div_one]
  | case3 n _ low top =>
    refine ⟨_, _, .three (Nat.not_le.mp low) top, ?_⟩
    have lead : n / 4096 % 16 = n / 4096 := by omega
    simp only [tailOctets, lead, n, Nat.pow_zero, Nat.div_one, Nat.pow_one]
  | case4 n _ _ low =>
    refine ⟨_, _, .four (Nat.not_le.mp low) inRange, ?_⟩
    have lead : n / 262144 % 8 = n / 262144 := by omega
    simp only [tailOctets, lead, n, Nat.pow_zero, Nat.div_one, Nat.pow_one, Nat.reducePow]

/-- A longer sequence has a greater mark, so equal leads have as many octets after them. -/
theorem Spread.lead_lt_or {m n count count' lead lead' : Nat} (first : Spread m count lead)
    (second : Spread n count' lead') (less : m < n) :
    lead < lead' ∨ lead = lead' ∧ count = count' ∧ m / 64 ^ count = n / 64 ^ count := by
  cases first <;> cases second <;>
    simp only [Nat.reducePow, Nat.pow_one, Nat.pow_zero, true_and] <;> omega

theorem cons_ofNat_lt_cons_ofNat {m n : Nat} (top : n < 256) {rest other : Octets}
    (order : m < n ∨ m = n ∧ rest < other) :
    UInt8.ofNat m :: rest < UInt8.ofNat n :: other := by
  rcases order with less | ⟨rfl, less⟩
  · refine List.cons_lt_cons_iff.mpr (.inl ?_)
    rw [UInt8.lt_iff_toNat_lt, UInt8.toNat_ofNat', UInt8.toNat_ofNat']
    omega
  · exact List.cons_lt_cons_iff.mpr (.inr ⟨rfl, less⟩)

theorem tailOctets_append_lt {m n : Nat} (less : m < n) {count : Nat}
    (level : m / 64 ^ count = n / 64 ^ count) (rest other : Octets) :
    tailOctets count m ++ rest < tailOctets count n ++ other := by
  induction count with
  | zero =>
    simp only [Nat.pow_zero, Nat.div_one] at level
    omega
  | succ count ih =>
    rw [Nat.pow_succ, ← Nat.div_div_eq_div_mul, ← Nat.div_div_eq_div_mul] at level
    have le : m / 64 ^ count ≤ n / 64 ^ count := Nat.div_le_div_right (Nat.le_of_lt less)
    apply cons_ofNat_lt_cons_ofNat (by omega)
    rcases Nat.lt_or_eq_of_le le with differs | same
    · exact .inl (by omega)
    · exact .inr ⟨by rw [same], ih same⟩

theorem utf8EncodeChar_append_lt {a b : Char} (less : a < b) (rest other : Octets) :
    String.utf8EncodeChar a ++ rest < String.utf8EncodeChar b ++ other := by
  obtain ⟨count, lead, spread, encoded⟩ := exists_spread a
  obtain ⟨count', lead', spread', encoded'⟩ := exists_spread b
  rw [encoded, encoded', List.cons_append, List.cons_append]
  have below : a.val.toNat < b.val.toNat := less
  have top : lead' < 256 := by
    cases spread' <;> omega
  have order := spread.lead_lt_or spread' below
  apply cons_ofNat_lt_cons_ofNat top
  rcases order with differs | ⟨rfl, rfl, level⟩
  · exact .inl differs
  · exact .inr ⟨rfl, tailOctets_append_lt below level rest other⟩

theorem octets_eq_flatMap (text : String) :
    octets text = text.toList.flatMap String.utf8EncodeChar := by
  have encoded : text.toByteArray = text.toList.utf8Encode := by
    rw [← String.toByteArray_ofList, String.ofList_toList]
  rw [octets, String.toUTF8_eq_toByteArray, encoded, List.utf8Encode]
  simp

theorem flatMap_utf8EncodeChar_lt {a b : List Char} (less : a < b) :
    a.flatMap String.utf8EncodeChar < b.flatMap String.utf8EncodeChar := by
  induction a generalizing b with
  | nil =>
    cases b with
    | nil => exact absurd less (List.not_lt_nil _)
    | cons c rest =>
      obtain ⟨count, lead, _, encoded⟩ := exists_spread c
      rw [List.flatMap_cons, encoded]
      exact List.nil_lt_cons _ _
  | cons c rest ih =>
    cases b with
    | nil => exact absurd less (List.not_lt_nil _)
    | cons d other =>
      rw [List.flatMap_cons, List.flatMap_cons]
      rcases List.cons_lt_cons_iff.mp less with differs | ⟨rfl, later⟩
      · exact utf8EncodeChar_append_lt differs _ _
      · exact List.append_left_lt (ih later)

theorem octets_lt_octets {a b : String} : octets a < octets b ↔ a < b := by
  have keeps {a b : String} (less : a < b) : octets a < octets b := by
    rw [octets_eq_flatMap, octets_eq_flatMap]
    exact flatMap_utf8EncodeChar_lt less
  refine ⟨fun less => String.not_le.mp fun le => ?_, keeps⟩
  rcases Std.le_iff_lt_or_eq.mp le with greater | rfl
  · exact List.lt_asymm less (keeps greater)
  · exact List.lt_irrefl _ less

end Polyfill.Text

namespace Polyfill

theorem Files.nameLe_octets (a b : String) :
    Files.nameLe (Text.octets a) (Text.octets b) = decide (a ≤ b) := by
  have less : List.lex (Text.octets b) (Text.octets a) (· < ·) = true ↔ b < a :=
    List.lex_eq_true_iff_lt.trans Text.octets_lt_octets
  rw [Files.nameLe, Bool.eq_iff_iff, Bool.not_eq_true', decide_eq_true_iff, ← String.not_lt, ← less,
    Bool.not_eq_true]

end Polyfill
