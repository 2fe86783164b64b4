import Toolbench.Proofs.Decimal
import Toolbench.Proofs.Normalisation

/-! # Whole numerals

The integer reader has a limit on the digits of a numeral, the number reader one on its value. For
the rest they read the same numerals: an integer numeral is a decimal one (`IsInteger.isDecimal`),
and a decimal numeral without a point and an exponent is an integer one
(`IsDecimal.exists_isInteger`). So a text that both have a value for denotes an integer, and the
number is this integer, rounded (`readers_concord`). Whole numbers up to `2 ^ 53` are the
magnitudes of numbers, so that nothing is lost by rounding them (`RoundsTo.rational_eq`). -/

namespace Toolbench

/-! ## Whole numbers among the finite ones -/

namespace Binary64

theorem exists_shift {n : Nat} (hn : 0 < n) (h : n ≤ 2 ^ 53) :
    ∃ j ≤ 52, 2 ^ 52 ≤ n * 2 ^ j ∧ n * 2 ^ j ≤ 2 ^ 53 := by
  rcases Nat.eq_or_lt_of_le h with rfl | hlt
  · exact ⟨0, by decide, by decide, by decide⟩
  · have hlog : n.log2 < 53 := (Nat.log2_lt hn.ne').mpr hlt
    have hlow : 2 ^ n.log2 ≤ n := Nat.log2_self_le hn.ne'
    have hhigh : n ≤ 2 ^ (n.log2 + 1) := Nat.lt_log2_self.le
    refine ⟨52 - n.log2, Nat.sub_le _ _, ?_, ?_⟩
    · calc 2 ^ 52 = 2 ^ n.log2 * 2 ^ (52 - n.log2) := by rw [← Nat.pow_add]; congr 1; omega
        _ ≤ n * 2 ^ (52 - n.log2) := Nat.mul_le_mul_right _ hlow
    · calc n * 2 ^ (52 - n.log2) ≤ 2 ^ (n.log2 + 1) * 2 ^ (52 - n.log2) :=
          Nat.mul_le_mul_right _ hhigh
        _ = 2 ^ 53 := by rw [← Nat.pow_add]; congr 1; omega

/-- A whole number up to `2 ^ 53` is the magnitude of a rank. -/
theorem exists_magnitude_eq {n : Nat} (h : n ≤ 2 ^ 53) :
    ∃ rank : Fin finiteCount, magnitude rank = n := by
  rcases Nat.eq_zero_or_pos n with rfl | hn
  · exact ⟨⟨0, by decide⟩, by rw [magnitude_zero, Nat.cast_zero]⟩
  · obtain ⟨j, hj, hlow, hhigh⟩ := exists_shift hn h
    have hunits : unitsOfRank ((1074 - j) * 2 ^ 52 + n * 2 ^ j) = n * 2 ^ j * 2 ^ (1074 - j) :=
      unitsOfRank_scaled hhigh (.inr hlow)
    have hrank : (1074 - j) * 2 ^ 52 + n * 2 ^ j < finiteCount := by
      have hcount : finiteCount = 2047 * 2 ^ 52 := rfl
      omega
    have hunit : (2 : ℚ) ^ j * 2 ^ (1074 - j) = 2 ^ 1074 :=
      pow_mul_pow_sub 2 (hj.trans (by decide))
    have hpos : (0 : ℚ) < 2 ^ 1074 := pow_pos two_pos _
    refine ⟨⟨_, hrank⟩, ?_⟩
    rw [magnitude_eq, hunits]
    simp only [Nat.cast_mul, Nat.cast_pow, Nat.cast_ofNat]
    rw [mul_assoc, hunit, mul_div_cancel_right₀ _ hpos.ne']

/-- Rounding leaves an integer up to `2 ^ 53` as it is. -/
theorem RoundsTo.rational_eq {negative : Bool} {n : Int} {x : Binary64}
    (h : RoundsTo negative n x) (hn : |n| ≤ 2 ^ 53) : x.rational = n := by
  have hbound : n.natAbs ≤ 2 ^ 53 := by
    rw [Int.abs_eq_natAbs] at hn
    omega
  obtain ⟨rank, hrank⟩ := exists_magnitude_eq hbound
  have hself : rational (.finite (n < 0) rank) = n := by
    rw [rational, hrank, Nat.cast_natAbs, ← Int.cast_neg, ← apply_ite Int.cast]
    congr 1
    split
    next hneg => rw [abs_of_neg (of_decide_eq_true hneg), neg_neg]
    next hpos => exact abs_of_nonneg (Int.not_lt.mp (of_decide_eq_false (eq_false_of_ne_true hpos)))
  have hnear := h.nearest (.finite (n < 0) rank) trivial
  rw [hself, sub_self, abs_zero] at hnear
  exact (sub_eq_zero.mp (abs_nonpos_iff.mp hnear)).symm

end Binary64

/-! ## Integer numerals as decimal ones -/

namespace Text

def isDigit (c : Char) : Bool := (digitValue? c).isSome

/-- The number of digits in a text, leading zeros included. -/
def digitCount (text : List Char) : Nat := text.countP isDigit

variable {text core : List Char}

theorem digitCount_of_isBlank (h : ∀ c ∈ text, isBlank c = true) : digitCount text = 0 := by
  refine List.countP_eq_zero.mpr fun c hc hdigit => ?_
  obtain ⟨d, hd⟩ := Option.isSome_iff_exists.mp hdigit
  have hblank := h c hc
  rw [(digitValue?_eq_some_iff.mp hd).not_isBlank] at hblank
  cases hblank

theorem Padded.digitCount_eq (h : Padded text core) : digitCount text = digitCount core := by
  obtain ⟨before, after, rfl, hbefore, hafter⟩ := h
  have hbefore := digitCount_of_isBlank hbefore
  have hafter := digitCount_of_isBlank hafter
  simp only [digitCount, List.countP_append] at hbefore hafter ⊢
  omega

end Text

namespace Numeral

variable {text : List Char} {negative : Bool} {digits : List Nat}

theorem Group.digitCount_eq (h : Group text digits) : Text.digitCount text = digits.length := by
  have hunderscore : ¬ Text.isDigit '_' = true := by decide
  have hdigit {c : Char} {d : Nat} (hc : Text.Digit c d) : Text.isDigit c = true := by
    rw [Text.isDigit, Text.digitValue?_eq_some_iff.mpr hc, Option.isSome_some]
  unfold Text.digitCount
  induction h with
  | digit hc => rw [List.countP_singleton, if_pos (hdigit hc), List.length_singleton]
  | next hc _ ih => rw [List.countP_cons_of_pos (hdigit hc), ih, List.length_cons]
  | joined hc _ ih =>
    rw [List.countP_cons_of_pos (hdigit hc), List.countP_cons_of_neg hunderscore, ih,
      List.length_cons]

theorem Sign.digitCount_eq (h : Sign text negative) : Text.digitCount text = 0 := by
  have hdigit : ¬ Text.isDigit '+' = true ∧ ¬ Text.isDigit '-' = true := by decide
  cases h with
  | absent => rfl
  | plus => exact List.countP_cons_of_neg hdigit.1
  | minus => exact List.countP_cons_of_neg hdigit.2

theorem IsInteger.digitCount_eq (h : IsInteger text negative digits) :
    Text.digitCount text = digits.length := by
  obtain ⟨hmark, hgroup⟩ := h
  have hsign := hmark.digitCount_eq
  have hbody := hgroup.digitCount_eq
  rw [Text.digitCount] at hsign hbody ⊢
  rw [List.countP_append, hsign, hbody, Nat.zero_add]

theorem IsInteger.sign_eq (h : IsInteger text negative digits) : (sign text).1 = negative := by
  obtain ⟨hmark, hgroup⟩ := h
  have hunsigned := hgroup.unsigned []
  rw [List.append_nil] at hunsigned
  rw [hmark.sign_append hunsigned]

theorem IsInteger.isDecimal (h : IsInteger text negative digits) :
    IsDecimal text negative ⟨Text.ofDigits digits, 0⟩ := by
  obtain ⟨hmark, hgroup⟩ := h
  have hd := IsDecimal.intro hmark (.bare hgroup) .absent
  rwa [List.append_nil, List.append_nil] at hd

/-- A text has neither a point nor a letter that an exponent begins with. -/
structure Whole (text : List Char) : Prop where
  point : '.' ∉ text
  small : 'e' ∉ text
  capital : 'E' ∉ text

/-- In a decimal numeral without a point and an exponent there is nothing after the sign but one
digit group. -/
theorem IsDecimal.exists_isInteger {d : Decimal} (h : IsDecimal text negative d)
    (hw : Whole text) : ∃ digits, IsInteger text negative digits ∧
      d = ⟨Text.ofDigits digits, 0⟩ := by
  obtain ⟨hmark, hbody, htail⟩ := h
  cases htail with
  | given hletter =>
    rcases hletter with rfl | rfl
    · exact absurd (List.mem_append_right _ List.mem_cons_self) hw.small
    · exact absurd (List.mem_append_right _ List.mem_cons_self) hw.capital
  | absent =>
    rw [List.append_nil] at hw ⊢
    cases hbody with
    | bare hgroup =>
      rw [List.append_nil]
      exact ⟨_, .intro hmark hgroup, rfl⟩
    | before _ => exact absurd (by simp) hw.point
    | after _ => exact absurd (by simp) hw.point
    | around _ _ => exact absurd (by simp) hw.point

end Numeral

namespace Numeral

variable {text : String} {negative : Bool} {digits : List Nat} {q : ℚ}

theorem DenotesInteger.digitCount_eq (h : DenotesInteger text negative digits) :
    Text.digitCount text.toList = digits.length := by
  obtain ⟨core, hpadded, hcore⟩ := h
  rw [hpadded.digitCount_eq, hcore.digitCount_eq]

theorem cast_signed (negative : Bool) (n : Nat) :
    ((signed negative n : Int) : ℚ) = Decimal.signed negative ⟨n, 0⟩ := by
  have hvalue : Decimal.toRat ⟨n, 0⟩ = n := by rw [Decimal.toRat, zpow_zero, mul_one]
  rw [Decimal.signed, hvalue]
  cases negative
  · exact Int.cast_natCast n
  · exact (Int.cast_neg _).trans (congrArg Neg.neg (Int.cast_natCast n))

/-- An integer numeral is also a decimal one, and of the same value. -/
theorem DenotesInteger.denotesDecimal (h : DenotesInteger text negative digits) :
    DenotesDecimal text negative (signed negative (Nat.ofDigits 10 digits.reverse) : Int) := by
  obtain ⟨core, hpadded, hcore⟩ := h
  refine ⟨core, _, hpadded, hcore.isDecimal, ?_⟩
  rw [cast_signed, Text.ofDigits_eq_reverse]

theorem DenotesDecimal.exists_denotesInteger (h : DenotesDecimal text negative q)
    (hw : Whole (Text.trim text.toList)) : ∃ digits, DenotesInteger text negative digits ∧
      q = (signed negative (Nat.ofDigits 10 digits.reverse) : Int) := by
  obtain ⟨d, hd, rfl⟩ := denotesDecimal_iff.mp h
  obtain ⟨digits, hinteger, rfl⟩ := (decimal?_eq_some_iff.mp hd).exists_isInteger hw
  refine ⟨digits, denotesInteger_iff.mpr hinteger, ?_⟩
  rw [cast_signed, Text.ofDigits_eq_reverse]

/-- A text is a decimal numeral of one value at most. -/
theorem DenotesDecimal.unique {other : Bool} {r : ℚ} (h : DenotesDecimal text negative q)
    (h' : DenotesDecimal text other r) : other = negative ∧ r = q := by
  obtain ⟨d, hd, rfl⟩ := denotesDecimal_iff.mp h
  exact h'.eq_of_decimal? hd

end Numeral

/-! ## The two readers -/

namespace Reader

open Binary64 (RoundsTo)
open Numeral (DenotesInteger DenotesDecimal Whole signed)

variable {text : String} {n : Int} {x : Binary64}

/-- The integer reader accepts a text as `n`. -/
def ReadsInteger (text : String) (n : Int) : Prop :=
  Reader.integer.read (.str text) = .ok ⟨text, .int n, false⟩

/-- The number reader accepts a text as `x`. -/
def ReadsNumber (text : String) (x : Binary64) : Prop :=
  Reader.number.read (.str text) = .ok ⟨text, .float x, false⟩

theorem readsInteger_iff : ReadsInteger text n ↔ ∃ negative digits,
    DenotesInteger text negative digits ∧ digits.length ≤ 4300 ∧
      n = signed negative (Nat.ofDigits 10 digits.reverse) := by
  have hvalue : ReadsInteger text n ↔ Standard.integer.value? text = some (.int n) :=
    @Standard.read_eq_ok_iff .integer text (.int n)
  rw [hvalue]
  simp only [Standard.value?, Option.map_eq_some_iff, Value.int.injEq, exists_eq_right,
    Numeral.integer?_eq_some_iff, Numeral.denotesInteger_iff, Text.ofDigits_eq_reverse,
    Numeral.digitLimit]

theorem readsNumber_iff : ReadsNumber text x ↔ ∃ negative q,
    DenotesDecimal text negative q ∧ |q| < 2 ^ 1024 - 2 ^ 970 ∧ RoundsTo negative q x := by
  have hvalue : ReadsNumber text x ↔ Standard.number.value? text = some (.float x) :=
    @Standard.read_eq_ok_iff .number text (.float x)
  rw [hvalue]
  simp only [Standard.value?, Option.map_eq_some_iff, Value.float.injEq, exists_eq_right]
  constructor
  · intro h
    obtain ⟨⟨negative, d⟩, hd, hx⟩ := Option.bind_eq_some_iff.mp h
    dsimp only at hx
    rcases d.toBinary64_cases negative with ⟨hbound, rank, hfinite, hrounds⟩ | ⟨_, hinfinite⟩
    · rw [hfinite] at hx
      cases hx
      exact ⟨negative, _, Numeral.denotesDecimal_iff.mpr ⟨d, hd, rfl⟩, by rwa [d.abs_signed],
        hrounds⟩
    · rw [hinfinite] at hx
      cases hx
  · rintro ⟨negative, q, hdenotes, hbound, hrounds⟩
    obtain ⟨d, hd, rfl⟩ := Numeral.denotesDecimal_iff.mp hdenotes
    rw [d.abs_signed] at hbound
    obtain ⟨_, rank, hfinite, hfits⟩ :=
      (d.toBinary64_cases negative).resolve_right fun h => h.1 hbound
    rw [hrounds.unique hfits]
    exact number?_of_decimal? hd hfinite

theorem abs_cast_lt_iff : |(n : ℚ)| < 2 ^ 1024 - 2 ^ 970 ↔ |n| < 2 ^ 1024 - 2 ^ 970 := by
  have hbound : (2 : ℚ) ^ 1024 - 2 ^ 970 = ((2 ^ 1024 - 2 ^ 970 : Int) : ℚ) := by
    rw [Int.cast_sub, Int.cast_pow, Int.cast_pow, Int.cast_ofNat]
  rw [hbound, ← Int.cast_abs, Int.cast_lt]

/-- What the integer reader and the number reader make of one text. -/
structure Concord (text : String) : Prop where
  number_iff : ∀ n, ReadsInteger text n →
    ((∃ x, ReadsNumber text x) ↔ |n| < 2 ^ 1024 - 2 ^ 970)
  /-- The number is the only one that the integer is rounded to, with the sign as it is written,
  which a zero has too. -/
  rounded : ∀ n x, ReadsInteger text n → ReadsNumber text x →
    ∀ y, RoundsTo (Numeral.sign (Text.trim text.toList)).1 n y ↔ y = x
  lossless : ∀ n x, ReadsInteger text n → ReadsNumber text x → |n| ≤ 2 ^ 53 → x.rational = n
  integer_iff : ∀ x, ReadsNumber text x → Whole (Text.trim text.toList) →
    ((∃ n, ReadsInteger text n) ↔ Text.digitCount text.toList ≤ 4300)
  /-- Beyond the digit limit the text still denotes an integer. -/
  denotes : ∀ x, ReadsNumber text x → Whole (Text.trim text.toList) →
    ∃ negative digits, DenotesInteger text negative digits ∧
      ∀ y, RoundsTo negative (signed negative (Nat.ofDigits 10 digits.reverse) : Int) y ↔ y = x

theorem ReadsNumber.rounds {negative : Bool} {q : ℚ} (h : ReadsNumber text x)
    (hd : DenotesDecimal text negative q) : ∀ y, RoundsTo negative q y ↔ y = x := by
  obtain ⟨_, _, hdenotes, _, hrounds⟩ := readsNumber_iff.mp h
  obtain ⟨rfl, rfl⟩ := hdenotes.unique hd
  exact fun y => ⟨fun hy => hy.unique hrounds, fun hy => hy ▸ hrounds⟩

theorem exists_readsNumber_iff {negative : Bool} {q : ℚ} (hd : DenotesDecimal text negative q) :
    (∃ x, ReadsNumber text x) ↔ |q| < 2 ^ 1024 - 2 ^ 970 := by
  constructor
  · rintro ⟨x, h⟩
    obtain ⟨_, _, hdenotes, hbound, _⟩ := readsNumber_iff.mp h
    obtain ⟨rfl, rfl⟩ := hdenotes.unique hd
    exact hbound
  · intro hbound
    obtain ⟨d, _, rfl⟩ := Numeral.denotesDecimal_iff.mp hd
    have hlt : d.toRat < 2 ^ 1024 - 2 ^ 970 := by rwa [d.abs_signed] at hbound
    obtain ⟨_, rank, _, hrounds⟩ := (d.toBinary64_cases negative).resolve_right fun h => h.1 hlt
    exact ⟨_, readsNumber_iff.mpr ⟨negative, _, hd, hbound, hrounds⟩⟩

/-- An integer that is read stands in the text as a decimal numeral with the sign of the text. -/
theorem ReadsInteger.denotesDecimal (h : ReadsInteger text n) :
    DenotesDecimal text (Numeral.sign (Text.trim text.toList)).1 n := by
  obtain ⟨negative, digits, hdenotes, _, rfl⟩ := readsInteger_iff.mp h
  rw [(Numeral.denotesInteger_iff.mp hdenotes).sign_eq]
  exact hdenotes.denotesDecimal

/-- **The integer reader and the number reader agree.** Apart from their limits they read the same
numerals without a point and an exponent, and the number is the integer, rounded. -/
theorem readers_concord (text : String) : Concord text where
  number_iff n h := (exists_readsNumber_iff h.denotesDecimal).trans abs_cast_lt_iff
  rounded n x h hx := hx.rounds h.denotesDecimal
  lossless n x h hx := ((hx.rounds h.denotesDecimal x).mpr rfl).rational_eq
  integer_iff x hx hw := by
    obtain ⟨negative, q, hdecimal, _, _⟩ := readsNumber_iff.mp hx
    obtain ⟨digits, hdenotes, _⟩ := hdecimal.exists_denotesInteger hw
    rw [hdenotes.digitCount_eq]
    constructor
    · rintro ⟨n, h⟩
      obtain ⟨_, digits', hdenotes', hlimit, _⟩ := readsInteger_iff.mp h
      rwa [← hdenotes.digitCount_eq, hdenotes'.digitCount_eq]
    · exact fun hlimit => ⟨_, readsInteger_iff.mpr ⟨negative, digits, hdenotes, hlimit, rfl⟩⟩
  denotes x hx hw := by
    obtain ⟨negative, q, hdecimal, _, _⟩ := readsNumber_iff.mp hx
    obtain ⟨digits, hdenotes, _⟩ := hdecimal.exists_denotesInteger hw
    exact ⟨negative, digits, hdenotes, hx.rounds hdenotes.denotesDecimal⟩

end Reader
end Toolbench
