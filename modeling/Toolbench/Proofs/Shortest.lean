import Toolbench.Proofs.Layout

/-! # The shortest decimal fractions

The decimal fractions that are rounded to the same number form an interval
(`readsBack_of_between`). So a grid of multiples of a power of ten has a place in it exactly if one
of the two neighbours of the magnitude is in it (`neighbour?_spec`), and a fraction of `k` digits
in it shows that one of the `k` coarsest grids has one (`exists_on_grid`). The grid of seventeen
digits always has one, as its places are closer together than the magnitudes
(`exists_readsBack_of_fine`). The search therefore finds a fraction that has as few digits as
possible and is nearest among those (`isShortest_shortest`). -/

namespace Toolbench

/-! ## Significant digits -/

namespace Decimal

variable {d : Decimal} {k : Nat}

/-- The number of digits, without the zeros at their end. -/
def width (d : Decimal) : Nat :=
  (Layout.significant (Nat.toDigits 10 d.digits)).length

theorem width_of_zero (h : d.digits = 0) : d.width = 0 := by
  rw [width, h]
  decide

end Decimal

namespace Layout.Significant

variable {n zeros : Nat} {digits : List Char} (h : Significant n digits zeros)
include h

theorem value_lt : Nat.ofDigitChars 10 digits 0 < 10 ^ digits.length := by
  have hlt := Text.lt_pow_length_toDigits n
  rw [h.length_toDigits, Nat.pow_add] at hlt
  exact Nat.lt_of_mul_lt_mul_right (h.eq_mul ▸ hlt)

theorem le_value (hn : n ≠ 0) : 10 ^ (digits.length - 1) ≤ Nat.ofDigitChars 10 digits 0 := by
  have hlength := List.length_pos_of_ne_nil h.ne_nil
  have hle := Text.pow_length_toDigits_le hn
  rw [h.length_toDigits, Nat.sub_add_comm hlength, Nat.pow_add] at hle
  exact Nat.le_of_mul_le_mul_right (h.eq_mul ▸ hle) (Nat.pow_pos (by decide))

theorem not_dvd_value : ¬ 10 ∣ Nat.ofDigitChars 10 digits 0 := by
  obtain ⟨front, c, rfl, hc⟩ := h.last
  obtain ⟨hlow, hhigh⟩ := Char.isDigit_iff_toNat.mp
    (h.isDigit c (List.mem_append_right _ (List.mem_singleton_self c)))
  have hlow : 48 ≤ c.toNat := hlow
  have hhigh : c.toNat ≤ 57 := hhigh
  have hzero : c.toNat ≠ 48 := fun he => hc (Char.toNat_inj.mp he)
  have hvalue : Nat.ofDigitChars 10 (front ++ [c]) 0 =
      10 * Nat.ofDigitChars 10 front 0 + (c.toNat - 48) := Nat.ofDigitChars_append 0
  omega

end Layout.Significant

namespace Decimal

variable {d : Decimal} {k : Nat}

theorem toRat_shift (n k : Nat) (e : Int) :
    (⟨n * 10 ^ k, e⟩ : Decimal).toRat = (⟨n, e + k⟩ : Decimal).toRat := by
  rw [toRat, toRat, Nat.cast_mul, Nat.cast_pow, Nat.cast_ofNat, mul_assoc, ← zpow_natCast,
    ← zpow_add₀ (by norm_num), add_comm (k : ℤ)]

theorem digits_eq_of_toRat_eq {n m : Nat} {e : Int}
    (h : (⟨n, e⟩ : Decimal).toRat = (⟨m, e⟩ : Decimal).toRat) : n = m := by
  have hstep : (10 : ℚ) ^ e ≠ 0 := zpow_ne_zero _ (by norm_num)
  exact_mod_cast mul_right_cancel₀ hstep h

/-- The width is the least number of digits that the value can be written with. -/
theorem width_le_iff :
    d.width ≤ k ↔ ∃ same : Decimal, same.digits < 10 ^ k ∧ same.toRat = d.toRat := by
  have hpos : 0 < 10 ^ k := Nat.pow_pos (by decide)
  by_cases hzero : d.digits = 0
  · rw [width_of_zero hzero]
    exact iff_of_true (Nat.zero_le k) ⟨d, hzero ▸ hpos, rfl⟩
  · obtain ⟨zeros, hs⟩ := Layout.significant_toDigits hzero
    rw [width]
    generalize Layout.significant (Nat.toDigits 10 d.digits) = digits at hs ⊢
    have hd : d.toRat = (⟨Nat.ofDigitChars 10 digits 0, d.exponent + zeros⟩ : Decimal).toRat := by
      rw [← toRat_shift, ← hs.eq_mul]
    constructor
    · intro hle
      exact ⟨_, hs.value_lt.trans_le (Nat.pow_le_pow_right (by decide) hle), hd.symm⟩
    · rintro ⟨⟨n, e⟩, hn, hsame⟩
      by_contra hlt
      have hless : n < Nat.ofDigitChars 10 digits 0 := hn.trans_le <|
        (Nat.pow_le_pow_right (by decide) (by omega)).trans (hs.le_value hzero)
      rw [hd] at hsame
      rcases Int.le_total e (d.exponent + zeros) with he | he <;> obtain ⟨j, hj⟩ := Int.le.dest he
      · rw [← hj, ← toRat_shift] at hsame
        rw [digits_eq_of_toRat_eq hsame] at hless
        exact Nat.not_lt_of_le (Nat.le_mul_of_pos_right _ (Nat.pow_pos (by decide))) hless
      · rw [← hj, ← toRat_shift] at hsame
        have hvalue := digits_eq_of_toRat_eq hsame
        cases j with
        | zero =>
          rw [Nat.pow_zero, Nat.mul_one] at hvalue
          exact hless.ne hvalue
        | succ j =>
          refine hs.not_dvd_value (hvalue ▸ ?_)
          exact dvd_mul_of_dvd_right (dvd_pow_self 10 (Nat.succ_ne_zero j)) n

theorem width_congr {other : Decimal} (h : d.toRat = other.toRat) : d.width = other.width :=
  eq_of_forall_ge_iff fun k => by rw [width_le_iff, width_le_iff, h]

end Decimal

namespace Binary64

variable {rank : Fin finiteCount} {d low high : Decimal} {exponent : Int}

/-! ## Reading back -/

theorem NearestRank.self (rank : Nat) : NearestRank (unitsOfRank rank) rank := by
  have hzero : |(unitsOfRank rank : ℚ) - unitsOfRank rank| = 0 := by rw [sub_self, abs_zero]
  refine ⟨fun other => by rw [hzero]; exact abs_nonneg _, fun other hne ht => ?_⟩
  have hunits := sub_eq_zero.mp (abs_eq_zero.mp (ht.trans hzero))
  exact absurd (unitsOfRank_strictMono.injective (by exact_mod_cast hunits.symm)) hne

/-- A fraction reads back as the magnitude that it is rounded to. -/
theorem readsBack_iff : ReadsBack rank d ↔ NearestRank (d.toRat * 2 ^ 1074) rank := by
  obtain ⟨found, h⟩ := d.exists_nearestRank
  rw [ReadsBack, Decimal.toBinary64_eq h, ofRank]
  constructor
  · intro he
    split at he
    · cases he
      exact h
    · cases he
  · intro hrank
    obtain rfl := h.unique hrank
    exact dif_pos rank.isLt

theorem ReadsBack.toBinary64 (h : ReadsBack rank d) (negative : Bool) :
    d.toBinary64 negative = .finite negative rank := by
  rw [Decimal.toBinary64_eq (readsBack_iff.mp h), ofRank, dif_pos rank.isLt]

theorem readsBack_congr {other : Decimal} (h : d.toRat = other.toRat) :
    ReadsBack rank d ↔ ReadsBack rank other := by
  rw [ReadsBack, ReadsBack, Decimal.toBinary64_congr h]

/-- What lies between two fractions that read back reads back too. -/
theorem readsBack_of_between (hlow : ReadsBack rank low) (hhigh : ReadsBack rank high)
    (h : low.toRat ≤ d.toRat) (h' : d.toRat ≤ high.toRat) : ReadsBack rank d := by
  have hunit : (0 : ℚ) < 2 ^ 1074 := pow_pos two_pos _
  obtain ⟨found, hd⟩ := d.exists_nearestRank
  have hle := (readsBack_iff.mp hlow).mono hd (mul_le_mul_of_nonneg_right h hunit.le)
  have hge := hd.mono (readsBack_iff.mp hhigh) (mul_le_mul_of_nonneg_right h' hunit.le)
  rw [readsBack_iff, le_antisymm hle hge]
  exact hd

/-- A unit is `5 ^ 1074 * 10 ^ -1074`. -/
theorem exactDecimal_toRat (rank : Fin finiteCount) :
    (exactDecimal rank).toRat = magnitude rank := by
  have hten : (10 : ℚ) ^ 1074 = 5 ^ 1074 * 2 ^ 1074 := by
    rw [← mul_pow]
    norm_num
  have hfive : (0 : ℚ) < 5 ^ 1074 := pow_pos (by norm_num) _
  have hpower : Nat.pow 5 1074 = 5 ^ 1074 := by decide +kernel
  rw [exactDecimal, Decimal.toRat, magnitude_eq, zpow_neg, zpow_ofNat, hten, hpower,
    Nat.cast_mul, Nat.cast_pow, Nat.cast_ofNat, ← div_eq_mul_inv]
  generalize (5 : ℚ) ^ 1074 = five at hfive ⊢
  rw [mul_comm, mul_div_mul_left _ _ hfive.ne']

theorem readsBack_exactDecimal (rank : Fin finiteCount) : ReadsBack rank (exactDecimal rank) := by
  have hunit : (0 : ℚ) < 2 ^ 1074 := pow_pos two_pos _
  rw [readsBack_iff, exactDecimal_toRat, magnitude_eq, div_mul_cancel₀ _ hunit.ne']
  exact NearestRank.self rank

/-! ## The two neighbours on a grid -/

/-- The magnitude of a rank as a quotient, counted in steps of the grid. -/
def gridQuotient (rank : Fin finiteCount) : Int → Nat × Nat
  | .ofNat e => (unitsOfRank rank, unitsInOne * Nat.pow 10 e)
  | .negSucc e => (unitsOfRank rank * Nat.pow 10 (e + 1), unitsInOne)

/-- The neighbour below, or the magnitude itself. -/
def below (rank : Fin finiteCount) (exponent : Int) : Decimal :=
  ⟨(gridQuotient rank exponent).1 / (gridQuotient rank exponent).2, exponent⟩

def above (rank : Fin finiteCount) (exponent : Int) : Decimal :=
  ⟨(below rank exponent).digits + 1, exponent⟩

theorem gridQuotient_pos (rank : Fin finiteCount) (exponent : Int) :
    0 < (gridQuotient rank exponent).2 := by
  have hunits : 0 < unitsInOne := by decide +kernel
  cases exponent <;> simp only [gridQuotient]
  · exact Nat.mul_pos hunits (Nat.pow_pos (by decide))
  · exact hunits

theorem gridQuotient_eq (rank : Fin finiteCount) (exponent : Int) :
    ((gridQuotient rank exponent).1 : ℚ) / (gridQuotient rank exponent).2 =
      magnitude rank / 10 ^ exponent := by
  rw [magnitude_eq, ← cast_unitsInOne]
  cases exponent with
  | ofNat e =>
    rw [gridQuotient, Int.ofNat_eq_natCast, zpow_natCast, Nat.pow_eq, Nat.cast_mul, Nat.cast_pow,
      Nat.cast_ofNat, div_div]
  | negSucc e =>
    rw [gridQuotient, zpow_negSucc, Nat.pow_eq, Nat.cast_mul, Nat.cast_pow, Nat.cast_ofNat,
      div_inv_eq_mul, div_mul_eq_mul_div]

theorem neighbour?_eq (rank : Fin finiteCount) (exponent : Int) : neighbour? rank exponent =
    if ReadsBack rank (below rank exponent) then
      if ReadsBack rank (above rank exponent) then
        some (if roundQuotient (gridQuotient rank exponent).1 (gridQuotient rank exponent).2 =
          (below rank exponent).digits then below rank exponent else above rank exponent)
      else some (below rank exponent)
    else if ReadsBack rank (above rank exponent) then some (above rank exponent)
    else none := by
  cases exponent <;> rfl

/-! ### What is known of a neighbour -/

section
variable (rank : Fin finiteCount) (exponent : Int)

theorem below_le : (below rank exponent).toRat ≤ magnitude rank := by
  have hstep : (0 : ℚ) < 10 ^ exponent := zpow_pos (by norm_num) _
  have h : ((below rank exponent).digits : ℚ) ≤ magnitude rank / 10 ^ exponent := by
    rw [← gridQuotient_eq]
    exact Nat.cast_div_le
  exact (le_div_iff₀ hstep).mp h

theorem lt_above : magnitude rank < (above rank exponent).toRat := by
  have hstep : (0 : ℚ) < 10 ^ exponent := zpow_pos (by norm_num) _
  have hpos : (0 : ℚ) < (gridQuotient rank exponent).2 := by
    exact_mod_cast gridQuotient_pos rank exponent
  have h : magnitude rank / 10 ^ exponent < (above rank exponent).digits := by
    rw [← gridQuotient_eq, div_lt_iff₀ hpos]
    exact_mod_cast Nat.lt_mul_of_div_lt (Nat.lt_succ_self _) (gridQuotient_pos rank exponent)
  exact (div_lt_iff₀ hstep).mp h

end

theorem toRat_le_of_digits {low high : Decimal} (he : low.exponent = high.exponent)
    (h : low.digits ≤ high.digits) : low.toRat ≤ high.toRat := by
  rw [Decimal.toRat, Decimal.toRat, he]
  exact mul_le_mul_of_nonneg_right (by exact_mod_cast h) (zpow_nonneg (by norm_num) _)

/-- The other places of the grid lie beyond the two neighbours. -/
theorem le_below_or_above_le (rank : Fin finiteCount) (he : d.exponent = exponent) :
    d.toRat ≤ (below rank exponent).toRat ∨ (above rank exponent).toRat ≤ d.toRat := by
  rcases Nat.lt_or_ge (below rank exponent).digits d.digits with h | h
  · exact .inr (toRat_le_of_digits he.symm h)
  · exact .inl (toRat_le_of_digits he h)

/-- The distance of a fraction from the magnitude. -/
def gap (rank : Fin finiteCount) (d : Decimal) : ℚ := |magnitude rank - d.toRat|

theorem gap_of_le (h : d.toRat ≤ low.toRat) (hlow : low.toRat ≤ magnitude rank) :
    gap rank low ≤ gap rank d := by
  rw [gap, gap, abs_of_nonneg (by linarith), abs_of_nonneg (by linarith)]
  linarith

theorem gap_of_ge (h : high.toRat ≤ d.toRat) (hhigh : magnitude rank ≤ high.toRat) :
    gap rank high ≤ gap rank d := by
  rw [gap, gap, abs_of_nonpos (by linarith), abs_of_nonpos (by linarith)]
  linarith

/-- If a place of a grid reads back, then so does a neighbour that is at least as near. -/
theorem exists_neighbour_readsBack (hd : ReadsBack rank d) (he : d.exponent = exponent) :
    ReadsBack rank (below rank exponent) ∧ gap rank (below rank exponent) ≤ gap rank d ∨
      ReadsBack rank (above rank exponent) ∧ gap rank (above rank exponent) ≤ gap rank d := by
  have hexact := readsBack_exactDecimal rank
  have hmagnitude := exactDecimal_toRat rank
  have hbelow := below_le rank exponent
  have habove := (lt_above rank exponent).le
  rcases le_below_or_above_le rank he with h | h
  · exact .inl ⟨readsBack_of_between hd hexact h (hbelow.trans_eq hmagnitude.symm),
      gap_of_le h hbelow⟩
  · exact .inr ⟨readsBack_of_between hexact hd (hmagnitude.trans_le habove) h, gap_of_ge h habove⟩

theorem roundQuotient_eq_or (num den : Nat) :
    roundQuotient num den = num / den ∨ roundQuotient num den = num / den + 1 := by
  simp only [roundQuotient]
  split
  · exact .inl rfl
  · split
    · exact .inr rfl
    · omega

theorem gap_on_grid (he : d.exponent = exponent) :
    gap rank d = |((gridQuotient rank exponent).1 : ℚ) / (gridQuotient rank exponent).2 -
      d.digits| * 10 ^ exponent := by
  have hstep : (0 : ℚ) < 10 ^ exponent := zpow_pos (by norm_num) _
  rw [gridQuotient_eq, gap, Decimal.toRat, he, ← abs_of_pos hstep, ← abs_mul, abs_of_pos hstep,
    sub_mul, div_mul_cancel₀ _ hstep.ne']

/-- The quotient is rounded to the digits of the nearer neighbour. -/
theorem gap_nearer (rank : Fin finiteCount) (exponent : Int) :
    gap rank (if roundQuotient (gridQuotient rank exponent).1 (gridQuotient rank exponent).2 =
        (below rank exponent).digits then below rank exponent else above rank exponent) ≤
      min (gap rank (below rank exponent)) (gap rank (above rank exponent)) := by
  have hstep : (0 : ℚ) < 10 ^ exponent := zpow_pos (by norm_num) _
  have hnear := nearestWhole_roundQuotient (gridQuotient rank exponent).1
    (gridQuotient_pos rank exponent)
  have hle (digits : Nat) := mul_le_mul_of_nonneg_right (hnear.le digits) hstep.le
  rw [le_min_iff, gap_on_grid (d := below rank exponent) rfl,
    gap_on_grid (d := above rank exponent) rfl]
  split
  next h =>
    rw [gap_on_grid (d := below rank exponent) rfl, ← h]
    exact ⟨le_rfl, hle _⟩
  next h =>
    have habove : roundQuotient (gridQuotient rank exponent).1 (gridQuotient rank exponent).2 =
        (above rank exponent).digits := (roundQuotient_eq_or _ _).resolve_left h
    rw [gap_on_grid (d := above rank exponent) rfl, ← habove]
    exact ⟨hle _, le_rfl⟩

/-- The fraction is a neighbour of the magnitude, and no place of the grid that reads back is
nearer. -/
structure IsNeighbour (rank : Fin finiteCount) (exponent : Int) (d : Decimal) : Prop where
  readsBack : ReadsBack rank d
  eq_or : d = below rank exponent ∨ d = above rank exponent
  nearest : ∀ other : Decimal, ReadsBack rank other → other.exponent = exponent →
    gap rank d ≤ gap rank other

/-- There is none exactly if no place of the grid reads back. -/
theorem neighbour?_spec (rank : Fin finiteCount) (exponent : Int) :
    (neighbour? rank exponent = none ∧
      ∀ other : Decimal, ReadsBack rank other → other.exponent ≠ exponent) ∨
    ∃ d, neighbour? rank exponent = some d ∧ IsNeighbour rank exponent d := by
  have hexists {other : Decimal} (ho : ReadsBack rank other) (he : other.exponent = exponent) :=
    exists_neighbour_readsBack ho he
  rw [neighbour?_eq]
  by_cases hbelow : ReadsBack rank (below rank exponent) <;>
    by_cases habove : ReadsBack rank (above rank exponent)
  · rw [if_pos hbelow, if_pos habove]
    obtain ⟨hnear, hnear'⟩ := le_min_iff.mp (gap_nearer rank exponent)
    refine .inr ⟨_, rfl, ?_, ?_, fun other ho he => ?_⟩
    · split
      · exact hbelow
      · exact habove
    · split
      · exact .inl rfl
      · exact .inr rfl
    · rcases hexists ho he with ⟨_, h⟩ | ⟨_, h⟩
      · exact hnear.trans h
      · exact hnear'.trans h
  · rw [if_pos hbelow, if_neg habove]
    refine .inr ⟨_, rfl, hbelow, .inl rfl, fun other ho he => ?_⟩
    rcases hexists ho he with ⟨_, h⟩ | ⟨h, _⟩
    · exact h
    · exact absurd h habove
  · rw [if_neg hbelow, if_pos habove]
    refine .inr ⟨_, rfl, habove, .inr rfl, fun other ho he => ?_⟩
    rcases hexists ho he with ⟨h, _⟩ | ⟨_, h⟩
    · exact absurd h hbelow
    · exact h
  · rw [if_neg hbelow, if_neg habove]
    refine .inl ⟨rfl, fun other ho he => ?_⟩
    rcases hexists ho he with ⟨h, _⟩ | ⟨h, _⟩
    · exact hbelow h
    · exact habove h

/-! ## Where the digits begin -/

theorem two_pow_le_ten_pow_324 : (2 : Nat) ^ 1074 ≤ 10 ^ 324 := by decide +kernel

theorem unitsOfRank_pos {rank : Nat} (h : rank ≠ 0) : 0 < unitsOfRank rank :=
  Nat.lt_of_le_of_lt (Nat.zero_le _) (unitsOfRank_strictMono (Nat.pos_of_ne_zero h))

/-- The position of the point is the one of the magnitude's leading digit. -/
theorem pointPosition_spec {rank : Nat} (h : rank ≠ 0) :
    10 ^ (pointPosition (unitsOfRank rank) - 1) ≤ magnitude rank ∧
      magnitude rank < 10 ^ pointPosition (unitsOfRank rank) := by
  have hten : (10 : ℚ) ≠ 0 := by norm_num
  have hscale : (0 : ℚ) < 10 ^ 324 := pow_pos (by norm_num) _
  have hunits : 0 < unitsInOne := by decide +kernel
  have hpower : Nat.pow 10 324 = 10 ^ 324 := by decide +kernel
  have hquotient : magnitude rank * 10 ^ 324 =
      ((unitsOfRank rank * 10 ^ 324 : Nat) : ℚ) / unitsInOne := by
    rw [magnitude_eq, cast_unitsInOne, Nat.cast_mul, Nat.cast_pow, Nat.cast_ofNat,
      div_mul_eq_mul_div]
  have hwhole : unitsOfRank rank * 10 ^ 324 / unitsInOne ≠ 0 := by
    refine (Nat.div_pos ?_ hunits).ne'
    rw [unitsInOne_eq]
    exact two_pow_le_ten_pow_324.trans (Nat.le_mul_of_pos_left _ (unitsOfRank_pos h))
  rw [pointPosition, hpower]
  have hlower := Text.pow_length_toDigits_le hwhole
  have hupper := Text.lt_pow_length_toDigits (unitsOfRank rank * 10 ^ 324 / unitsInOne)
  have hlength : 0 < (Nat.toDigits 10 (unitsOfRank rank * 10 ^ 324 / unitsInOne)).length :=
    List.length_pos_of_ne_nil Nat.toDigits_ne_nil
  generalize (Nat.toDigits 10 (unitsOfRank rank * 10 ^ 324 / unitsInOne)).length = length at *
  constructor
  · have hle : (10 : ℚ) ^ (length - 1) ≤ magnitude rank * 10 ^ 324 := by
      rw [hquotient]
      exact le_trans (by exact_mod_cast hlower) Nat.cast_div_le
    have hexponent : (length : ℤ) - 324 - 1 = (length - 1 : Nat) - (324 : Nat) := by omega
    rw [hexponent, zpow_sub₀ hten, zpow_natCast, zpow_natCast]
    exact (div_le_iff₀ hscale).mpr hle
  · have hlt : magnitude rank * 10 ^ 324 < 10 ^ length := by
      rw [hquotient, div_lt_iff₀ (by exact_mod_cast hunits)]
      exact_mod_cast Nat.lt_mul_of_div_lt hupper hunits
    have hexponent : (length : ℤ) - 324 = length - (324 : Nat) := by omega
    rw [hexponent, zpow_sub₀ hten, zpow_natCast, zpow_natCast]
    exact (lt_div_iff₀ hscale).mpr hlt

/-! ## Seventeen digits -/

/-- What is nearer than half a step is rounded to the magnitude; below the least magnitude of a
binade the steps are only half as long. -/
theorem nearestRank_of_close {y : ℚ} {scale k : Nat} (hk : k ≤ 2 ^ 53)
    (hlow : scale = 0 ∨ 2 ^ 52 ≤ k) (hclose : |y - k * 2 ^ scale| < 2 ^ scale / 2)
    (hside : scale = 0 ∨ 2 ^ 52 < k ∨ k * 2 ^ scale ≤ y) :
    NearestRank y (scale * 2 ^ 52 + k) := by
  have hstep : (0 : ℚ) < 2 ^ scale := by positivity
  have hdistance : |y / 2 ^ scale - k| < 1 / 2 := by
    have heq : y - k * 2 ^ scale = (y / 2 ^ scale - k) * 2 ^ scale := by field_simp
    rw [heq, abs_mul, abs_of_pos hstep] at hclose
    nlinarith
  have hnear : NearestWhole (y / 2 ^ scale) k :=
    ⟨hdistance.le, fun he => absurd he hdistance.ne⟩
  refine nearestRank_of_nearestWhole hnear ?_ hlow hk
  rcases hlow with h | h
  · exact .inl h
  · rcases hside with hside | hside | hside
    · exact .inl hside
    · have hk : (2 : ℚ) ^ 52 + 1 ≤ k := by exact_mod_cast hside
      have hlower := (abs_lt.mp hclose).1
      exact .inr (by nlinarith)
    · have hk : (2 : ℚ) ^ 52 ≤ k := by exact_mod_cast h
      exact .inr (le_trans (mul_le_mul_of_nonneg_right hk hstep.le) hside)

/-- A grid that is finer than `10 ^ -16` of the magnitude has a place that reads back. -/
theorem exists_readsBack_of_fine (hfine : (10 : ℚ) ^ exponent * 10 ^ 16 ≤ magnitude rank) :
    ReadsBack rank (below rank exponent) ∨ ReadsBack rank (above rank exponent) := by
  have hunit : (0 : ℚ) < 2 ^ 1074 := pow_pos two_pos _
  obtain ⟨scale, k, hrank, hk, hlow⟩ := exists_scaled rank
  have hstep : (0 : ℚ) < 2 ^ scale := by positivity
  have hmagnitude : magnitude rank * 2 ^ 1074 = k * 2 ^ scale := by
    rw [magnitude_eq, div_mul_cancel₀ _ hunit.ne', hrank, unitsOfRank_scaled hk.le hlow,
      Nat.cast_mul, Nat.cast_pow, Nat.cast_ofNat]
  have hbelow := mul_le_mul_of_nonneg_right (below_le rank exponent) hunit.le
  have habove := mul_lt_mul_of_pos_right (lt_above rank exponent) hunit
  have hgrid : (above rank exponent).toRat =
      (below rank exponent).toRat + 10 ^ exponent := by
    rw [Decimal.toRat, Decimal.toRat, above, below]
    push_cast
    ring
  have hfine := mul_le_mul_of_nonneg_right hfine hunit.le
  rw [hgrid] at habove
  rw [readsBack_iff, readsBack_iff, hgrid, hrank]
  rw [hmagnitude] at hbelow habove hfine
  generalize (2 : ℚ) ^ 1074 = unit at *
  generalize (below rank exponent).toRat = low at *
  generalize (10 : ℚ) ^ exponent = step at *
  rw [add_mul] at habove ⊢
  have hcount : (k : ℚ) + 1 ≤ 2 ^ 53 := by exact_mod_cast hk
  by_cases hside : scale = 0 ∨ 2 ^ 52 < k
  · have hshort : step * unit < 2 ^ scale := by nlinarith
    rcases le_total (k * 2 ^ scale - low * unit) (step * unit / 2) with h | h
    · refine .inl (nearestRank_of_close hk.le hlow ?_ (hside.imp_right .inl))
      rw [abs_of_nonpos (by linarith)]
      linarith
    · refine .inr (nearestRank_of_close hk.le hlow ?_ (hside.imp_right .inl))
      rw [abs_of_nonneg (by linarith)]
      linarith
  · have hleast : k = 2 ^ 52 := by omega
    have hshort : step * unit < 2 ^ scale / 2 := by
      rw [hleast] at hfine
      push_cast at hfine
      linarith
    refine .inr (nearestRank_of_close hk.le hlow ?_ (.inr (.inr habove.le)))
    rw [abs_of_nonneg (by linarith)]
    linarith

/-! ## The first grid with a neighbour -/

theorem not_readsBack_of_zero (hr : rank.val ≠ 0) (hd : d.digits = 0) : ¬ ReadsBack rank d := by
  intro h
  have hzero : d.toRat * 2 ^ 1074 = 0 := by rw [Decimal.toRat_of_zero hd, zero_mul]
  exact hr ((readsBack_iff.mp h).unique (hzero ▸ nearestRank_zero le_rfl (by norm_num)))

/-- A fraction of `k` digits that reads back has a place beside it, as near to the magnitude, on
one of the `k` coarsest grids. -/
theorem exists_on_grid {k : Nat} (hr : rank.val ≠ 0) (hd : ReadsBack rank d)
    (hk : d.digits < 10 ^ k) : ∃ count < k, ∃ place : Decimal,
      place.exponent = pointPosition (unitsOfRank rank) - (count + 1 : Nat) ∧
      ReadsBack rank place ∧ gap rank place ≤ gap rank d := by
  have hten : (0 : ℚ) < 10 := by norm_num
  obtain ⟨hlower, hupper⟩ := pointPosition_spec hr
  have hpos : 0 < k := by
    refine Nat.pos_of_ne_zero fun hzero => not_readsBack_of_zero hr ?_ hd
    rw [hzero, Nat.pow_zero] at hk
    omega
  generalize pointPosition (unitsOfRank rank) = point at *
  rcases lt_or_ge d.toRat (10 ^ (point - 1)) with hless | hle
  · have hone : (⟨1, point - 1⟩ : Decimal).toRat = 10 ^ (point - 1) := by
      rw [Decimal.toRat, Nat.cast_one, one_mul]
    refine ⟨0, hpos, ⟨1, point - 1⟩, rfl, ?_, ?_⟩
    · exact readsBack_of_between hd (readsBack_exactDecimal rank) (hone ▸ hless.le)
        (by rw [hone, exactDecimal_toRat]; exact hlower)
    · exact gap_of_le (hone ▸ hless.le) (hone ▸ hlower)
  · have hexponent : point - k ≤ d.exponent := by
      have hlt : d.toRat < 10 ^ (k + d.exponent) := by
        rw [zpow_add₀ hten.ne', zpow_natCast, Decimal.toRat]
        exact mul_lt_mul_of_pos_right (by exact_mod_cast hk) (zpow_pos hten _)
      have := (zpow_lt_zpow_iff_right₀ (by norm_num)).mp (hle.trans_lt hlt)
      omega
    obtain ⟨shift, hshift⟩ := Int.le.dest hexponent
    have hsame : (⟨d.digits * 10 ^ shift, point - k⟩ : Decimal).toRat = d.toRat := by
      rw [Decimal.toRat_shift, hshift]
    refine ⟨k - 1, by omega, _, ?_, (readsBack_congr hsame).mpr hd, ?_⟩
    · rw [Nat.sub_add_cancel hpos]
    · rw [gap, gap, hsame]

/-- A search through the first numbers ends at the first one with a result. -/
theorem exists_of_findSome?_range {α : Type} {f : Nat → Option α} {n : Nat} {found : α}
    (h : (List.range n).findSome? f = some found) :
    ∃ count, f count = some found ∧ ∀ earlier < count, f earlier = none := by
  obtain ⟨before, count, after, hsplit, hfound, hnone⟩ := List.findSome?_eq_some_iff.mp h
  have hlength : before.length = count := by
    have hat : (List.range n)[before.length]? = some count := by
      rw [hsplit, List.getElem?_append_right le_rfl, Nat.sub_self, List.getElem?_cons_zero]
    obtain ⟨_, hat⟩ := List.getElem?_eq_some_iff.mp hat
    rwa [List.getElem_range] at hat
  have hcount : count < n :=
    List.mem_range.mp (hsplit ▸ List.mem_append_right _ List.mem_cons_self)
  have hbefore : before = List.range (min count n) := by
    rw [← List.take_range, hsplit, ← hlength, List.take_left]
  refine ⟨count, hfound, fun earlier he => hnone earlier ?_⟩
  rw [hbefore, List.mem_range]
  omega

/-- The search ends at a grid, since the one of seventeen digits has a neighbour. -/
theorem exists_first (hr : rank.val ≠ 0) : ∃ count,
    IsNeighbour rank (pointPosition (unitsOfRank rank) - (count + 1 : Nat)) (shortest rank) ∧
    ∀ earlier < count,
      neighbour? rank (pointPosition (unitsOfRank rank) - (earlier + 1 : Nat)) = none := by
  have hlower := (pointPosition_spec hr).1
  simp only [shortest]
  generalize pointPosition (unitsOfRank rank) = point at *
  cases hf : (List.range 17).findSome? fun count => neighbour? rank (point - (count + 1 : Nat)) with
  | none =>
    have hnone := List.findSome?_eq_none_iff.mp hf 16 (List.mem_range.mpr (by decide))
    have hfine : (10 : ℚ) ^ (point - (16 + 1 : Nat)) * 10 ^ 16 ≤ magnitude rank := by
      have hexponent : point - (16 + 1 : Nat) + (16 : Nat) = point - 1 := by omega
      rw [← zpow_natCast, ← zpow_add₀ (by norm_num), hexponent]
      exact hlower
    rcases neighbour?_spec rank (point - (16 + 1 : Nat)) with ⟨_, hno⟩ | ⟨_, hd, _⟩
    · rcases exists_readsBack_of_fine hfine with h | h
      · exact absurd rfl (hno _ h)
      · exact absurd rfl (hno _ h)
    · rw [hnone] at hd
      cases hd
  | some d =>
    obtain ⟨count, hd, hnone⟩ := exists_of_findSome?_range hf
    rcases neighbour?_spec rank (point - (count + 1 : Nat)) with ⟨hno, _⟩ | ⟨_, hd', hn⟩
    · rw [hno] at hd
      cases hd
    · obtain rfl := Option.some.inj (hd.symm.trans hd')
      exact ⟨count, hn, hnone⟩

/-- A decimal fraction reads back as the magnitude, no other one that does has fewer digits, and
none that has as few is nearer. -/
structure IsShortest (rank : Fin finiteCount) (d : Decimal) : Prop where
  readsBack : ReadsBack rank d
  least : ∀ other : Decimal, ReadsBack rank other → d.width ≤ other.width
  nearest : ∀ other : Decimal, ReadsBack rank other → other.width = d.width →
    |magnitude rank - d.toRat| ≤ |magnitude rank - other.toRat|

theorem IsShortest.of_toRat_eq {other : Decimal} (h : IsShortest rank d)
    (he : other.toRat = d.toRat) : IsShortest rank other := by
  have hwidth := Decimal.width_congr he
  exact ⟨(readsBack_congr he).mpr h.readsBack, fun rival hr => hwidth.trans_le (h.least rival hr),
    fun rival hr hw => he ▸ h.nearest rival hr (hw.trans hwidth)⟩

theorem IsNeighbour.width_le {count : Nat} (hr : rank.val ≠ 0)
    (h : IsNeighbour rank (pointPosition (unitsOfRank rank) - (count + 1 : Nat)) d) :
    d.width ≤ count + 1 := by
  have hten : (0 : ℚ) < 10 := by norm_num
  have hupper := (pointPosition_spec hr).2
  obtain ⟨_, heq, _⟩ := h
  generalize pointPosition (unitsOfRank rank) = point at *
  have hbelow : (below rank (point - (count + 1 : Nat))).digits < 10 ^ (count + 1) := by
    have hlt := (below_le rank (point - (count + 1 : Nat))).trans_lt hupper
    have hexponent : point = (count + 1 : Nat) + (point - (count + 1 : Nat)) := by omega
    have hpower : (10 : ℚ) ^ point =
        (10 ^ (count + 1) : Nat) * 10 ^ (point - (count + 1 : Nat)) := by
      rw [Nat.cast_pow, Nat.cast_ofNat, ← zpow_natCast, ← zpow_add₀ hten.ne', ← hexponent]
    rw [hpower, Decimal.toRat] at hlt
    exact_mod_cast lt_of_mul_lt_mul_right hlt (zpow_pos hten _).le
  rcases heq with rfl | rfl
  · exact Decimal.width_le_iff.mpr ⟨_, hbelow, rfl⟩
  · rcases Nat.lt_or_eq_of_le hbelow with hlt | heq
    · exact Decimal.width_le_iff.mpr ⟨_, hlt, rfl⟩
    · -- the digits are a power of ten, so a single one is left
      refine Decimal.width_le_iff.mpr ⟨⟨1, point - (count + 1 : Nat) + (count + 1 : Nat)⟩,
        Nat.one_lt_pow (Nat.succ_ne_zero count) (by decide), ?_⟩
      rw [← Decimal.toRat_shift, Nat.one_mul, ← heq]
      rfl

theorem shortest_zero : (shortest ⟨0, by decide⟩).digits = 0 := by decide +kernel

theorem isShortest_of_zero (hr : rank.val = 0) : IsShortest rank (shortest rank) := by
  obtain rfl : rank = ⟨0, by decide⟩ := Fin.ext hr
  have hvalue := Decimal.toRat_of_zero shortest_zero
  refine ⟨?_, fun other _ => ?_, fun other _ _ => ?_⟩
  · rw [readsBack_iff, hvalue, zero_mul]
    exact nearestRank_zero le_rfl (by norm_num)
  · rw [Decimal.width_of_zero shortest_zero]
    exact Nat.zero_le _
  · rw [hvalue, magnitude_zero, sub_zero, abs_zero]
    exact abs_nonneg _

/-- What the search finds has no more digits than any other fraction that reads back, and if they
have as many, it is as near. -/
theorem le_width_of_first {count : Nat} {other : Decimal} (hr : rank.val ≠ 0)
    (hn : IsNeighbour rank (pointPosition (unitsOfRank rank) - (count + 1 : Nat)) d)
    (hnone : ∀ earlier < count,
      neighbour? rank (pointPosition (unitsOfRank rank) - (earlier + 1 : Nat)) = none)
    (ho : ReadsBack rank other) :
    count + 1 ≤ other.width ∧ (other.width ≤ count + 1 → gap rank d ≤ gap rank other) := by
  obtain ⟨same, hsame, hvalue⟩ := Decimal.width_le_iff.mp (le_refl other.width)
  obtain ⟨earlier, hearlier, place, he, hplace, hgap⟩ :=
    exists_on_grid hr ((readsBack_congr hvalue).mpr ho) hsame
  have hcount : count ≤ earlier := by
    by_contra hlt
    rcases neighbour?_spec rank (pointPosition (unitsOfRank rank) - (earlier + 1 : Nat)) with
      ⟨_, hno⟩ | ⟨_, hd, _⟩
    · exact hno place hplace he
    · rw [hnone earlier (Nat.lt_of_not_le hlt)] at hd
      cases hd
  refine ⟨by omega, fun hle => ?_⟩
  obtain rfl : earlier = count := by omega
  have hsame : gap rank same = gap rank other := by rw [gap, gap, hvalue]
  exact hsame ▸ (hn.nearest place hplace he).trans hgap

theorem isShortest_shortest (rank : Fin finiteCount) : IsShortest rank (shortest rank) := by
  by_cases hr : rank.val = 0
  · exact isShortest_of_zero hr
  · obtain ⟨count, hn, hnone⟩ := exists_first hr
    have hwidth := hn.width_le hr
    exact ⟨hn.readsBack, fun other ho => hwidth.trans (le_width_of_first hr hn hnone ho).1,
      fun other ho hw => (le_width_of_first hr hn hnone ho).2 (hw.trans_le hwidth)⟩

end Binary64
end Toolbench
