import Mathlib.Algebra.Order.Field.Power
import Mathlib.Data.Nat.Cast.Order.Field
import Mathlib.Data.Rat.Floor
import Mathlib.Tactic.FieldSimp
import Mathlib.Tactic.Linarith
import Mathlib.Tactic.NormNum
import Mathlib.Tactic.Positivity
import Mathlib.Tactic.Ring
import Toolbench.Number.Binary64

/-! # Correct rounding

A quotient of units is rounded in two steps. It is counted in steps of a power of two that is
chosen so that the count has at most 53 binary digits, and the count is rounded to a whole number.
The result is nearest among all ranks, and even on a tie (`nearestRank_spec`), because the
magnitudes that are no multiples of the step are too small to be nearer. There is only one such
rank, and rounding keeps the order (`NearestRank.unique`, `NearestRank.mono`), so the finite
numbers end at a single bound (`NearestRank.lt_finiteCount_iff`).

The numbers themselves stand for rationals by the fields of their bit patterns (`magnitude`), and a
nearest rank is the number nearest to a rational (`NearestRank.roundsTo`). -/

namespace Toolbench

/-! ## The nearest whole number -/

/-- The whole number is nearest to `x`, and even if another one is as near. -/
structure NearestWhole (x : ℚ) (k : Nat) : Prop where
  within : |x - k| ≤ 1 / 2
  even : |x - k| = 1 / 2 → Even k

namespace NearestWhole

variable {x : ℚ} {k j : Nat}

theorem one_sub_le (x : ℚ) (hj : j ≠ k) : 1 - |x - k| ≤ |x - j| := by
  have hone : (1 : ℚ) ≤ |(j : ℚ) - k| := by
    rcases Nat.lt_or_gt_of_ne hj with hlt | hlt
    · rw [abs_sub_comm]
      exact le_trans (by rw [le_sub_iff_add_le]; exact_mod_cast (by omega : 1 + j ≤ k))
        (le_abs_self _)
    · exact le_trans (by rw [le_sub_iff_add_le]; exact_mod_cast (by omega : 1 + k ≤ j))
        (le_abs_self _)
  have htriangle := abs_sub_le (j : ℚ) x k
  rw [abs_sub_comm (j : ℚ) x] at htriangle
  linarith

theorem le (h : NearestWhole x k) (j : Nat) : |x - k| ≤ |x - j| := by
  by_cases hj : j = k
  · rw [hj]
  · have := one_sub_le x hj
    have := h.within
    linarith

theorem even_of_tie (h : NearestWhole x k) (hj : j ≠ k) (ht : |x - j| = |x - k|) : Even k := by
  have := one_sub_le x hj
  exact h.even (le_antisymm h.within (by linarith))

end NearestWhole

theorem nearestWhole_roundQuotient (num : Nat) {den : Nat} (hd : 0 < den) :
    NearestWhole ((num : ℚ) / den) (roundQuotient num den) := by
  have hden : (0 : ℚ) < den := by exact_mod_cast hd
  have hquotient : (num : ℚ) / den = (num / den : Nat) + ((num % den : Nat) : ℚ) / den := by
    field_simp
    exact_mod_cast (Nat.div_add_mod num den).symm
  have hpart : (0 : ℚ) ≤ ((num % den : Nat) : ℚ) / den ∧ ((num % den : Nat) : ℚ) / den < 1 :=
    ⟨by positivity, (div_lt_one hden).mpr (by exact_mod_cast Nat.mod_lt num hd)⟩
  have hhalf : ((num % den : Nat) : ℚ) / den < 1 / 2 ↔ 2 * (num % den) < den := by
    rw [div_lt_div_iff₀ hden two_pos, one_mul, mul_comm]
    exact_mod_cast Iff.rfl
  have hhalf' : 1 / 2 < ((num % den : Nat) : ℚ) / den ↔ den < 2 * (num % den) := by
    rw [div_lt_div_iff₀ two_pos hden, one_mul, mul_comm]
    exact_mod_cast Iff.rfl
  rw [hquotient]
  simp only [roundQuotient]
  generalize num / den = whole
  generalize ((num % den : Nat) : ℚ) / den = part at hpart hhalf hhalf'
  rcases lt_trichotomy part (1 / 2) with h | h | h
  · rw [if_pos (hhalf.mp h)]
    have habs : |(whole : ℚ) + part - whole| = part := by
      rw [add_sub_cancel_left, abs_of_nonneg hpart.1]
    exact ⟨by rw [habs]; exact h.le, fun he => absurd (habs.symm.trans he) h.ne⟩
  · rw [if_neg (mt hhalf.mpr h.not_lt), if_neg (mt hhalf'.mpr h.not_gt), h]
    refine ⟨?_, fun _ => Nat.even_iff.mpr (by omega)⟩
    rcases Nat.mod_two_eq_zero_or_one whole with hw | hw <;> rw [hw, abs_le] <;> push_cast <;>
      constructor <;> linarith
  · rw [if_neg (mt hhalf.mpr h.not_gt), if_pos (hhalf'.mp h)]
    have habs : |(whole : ℚ) + part - (whole + 1 : Nat)| = 1 - part := by
      push_cast
      rw [add_sub_add_left_eq_sub, abs_sub_comm, abs_of_nonneg (by linarith)]
    exact ⟨by rw [habs]; linarith, fun he => absurd (habs.symm.trans he) (by linarith)⟩

/-! ## Ranks and units -/

namespace Binary64

/-- The rank of a whole number below `2 ^ 53`, counted in steps of `2 ^ scale` units. -/
theorem unitsOfRank_scaled {scale k : Nat} (hk : k ≤ 2 ^ 53) (hlow : scale = 0 ∨ 2 ^ 52 ≤ k) :
    unitsOfRank (scale * 2 ^ 52 + k) = k * 2 ^ scale := by
  simp only [unitsOfRank, Nat.pow_eq]
  rcases Nat.lt_or_ge k (2 ^ 52) with h | h
  · obtain rfl : scale = 0 := by omega
    rw [if_pos (by omega)]
    omega
  · rcases Nat.lt_or_eq_of_le hk with h' | rfl
    · have hbinade : (scale * 2 ^ 52 + k) / 2 ^ 52 = scale + 1 := by omega
      have hrest : (scale * 2 ^ 52 + k) % 2 ^ 52 = k - 2 ^ 52 := by omega
      rw [hbinade, hrest, if_neg (Nat.succ_ne_zero scale), Nat.add_sub_cancel,
        Nat.add_sub_cancel' h]
    · have hbinade : (scale * 2 ^ 52 + 2 ^ 53) / 2 ^ 52 = scale + 2 := by omega
      have hrest : (scale * 2 ^ 52 + 2 ^ 53) % 2 ^ 52 = 0 := by omega
      rw [hbinade, hrest, if_neg (Nat.succ_ne_zero _), Nat.add_zero, Nat.add_sub_assoc (by decide)]
      ring

theorem exists_scaled (rank : Nat) : ∃ scale k, rank = scale * 2 ^ 52 + k ∧ k < 2 ^ 53 ∧
    (scale = 0 ∨ 2 ^ 52 ≤ k) := by
  rcases Nat.lt_or_ge rank (2 ^ 52) with h | h
  · exact ⟨0, rank, by omega, by omega, .inl rfl⟩
  · exact ⟨rank / 2 ^ 52 - 1, rank - (rank / 2 ^ 52 - 1) * 2 ^ 52, by omega, by omega,
      .inr (by omega)⟩

theorem unitsOfRank_strictMono : StrictMono unitsOfRank := by
  refine strictMono_nat_of_lt_succ fun rank => ?_
  obtain ⟨scale, k, rfl, hk, hlow⟩ := exists_scaled rank
  have hnext : scale = 0 ∨ 2 ^ 52 ≤ k + 1 := hlow.imp_right fun h => by omega
  rw [unitsOfRank_scaled hk.le hlow, Nat.add_assoc, unitsOfRank_scaled hk hnext]
  exact Nat.mul_lt_mul_of_pos_right (Nat.lt_succ_self k) (by positivity)

/-- From `2 ^ 52` steps on, the magnitudes are whole multiples of the step. -/
theorem exists_eq_mul {scale rank : Nat} (h : scale = 0 ∨ scale * 2 ^ 52 + 2 ^ 52 ≤ rank) :
    ∃ j, unitsOfRank rank = j * 2 ^ scale := by
  obtain ⟨larger, k, rfl, hk, hlow⟩ := exists_scaled rank
  have hle : scale ≤ larger := by omega
  refine ⟨k * 2 ^ (larger - scale), ?_⟩
  rw [unitsOfRank_scaled hk.le hlow, Nat.mul_assoc, ← Nat.pow_add, Nat.sub_add_cancel hle]

/-! ## The nearest rank -/

/-- The magnitude of the rank is nearest to `x` units, and the rank is even if another one is as
near. -/
structure NearestRank (x : ℚ) (rank : Nat) : Prop where
  le : ∀ other, |x - unitsOfRank rank| ≤ |x - unitsOfRank other|
  even_of_tie : ∀ other, other ≠ rank → |x - unitsOfRank other| = |x - unitsOfRank rank| →
    Even rank

/-- A number is nearest in steps of `2 ^ scale` units, so it is nearest among all ranks: the
smaller ranks lie below `2 ^ 52` steps, and `x` does not. -/
theorem nearestRank_of_nearestWhole {x : ℚ} {scale k : Nat}
    (h : NearestWhole (x / 2 ^ scale) k) (hx : scale = 0 ∨ 2 ^ 52 * 2 ^ scale ≤ x)
    (hlow : scale = 0 ∨ 2 ^ 52 ≤ k) (hk : k ≤ 2 ^ 53) : NearestRank x (scale * 2 ^ 52 + k) := by
  have hstep : (0 : ℚ) < 2 ^ scale := by positivity
  have hscale (j : Nat) : |x - (j * 2 ^ scale : Nat)| = |x / 2 ^ scale - j| * 2 ^ scale := by
    rw [← abs_of_pos hstep, ← abs_mul, abs_of_pos hstep]
    push_cast
    congr 1
    field_simp
  have hunits := unitsOfRank_scaled hk hlow
  have hgrid {other : Nat} (ho : scale = 0 ∨ scale * 2 ^ 52 + 2 ^ 52 ≤ other) :
      |x - unitsOfRank (scale * 2 ^ 52 + k)| ≤ |x - unitsOfRank other| ∧
      (other ≠ scale * 2 ^ 52 + k →
        |x - unitsOfRank other| = |x - unitsOfRank (scale * 2 ^ 52 + k)| → Even k) := by
    obtain ⟨j, hj⟩ := exists_eq_mul ho
    rw [hj, hunits, hscale, hscale]
    refine ⟨mul_le_mul_of_nonneg_right (h.le j) hstep.le, fun hne ht => ?_⟩
    refine h.even_of_tie (fun hjk => hne ?_) (mul_right_cancel₀ hstep.ne' ht)
    exact unitsOfRank_strictMono.injective (hj.trans (hjk ▸ hunits.symm))
  have hbelow {other : Nat} (hs : scale ≠ 0) (ho : other < scale * 2 ^ 52 + 2 ^ 52) :
      |x - unitsOfRank (scale * 2 ^ 52 + k)| < |x - unitsOfRank other| := by
    have hleast : unitsOfRank (scale * 2 ^ 52 + 2 ^ 52) = 2 ^ 52 * 2 ^ scale :=
      unitsOfRank_scaled (by decide) (.inr le_rfl)
    have hx := hx.resolve_left hs
    have hother : (unitsOfRank other : ℚ) < 2 ^ 52 * 2 ^ scale := by
      have hlt := unitsOfRank_strictMono ho
      rw [hleast] at hlt
      exact_mod_cast hlt
    refine lt_of_le_of_lt (hgrid (.inr le_rfl)).1 ?_
    rw [hleast, abs_of_nonneg (by push_cast; linarith), abs_of_nonneg (by linarith)]
    push_cast
    linarith
  have heven : Even k → Even (scale * 2 ^ 52 + k) :=
    ((Nat.even_pow.mpr ⟨even_two, by decide⟩).mul_left scale).add
  refine ⟨fun other => ?_, fun other hne ht => ?_⟩ <;>
    by_cases ho : scale = 0 ∨ scale * 2 ^ 52 + 2 ^ 52 ≤ other
  · exact (hgrid ho).1
  · exact (hbelow (by omega) (by omega)).le
  · exact heven ((hgrid ho).2 hne ht)
  · exact absurd ht (hbelow (by omega) (by omega)).ne'

theorem nearestRank_spec (num : Nat) {den : Nat} (hd : 0 < den) :
    NearestRank ((num : ℚ) / den) (nearestRank num den) := by
  have hden : (0 : ℚ) < den := by exact_mod_cast hd
  simp only [nearestRank, Nat.pow_eq]
  generalize hs : (num / den).log2 - 52 = scale
  have hstep : (0 : ℚ) < 2 ^ scale := by positivity
  have hfloor : ((num / den : Nat) : ℚ) ≤ (num : ℚ) / den := Nat.cast_div_le
  have hnear : NearestWhole ((num : ℚ) / den / 2 ^ scale)
      (roundQuotient num (den * 2 ^ scale)) := by
    have h := nearestWhole_roundQuotient num (by positivity : 0 < den * 2 ^ scale)
    push_cast at h
    rwa [div_div]
  generalize roundQuotient num (den * 2 ^ scale) = k at hnear ⊢
  have hupper : (num : ℚ) / den < 2 ^ 53 * 2 ^ scale := by
    have hlt : num / den < 2 ^ (53 + scale) :=
      lt_of_lt_of_le Nat.lt_log2_self (Nat.pow_le_pow_right two_pos (by omega))
    rw [div_lt_iff₀ hden]
    rw [Nat.div_lt_iff_lt_mul hd, Nat.pow_add] at hlt
    exact_mod_cast hlt
  have hlower : scale = 0 ∨ 2 ^ 52 * 2 ^ scale ≤ (num : ℚ) / den := by
    rcases Nat.eq_zero_or_pos scale with h | h
    · exact .inl h
    · have hlog : (num / den).log2 = 52 + scale := by omega
      have hne : num / den ≠ 0 := fun hz => by
        rw [hz, Nat.log2_zero] at hlog
        omega
      have hle : 2 ^ (52 + scale) ≤ num / den := hlog ▸ Nat.log2_self_le hne
      rw [Nat.pow_add] at hle
      exact .inr (le_trans (by exact_mod_cast hle) hfloor)
  obtain ⟨hleast, hgreatest⟩ := abs_le.mp hnear.within
  have hk : k ≤ 2 ^ 53 := by
    have hlt : (num : ℚ) / den / 2 ^ scale < 2 ^ 53 := (div_lt_iff₀ hstep).mpr hupper
    have hk : (k : ℚ) < 2 ^ 53 + 1 := by linarith
    exact Nat.lt_succ_iff.mp (by exact_mod_cast hk)
  have hlow : scale = 0 ∨ 2 ^ 52 ≤ k := by
    refine hlower.imp_right fun hx => ?_
    have hle : 2 ^ 52 ≤ (num : ℚ) / den / 2 ^ scale := (le_div_iff₀ hstep).mpr hx
    have hk : (2 : ℚ) ^ 52 < k + 1 := by linarith
    exact Nat.lt_succ_iff.mp (by exact_mod_cast hk)
  exact nearestRank_of_nearestWhole hnear hlower hlow hk

theorem nearestRank_zero {x : ℚ} (h : 0 ≤ x) (hx : x ≤ 1 / 2) : NearestRank x 0 := by
  have hnear : NearestWhole (x / 2 ^ 0) 0 := by
    rw [pow_zero, div_one]
    refine ⟨?_, fun _ => Even.zero⟩
    rw [Nat.cast_zero, sub_zero, abs_of_nonneg h]
    exact hx
  exact nearestRank_of_nearestWhole hnear (.inl rfl) (.inl rfl) (Nat.zero_le _)

theorem unitsInOne_eq : unitsInOne = 2 ^ 1074 := by decide +kernel

theorem cast_unitsInOne : (unitsInOne : ℚ) = 2 ^ 1074 := by
  rw [unitsInOne_eq, Nat.cast_pow, Nat.cast_ofNat]

/-- The rank of a quotient that is counted in ones. -/
theorem nearestRank_units (num : Nat) {den : Nat} (hd : 0 < den) :
    NearestRank ((num : ℚ) / den * 2 ^ 1074) (nearestRank (num * unitsInOne) den) := by
  have h := nearestRank_spec (num * unitsInOne) hd
  rwa [Nat.cast_mul, cast_unitsInOne, mul_div_right_comm] at h

/-! ### Two neighbours and the midpoint between them -/

section
variable {a b x : ℚ}

theorem left_nearer_iff (h : a < b) : |x - a| ≤ |x - b| ↔ 2 * x ≤ a + b := by
  rw [← sq_le_sq]
  constructor <;> intro hx <;> nlinarith

theorem right_nearer_iff (h : a < b) : |x - b| ≤ |x - a| ↔ a + b ≤ 2 * x := by
  rw [← sq_le_sq]
  constructor <;> intro hx <;> nlinarith

/-- A point between two others that are as near to `x` is nearer. -/
theorem abs_sub_lt_of_between (hab : a < b) {c : ℚ} (hbc : b < c) (h : |x - a| = |x - c|) :
    |x - b| < |x - a| := by
  have hx := (left_nearer_iff (hab.trans hbc)).mp h.le
  have hx' := (right_nearer_iff (hab.trans hbc)).mp h.ge
  have ha : 0 < x - a := by linarith
  rw [abs_of_pos ha, abs_lt]
  constructor <;> linarith

end

theorem units_lt {rank other : Nat} (h : rank < other) :
    (unitsOfRank rank : ℚ) < unitsOfRank other := by
  exact_mod_cast unitsOfRank_strictMono h

namespace NearestRank

variable {x y : ℚ} {rank other : Nat}

/-- Two ranks that are as near would both be even, and the one between them would be nearer. -/
theorem unique (h : NearestRank x rank) (h' : NearestRank x other) : rank = other := by
  by_contra hne
  wlog hlt : rank < other generalizing rank other
  · exact this h' h (Ne.symm hne) (by omega)
  have ht : |x - unitsOfRank rank| = |x - unitsOfRank other| := le_antisymm (h.le _) (h'.le _)
  have hbetween : rank + 1 < other := by
    have heven := h.even_of_tie other (Ne.symm hne) ht.symm
    have heven' := h'.even_of_tie rank hne ht
    rw [Nat.even_iff] at heven heven'
    omega
  have hnearer := abs_sub_lt_of_between (units_lt (Nat.lt_succ_self rank)) (units_lt hbetween) ht
  exact hnearer.not_ge (h.le (rank + 1))

/-- Rounding keeps the order. -/
theorem mono (h : NearestRank x rank) (h' : NearestRank y other) (hxy : x ≤ y) :
    rank ≤ other := by
  by_contra hlt
  have hunits := units_lt (Nat.lt_of_not_le hlt)
  have hx := (right_nearer_iff hunits).mp (h.le other)
  have hy := (left_nearer_iff hunits).mp (h'.le rank)
  obtain rfl : x = y := by linarith
  exact hlt (h.unique h').le

/-- Between an odd rank and the next one the midpoint is rounded up. -/
theorem le_iff {bound : Nat} (h : NearestRank x rank) (hb : Odd bound) :
    rank ≤ bound ↔ 2 * x < unitsOfRank bound + unitsOfRank (bound + 1) := by
  have hnext := units_lt (Nat.lt_succ_self bound)
  constructor
  · intro hle
    by_contra hx
    have hrank : (unitsOfRank rank : ℚ) ≤ unitsOfRank bound := by
      exact_mod_cast unitsOfRank_strictMono.monotone hle
    have hnear := (left_nearer_iff (hrank.trans_lt hnext)).mp (h.le (bound + 1))
    -- the two are as near, so the rank would be even
    have hunits : (unitsOfRank bound : ℚ) = unitsOfRank rank := by linarith
    obtain rfl : bound = rank := unitsOfRank_strictMono.injective (by exact_mod_cast hunits)
    have htie : |x - unitsOfRank (bound + 1)| = |x - unitsOfRank bound| :=
      le_antisymm ((right_nearer_iff hnext).mpr (by linarith)) (h.le _)
    exact Nat.not_even_iff_odd.mpr hb (h.even_of_tie _ (Nat.succ_ne_self bound) htie)
  · intro hx
    by_contra hlt
    have hlt := Nat.lt_of_not_le hlt
    have hnear := (right_nearer_iff (units_lt hlt)).mp (h.le bound)
    have hrank : (unitsOfRank (bound + 1) : ℚ) ≤ unitsOfRank rank := by
      exact_mod_cast unitsOfRank_strictMono.monotone hlt
    linarith

/-- At the end of a binade the midpoint is half a step below `2 ^ 53` steps. -/
theorem lt_binade_iff {scale : Nat} (h : NearestRank x rank) :
    rank < (scale + 2) * 2 ^ 52 ↔ 2 * x < (2 ^ 54 - 1) * 2 ^ scale := by
  have hlast : unitsOfRank (scale * 2 ^ 52 + (2 ^ 53 - 1)) = (2 ^ 53 - 1) * 2 ^ scale :=
    unitsOfRank_scaled (by decide) (.inr (by decide))
  have hnext : unitsOfRank (scale * 2 ^ 52 + 2 ^ 53) = 2 ^ 53 * 2 ^ scale :=
    unitsOfRank_scaled le_rfl (.inr (by decide))
  have hsucc : scale * 2 ^ 52 + (2 ^ 53 - 1) + 1 = scale * 2 ^ 52 + 2 ^ 53 := by omega
  have hodd : Odd (scale * 2 ^ 52 + (2 ^ 53 - 1)) := Nat.odd_iff.mpr (by omega)
  have hcount : rank < (scale + 2) * 2 ^ 52 ↔ rank ≤ scale * 2 ^ 52 + (2 ^ 53 - 1) := by omega
  have hsum : (((2 ^ 53 - 1) * 2 ^ scale : Nat) : ℚ) + (2 ^ 53 * 2 ^ scale : Nat) =
      (2 ^ 54 - 1) * 2 ^ scale := by
    push_cast
    ring
  rw [hcount, h.le_iff hodd, hsucc, hlast, hnext, hsum]

/-- Exactly the magnitudes below `2 ^ 1024 - 2 ^ 970` have a nearest one among the finite
numbers. -/
theorem lt_finiteCount_iff (h : NearestRank (x * 2 ^ 1074) rank) :
    rank < finiteCount ↔ x < 2 ^ 1024 - 2 ^ 970 := by
  have hcount : finiteCount = (2045 + 2) * 2 ^ 52 := by decide
  have hstep : (2 : ℚ) ^ 2045 = 2 * 2 ^ 970 * 2 ^ 1074 := by rw [← pow_succ', ← pow_add]
  have htop : (2 : ℚ) ^ 1024 = 2 ^ 54 * 2 ^ 970 := by rw [← pow_add]
  have hunit : (0 : ℚ) < 2 ^ 1074 := pow_pos two_pos _
  rw [hcount, h.lt_binade_iff, hstep, htop]
  generalize (2 : ℚ) ^ 1074 = unit at hunit ⊢
  generalize (2 : ℚ) ^ 970 = half
  have hscale : (2 ^ 54 - 1) * (2 * half * unit) = 2 * ((2 ^ 54 * half - half) * unit) := by ring
  rw [hscale, mul_lt_mul_iff_right₀ two_pos, mul_lt_mul_iff_left₀ hunit]

end NearestRank

/-- The number of a rank, beyond the greatest one an infinity. -/
def ofRank (negative : Bool) (rank : Nat) : Binary64 :=
  if h : rank < finiteCount then .finite negative ⟨rank, h⟩ else .infinite negative

theorem ofQuotient_eq {num den rank : Nat} (hd : 0 < den)
    (h : NearestRank ((num : ℚ) / den * 2 ^ 1074) rank) (negative : Bool) :
    ofQuotient negative num den = ofRank negative rank :=
  congrArg (ofRank negative) ((nearestRank_units num hd).unique h)

/-! ## Encodings and the numbers that they stand for -/

/-- The magnitude that a bit pattern without its sign stands for. The bits from the 52nd on are an
exponent; below them stands the fraction, with an implicit one before it unless the exponent is
zero. -/
def magnitude (rank : Nat) : ℚ :=
  if rank / 2 ^ 52 = 0 then 2 ^ (-1022 : ℤ) * ((rank % 2 ^ 52 : Nat) / 2 ^ 52)
  else 2 ^ ((rank / 2 ^ 52 : Nat) - 1023 : ℤ) * (1 + (rank % 2 ^ 52 : Nat) / 2 ^ 52)

theorem magnitude_eq (rank : Nat) : magnitude rank = unitsOfRank rank / 2 ^ 1074 := by
  have hunit : (2 : ℚ) ^ 1074 = 2 ^ 1022 * 2 ^ 52 := by rw [← pow_add]
  have hleast : (2 : ℚ) ^ (-1022 : ℤ) = (2 ^ 1022)⁻¹ := zpow_neg_coe_of_pos 2 (by decide)
  have hbinade (e : Nat) : (2 : ℚ) ^ ((e + 1 : Nat) - 1023 : ℤ) = 2 ^ e * (2 ^ 1022)⁻¹ := by
    rw [← hleast, ← zpow_natCast, ← zpow_add₀ two_ne_zero]
    congr 1
    omega
  have hpos : (0 : ℚ) < 2 ^ 1022 := pow_pos two_pos _
  simp only [magnitude, unitsOfRank, Nat.pow_eq, hunit, hleast]
  cases hb : rank / 2 ^ 52 with
  | zero =>
    have hrank : rank % 2 ^ 52 = rank := by omega
    rw [if_pos rfl, if_pos rfl, hrank]
    generalize (2 : ℚ) ^ 1022 = scale at hpos
    field_simp
  | succ e =>
    rw [if_neg (Nat.succ_ne_zero e), if_neg (Nat.succ_ne_zero e), hbinade, Nat.add_sub_cancel]
    generalize (2 : ℚ) ^ 1022 = scale at hpos
    simp only [Nat.cast_mul, Nat.cast_add, Nat.cast_pow, Nat.cast_ofNat]
    field_simp

theorem magnitude_strictMono : StrictMono magnitude := by
  intro rank other h
  rw [magnitude_eq, magnitude_eq]
  exact div_lt_div_of_pos_right (units_lt h) (pow_pos two_pos _)

theorem magnitude_zero : magnitude 0 = 0 := by
  have h : unitsOfRank 0 = 0 := by decide
  rw [magnitude_eq, h, Nat.cast_zero, zero_div]

theorem magnitude_nonneg (rank : Nat) : 0 ≤ magnitude rank := by
  rw [magnitude_eq]
  exact div_nonneg (Nat.cast_nonneg _) (pow_pos two_pos _).le

theorem abs_sub_magnitude (q : ℚ) (rank : Nat) :
    |q * 2 ^ 1074 - unitsOfRank rank| = |q - magnitude rank| * 2 ^ 1074 := by
  have hunit : (0 : ℚ) < 2 ^ 1074 := pow_pos two_pos _
  rw [magnitude_eq]
  generalize (2 : ℚ) ^ 1074 = unit at hunit
  rw [← abs_of_pos hunit, ← abs_mul, abs_of_pos hunit, sub_mul, div_mul_cancel₀ _ hunit.ne']

/-- The rational number that a finite number stands for. -/
def rational : Binary64 → ℚ
  | .finite negative rank => if negative then -magnitude rank else magnitude rank
  | _ => 0

/-- The last bit is zero. -/
def IsEven : Binary64 → Prop
  | .finite _ rank => Even rank.val
  | _ => False

/-- The finite number is nearest to `q`, even if another number is as near, and has the given
sign. -/
structure RoundsTo (negative : Bool) (q : ℚ) (x : Binary64) : Prop where
  finite : x.IsFinite
  nearest : ∀ y : Binary64, y.IsFinite → |q - x.rational| ≤ |q - y.rational|
  even_of_tie : ∀ y : Binary64, y.IsFinite → y.rational ≠ x.rational →
    |q - y.rational| = |q - x.rational| → x.IsEven
  sign : x.isNegative = negative

/-- The distance of a number from one of the other sign is the sum of the two magnitudes. -/
theorem abs_sub_rational {q : ℚ} (hq : 0 ≤ q) (negative other : Bool)
    (rank : Fin finiteCount) :
    |(if negative then -q else q) - rational (.finite other rank)| =
      if other = negative then |q - magnitude rank| else q + magnitude rank := by
  have hrank := magnitude_nonneg rank
  have hsum : |q + magnitude rank| = q + magnitude rank := abs_of_nonneg (add_nonneg hq hrank)
  cases negative <;> cases other <;> simp only [rational, if_true, if_false, Bool.false_eq_true,
    reduceCtorEq]
  · rw [sub_neg_eq_add, hsum]
  · rw [← neg_add', abs_neg, hsum]
  · rw [neg_sub_neg, abs_sub_comm]

theorem NearestRank.roundsTo {q : ℚ} {rank : Fin finiteCount} (hq : 0 ≤ q)
    (h : NearestRank (q * 2 ^ 1074) rank) (negative : Bool) :
    RoundsTo negative (if negative then -q else q) (.finite negative rank) := by
  have hunit : (0 : ℚ) < 2 ^ 1074 := pow_pos two_pos _
  have hle (other : Nat) : |q - magnitude rank| ≤ |q - magnitude other| := by
    have hunits := h.le other
    rwa [abs_sub_magnitude, abs_sub_magnitude, mul_le_mul_iff_left₀ hunit] at hunits
  have htie (other : Nat) (hne : magnitude other ≠ magnitude rank)
      (he : |q - magnitude other| = |q - magnitude rank|) : Even rank.val := by
    refine h.even_of_tie other (fun hr => hne (congrArg magnitude hr)) ?_
    rw [abs_sub_magnitude, abs_sub_magnitude, he]
  have hzero : |q - magnitude 0| = q := by rw [magnitude_zero, sub_zero, abs_of_nonneg hq]
  refine ⟨trivial, fun y hy => ?_, fun y hy hne he => ?_, rfl⟩
  · cases y with
    | nan | infinite => exact hy.elim
    | finite other r =>
      rw [abs_sub_rational hq, abs_sub_rational hq, if_pos rfl]
      split
      · exact hle r
      · have := hle 0
        have := magnitude_nonneg r
        linarith
  · cases y with
    | nan | infinite => exact hy.elim
    | finite other r =>
      rw [abs_sub_rational hq, abs_sub_rational hq, if_pos rfl] at he
      split at he
      next hs =>
        refine htie r (fun hr => hne ?_) he
        rw [rational, rational, hs, hr]
      next hs =>
        -- a number of the other sign is as near only if it is a zero
        have hnear := hle 0
        have hr : magnitude r = 0 := le_antisymm (by linarith) (magnitude_nonneg r)
        refine htie 0 (fun hr' => hne ?_) (by linarith)
        rw [magnitude_zero] at hr'
        simp [rational, hr, ← hr']

/-- Of two even ranks that are as near, the one between them would be nearer. -/
theorem not_both_nearest {x : ℚ} {rank other : Fin finiteCount} (hlt : rank < other)
    (heven : Even rank.val) (heven' : Even other.val)
    (ht : |x - magnitude rank| = |x - magnitude other|) :
    ∃ between : Fin finiteCount, |x - magnitude between| < |x - magnitude rank| := by
  have hnext : rank.val + 1 < other.val := by
    have hlt : rank.val < other.val := hlt
    rw [Nat.even_iff] at heven heven'
    omega
  exact ⟨⟨rank.val + 1, hnext.trans other.isLt⟩, abs_sub_lt_of_between
    (magnitude_strictMono (Nat.lt_succ_self rank.val)) (magnitude_strictMono hnext) ht⟩

/-- A rational is rounded to one number only. -/
theorem RoundsTo.unique {negative : Bool} {q : ℚ} {x y : Binary64} (h : RoundsTo negative q x)
    (h' : RoundsTo negative q y) : x = y := by
  obtain ⟨hfinite, hnear, heven, hsign⟩ := h
  obtain ⟨hfinite', hnear', heven', hsign'⟩ := h'
  have ht : |q - x.rational| = |q - y.rational| := le_antisymm (hnear y hfinite') (hnear' x hfinite)
  cases x with
  | nan | infinite => exact hfinite.elim
  | finite s rank =>
    cases y with
    | nan | infinite => exact hfinite'.elim
    | finite t other =>
      obtain rfl : s = negative := hsign
      obtain rfl : t = s := hsign'
      have hdistance (r : Fin finiteCount) : |q - rational (.finite t r)| =
          |(if t then -q else q) - magnitude r| := by
        cases t
        · rfl
        · simp only [rational, if_true]
          rw [sub_neg_eq_add, ← neg_add', abs_neg]
      by_contra hne
      have hranks : rank ≠ other := fun he => hne (congrArg _ he)
      have hvalues : rational (.finite t other) ≠ rational (.finite t rank) := by
        have hmagnitude : magnitude other ≠ magnitude rank :=
          fun he => hranks (Fin.ext (magnitude_strictMono.injective he.symm))
        cases t
        · exact hmagnitude
        · exact fun he => hmagnitude (neg_injective he)
      have heven : Even rank.val := heven (.finite t other) trivial hvalues ht.symm
      have heven' : Even other.val := heven' (.finite t rank) trivial hvalues.symm ht
      rw [hdistance, hdistance] at ht
      rcases lt_or_gt_of_ne hranks with hlt | hlt
      · obtain ⟨between, hb⟩ := not_both_nearest hlt heven heven' ht
        rw [← hdistance, ← hdistance] at hb
        exact hb.not_ge (hnear _ trivial)
      · obtain ⟨between, hb⟩ := not_both_nearest hlt heven' heven ht.symm
        rw [← hdistance, ← hdistance] at hb
        exact hb.not_ge (hnear' _ trivial)

end Binary64
end Toolbench
