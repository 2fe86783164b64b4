import Toolbench.Number.Layout
import Toolbench.Proofs.Decimal

/-! # How numbers are written

A decimal fraction is written with its significant digits, in full or with an exponent of ten. In
either form, and wherever the point stands, the text is a decimal numeral of the same value
(`writes_decimal`). -/

namespace Toolbench

/-! ## Digits -/

namespace Text

/-- The values of ASCII digits. -/
def asciiDigits (text : List Char) : List Nat := text.map fun c => c.toNat - 48

theorem ofDigits_asciiDigits (text later : List Char) :
    ofDigits (asciiDigits text ++ asciiDigits later) = Nat.ofDigitChars 10 (text ++ later) 0 := by
  rw [asciiDigits, asciiDigits, ← List.map_append, ofDigits_map_toNat]

theorem ofDigitChars_zeros_append (n : Nat) (text : List Char) :
    Nat.ofDigitChars 10 (List.replicate n '0' ++ text) 0 = Nat.ofDigitChars 10 text 0 := by
  rw [Nat.ofDigitChars_append, Nat.ofDigitChars_replicate_zero, Nat.mul_zero]

theorem ofDigitChars_append_zeros (text : List Char) (n : Nat) :
    Nat.ofDigitChars 10 (text ++ List.replicate n '0') 0 = 10 ^ n * Nat.ofDigitChars 10 text 0 := by
  rw [Nat.ofDigitChars_append, Nat.ofDigitChars_replicate_zero]

theorem lt_pow_length_toDigits (n : Nat) : n < 10 ^ (Nat.toDigits 10 n).length :=
  (Nat.length_toDigits_le_iff (by decide) (List.length_pos_of_ne_nil Nat.toDigits_ne_nil)).mp le_rfl

theorem pow_length_toDigits_le {n : Nat} (hn : n ≠ 0) :
    10 ^ ((Nat.toDigits 10 n).length - 1) ≤ n := by
  rcases Nat.eq_zero_or_pos ((Nat.toDigits 10 n).length - 1) with h | h
  · rw [h, Nat.pow_zero]
    exact Nat.one_le_iff_ne_zero.mpr hn
  · refine Nat.le_of_not_lt fun hlt => ?_
    have hle := (Nat.length_toDigits_le_iff (by decide) h).mpr hlt
    omega

theorem isDigit_replicate {n : Nat} : ∀ c ∈ List.replicate n '0', c.isDigit = true := by
  intro c hc
  rw [List.eq_of_mem_replicate hc]
  decide

end Text

namespace Layout

theorem exists_significant (digits : List Char) :
    ∃ zeros, digits = significant digits ++ List.replicate zeros '0' := by
  refine ⟨(digits.reverse.takeWhile (· = '0')).length, ?_⟩
  have hzeros : digits.reverse.takeWhile (· = '0') =
      List.replicate (digits.reverse.takeWhile (· = '0')).length '0' :=
    List.eq_replicate_iff.mpr
      ⟨rfl, fun c hc => of_decide_eq_true (List.all_eq_true.mp List.all_takeWhile c hc)⟩
  rw [significant, ← List.reverse_replicate, ← hzeros, ← List.reverse_append,
    List.takeWhile_append_dropWhile, List.reverse_reverse]

theorem significant_last {digits : List Char} (h : significant digits ≠ []) :
    ∃ front c, significant digits = front ++ [c] ∧ c ≠ '0' := by
  have hlast := List.head?_dropWhile_not (· = '0') digits.reverse
  simp only [significant] at h ⊢
  cases hd : digits.reverse.dropWhile (· = '0') with
  | nil =>
    rw [hd] at h
    exact absurd rfl h
  | cons c rest =>
    rw [hd] at hlast
    exact ⟨rest.reverse, c, List.reverse_cons, of_decide_eq_false hlast⟩

/-- The digits of a number that is not zero, without the zeros at their end. -/
structure Significant (n : Nat) (digits : List Char) (zeros : Nat) : Prop where
  isDigit : ∀ c ∈ digits, c.isDigit = true
  last : ∃ front c, digits = front ++ [c] ∧ c ≠ '0'
  length_toDigits : (Nat.toDigits 10 n).length = digits.length + zeros
  eq_mul : n = Nat.ofDigitChars 10 digits 0 * 10 ^ zeros

theorem significant_toDigits {n : Nat} (hn : n ≠ 0) :
    ∃ zeros, Significant n (significant (Nat.toDigits 10 n)) zeros := by
  obtain ⟨zeros, hzeros⟩ := exists_significant (Nat.toDigits 10 n)
  have hvalue : n = Nat.ofDigitChars 10 (significant (Nat.toDigits 10 n)) 0 * 10 ^ zeros := by
    rw [Nat.mul_comm, ← Text.ofDigitChars_append_zeros, ← hzeros, Nat.ofDigitChars_ten_toDigits]
  refine ⟨zeros, fun c hc => ?_, significant_last fun hnil => hn ?_, ?_, hvalue⟩
  · refine Nat.isDigit_of_mem_toDigits (by decide) (by decide) (n := n) (b := 10) ?_
    rw [hzeros]
    exact List.mem_append_left _ hc
  · rw [hvalue, hnil]
    exact Nat.zero_mul _
  · conv_lhs => rw [hzeros]
    rw [List.length_append, List.length_replicate]

theorem Significant.ne_nil {n zeros : Nat} {digits : List Char} (h : Significant n digits zeros) :
    digits ≠ [] := by
  obtain ⟨front, c, rfl, _⟩ := h.last
  exact List.append_ne_nil_of_right_ne_nil _ (List.cons_ne_nil _ _)

end Layout

/-! ## Numerals -/

namespace Numeral

/-- The text is a decimal numeral without a sign, and `q` is its value. -/
def Writes (text : List Char) (q : ℚ) : Prop :=
  ∃ body tail whole part exponent, text = body ++ tail ∧ Significand body whole part ∧
    Power tail exponent ∧
    (⟨Text.ofDigits (whole ++ part), exponent - part.length⟩ : Decimal).toRat = q

variable {text later tail : List Char} {exponent : Int} {q : ℚ}

theorem Group.of_isDigit (h : ∀ c ∈ text, c.isDigit = true) (hne : text ≠ []) :
    Group text (Text.asciiDigits text) := by
  rcases group_eq (group_of_isDigit h) with ⟨hnil, _⟩ | ⟨read, hread, htext⟩
  · exact absurd (List.map_eq_nil_iff.mp hnil) hne
  · rw [List.append_nil] at htext
    exact htext ▸ hread

theorem writes_bare (h : ∀ c ∈ text, c.isDigit = true) (hne : text ≠ [])
    (ht : Power tail exponent) :
    Writes (text ++ tail) (Nat.ofDigitChars 10 text 0 * 10 ^ exponent) := by
  refine ⟨text, tail, _, _, exponent, rfl, .bare (.of_isDigit h hne), ht, ?_⟩
  rw [Decimal.toRat, List.append_nil, Text.asciiDigits, Text.ofDigits_map_toNat]
  simp

theorem writes_around (h : ∀ c ∈ text, c.isDigit = true) (hne : text ≠ [])
    (h' : ∀ c ∈ later, c.isDigit = true) (hne' : later ≠ []) (ht : Power tail exponent) :
    Writes (text ++ '.' :: later ++ tail)
      (Nat.ofDigitChars 10 (text ++ later) 0 * 10 ^ (exponent - later.length)) := by
  refine ⟨_, tail, _, _, exponent, rfl, .around (.of_isDigit h hne) (.of_isDigit h' hne'), ht, ?_⟩
  rw [Decimal.toRat, Text.ofDigits_asciiDigits, Text.asciiDigits, List.length_map]

/-- Digits with a point among them. -/
theorem writes_split (h : ∀ c ∈ text, c.isDigit = true) {n : Nat} (hn : 0 < n)
    (hl : n < text.length) (ht : Power tail exponent) :
    Writes (text.take n ++ '.' :: text.drop n ++ tail)
      (Nat.ofDigitChars 10 text 0 * 10 ^ (exponent + n - text.length)) := by
  have hsplit := List.forall_mem_append.mp ((List.take_append_drop n text).symm ▸ h)
  have hleft : text.take n ≠ [] := by
    rw [ne_eq, List.take_eq_nil_iff]
    rintro (rfl | rfl)
    · exact Nat.lt_irrefl 0 hn
    · cases hl
  have hright : text.drop n ≠ [] := mt List.drop_eq_nil_iff.mp (Nat.not_le_of_lt hl)
  have hw := writes_around hsplit.1 hleft hsplit.2 hright ht
  have hdrop : (text.drop n).length = text.length - n := List.length_drop
  have hexponent : exponent - (text.drop n).length = exponent + n - text.length := by
    rw [hdrop]
    omega
  rwa [List.take_append_drop, hexponent] at hw

theorem Writes.isDecimal (h : Writes text q) {mark : List Char} {negative : Bool}
    (hmark : Sign mark negative) : ∃ d : Decimal, IsDecimal (mark ++ text) negative d ∧
      d.toRat = q := by
  obtain ⟨body, tail, whole, part, exponent, rfl, hbody, htail, hq⟩ := h
  rw [← List.append_assoc]
  exact ⟨_, .intro hmark hbody htail, hq⟩

theorem signed_natAbs (n : Int) : signed (n < 0) n.natAbs = n := by
  rw [signed]
  split
  next h =>
    have hn := of_decide_eq_true h
    omega
  next h =>
    have hn := of_decide_eq_false (Bool.eq_false_iff.mpr h)
    omega

/-- An exponent with its sign, and any number of zeros before its digits. -/
theorem power_written (exponent : Int) (zeros : Nat) :
    Power (['e', if exponent < 0 then '-' else '+'] ++ List.replicate zeros '0' ++
      Nat.toDigits 10 exponent.natAbs) exponent := by
  have hsign : Sign [if exponent < 0 then '-' else '+'] (exponent < 0) := by
    by_cases h : exponent < 0
    · rw [if_pos h, decide_eq_true h]
      exact .minus
    · rw [if_neg h, decide_eq_false h]
      exact .plus
  have hgroup : Group (List.replicate zeros '0' ++ Nat.toDigits 10 exponent.natAbs) _ :=
    .of_isDigit (List.forall_mem_append.mpr ⟨Text.isDigit_replicate, fun _ hc =>
        Nat.isDigit_of_mem_toDigits (by decide) (by decide) hc⟩)
      (List.append_ne_nil_of_right_ne_nil _ Nat.toDigits_ne_nil)
  have hvalue : Text.ofDigits (Text.asciiDigits
      (List.replicate zeros '0' ++ Nat.toDigits 10 exponent.natAbs)) = exponent.natAbs := by
    rw [Text.asciiDigits, Text.ofDigits_map_toNat, Text.ofDigitChars_zeros_append,
      Nat.ofDigitChars_ten_toDigits]
  have hpower := Power.given (.inl rfl : 'e' = 'e' ∨ 'e' = 'E') hsign hgroup
  rw [hvalue, signed_natAbs] at hpower
  exact hpower

end Numeral

/-! ## Layouts -/

theorem Decimal.toRat_bounds {d : Decimal} (hd : d.digits ≠ 0) :
    10 ^ ((Nat.toDigits 10 d.digits).length + d.exponent - 1) ≤ d.toRat ∧
      d.toRat < 10 ^ ((Nat.toDigits 10 d.digits).length + d.exponent) := by
  have hten : (0 : ℚ) < 10 := by norm_num
  have hlength : 0 < (Nat.toDigits 10 d.digits).length :=
    List.length_pos_of_ne_nil Nat.toDigits_ne_nil
  have hlower := Text.pow_length_toDigits_le hd
  have hupper := Text.lt_pow_length_toDigits d.digits
  generalize (Nat.toDigits 10 d.digits).length = length at *
  have hstep : (0 : ℚ) < 10 ^ d.exponent := zpow_pos hten _
  have hexponent : (length : ℤ) + d.exponent - 1 = (length - 1 : Nat) + d.exponent := by omega
  rw [hexponent, zpow_add₀ hten.ne', zpow_add₀ hten.ne', zpow_natCast, zpow_natCast, toRat]
  exact ⟨mul_le_mul_of_nonneg_right (by exact_mod_cast hlower) hstep.le,
    mul_lt_mul_of_pos_right (by exact_mod_cast hupper) hstep⟩

namespace Layout

open Numeral

section
variable {digits : List Char} (h : ∀ c ∈ digits, c.isDigit = true)
include h

/-- Digits in full have no exponent. -/
theorem not_mem_inFull (point : Int) : 'e' ∉ inFull digits point := by
  have hdigits : 'e' ∉ digits := fun hm => absurd (h 'e' hm) (by decide)
  have htake (n : Nat) : 'e' ∉ digits.take n := fun hm => hdigits (List.mem_of_mem_take hm)
  have hdrop (n : Nat) : 'e' ∉ digits.drop n := fun hm => hdigits (List.mem_of_mem_drop hm)
  rw [inFull.eq_def]
  split
  · simp [hdigits]
  · simp [hdigits]
  · split <;> simp [hdigits, htake, hdrop]

section
variable (hne : digits ≠ [])
include hne

theorem writes_inFull (point : Int) : Writes (inFull digits point)
    (Nat.ofDigitChars 10 digits 0 * 10 ^ (point - digits.length)) := by
  have hzero : ∀ c ∈ ['0'], c.isDigit = true := List.forall_mem_singleton.mpr (by decide)
  have hnonempty : ['0'] ≠ [] := List.cons_ne_nil _ _
  have hlead (text : List Char) : Nat.ofDigitChars 10 (['0'] ++ text) 0 =
      Nat.ofDigitChars 10 text 0 := Text.ofDigitChars_zeros_append 1 text
  match point with
  | .ofNat 0 =>
    have hw := writes_around hzero hnonempty h hne .absent
    rwa [List.append_nil, hlead] at hw
  | .negSucc n =>
    have hpart : ∀ c ∈ List.replicate (n + 1) '0' ++ digits, c.isDigit = true :=
      List.forall_mem_append.mpr ⟨Text.isDigit_replicate, h⟩
    have hw := writes_around hzero hnonempty hpart (List.append_ne_nil_of_right_ne_nil _ hne)
      .absent
    have hexponent : (0 : Int) - (List.replicate (n + 1) '0' ++ digits).length =
        .negSucc n - digits.length := by
      rw [List.length_append, List.length_replicate]
      omega
    rwa [List.append_nil, hlead, Text.ofDigitChars_zeros_append, hexponent] at hw
  | .ofNat (n + 1) =>
    rw [inFull]
    · split
      next hle =>
        have hwhole : ∀ c ∈ digits ++ List.replicate (n + 1 - digits.length) '0',
            c.isDigit = true := List.forall_mem_append.mpr ⟨h, Text.isDigit_replicate⟩
        have hw := writes_around hwhole (List.append_ne_nil_of_left_ne_nil hne _) hzero hnonempty
          .absent
        have hvalue : Nat.ofDigitChars 10
            (digits ++ List.replicate (n + 1 - digits.length) '0' ++ ['0']) 0 =
              Nat.ofDigitChars 10 digits 0 * 10 ^ (n + 1 - digits.length + 1) := by
          rw [List.append_assoc, ← List.replicate_succ', Text.ofDigitChars_append_zeros,
            Nat.mul_comm]
        have hexponent : ((n + 1 - digits.length + 1 : Nat) : Int) + (0 - ['0'].length) =
            (n + 1 : Nat) - digits.length := by
          rw [List.length_singleton]
          omega
        rw [List.append_nil, hvalue, Nat.cast_mul, Nat.cast_pow, Nat.cast_ofNat, mul_assoc,
          ← zpow_natCast, ← zpow_add₀ (by norm_num), hexponent] at hw
        exact hw
      next hlt =>
        have hw := writes_split h (Nat.succ_pos n) (Nat.lt_of_not_le hlt) .absent
        rwa [List.append_nil, Int.zero_add] at hw
    · exact Nat.succ_ne_zero n

theorem writes_withExponent (layout : Layout) (exponent : Int) :
    Writes (layout.withExponent digits exponent)
      (Nat.ofDigitChars 10 digits 0 * 10 ^ (exponent + 1 - digits.length)) := by
  have hpower := power_written exponent
    (layout.exponentWidth - (Nat.toDigits 10 exponent.natAbs).length)
  have hpos : 0 < digits.length := List.length_pos_of_ne_nil hne
  simp only [withExponent, List.append_assoc] at hpower ⊢
  by_cases hone : digits.length ≤ 1
  · have hw := writes_bare h hne hpower
    have hexponent : exponent + 1 - digits.length = exponent := by omega
    rw [if_pos hone, List.nil_append, List.take_of_length_le hone, hexponent]
    exact hw
  · have hw := writes_split h Nat.one_pos (Nat.lt_of_not_le hone) hpower
    rw [List.append_assoc] at hw
    rw [if_neg hone]
    exact hw

end
end

/-- The text of a decimal fraction is a numeral of the same value. -/
theorem writes_decimal (layout : Layout) (d : Decimal) : Writes (layout.decimal d) d.toRat := by
  simp only [decimal]
  split
  next hzero =>
    have hdigit : ∀ c ∈ ['0'], c.isDigit = true := List.forall_mem_singleton.mpr (by decide)
    have hw := writes_around hdigit (List.cons_ne_nil _ _) hdigit (List.cons_ne_nil _ _) .absent
    have hvalue : Nat.ofDigitChars 10 (['0'] ++ ['0']) 0 = 0 := by decide
    rw [Decimal.toRat_of_zero hzero]
    rwa [List.append_nil, hvalue, Nat.cast_zero, zero_mul] at hw
  next hdigits =>
    obtain ⟨zeros, hs⟩ := significant_toDigits hdigits
    generalize significant (Nat.toDigits 10 d.digits) = digits at hs ⊢
    have hvalue (point : Int) (hp : point = (digits.length + zeros : Nat) + d.exponent) :
        d.toRat = Nat.ofDigitChars 10 digits 0 * 10 ^ (point - digits.length) := by
      have hexponent : point - digits.length = zeros + d.exponent := by omega
      rw [Decimal.toRat, hexponent, zpow_add₀ (by norm_num), zpow_natCast, ← mul_assoc]
      congr 1
      exact_mod_cast hs.eq_mul
    rw [hvalue _ (congrArg (fun n : Nat => (n : Int) + d.exponent) hs.length_toDigits)]
    split
    · exact writes_inFull hs.isDigit hs.ne_nil _
    · have hw := writes_withExponent hs.isDigit hs.ne_nil layout
        ((Nat.toDigits 10 d.digits).length + d.exponent - 1)
      rwa [Int.sub_add_cancel] at hw

theorem mem_withExponent (layout : Layout) (digits : List Char) (exponent : Int) :
    'e' ∈ layout.withExponent digits exponent := by
  simp [withExponent]

/-- A fraction is written with an exponent exactly if it is too small or too large for the
layout. -/
theorem mem_decimal_iff (layout : Layout) (d : Decimal) : 'e' ∈ layout.decimal d ↔
    d.toRat ≠ 0 ∧
      ¬ (10 ^ (layout.leastPoint - 1) ≤ d.toRat ∧ d.toRat < 10 ^ layout.greatestPoint) := by
  have hone : (1 : ℚ) < 10 := by norm_num
  simp only [decimal]
  split
  next hzero =>
    exact iff_of_false (by decide) fun hne => hne.1 (Decimal.toRat_of_zero hzero)
  next hdigits =>
    obtain ⟨zeros, hs⟩ := significant_toDigits hdigits
    obtain ⟨hlower, hupper⟩ := d.toRat_bounds hdigits
    generalize ((Nat.toDigits 10 d.digits).length : ℤ) + d.exponent = point at *
    have hleast : layout.leastPoint ≤ point ↔ 10 ^ (layout.leastPoint - 1) ≤ d.toRat := by
      constructor
      · exact fun hle => (zpow_le_zpow_right₀ hone.le (by omega)).trans hlower
      · intro hle
        have := (zpow_lt_zpow_iff_right₀ hone).mp (hle.trans_lt hupper)
        omega
    have hgreatest : point ≤ layout.greatestPoint ↔ d.toRat < 10 ^ layout.greatestPoint := by
      constructor
      · exact fun hle => hupper.trans_le (zpow_le_zpow_right₀ hone.le hle)
      · intro hlt
        have := (zpow_lt_zpow_iff_right₀ hone).mp (hlower.trans_lt hlt)
        omega
    have hne : d.toRat ≠ 0 := ((zpow_pos (by norm_num) _).trans_le hlower).ne'
    rw [← hleast, ← hgreatest]
    split
    next hrange => exact iff_of_false (not_mem_inFull hs.isDigit _) fun hn => hn.2 hrange
    next hrange => exact iff_of_true (mem_withExponent layout _ _) ⟨hne, hrange⟩

end Layout
end Toolbench
