import Toolbench.Proofs.Grammar
import Toolbench.Proofs.Rounding

/-! # Decimal fractions and the numbers nearest to them

The number nearest to a decimal fraction depends on its value alone (`toBinary64_congr`): where the
power of ten is not written out, the value is beyond the finite numbers or nearest to zero. With
the grammar of decimal numerals this says what the number reader makes of a text
(`number_reads`). -/

namespace Toolbench

namespace Decimal

/-- The rational number that a decimal fraction stands for. -/
def toRat (d : Decimal) : ℚ := d.digits * 10 ^ d.exponent

open Binary64

variable {d other : Decimal} {negative : Bool} {rank : Nat}

theorem toRat_nonneg (d : Decimal) : 0 ≤ d.toRat :=
  mul_nonneg (Nat.cast_nonneg _) (zpow_nonneg (by norm_num) _)

theorem toRat_of_zero (h : d.digits = 0) : d.toRat = 0 := by
  rw [toRat, h, Nat.cast_zero, zero_mul]

theorem ratio_snd_pos (d : Decimal) : 0 < d.ratio.2 := by
  obtain ⟨digits, e | e⟩ := d
  · exact Nat.one_pos
  · exact Nat.pow_pos (by decide)

theorem ratio_eq (d : Decimal) : (d.ratio.1 : ℚ) / d.ratio.2 = d.toRat := by
  obtain ⟨digits, e | e⟩ := d
  · simp only [ratio, toRat, Nat.pow_eq, Int.ofNat_eq_natCast, zpow_natCast]
    push_cast
    rw [div_one]
  · simp only [ratio, toRat, Nat.pow_eq, zpow_negSucc]
    push_cast
    rw [div_eq_mul_inv]

/-- A fraction of `b` binary digits is below `10 ^ (exponent + b)`. -/
theorem toRat_lt (d : Decimal) : d.toRat < 10 ^ (d.exponent + (d.digits.log2 + 1 : Nat)) := by
  have hten : (0 : ℚ) < 10 := by norm_num
  have hdigits : (d.digits : ℚ) < 10 ^ (d.digits.log2 + 1) := by
    have hlt : d.digits < 10 ^ (d.digits.log2 + 1) :=
      lt_of_lt_of_le Nat.lt_log2_self (Nat.pow_le_pow_left (by decide) _)
    exact_mod_cast hlt
  rw [zpow_add₀ hten.ne', zpow_natCast, mul_comm, toRat]
  exact mul_lt_mul_of_pos_right hdigits (zpow_pos hten _)

theorem two_pow_le_ten_pow : (2 : Nat) ^ 1075 ≤ 10 ^ 330 ∧ (2 : Nat) ^ 1024 ≤ 10 ^ 311 := by
  decide +kernel

theorem units_le_half (h : d.digits = 0 ∨ d.exponent + (d.digits.log2 + 1 : Nat) ≤ -330) :
    d.toRat * 2 ^ 1074 ≤ 1 / 2 := by
  rcases h with h | h
  · rw [toRat_of_zero h, zero_mul]
    norm_num
  · have hbound : (2 : ℚ) ^ 1075 ≤ 10 ^ 330 := by exact_mod_cast two_pow_le_ten_pow.1
    have hten : (0 : ℚ) < 10 ^ 330 := pow_pos (by norm_num) _
    have hsmall : d.toRat ≤ 1 / 10 ^ 330 := by
      refine d.toRat_lt.le.trans (le_trans (zpow_le_zpow_right₀ (by norm_num) h) ?_)
      rw [show (-330 : ℤ) = -((330 : Nat) : ℤ) from rfl, zpow_neg, zpow_natCast, one_div]
    have hunit : (0 : ℚ) < 2 ^ 1074 := pow_pos two_pos _
    rw [pow_succ] at hbound
    calc d.toRat * 2 ^ 1074 ≤ 1 / 10 ^ 330 * 2 ^ 1074 := mul_le_mul_of_nonneg_right hsmall hunit.le
      _ = 2 ^ 1074 / 10 ^ 330 := by rw [one_div_mul_eq_div]
      _ ≤ 1 / 2 := by
        rw [div_le_div_iff₀ hten two_pos, one_mul]
        exact hbound

theorem bound_le (h : d.digits ≠ 0) (he : 310 < d.exponent) : 2 ^ 1024 - 2 ^ 970 ≤ d.toRat := by
  have hbound : (2 : ℚ) ^ 1024 ≤ 10 ^ 311 := by exact_mod_cast two_pow_le_ten_pow.2
  have hdigits : (1 : ℚ) ≤ d.digits := by exact_mod_cast Nat.one_le_iff_ne_zero.mpr h
  have hpower : (10 : ℚ) ^ 311 ≤ 10 ^ d.exponent := by
    rw [← zpow_natCast]
    exact zpow_le_zpow_right₀ (by norm_num) he
  have hhalf : (0 : ℚ) < 2 ^ 970 := pow_pos two_pos _
  calc (2 : ℚ) ^ 1024 - 2 ^ 970 ≤ 2 ^ 1024 := sub_le_self _ hhalf.le
    _ ≤ 10 ^ 311 := hbound
    _ ≤ 10 ^ d.exponent := hpower
    _ ≤ d.toRat := le_mul_of_one_le_left (zpow_nonneg (by norm_num) _) hdigits

/-- A decimal fraction is rounded to the rank nearest to it. -/
theorem toBinary64_eq (h : NearestRank (d.toRat * 2 ^ 1074) rank) :
    d.toBinary64 negative = .ofRank negative rank := by
  rw [toBinary64]
  split
  next hsmall =>
    have hunit : (0 : ℚ) < 2 ^ 1074 := pow_pos two_pos _
    have hzero : NearestRank (d.toRat * 2 ^ 1074) 0 :=
      nearestRank_zero (mul_nonneg d.toRat_nonneg hunit.le) (units_le_half hsmall)
    rw [h.unique hzero]
    rfl
  next hdigits =>
    split
    next hlarge =>
      have hbound := bound_le (fun hz => hdigits (.inl hz)) hlarge
      rw [ofRank, dif_neg (mt h.lt_finiteCount_iff.mp hbound.not_gt)]
    next => exact ofQuotient_eq d.ratio_snd_pos (by rwa [d.ratio_eq]) negative

theorem exists_nearestRank (d : Decimal) : ∃ rank, NearestRank (d.toRat * 2 ^ 1074) rank := by
  rw [← d.ratio_eq]
  exact ⟨_, nearestRank_units _ d.ratio_snd_pos⟩

/-- The rounding depends on the value alone, not on how it is split into digits and exponent. -/
theorem toBinary64_congr (h : d.toRat = other.toRat) (negative : Bool) :
    d.toBinary64 negative = other.toBinary64 negative := by
  obtain ⟨rank, hrank⟩ := d.exists_nearestRank
  rw [toBinary64_eq hrank, toBinary64_eq (h ▸ hrank)]

/-- The value of a decimal numeral, with its sign. -/
def signed (negative : Bool) (d : Decimal) : ℚ :=
  if negative then -d.toRat else d.toRat

theorem abs_signed (negative : Bool) (d : Decimal) : |d.signed negative| = d.toRat := by
  cases negative
  · exact abs_of_nonneg d.toRat_nonneg
  · exact (abs_neg _).trans (abs_of_nonneg d.toRat_nonneg)

/-- Below the bound a decimal fraction is rounded to a finite number, and from there on it is an
infinity. -/
theorem toBinary64_cases (d : Decimal) (negative : Bool) :
    (d.toRat < 2 ^ 1024 - 2 ^ 970 ∧ ∃ rank, d.toBinary64 negative = .finite negative rank ∧
      RoundsTo negative (d.signed negative) (.finite negative rank)) ∨
    (¬ d.toRat < 2 ^ 1024 - 2 ^ 970 ∧ d.toBinary64 negative = .infinite negative) := by
  obtain ⟨rank, h⟩ := d.exists_nearestRank
  rw [toBinary64_eq h, ofRank, ← h.lt_finiteCount_iff]
  by_cases hrank : rank < finiteCount
  · rw [dif_pos hrank]
    have hnear : NearestRank (d.toRat * 2 ^ 1074) (⟨rank, hrank⟩ : Fin finiteCount) := h
    exact .inl ⟨hrank, _, rfl, hnear.roundsTo d.toRat_nonneg negative⟩
  · rw [dif_neg hrank]
    exact .inr ⟨hrank, rfl⟩

end Decimal

/-! ## The words for what is no finite number -/

theorem Text.toLower_of_isBlank {c : Char} (h : isBlank c = true) : c.toLower = c := by
  refine dif_neg ?_
  rintro ⟨hlow, hhigh⟩
  have hlow : 65 ≤ c.toNat := hlow
  have hhigh : c.toNat ≤ 90 := hhigh
  simp only [isBlank, blankRanges, List.any_cons, List.any_nil, Bool.or_false, Bool.or_eq_true,
    Bool.and_eq_true, decide_eq_true_eq] at h
  omega

namespace Numeral

variable {text word : List Char}

/-- A word for an infinity or for no number at all, in capital or small letters, with a sign or
without one. -/
inductive IsSpecial : List Char → Prop
  | intro {mark word : List Char} {negative : Bool} : Sign mark negative →
      Text.isKeyword ["inf", "infinity", "nan"] word = true → IsSpecial (mark ++ word)

/-- A letter that is folded to a small one is this letter or its capital. -/
theorem eq_or_eq_of_toLower {c small : Char} (capital : Char) (h : c.toLower = small)
    (hs : capital.val + ('a'.val - 'A'.val) = small.val) : c = small ∨ c = capital := by
  delta Char.toLower at h
  split at h
  · have hval : c.val + ('a'.val - 'A'.val) = small.val := congrArg Char.val h
    exact .inr (Char.ext ((UInt32.add_left_inj _).mp (hval.trans hs.symm)))
  · exact .inl h

theorem exists_letter_of_special
    (h : Text.isKeyword ["inf", "infinity", "nan"] word = true) :
    ∃ c ∈ ['i', 'I', 'n', 'N'], ∃ rest, word = c :: rest := by
  cases word with
  | nil => exact absurd h (by decide)
  | cons c rest =>
    refine ⟨c, ?_, rest, rfl⟩
    obtain ⟨keyword, hm, hk⟩ := List.any_eq_true.mp h
    have hk : keyword.toList = c.toLower :: Text.fold rest := beq_iff_eq.mp hk
    simp only [List.mem_cons, List.not_mem_nil, or_false] at hm ⊢
    rcases hm with rfl | rfl | rfl
    · have := eq_or_eq_of_toLower 'I' (List.cons.inj hk).1.symm (by decide)
      tauto
    · have := eq_or_eq_of_toLower 'I' (List.cons.inj hk).1.symm (by decide)
      tauto
    · have := eq_or_eq_of_toLower 'N' (List.cons.inj hk).1.symm (by decide)
      tauto

theorem IsSpecial.not_isBlank (h : IsSpecial text) :
    text ≠ [] ∧ ∀ c ∈ text, Text.isBlank c = false := by
  obtain ⟨hmark, hword⟩ := h
  obtain ⟨_, _, _, hne⟩ := exists_letter_of_special hword
  refine ⟨List.append_ne_nil_of_right_ne_nil _ (hne ▸ List.cons_ne_nil _ _),
    List.forall_mem_append.mpr ⟨hmark.not_isBlank, ?_⟩⟩
  obtain ⟨keyword, hm, hk⟩ := List.any_eq_true.mp hword
  have hk : keyword.toList = Text.fold _ := beq_iff_eq.mp hk
  have hkeyword : ∀ keyword ∈ ["inf", "infinity", "nan"],
      keyword.toList.any Text.isBlank = false := by decide
  intro c hc
  have hfold : Text.isBlank c.toLower = false := by
    simpa using List.any_eq_false.mp (hkeyword keyword hm) _ (hk ▸ List.mem_map_of_mem hc)
  cases hblank : Text.isBlank c with
  | false => rfl
  | true => rw [Text.toLower_of_isBlank hblank, hblank] at hfold; exact hfold

/-- Such a word is no decimal numeral: it has no digit where the first one has to be. -/
theorem IsSpecial.decimal?_eq_none (h : IsSpecial text) : decimal? text = none := by
  obtain ⟨hmark, hword⟩ := h
  obtain ⟨c, hc, rest, rfl⟩ := exists_letter_of_special hword
  have hletter : (c ≠ '-' ∧ c ≠ '+') ∧ (c ≠ '_' ∧ Text.digitValue? c = none) ∧ c ≠ '.' := by
    simp only [List.mem_cons, List.not_mem_nil, or_false] at hc
    rcases hc with rfl | rfl | rfl | rfl <;> decide
  have hunsigned : Unsigned (c :: rest) := by
    rintro _ ⟨⟩
    exact hletter.1
  have hfraction : fraction (c :: rest) = ([], c :: rest) := by
    rw [fraction]
    rintro text ⟨⟩
    exact hletter.2.2 rfl
  simp only [decimal?, hmark.sign_append hunsigned, (apart_cons hletter.2.1 rest).group, hfraction,
    List.append_nil, if_true]

end Numeral

/-! ## The number reader -/

namespace Numeral

variable {text : String} {negative : Bool} {q : ℚ}

/-- The text is a decimal numeral with blanks around it, and `q` is its value. -/
def DenotesDecimal (text : String) (negative : Bool) (q : ℚ) : Prop :=
  ∃ core d, Text.Padded text.toList core ∧ IsDecimal core negative d ∧ q = d.signed negative

theorem denotesDecimal_iff : DenotesDecimal text negative q ↔
    ∃ d, decimal? (Text.trim text.toList) = some (negative, d) ∧ q = d.signed negative := by
  simp only [decimal?_eq_some_iff]
  rw [← Text.exists_padded_iff (P := fun core => ∃ d, IsDecimal core negative d ∧
    q = d.signed negative) fun _ ⟨_, h, _⟩ => h.not_isBlank]
  exact ⟨fun ⟨core, d, hpadded, h⟩ => ⟨core, hpadded, d, h⟩,
    fun ⟨core, hpadded, d, h⟩ => ⟨core, d, hpadded, h⟩⟩

/-- A text is a numeral of one value at most. -/
theorem DenotesDecimal.eq_of_decimal? {other : Bool} {d : Decimal}
    (h : DenotesDecimal text other q)
    (hd : decimal? (Text.trim text.toList) = some (negative, d)) :
    other = negative ∧ q = d.signed negative := by
  obtain ⟨_, hd', rfl⟩ := denotesDecimal_iff.mp h
  rw [hd] at hd'
  cases hd'
  exact ⟨rfl, rfl⟩

end Numeral

namespace Reader

open Numeral (DenotesDecimal IsSpecial decimal?)

variable {text : List Char} {x : Binary64}

theorem number?_of_decimal? {negative : Bool} {d : Decimal} {rank : Fin Binary64.finiteCount}
    (hd : decimal? text = some (negative, d)) (hx : d.toBinary64 negative = .finite negative rank) :
    number? text = some (.finite negative rank) := by
  simp only [number?, hd, Option.bind_eq_bind, Option.bind_some, hx]

/-- What the number reader makes of a text. -/
structure NumberReading (text : String) (argument : Argument) : Prop where
  text_eq : argument.text = text
  accepted_iff : argument.defaulted = false ↔
    ∃ negative q, DenotesDecimal text negative q ∧ |q| < 2 ^ 1024 - 2 ^ 970
  /-- The number is the only one that the value is rounded to. -/
  accepted : ∀ negative q, DenotesDecimal text negative q → |q| < 2 ^ 1024 - 2 ^ 970 →
    ∃ x, argument.value = .float x ∧ ∀ y, Binary64.RoundsTo negative q y ↔ y = x
  rejected : argument.defaulted = true → argument.value = .float (.zero false)
  special : ∀ core, Text.Padded text.toList core → IsSpecial core → argument.defaulted = true

theorem numberReading_of_none {text : String} (hx : number? (Text.trim text.toList) = none)
    (hnot : ∀ negative q, DenotesDecimal text negative q → ¬ |q| < 2 ^ 1024 - 2 ^ 970) :
    ∃ argument, Reader.number.read (.str text) = .ok argument ∧ NumberReading text argument := by
  have hvalue : Standard.number.value? text = none := congrArg (Option.map _) hx
  exact ⟨_, Standard.read_of_rejected hvalue, rfl,
    iff_of_false Bool.noConfusion fun ⟨negative, q, h, hq⟩ => hnot negative q h hq,
    fun negative q h hq => absurd hq (hnot negative q h), fun _ => rfl, fun _ _ _ => rfl⟩

/-- **The number reader accepts the finite decimals and rounds them.** A padded decimal numeral is
read if its value is below the point half-way beyond the greatest number, and as the number
nearest to this value. For any other text the reader falls back to zero. -/
theorem number_reads (text : String) : ∃ argument,
    Reader.number.read (.str text) = .ok argument ∧ NumberReading text argument := by
  cases hd : decimal? (Text.trim text.toList) with
  | none =>
    refine numberReading_of_none (by rw [number?, hd]; rfl) fun negative q h => ?_
    obtain ⟨_, hd', _⟩ := Numeral.denotesDecimal_iff.mp h
    rw [hd] at hd'
    cases hd'
  | some denoted =>
    obtain ⟨negative, d⟩ := denoted
    rcases d.toBinary64_cases negative with ⟨hbound, rank, hfinite, hrounds⟩ | ⟨hbound, hinfinite⟩
    · have hvalue : Standard.number.value? text = some (.float (.finite negative rank)) :=
        congrArg (Option.map _) (number?_of_decimal? hd hfinite)
      refine ⟨_, Standard.read_of_value? hvalue, rfl, iff_of_true rfl ?_, fun other q h _ => ?_,
        Bool.noConfusion, fun core hp h => ?_⟩
      · exact ⟨negative, _, Numeral.denotesDecimal_iff.mpr ⟨d, hd, rfl⟩, by rwa [d.abs_signed]⟩
      · obtain ⟨rfl, rfl⟩ := h.eq_of_decimal? hd
        exact ⟨_, rfl, fun y => ⟨fun hy => hy.unique hrounds, fun hy => hy ▸ hrounds⟩⟩
      · rw [Text.trim_of_padded hp h.not_isBlank.1 h.not_isBlank.2, h.decimal?_eq_none] at hd
        cases hd
    · have hx : number? (Text.trim text.toList) = none := by
        simp only [number?, hd, Option.bind_eq_bind, Option.bind_some, hinfinite]
      refine numberReading_of_none hx fun other q h => ?_
      obtain ⟨rfl, rfl⟩ := h.eq_of_decimal? hd
      rwa [d.abs_signed]

end Reader
end Toolbench
