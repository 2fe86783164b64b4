import Mathlib.Data.Nat.Digits.Lemmas
import Toolbench.Number.Numeral

/-! # The size of numerals

The digits of a group are decimal digits, so the number they denote has no more digits than the
group. An integer that is read is therefore within the digit limit, and can be written. -/

namespace Toolbench

namespace Text

theorem ofDigits_append_singleton (digits : List Nat) (d : Nat) :
    ofDigits (digits ++ [d]) = 10 * ofDigits digits + d := by
  rw [ofDigits, List.foldl_append]
  rfl

/-- The digits of a text stand in the other order than those of a number. -/
theorem ofDigits_eq_reverse (digits : List Nat) :
    ofDigits digits = Nat.ofDigits 10 digits.reverse := by
  induction digits using List.reverseRecOn with
  | nil => rfl
  | append_singleton digits d ih =>
    rw [ofDigits_append_singleton, ih, List.reverse_append, List.reverse_singleton,
      List.singleton_append, Nat.ofDigits_cons, Nat.add_comm]

theorem length_digits_ofDigits_le {digits : List Nat} (h : ∀ d ∈ digits, d < 10) :
    (Nat.digits 10 (ofDigits digits)).length ≤ digits.length := by
  rw [Nat.digits_length_le_iff (by decide), ofDigits_eq_reverse, ← List.length_reverse]
  exact Nat.ofDigits_lt_base_pow_length (by decide) fun d hd => h d (List.mem_reverse.mp hd)

end Text

namespace Numeral

theorem lt_ten_of_mem_moreDigits (text : List Char) : ∀ d ∈ (moreDigits text).1, d < 10 := by
  fun_induction moreDigits text with
  | case1 => nofun
  | case2 c text d hd ds rest hrest ih =>
    intro e he
    rcases List.mem_cons.mp he with rfl | he
    · exact Text.digitValue?_lt hd
    · exact ih e (by rw [hrest]; exact he)
  | case3 => nofun
  | case4 c text _ d hd ds rest hrest ih =>
    intro e he
    rcases List.mem_cons.mp he with rfl | he
    · exact Text.digitValue?_lt hd
    · exact ih e (by rw [hrest]; exact he)
  | case5 => nofun

theorem lt_ten_of_mem_group (text : List Char) : ∀ d ∈ (group text).1, d < 10 := by
  cases text with
  | nil => nofun
  | cons c text =>
    rw [group]
    cases hc : Text.digitValue? c with
    | none => nofun
    | some d =>
      intro e he
      rcases List.mem_cons.mp he with rfl | he
      · exact Text.digitValue?_lt hc
      · exact lt_ten_of_mem_moreDigits text e he

theorem natAbs_signed (negative : Bool) (n : Nat) : (signed negative n).natAbs = n := by
  cases negative <;> simp [signed]

/-- An integer that is read is within the digit limit. -/
theorem length_digits_of_integer? {text : List Char} {n : Int} (h : integer? text = some n) :
    (Nat.digits 10 n.natAbs).length ≤ digitLimit := by
  rw [integer?] at h
  split at h
  next negative body _ =>
    have hten := lt_ten_of_mem_group body
    split at h
    next => cases h
    next digits _ hg =>
      rw [hg] at hten
      split at h
      next hlimit =>
        cases h
        rw [natAbs_signed]
        exact Nat.le_trans (Text.length_digits_ofDigits_le hten) hlimit
      next => cases h
    next => cases h

end Numeral
end Toolbench
