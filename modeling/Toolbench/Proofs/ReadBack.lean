import Toolbench.Proofs.Standard

/-! # Values that are read back

A value that a reader has made may be handed in as an argument again. It is read by its text
then, and the readers of strings, integers and truth values read it back from there
(`Parameter.read_of_fits`). For integers this holds because the decimal text of a number is an
integer numeral, within the digit limit if the number is. -/

namespace Toolbench

namespace Text

theorem isBlank_of_isDigit {c : Char} (h : c.isDigit = true) : isBlank c = false := by
  obtain ⟨hlow, hhigh⟩ := Char.isDigit_iff_toNat.mp h
  have hlow : 48 ≤ c.toNat := hlow
  have hhigh : c.toNat ≤ 57 := hhigh
  simp only [isBlank, blankRanges, List.any_cons, List.any_nil, Bool.or_false,
    Bool.or_eq_false_iff, Bool.and_eq_false_iff, decide_eq_false_iff_not]
  omega

theorem dropWhile_of_not_isBlank {text : List Char} (h : ∀ c ∈ text, isBlank c = false) :
    text.dropWhile isBlank = text := by
  cases text with
  | nil => rfl
  | cons c text => rw [List.dropWhile_cons_of_neg (by simp [h c List.mem_cons_self])]

theorem trim_of_not_isBlank {text : List Char} (h : ∀ c ∈ text, isBlank c = false) :
    trim text = text := by
  have hreverse : ∀ c ∈ text.reverse, isBlank c = false := fun c hc => h c (List.mem_reverse.mp hc)
  rw [trim, dropWhile_of_not_isBlank h, dropWhile_of_not_isBlank hreverse, List.reverse_reverse]

theorem digitValue?_of_isDigit {c : Char} (h : c.isDigit = true) :
    digitValue? c = some (c.toNat - 48) := by
  obtain ⟨hlow, hhigh⟩ := Char.isDigit_iff_toNat.mp h
  have hrange : 0x30 ≤ c.toNat ∧ c.toNat < 0x30 + 10 := ⟨hlow, Nat.lt_succ_of_le hhigh⟩
  rw [digitValue?, digitZeros, List.findSome?_cons, if_pos hrange]

/-- The number that ASCII digits denote is the sum that the decimal text of a number is made of. -/
theorem ofDigits_map_toNat (text : List Char) :
    ofDigits (text.map fun c => c.toNat - 48) = Nat.ofDigitChars 10 text 0 := by
  rw [ofDigits, List.foldl_map]
  rfl

end Text

namespace Numeral

theorem moreDigits_of_isDigit {text : List Char} (h : ∀ c ∈ text, c.isDigit = true) :
    moreDigits text = (text.map fun c => c.toNat - 48, []) := by
  induction text with
  | nil => rfl
  | cons c text ih =>
    have hc : c.isDigit = true := h c List.mem_cons_self
    have hunderscore : c ≠ '_' := fun he => by
      rw [he] at hc
      exact absurd hc (by decide)
    have hrest := ih fun d hd => h d (List.mem_cons_of_mem c hd)
    rw [moreDigits]
    · simp only [Text.digitValue?_of_isDigit hc, hrest, List.map_cons]
    · exact fun _ _ he _ => hunderscore he

theorem group_of_isDigit {text : List Char} (h : ∀ c ∈ text, c.isDigit = true) :
    group text = (text.map fun c => c.toNat - 48, []) := by
  cases text with
  | nil => rfl
  | cons c text =>
    have hrest := moreDigits_of_isDigit fun d hd => h d (List.mem_cons_of_mem c hd)
    simp only [group, Text.digitValue?_of_isDigit (h c List.mem_cons_self), hrest, List.map_cons]

/-- A text that begins with a digit has no sign. -/
theorem sign_of_isDigit {text : List Char} (h : ∀ c ∈ text, c.isDigit = true) :
    sign text = (false, text) := by
  rw [sign]
  · rintro rest rfl
    exact absurd (h '-' List.mem_cons_self) (by decide)
  · rintro rest rfl
    exact absurd (h '+' List.mem_cons_self) (by decide)

/-- The decimal digits of a number, as a group, denote the number. -/
theorem group_toDigits (n : Nat) : ∃ digits, digits ≠ [] ∧
    group (Nat.toDigits 10 n) = (digits, []) ∧ digits.length = (Nat.toDigits 10 n).length ∧
    Text.ofDigits digits = n := by
  refine ⟨(Nat.toDigits 10 n).map fun c => c.toNat - 48, ?_, ?_, List.length_map _, ?_⟩
  · exact mt List.map_eq_nil_iff.mp Nat.toDigits_ne_nil
  · exact group_of_isDigit fun _ hc => Nat.isDigit_of_mem_toDigits (by decide) (by decide) hc
  · rw [Text.ofDigits_map_toNat, Nat.ofDigitChars_ten_toDigits]

theorem integer?_of_group {text body : List Char} {negative : Bool} {digits : List Nat}
    (hs : sign text = (negative, body)) (hg : group body = (digits, [])) (hne : digits ≠ [])
    (hl : digits.length ≤ digitLimit) :
    integer? text = some (signed negative (Text.ofDigits digits)) := by
  obtain ⟨d, digits, rfl⟩ := List.exists_cons_of_ne_nil hne
  simp only [integer?, hs, hg, if_pos hl]

theorem toList_toString_ofNat (n : Nat) :
    (toString (Int.ofNat n)).toList = Nat.toDigits 10 n := Nat.toList_repr

theorem toList_toString_negSucc (n : Nat) :
    (toString (Int.negSucc n)).toList = '-' :: Nat.toDigits 10 (n + 1) := by
  have h : toString (Int.negSucc n) = "-" ++ (n + 1).repr := rfl
  rw [h, String.toList_append, Nat.toList_repr]
  rfl

theorem toDigits_inj {n m : Nat} (h : Nat.toDigits 10 n = Nat.toDigits 10 m) : n = m := by
  have hvalues := congrArg (Nat.ofDigitChars 10 · 0) h
  simpa only [Nat.ofDigitChars_ten_toDigits] using hvalues

theorem minus_notMem_toDigits (n : Nat) : '-' ∉ Nat.toDigits 10 n := fun h =>
  absurd (Nat.isDigit_of_mem_toDigits (by decide) (by decide) h) (by decide)

/-- An integer is told by its decimal text. -/
theorem toString_inj {n m : Int} (h : toString n = toString m) : n = m := by
  have hlist := congrArg String.toList h
  cases n with
  | ofNat n =>
    cases m with
    | ofNat m =>
      rw [toList_toString_ofNat, toList_toString_ofNat] at hlist
      rw [toDigits_inj hlist]
    | negSucc m =>
      rw [toList_toString_ofNat, toList_toString_negSucc] at hlist
      exact absurd (hlist ▸ List.mem_cons_self) (minus_notMem_toDigits n)
  | negSucc n =>
    cases m with
    | ofNat m =>
      rw [toList_toString_negSucc, toList_toString_ofNat] at hlist
      exact absurd (hlist ▸ List.mem_cons_self) (minus_notMem_toDigits m)
    | negSucc m =>
      rw [toList_toString_negSucc, toList_toString_negSucc] at hlist
      rw [Nat.succ.inj (toDigits_inj (List.cons.inj hlist).2)]

/-- The decimal text of an integer reads as this integer, if its digits are within the limit. -/
theorem integer?_toString {n : Int} (h : (Nat.toDigits 10 n.natAbs).length ≤ digitLimit) :
    integer? (toString n).toList = some n := by
  obtain ⟨digits, hne, hg, hl, hn⟩ := group_toDigits n.natAbs
  rw [← hl] at h
  cases n with
  | ofNat n =>
    have hs : sign (Nat.toDigits 10 n) = (false, Nat.toDigits 10 n) :=
      sign_of_isDigit fun _ hc => Nat.isDigit_of_mem_toDigits (by decide) (by decide) hc
    rw [toList_toString_ofNat, integer?_of_group hs hg hne h, hn]
    rfl
  | negSucc n =>
    have hs : sign ('-' :: Nat.toDigits 10 (n + 1)) = (true, Nat.toDigits 10 (n + 1)) := rfl
    rw [toList_toString_negSucc, integer?_of_group hs hg hne h, hn]
    rfl

theorem not_isBlank_toString {n : Int} : ∀ c ∈ (toString n).toList, Text.isBlank c = false := by
  have hdigits (m : Nat) : ∀ c ∈ Nat.toDigits 10 m, Text.isBlank c = false := fun _ hc =>
    Text.isBlank_of_isDigit (Nat.isDigit_of_mem_toDigits (by decide) (by decide) hc)
  cases n with
  | ofNat n =>
    rw [toList_toString_ofNat]
    exact hdigits n
  | negSucc n =>
    rw [toList_toString_negSucc]
    intro c hc
    rcases List.mem_cons.mp hc with rfl | hc
    · decide
    · exact hdigits (n + 1) c hc

end Numeral

/-- The two ways of counting decimal digits agree on the limit. -/
theorem Value.digits_within {n : Nat} (h : (Nat.digits 10 n).length ≤ Numeral.digitLimit) :
    n < magnitudeBound ∧ (Nat.toDigits 10 n).length ≤ Numeral.digitLimit := by
  have hpos : 0 < Numeral.digitLimit := by decide
  unfold magnitudeBound
  -- the bound itself is not to be computed
  generalize Numeral.digitLimit = limit at h hpos ⊢
  have hlt : n < 10 ^ limit := (Nat.digits_length_le_iff (by decide) n).mp h
  exact ⟨hlt, (Nat.length_toDigits_le_iff (by decide) hpos).mpr hlt⟩

theorem Value.text_int {n : Int} (h : n.natAbs < magnitudeBound) :
    (Value.int n).text = .ok (toString n) := by
  have ht : (Value.int n).text = integerText n := rfl
  rw [ht, integerText, if_pos h]

namespace Standard

variable {kind : Standard} {text : String} {value : Value}

/-- A value of a kind other than that of the numbers is read back from its text. -/
theorem exists_text_of_fits (hk : kind ≠ .number) (h : kind.Fits text value) :
    ∃ shown, value.text = .ok shown ∧ kind.value? shown = some value := by
  cases kind with
  | string =>
    have h : value = .str text := h
    subst h
    exact ⟨text, rfl, rfl⟩
  | integer =>
    obtain ⟨n, rfl, hlimit⟩ := h
    obtain ⟨hlt, hdigits⟩ := Value.digits_within hlimit
    refine ⟨toString n, Value.text_int hlt, ?_⟩
    rw [value?, Text.trim_of_not_isBlank Numeral.not_isBlank_toString,
      Numeral.integer?_toString hdigits, Option.map_some]
  | number => exact absurd rfl hk
  | boolean =>
    obtain ⟨b, rfl⟩ := h
    cases b with
    | false => exact ⟨"False", rfl, rfl⟩
    | true => exact ⟨"True", rfl, rfl⟩

theorem read_of_fits (hk : kind ≠ .number) (h : kind.Fits text value) :
    ∃ shown, kind.reader.read value = .ok ⟨shown, value, false⟩ := by
  obtain ⟨shown, ht, hv⟩ := exists_text_of_fits hk h
  refine ⟨shown, ?_⟩
  simp only [Reader.read, ht, parse_eq_ok_iff.mpr hv]

end Standard

/-- A parameter that a value was read for reads the same value back, and not as a fallback. -/
theorem Parameter.read_of_fits {p : Parameter} {kind : Standard} {text : String} {value : Value}
    (hp : p.reader = kind.reader) (hk : kind ≠ .number) (h : kind.Fits text value) :
    ∃ shown, p.read value = .ok (⟨shown, value, false⟩, []) := by
  obtain ⟨shown, hread⟩ := Standard.read_of_fits hk h
  exact ⟨shown, read_eq_ok_iff.mpr ⟨hp ▸ hread, notices_of_not_defaulted⟩⟩

end Toolbench
