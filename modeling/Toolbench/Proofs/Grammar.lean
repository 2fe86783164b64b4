import Toolbench.Proofs.ReadBack

/-! # The grammar of numerals

What the numeral readers accept, as a grammar of its own. An integer numeral is a sign, or none,
and a digit group (`IsInteger`); a decimal numeral may have a fraction and an exponent of ten
(`IsDecimal`). Reading is greedy, and still accepts exactly the texts of the grammar
(`integer?_eq_some_iff`, `decimal?_eq_some_iff`), since nothing that follows a group in a numeral
could go on with it. Blanks stand around a numeral and never in it, so the integer reader accepts
the padded integer numerals within the digit limit, and no other text (`integer_reads`). -/

namespace Toolbench

/-! ## Digits and blanks -/

namespace Text

/-- The character stands for the digit `d` in one of the scripts. -/
def Digit (c : Char) (d : Nat) : Prop :=
  ∃ first ∈ digitZeros, c.toNat = first + d ∧ d < 10

/-- The runs of digits do not overlap. -/
theorem digitZeros_apart : ∀ first ∈ digitZeros, ∀ other ∈ digitZeros,
    first < other + 10 → other < first + 10 → first = other := by
  decide +kernel

theorem digitZeros_not_blank : ∀ first ∈ digitZeros, ∀ range ∈ blankRanges,
    first + 9 < range.1 ∨ range.2 < first := by
  decide +kernel

section
variable {c : Char} {d : Nat} {text core : List Char}

theorem digitValue?_eq_some_iff : digitValue? c = some d ↔ Digit c d := by
  constructor
  · intro h
    obtain ⟨first, hm, hz⟩ := List.exists_of_findSome?_eq_some h
    split at hz
    · cases hz
      exact ⟨first, hm, by omega, by omega⟩
    · cases hz
  · rintro ⟨first, hm, hc, hd⟩
    cases hv : digitValue? c with
    | none =>
      have hnone := List.findSome?_eq_none_iff.mp hv first hm
      rw [if_pos (by omega)] at hnone
      cases hnone
    | some e =>
      obtain ⟨other, ho, hz⟩ := List.exists_of_findSome?_eq_some hv
      split at hz
      · cases hz
        obtain rfl : first = other := digitZeros_apart first hm other ho (by omega) (by omega)
        congr 1
        omega
      · cases hz

theorem Digit.not_isBlank (h : Digit c d) : isBlank c = false := by
  obtain ⟨first, hm, hc, hd⟩ := h
  simp only [isBlank, List.any_eq_false, Bool.and_eq_true, decide_eq_true_eq]
  intro range hr
  have := digitZeros_not_blank first hm range hr
  omega

/-- The text is `core` with nothing but blanks around it. -/
def Padded (text core : List Char) : Prop :=
  ∃ before after, text = before ++ core ++ after ∧
    (∀ c ∈ before, isBlank c = true) ∧ ∀ c ∈ after, isBlank c = true

theorem padded_trim (text : List Char) : Padded text (trim text) := by
  have hblank {cs : List Char} : ∀ c ∈ cs.takeWhile isBlank, isBlank c = true :=
    List.all_eq_true.mp List.all_takeWhile
  refine ⟨text.takeWhile isBlank,
    ((text.dropWhile isBlank).reverse.takeWhile isBlank).reverse, ?_, hblank,
    fun c hc => hblank c (List.mem_reverse.mp hc)⟩
  rw [trim, List.append_assoc, ← List.reverse_append, List.takeWhile_append_dropWhile,
    List.reverse_reverse, List.takeWhile_append_dropWhile]

theorem trim_of_padded (h : Padded text core) (hne : core ≠ [])
    (hc : ∀ c ∈ core, isBlank c = false) : trim text = core := by
  obtain ⟨before, after, rfl, hbefore, hafter⟩ := h
  have hstart : (core ++ after).dropWhile isBlank = core ++ after := by
    obtain ⟨first, core, rfl⟩ := List.exists_cons_of_ne_nil hne
    exact List.dropWhile_cons_of_neg (by simp [hc first List.mem_cons_self])
  have hend : core.reverse.dropWhile isBlank = core.reverse :=
    dropWhile_of_not_isBlank fun c hm => hc c (List.mem_reverse.mp hm)
  rw [trim, List.append_assoc, List.dropWhile_append_of_pos hbefore, hstart, List.reverse_append,
    List.dropWhile_append_of_pos fun c hm => hafter c (List.mem_reverse.mp hm), hend,
    List.reverse_reverse]

/-- A property of texts without blanks holds of the trimmed text if it holds of any text that
blanks stand around. -/
theorem exists_padded_iff {P : List Char → Prop}
    (hP : ∀ core, P core → core ≠ [] ∧ ∀ c ∈ core, isBlank c = false) :
    (∃ core, Padded text core ∧ P core) ↔ P (trim text) := by
  constructor
  · rintro ⟨core, hpadded, hcore⟩
    obtain ⟨hne, hc⟩ := hP core hcore
    rwa [trim_of_padded hpadded hne hc]
  · exact fun h => ⟨_, padded_trim text, h⟩

end
end Text

namespace Numeral

/-! ## The grammar -/

/-- A digit group: digits, with at most single underscores between two of them. -/
inductive Group : List Char → List Nat → Prop
  | digit {c : Char} {d : Nat} : Text.Digit c d → Group [c] [d]
  | next {c : Char} {d : Nat} {text : List Char} {digits : List Nat} :
      Text.Digit c d → Group text digits → Group (c :: text) (d :: digits)
  | joined {c : Char} {d : Nat} {text : List Char} {digits : List Nat} :
      Text.Digit c d → Group text digits → Group (c :: '_' :: text) (d :: digits)

/-- A sign, or none, and whether it is a minus sign. -/
inductive Sign : List Char → Bool → Prop
  | absent : Sign [] false
  | plus : Sign ['+'] false
  | minus : Sign ['-'] true

/-- A sign and a digit group. -/
inductive IsInteger : List Char → Bool → List Nat → Prop
  | intro {mark body : List Char} {negative : Bool} {digits : List Nat} :
      Sign mark negative → Group body digits → IsInteger (mark ++ body) negative digits

/-- Digits around a point, with digits on at least one side of it, or without a point. -/
inductive Significand : List Char → List Nat → List Nat → Prop
  | bare {text : List Char} {whole : List Nat} : Group text whole → Significand text whole []
  | before {text : List Char} {whole : List Nat} :
      Group text whole → Significand (text ++ ['.']) whole []
  | after {text : List Char} {part : List Nat} :
      Group text part → Significand ('.' :: text) [] part
  | around {text later : List Char} {whole part : List Nat} :
      Group text whole → Group later part → Significand (text ++ '.' :: later) whole part

/-- An exponent of ten, or none. -/
inductive Power : List Char → Int → Prop
  | absent : Power [] 0
  | given {letter : Char} {mark body : List Char} {negative : Bool} {digits : List Nat} :
      letter = 'e' ∨ letter = 'E' → Sign mark negative → Group body digits →
      Power (letter :: (mark ++ body)) (signed negative (Text.ofDigits digits))

/-- A sign, a significand and a power of ten. -/
inductive IsDecimal : List Char → Bool → Decimal → Prop
  | intro {mark body tail : List Char} {negative : Bool} {whole part : List Nat}
      {exponent : Int} : Sign mark negative → Significand body whole part → Power tail exponent →
      IsDecimal (mark ++ body ++ tail) negative
        ⟨Text.ofDigits (whole ++ part), exponent - part.length⟩

/-! ## Reading a group -/

section
variable {c : Char} {d : Nat} {text rest : List Char} {digits : List Nat}

theorem Group.ne_nil (h : Group text digits) : digits ≠ [] := by
  cases h <;> exact List.cons_ne_nil _ _

theorem Group.exists_cons (h : Group text digits) :
    ∃ c d later, text = c :: later ∧ Text.Digit c d := by
  cases h with
  | digit hc | next hc _ | joined hc _ => exact ⟨_, _, _, rfl, hc⟩

theorem ne_underscore_of_digit (h : Text.Digit c d) : c ≠ '_' := by
  rintro rfl
  have hnone : Text.digitValue? '_' = none := by decide
  rw [Text.digitValue?_eq_some_iff.mpr h] at hnone
  cases hnone

theorem group_cons (h : Text.Digit c d) (text : List Char) :
    group (c :: text) = (d :: (moreDigits text).1, (moreDigits text).2) := by
  simp only [group, Text.digitValue?_eq_some_iff.mpr h]

theorem moreDigits_cons (h : Text.Digit c d) (text : List Char) :
    moreDigits (c :: text) = group (c :: text) := by
  rw [group_cons h, moreDigits]
  · simp only [Text.digitValue?_eq_some_iff.mpr h]
  · exact fun _ _ he _ => ne_underscore_of_digit h he

theorem moreDigits_underscore (h : Text.Digit c d) (text : List Char) :
    moreDigits ('_' :: c :: text) = group (c :: text) := by
  rw [group_cons h, moreDigits]
  simp only [Text.digitValue?_eq_some_iff.mpr h]

/-- A text does not go on with a digit group that ends before it. -/
def Apart (rest : List Char) : Prop :=
  ∀ c ∈ rest.head?, c ≠ '_' ∧ Text.digitValue? c = none

theorem apart_nil : Apart [] := by
  intro c hc
  cases hc

theorem Apart.moreDigits (h : Apart rest) : moreDigits rest = ([], rest) := by
  cases rest with
  | nil => rfl
  | cons c rest =>
    obtain ⟨hunderscore, hnone⟩ := h c rfl
    rw [Numeral.moreDigits]
    · simp only [hnone]
    · exact fun _ _ he _ => hunderscore he

theorem Apart.group (h : Apart rest) : group rest = ([], rest) := by
  cases rest with
  | nil => rfl
  | cons c rest =>
    simp only [Numeral.group, (h c rfl).2]

/-- A group is read as far as it goes. -/
theorem Group.group_append (h : Group text digits) (hr : Apart rest) :
    group (text ++ rest) = (digits, rest) := by
  induction h with
  | digit hc => rw [List.cons_append, List.nil_append, group_cons hc, hr.moreDigits]
  | next hc h ih =>
    obtain ⟨c, d, later, rfl, hd⟩ := h.exists_cons
    rw [List.cons_append, group_cons hc, List.cons_append, moreDigits_cons hd, ← List.cons_append,
      ih]
  | joined hc h ih =>
    obtain ⟨c, d, later, rfl, hd⟩ := h.exists_cons
    rw [List.cons_append, group_cons hc, List.cons_append, List.cons_append,
      moreDigits_underscore hd, ← List.cons_append, ih]

theorem exists_group_of_moreDigits (h : Text.Digit c d) (text : List Char) : ∃ read,
    Group (c :: read) (d :: (moreDigits text).1) ∧ text = read ++ (moreDigits text).2 := by
  fun_induction moreDigits text generalizing c d with
  | case1 => exact ⟨[], .digit h, rfl⟩
  | case2 c' text d' hd ds rest hrest ih =>
    obtain ⟨read, hread, htext⟩ := ih (Text.digitValue?_eq_some_iff.mp hd)
    rw [hrest] at hread htext
    exact ⟨'_' :: c' :: read, .joined h hread, by rw [htext]; rfl⟩
  | case3 => exact ⟨[], .digit h, rfl⟩
  | case4 c' text _ d' hd ds rest hrest ih =>
    obtain ⟨read, hread, htext⟩ := ih (Text.digitValue?_eq_some_iff.mp hd)
    rw [hrest] at hread htext
    exact ⟨c' :: read, .next h hread, by rw [htext]; rfl⟩
  | case5 => exact ⟨[], .digit h, rfl⟩

/-- What is read as a group is one. -/
theorem group_eq (h : group text = (digits, rest)) :
    digits = [] ∧ text = rest ∨ ∃ read, Group read digits ∧ text = read ++ rest := by
  cases text with
  | nil =>
    cases h
    exact .inl ⟨rfl, rfl⟩
  | cons c text =>
    cases hc : Text.digitValue? c with
    | none =>
      simp only [group, hc] at h
      cases h
      exact .inl ⟨rfl, rfl⟩
    | some d =>
      have hd := Text.digitValue?_eq_some_iff.mp hc
      rw [group_cons hd] at h
      cases h
      obtain ⟨read, hread, htext⟩ := exists_group_of_moreDigits hd text
      exact .inr ⟨c :: read, hread, by rw [List.cons_append, ← htext]⟩

end

/-! ## Reading a numeral -/

section
variable {text body rest : List Char} {negative : Bool} {digits whole part : List Nat} {n : Int}
  {exponent : Int}

/-- A text without a sign at its start. -/
def Unsigned (text : List Char) : Prop :=
  ∀ c ∈ text.head?, c ≠ '-' ∧ c ≠ '+'

theorem Group.unsigned (h : Group text digits) (rest : List Char) : Unsigned (text ++ rest) := by
  obtain ⟨c, d, later, rfl, hd⟩ := h.exists_cons
  have hsign : Text.digitValue? '-' = none ∧ Text.digitValue? '+' = none := by decide
  have hvalue := Text.digitValue?_eq_some_iff.mpr hd
  rintro _ ⟨⟩
  constructor
  · rintro rfl
    rw [hsign.1] at hvalue
    cases hvalue
  · rintro rfl
    rw [hsign.2] at hvalue
    cases hvalue

theorem Sign.sign_append {mark : List Char} (h : Sign mark negative) (hu : Unsigned body) :
    sign (mark ++ body) = (negative, body) := by
  cases h with
  | absent =>
    rw [List.nil_append, sign]
    · rintro rest rfl
      exact (hu '-' rfl).1 rfl
    · rintro rest rfl
      exact (hu '+' rfl).2 rfl
  | plus | minus => rfl

theorem sign_eq (h : sign text = (negative, body)) : ∃ mark, Sign mark negative ∧
    text = mark ++ body := by
  rw [sign.eq_def] at h
  split at h <;> cases h
  · exact ⟨_, .minus, rfl⟩
  · exact ⟨_, .plus, rfl⟩
  · exact ⟨_, .absent, rfl⟩

/-- An integer numeral within the digit limit is read, and nothing else is. -/
theorem integer?_eq_some_iff : integer? text = some n ↔ ∃ negative digits,
    IsInteger text negative digits ∧ digits.length ≤ digitLimit ∧
      n = signed negative (Text.ofDigits digits) := by
  constructor
  · intro h
    rw [integer?] at h
    split at h
    next negative body hs =>
      obtain ⟨mark, hmark, rfl⟩ := sign_eq hs
      split at h
      next => cases h
      next digits hnil hg =>
        split at h
        next hlimit =>
          cases h
          rcases group_eq hg with ⟨hnone, _⟩ | ⟨read, hread, hbody⟩
          · exact (hnil hnone).elim
          · rw [hbody, List.append_nil]
            exact ⟨_, _, .intro hmark hread, hlimit, rfl⟩
        next => cases h
      next => cases h
  · rintro ⟨negative, digits, ⟨hmark, hgroup⟩, hlimit, rfl⟩
    have hall := hgroup.group_append apart_nil
    have hunsigned := hgroup.unsigned []
    rw [List.append_nil] at hall hunsigned
    exact integer?_of_group (hmark.sign_append hunsigned) hall hgroup.ne_nil hlimit

theorem apart_cons {c : Char} (hc : c ≠ '_' ∧ Text.digitValue? c = none) (rest : List Char) :
    Apart (c :: rest) := by
  rintro _ ⟨⟩
  exact hc

theorem apart_point (rest : List Char) : Apart ('.' :: rest) := apart_cons (by decide) rest

theorem Power.apart (h : Power text exponent) : Apart text := by
  cases h with
  | absent => exact apart_nil
  | given hletter => rcases hletter with rfl | rfl <;> exact apart_cons (by decide) _

theorem Power.exponent? (h : Power text exponent) : Numeral.exponent? text = some exponent := by
  cases h with
  | absent => rfl
  | @given letter mark body negative digits hletter hmark hgroup =>
    have hall := hgroup.group_append apart_nil
    have hunsigned := hgroup.unsigned []
    rw [List.append_nil] at hall hunsigned
    obtain ⟨d, digits, rfl⟩ := List.exists_cons_of_ne_nil hgroup.ne_nil
    simp only [Numeral.exponent?, if_pos hletter, hmark.sign_append hunsigned, hall]

theorem power_of_exponent? (h : Numeral.exponent? text = some exponent) : Power text exponent := by
  cases text with
  | nil =>
    cases h
    exact .absent
  | cons letter text =>
    rw [Numeral.exponent?] at h
    split at h
    next hletter =>
      split at h
      next negative body hs =>
        obtain ⟨mark, hmark, rfl⟩ := sign_eq hs
        split at h
        next => cases h
        next digits hnil hg =>
          cases h
          rcases group_eq hg with ⟨hnone, _⟩ | ⟨read, hread, hbody⟩
          · exact (hnil hnone).elim
          · rw [hbody, List.append_nil]
            exact .given hletter hmark hread
        next => cases h
    next => cases h

theorem Power.fraction (h : Power text exponent) : Numeral.fraction text = ([], text) := by
  cases h with
  | absent => rfl
  | given hletter => rcases hletter with rfl | rfl <;> rfl

theorem Significand.unsigned (h : Significand text whole part) (rest : List Char) :
    Unsigned (text ++ rest) := by
  cases h with
  | bare hg => exact hg.unsigned rest
  | before hg => exact List.append_assoc _ _ rest ▸ hg.unsigned _
  | after _ =>
    rintro _ ⟨⟩
    decide
  | around hg _ => exact List.append_assoc _ _ rest ▸ hg.unsigned _

theorem Significand.ne_nil (h : Significand text whole part) : whole ++ part ≠ [] := by
  cases h with
  | bare hg | before hg =>
    rw [List.append_nil]
    exact hg.ne_nil
  | after hg => exact hg.ne_nil
  | around hg _ => exact List.append_ne_nil_of_left_ne_nil hg.ne_nil _

/-- A significand is read in two parts. -/
theorem Significand.exists_group_append (h : Significand text whole part)
    (hr : Power rest exponent) : ∃ after, group (text ++ rest) = (whole, after) ∧
      Numeral.fraction after = (part, rest) := by
  cases h with
  | bare hg => exact ⟨rest, hg.group_append hr.apart, hr.fraction⟩
  | before hg =>
    rw [List.append_assoc]
    exact ⟨_, hg.group_append (apart_point rest), hr.apart.group⟩
  | after hg => exact ⟨_, (apart_point _).group, hg.group_append hr.apart⟩
  | around hg hlater =>
    rw [List.append_assoc]
    exact ⟨_, hg.group_append (apart_point _), hlater.group_append hr.apart⟩

/-- What is read in two parts, with a digit in one of them, is a significand. -/
theorem exists_significand {after : List Char} (hg : group text = (whole, after))
    (hf : fraction after = (part, rest)) (hne : whole ++ part ≠ []) :
    ∃ read, Significand read whole part ∧ text = read ++ rest := by
  rw [fraction.eq_def] at hf
  split at hf
  next later =>
    rcases group_eq hg with ⟨rfl, rfl⟩ | ⟨read, hread, rfl⟩ <;>
      rcases group_eq hf with ⟨rfl, rfl⟩ | ⟨tail, htail, rfl⟩
    · exact absurd rfl hne
    · exact ⟨_, .after htail, rfl⟩
    · exact ⟨_, .before hread, by simp⟩
    · exact ⟨_, .around hread htail, by simp⟩
  next =>
    cases hf
    rcases group_eq hg with ⟨rfl, rfl⟩ | ⟨read, hread, rfl⟩
    · exact absurd rfl hne
    · exact ⟨_, .bare hread, rfl⟩

/-- A decimal numeral is read as what it denotes, and nothing else is read. -/
theorem decimal?_eq_some_iff {d : Decimal} :
    decimal? text = some (negative, d) ↔ IsDecimal text negative d := by
  constructor
  · intro h
    rcases hs : sign text with ⟨sign, body⟩
    rcases hg : group body with ⟨whole, after⟩
    rcases hf : fraction after with ⟨part, rest⟩
    simp only [decimal?, hs, hg, hf] at h
    split at h
    next => cases h
    next hne =>
      obtain ⟨exponent, he, hd⟩ := Option.map_eq_some_iff.mp h
      cases hd
      obtain ⟨mark, hmark, rfl⟩ := sign_eq hs
      obtain ⟨body, hbody, rfl⟩ := exists_significand hg hf hne
      rw [← List.append_assoc]
      exact .intro hmark hbody (power_of_exponent? he)
  · rintro ⟨hmark, hbody, htail⟩
    obtain ⟨after, hg, hf⟩ := hbody.exists_group_append htail
    rw [List.append_assoc]
    simp only [decimal?, hmark.sign_append (hbody.unsigned _), hg, hf, if_neg hbody.ne_nil,
      htail.exponent?, Option.map_some]

/-! ## Numerals and blanks -/

theorem Group.not_isBlank (h : Group text digits) : ∀ c ∈ text, Text.isBlank c = false := by
  have hunderscore : Text.isBlank '_' = false := by decide
  induction h with
  | digit hc => exact List.forall_mem_singleton.mpr hc.not_isBlank
  | next hc _ ih => exact List.forall_mem_cons.mpr ⟨hc.not_isBlank, ih⟩
  | joined hc _ ih =>
    exact List.forall_mem_cons.mpr ⟨hc.not_isBlank, List.forall_mem_cons.mpr ⟨hunderscore, ih⟩⟩

theorem Sign.not_isBlank (h : Sign text negative) : ∀ c ∈ text, Text.isBlank c = false := by
  cases h with
  | absent => nofun
  | plus | minus => exact List.forall_mem_singleton.mpr (by decide)

theorem Significand.not_isBlank (h : Significand text whole part) :
    ∀ c ∈ text, Text.isBlank c = false := by
  have hpoint : Text.isBlank '.' = false := by decide
  cases h with
  | bare hg => exact hg.not_isBlank
  | before hg =>
    exact List.forall_mem_append.mpr ⟨hg.not_isBlank, List.forall_mem_singleton.mpr hpoint⟩
  | after hg => exact List.forall_mem_cons.mpr ⟨hpoint, hg.not_isBlank⟩
  | around hg hlater =>
    exact List.forall_mem_append.mpr
      ⟨hg.not_isBlank, List.forall_mem_cons.mpr ⟨hpoint, hlater.not_isBlank⟩⟩

theorem Power.not_isBlank (h : Power text exponent) : ∀ c ∈ text, Text.isBlank c = false := by
  cases h with
  | absent => nofun
  | given hletter hmark hgroup =>
    refine List.forall_mem_cons.mpr
      ⟨?_, List.forall_mem_append.mpr ⟨hmark.not_isBlank, hgroup.not_isBlank⟩⟩
    rcases hletter with rfl | rfl <;> decide

theorem IsInteger.not_isBlank (h : IsInteger text negative digits) :
    text ≠ [] ∧ ∀ c ∈ text, Text.isBlank c = false := by
  obtain ⟨hmark, hgroup⟩ := h
  obtain ⟨c, d, later, rfl, _⟩ := hgroup.exists_cons
  exact ⟨List.append_ne_nil_of_right_ne_nil _ (List.cons_ne_nil _ _),
    List.forall_mem_append.mpr ⟨hmark.not_isBlank, hgroup.not_isBlank⟩⟩

theorem IsDecimal.not_isBlank {d : Decimal} (h : IsDecimal text negative d) :
    text ≠ [] ∧ ∀ c ∈ text, Text.isBlank c = false := by
  obtain ⟨hmark, hbody, htail⟩ := h
  refine ⟨fun hnil => ?_, List.forall_mem_append.mpr
    ⟨List.forall_mem_append.mpr ⟨hmark.not_isBlank, hbody.not_isBlank⟩, htail.not_isBlank⟩⟩
  obtain ⟨hfront, _⟩ := List.append_eq_nil_iff.mp hnil
  obtain ⟨_, rfl⟩ := List.append_eq_nil_iff.mp hfront
  obtain ⟨after, hg, hf⟩ := hbody.exists_group_append .absent
  cases hg
  cases hf
  exact hbody.ne_nil rfl

/-- The text is an integer numeral with blanks around it. -/
def DenotesInteger (text : String) (negative : Bool) (digits : List Nat) : Prop :=
  ∃ core, Text.Padded text.toList core ∧ IsInteger core negative digits

theorem denotesInteger_iff {text : String} :
    DenotesInteger text negative digits ↔ IsInteger (Text.trim text.toList) negative digits :=
  Text.exists_padded_iff fun _ h => h.not_isBlank

end

end Numeral

/-! ## The integer reader -/

namespace Reader

open Numeral (DenotesInteger)

/-- What the integer reader makes of a text. -/
structure IntegerReading (text : String) (argument : Argument) : Prop where
  text_eq : argument.text = text
  accepted_iff : argument.defaulted = false ↔
    ∃ negative digits, DenotesInteger text negative digits ∧ digits.length ≤ 4300
  /-- The number is the one that the digits denote, the last of them being the units. -/
  accepted : ∀ negative digits, DenotesInteger text negative digits → digits.length ≤ 4300 →
    argument.value = .int (Numeral.signed negative (Nat.ofDigits 10 digits.reverse))
  rejected : argument.defaulted = true → argument.value = .int 0

/-- **The integer reader accepts its grammar.** It reads the padded integer numerals of at most
4300 digits, and for any other text it falls back to zero. -/
theorem integer_reads (text : String) : ∃ argument,
    Reader.integer.read (.str text) = .ok argument ∧ IntegerReading text argument := by
  have hdenotes (n : Int) : Numeral.integer? (Text.trim text.toList) = some n ↔
      ∃ negative digits, DenotesInteger text negative digits ∧ digits.length ≤ 4300 ∧
        n = Numeral.signed negative (Nat.ofDigits 10 digits.reverse) := by
    simp only [Numeral.integer?_eq_some_iff, Numeral.denotesInteger_iff, Text.ofDigits_eq_reverse,
      Numeral.digitLimit]
  cases hn : Numeral.integer? (Text.trim text.toList) with
  | some n =>
    have hvalue : Standard.integer.value? text = some (.int n) := congrArg (Option.map _) hn
    refine ⟨_, Standard.read_of_value? hvalue, rfl, iff_of_true rfl ?_,
      fun negative digits h hl => ?_, nofun⟩
    · obtain ⟨negative, digits, h, hl, _⟩ := (hdenotes n).mp hn
      exact ⟨negative, digits, h, hl⟩
    · have hread := (hdenotes _).mpr ⟨negative, digits, h, hl, rfl⟩
      rw [hn] at hread
      exact congrArg Value.int (Option.some.inj hread)
  | none =>
    have hvalue : Standard.integer.value? text = none := congrArg (Option.map _) hn
    have hnot : ¬ ∃ negative digits, DenotesInteger text negative digits ∧
        digits.length ≤ 4300 := by
      rintro ⟨negative, digits, h, hl⟩
      have hread := (hdenotes _).mpr ⟨negative, digits, h, hl, rfl⟩
      rw [hn] at hread
      cases hread
    exact ⟨_, Standard.read_of_rejected hvalue, rfl, iff_of_false nofun hnot,
      fun negative digits h hl => absurd ⟨negative, digits, h, hl⟩ hnot, fun _ => rfl⟩

end Reader
end Toolbench
