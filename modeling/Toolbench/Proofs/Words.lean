import Toolbench.Proofs.Decimal
import Toolbench.Proofs.Normalisation

/-! # Words up to letter case

Truth values and labels are told by words, which are compared in small letters. The words are
ASCII and have no `k` in them, and of the characters beyond ASCII only the Kelvin sign has an
ASCII character, the `k`, for its small form (`small_of_beyond`). So no such character can take
part in a word: a text in small letters is a word exactly if it is this word up to ASCII letter
case (`lower_eq_iff`). Blanks do not interfere, as they have no case and stand in no word. -/

namespace Toolbench

namespace Text

/-! ## Small forms -/

section
variable {c : Char} {before after text word : List Char}

theorem small_of_ascii (h : c.toNat < 128) : small c = c.toLower := by
  have hall : ∀ n < 128, small (Char.ofNat n) = (Char.ofNat n).toLower := by decide +kernel
  simpa only [Char.ofNat_toNat] using hall c.toNat h

/-- Beside the ASCII capitals and the Kelvin sign a run has no ASCII character on either side. -/
theorem capitalRuns_beyond : ∀ run ∈ capitalRuns,
    run.2.1 < 128 ∨ run = (0x212A, 0x212A, 0x6B) ∨
      128 ≤ run.2.2 ∧ (run.2.2 + (run.2.1 - run.1) < 0xD800 ∨
        0xDFFF < run.2.2 ∧ run.2.2 + (run.2.1 - run.1) < 0x110000) := by
  decide +kernel

theorem pairedRuns_beyond : ∀ run ∈ pairedRuns, 128 ≤ run.1 ∧ run.2 + 1 < 0xD800 := by
  decide +kernel

theorem smallCode?_of_beyond {code found : Nat} (hc : 128 ≤ code)
    (h : smallCode? code = some found) :
    found = 0x6B ∨ 128 ≤ found ∧ found.isValidChar := by
  rcases Option.or_eq_some_iff.mp h with h | ⟨_, h⟩
  · obtain ⟨run, hm, hrun⟩ := List.exists_of_findSome?_eq_some h
    split at hrun
    next hin =>
      cases hrun
      rcases capitalRuns_beyond run hm with hlow | rfl | ⟨hfirst, hvalid⟩
      · omega
      · left
        simp only at hin ⊢
        omega
      · right
        refine ⟨by omega, ?_⟩
        rcases hvalid with hvalid | ⟨hlow, hhigh⟩
        · exact .inl (by omega)
        · exact .inr ⟨by omega, by omega⟩
    next => cases hrun
  · obtain ⟨run, hm, hrun⟩ := List.exists_of_findSome?_eq_some h
    split at hrun
    next hin =>
      cases hrun
      obtain ⟨hfirst, hlast⟩ := pairedRuns_beyond run hm
      exact .inr ⟨by omega, .inl (by omega)⟩
    next => cases hrun

/-- The Kelvin sign has the small form `k`. Any other character beyond ASCII has one beyond
ASCII. -/
theorem small_of_beyond (h : 128 ≤ c.toNat) : small c = 'k' ∨ 128 ≤ (small c).toNat := by
  rw [small]
  cases hs : smallCode? c.toNat with
  | none => exact .inr h
  | some found =>
    rcases smallCode?_of_beyond h hs with rfl | ⟨hfound, hvalid⟩
    · exact .inl rfl
    · right
      rw [Option.map_some, Option.getD_some]
      delta Char.ofNat
      rw [dif_pos hvalid]
      exact hfound

theorem smallBetween_of_ascii (h : c.toNat < 128) :
    smallBetween before c after = [c.toLower] := by
  have hdotted : c ≠ '\u0130' := by rintro rfl; exact absurd h (by decide)
  have hsigma : c ≠ '\u03a3' := by rintro rfl; exact absurd h (by decide)
  rw [smallBetween, if_neg hdotted, if_neg fun hs => hsigma hs.1, small_of_ascii h]

/-- The characters that words are made of: small, ASCII and neither blank nor a `k`. -/
def isPlain (c : Char) : Bool :=
  c.toNat < 128 && c.toLower == c && !isBlank c && c != 'k'

theorem isPlain_iff :
    isPlain c = true ↔ ((c.toNat < 128 ∧ c.toLower = c) ∧ isBlank c = false) ∧ c ≠ 'k' := by
  simp [isPlain]

theorem not_isPlain_of_beyond (h : 128 ≤ c.toNat) : isPlain c = false := by
  simp [isPlain, Nat.not_lt.mpr h]

/-- In small letters a character beyond ASCII leaves one that words are not made of. -/
theorem exists_not_isPlain (h : 128 ≤ c.toNat) :
    ∃ d ∈ smallBetween before c after, isPlain d = false := by
  rw [smallBetween]
  split
  · exact ⟨'\u0307', by simp, by decide⟩
  · split
    · exact ⟨'\u03c2', by simp, by decide⟩
    · refine ⟨small c, List.mem_singleton_self _, ?_⟩
      rcases small_of_beyond h with hk | hbeyond
      · rw [hk]
        decide
      · exact not_isPlain_of_beyond hbeyond

theorem toLower_of_beyond (h : 128 ≤ c.toNat) : c.toLower = c := by
  refine dif_neg ?_
  rintro ⟨_, hhigh⟩
  have hhigh : c.toNat ≤ 90 := hhigh
  omega

/-! ## Words -/

theorem lowerAfter_eq_iff (hw : word.all isPlain = true) :
    lowerAfter before text = word ↔ fold text = word := by
  induction text generalizing before word with
  | nil => exact Iff.rfl
  | cons c text ih =>
    rw [lowerAfter]
    have hfold : fold (c :: text) = c.toLower :: fold text := rfl
    rw [hfold]
    by_cases hc : c.toNat < 128
    · rw [smallBetween_of_ascii hc, List.singleton_append]
      cases word with
      | nil => exact iff_of_false (List.cons_ne_nil _ _) (List.cons_ne_nil _ _)
      | cons d word =>
        rw [List.all_cons, Bool.and_eq_true] at hw
        rw [List.cons.injEq, List.cons.injEq, ih hw.2]
    · have hbeyond : 128 ≤ c.toNat := Nat.le_of_not_lt hc
      refine iff_of_false ?_ ?_
      · rintro rfl
        obtain ⟨d, hd, hnot⟩ := exists_not_isPlain hbeyond
        have := List.all_eq_true.mp hw d (List.mem_append_left _ hd)
        rw [hnot] at this
        cases this
      · rintro rfl
        rw [toLower_of_beyond hbeyond, List.all_cons, not_isPlain_of_beyond hbeyond] at hw
        cases hw

/-- A text in small letters is a word exactly if it is the word up to ASCII letter case. -/
theorem lower_eq_iff (hw : word.all isPlain = true) : lower text = word ↔ fold text = word :=
  lowerAfter_eq_iff hw

theorem fold_of_isPlain (hw : word.all isPlain = true) : fold word = word := by
  refine (List.map_congr_left fun c hc => ?_).trans (List.map_id word)
  exact (isPlain_iff.mp (List.all_eq_true.mp hw c hc)).1.1.2

/-- What is a word up to letter case has no blanks in it. -/
theorem not_isBlank_of_fold (hw : word.all isPlain = true) (h : fold text = word) :
    ∀ c ∈ text, isBlank c = false := by
  intro c hc
  have hm : c.toLower ∈ word := by
    rw [← h]
    exact List.mem_map_of_mem hc
  have hplain := isPlain_iff.mp (List.all_eq_true.mp hw _ hm)
  cases hb : isBlank c with
  | false => rfl
  | true =>
    rw [toLower_of_isBlank hb, hb] at hplain
    exact hplain.1.2

end

/-- A text says one of the words if it is that word, up to ASCII letter case and with nothing but
blanks around it. -/
def Says (words : List String) (text : String) : Prop :=
  ∃ word ∈ words, ∃ core, Padded text.toList core ∧ fold core = fold word.toList

/-- Words that can be compared in small letters. -/
def ArePlain (words : List String) : Prop :=
  ∀ word ∈ words, word ≠ "" ∧ word.toList.all isPlain = true

instance (words : List String) : Decidable (ArePlain words) :=
  inferInstanceAs (Decidable (∀ word ∈ words, _))

section
variable {words others : List String} {text : String}

theorem says_iff (hw : ArePlain words) :
    Says words text ↔ ∃ word ∈ words, fold (trim text.toList) = word.toList := by
  refine exists_congr fun word => and_congr_right fun hm => ?_
  obtain ⟨hne, hplain⟩ := hw word hm
  rw [fold_of_isPlain hplain]
  refine exists_padded_iff fun core hcore => ⟨?_, not_isBlank_of_fold hplain hcore⟩
  rintro rfl
  exact hne (String.toList_eq_nil_iff.mp hcore.symm)

theorem isWord_trim_iff (hw : ArePlain words) :
    isWord words (trim text.toList) = true ↔ Says words text := by
  rw [says_iff hw, isWord, List.any_eq_true]
  refine exists_congr fun word => and_congr_right fun hm => ?_
  rw [beq_iff_eq, eq_comm, lower_eq_iff (hw word hm).2]

theorem Says.exists_mem_both (hw : ArePlain words) (ho : ArePlain others)
    (h : Says words text) (h' : Says others text) : ∃ word ∈ words, word ∈ others := by
  obtain ⟨word, hm, he⟩ := (says_iff hw).mp h
  obtain ⟨other, hm', he'⟩ := (says_iff ho).mp h'
  obtain rfl : word = other := String.toList_injective (he.symm.trans he')
  exact ⟨word, hm, hm'⟩

theorem says_append_iff : Says (words ++ others) text ↔ Says words text ∨ Says others text := by
  simp only [Says, List.mem_append, or_and_right, exists_or]

/-- A text with a character beyond ASCII in it says no word. -/
theorem not_says_of_beyond (hw : ArePlain words)
    (h : ∃ c ∈ trim text.toList, 128 ≤ c.toNat) : ¬ Says words text := by
  intro hsays
  obtain ⟨c, hc, hbeyond⟩ := h
  obtain ⟨word, hm, he⟩ := (says_iff hw).mp hsays
  have hin : c.toLower ∈ word.toList := by
    rw [← he]
    exact List.mem_map_of_mem hc
  have hplain := List.all_eq_true.mp (hw word hm).2 _ hin
  rw [toLower_of_beyond hbeyond, not_isPlain_of_beyond hbeyond] at hplain
  cases hplain

end

end Text

/-! ## Truth values -/

theorem Standard.read_eq_fallback_iff {kind : Standard} {text : String} :
    kind.reader.read (.str text) = .ok ⟨text, kind.zero, true⟩ ↔ kind.value? text = none := by
  cases hv : kind.value? text with
  | some found => simp [read_of_value? hv]
  | none => simp [read_of_rejected hv]

namespace Reader

open Text (Says ArePlain)

theorem arePlain_trueWords : ArePlain trueWords := by decide

theorem arePlain_falseWords : ArePlain falseWords := by decide

theorem trueWords_apart : ∀ word ∈ trueWords, word ∉ falseWords := by decide

section
variable {text : String} {b : Bool}

theorem not_says_both (h : Says trueWords text) : ¬ Says falseWords text := by
  intro h'
  obtain ⟨word, hm, hm'⟩ := h.exists_mem_both arePlain_trueWords arePlain_falseWords h'
  exact trueWords_apart word hm hm'

theorem truth?_trim_eq_some_iff : truth? (Text.trim text.toList) = some b ↔
    Says (if b then trueWords else falseWords) text := by
  have htrue : Text.isWord trueWords (Text.trim text.toList) = true ↔ Says trueWords text :=
    Text.isWord_trim_iff arePlain_trueWords
  have hfalse : Text.isWord falseWords (Text.trim text.toList) = true ↔ Says falseWords text :=
    Text.isWord_trim_iff arePlain_falseWords
  rw [truth?]
  by_cases ht : Says trueWords text
  · rw [if_pos (htrue.mpr ht)]
    cases b <;> simp [ht, not_says_both ht]
  · rw [if_neg (ht ∘ htrue.mp)]
    by_cases hf : Says falseWords text
    · rw [if_pos (hfalse.mpr hf)]
      cases b <;> simp [ht, hf]
    · rw [if_neg (hf ∘ hfalse.mp)]
      cases b <;> simp [ht, hf]

theorem read_boolean_iff : Reader.boolean.read (.str text) = .ok ⟨text, .bool b, false⟩ ↔
    Says (if b then trueWords else falseWords) text := by
  have hread : Standard.boolean.reader.read (.str text) = .ok ⟨text, .bool b, false⟩ ↔
      Standard.boolean.value? text = some (.bool b) := Standard.read_eq_ok_iff
  rw [← truth?_trim_eq_some_iff]
  refine hread.trans ?_
  simp [Standard.value?]

theorem read_boolean_fallback_iff :
    Reader.boolean.read (.str text) = .ok ⟨text, .bool false, true⟩ ↔
      ¬ Says trueWords text ∧ ¬ Says falseWords text := by
  have hread : Standard.boolean.reader.read (.str text) = .ok ⟨text, .bool false, true⟩ ↔
      Standard.boolean.value? text = none := Standard.read_eq_fallback_iff
  refine hread.trans ?_
  rw [Standard.value?, Option.map_eq_none_iff, Option.eq_none_iff_forall_ne_some, Bool.forall_bool,
    ne_eq, ne_eq, truth?_trim_eq_some_iff, truth?_trim_eq_some_iff, and_comm]
  exact Iff.rfl

/-- What the reader of truth values makes of a text. -/
structure TruthReading (text : String) : Prop where
  true_iff : Reader.boolean.read (.str text) = .ok ⟨text, .bool true, false⟩ ↔
    Says ["true", "1", "yes"] text
  false_iff : Reader.boolean.read (.str text) = .ok ⟨text, .bool false, false⟩ ↔
    Says ["false", "0", "no"] text
  fallback_iff : Reader.boolean.read (.str text) = .ok ⟨text, .bool false, true⟩ ↔
    ¬ Says ["true", "1", "yes", "false", "0", "no"] text
  /-- A character beyond ASCII between the blanks at the two ends is enough for the fallback. -/
  fallback_of_beyond : (∃ c ∈ Text.trim text.toList, 128 ≤ c.toNat) →
    Reader.boolean.read (.str text) = .ok ⟨text, .bool false, true⟩

theorem truthReading (text : String) : TruthReading text where
  true_iff := read_boolean_iff
  false_iff := read_boolean_iff
  fallback_iff := by
    rw [read_boolean_fallback_iff, ← not_or, ← Text.says_append_iff]
    exact Iff.rfl
  fallback_of_beyond h := read_boolean_fallback_iff.mpr
    ⟨Text.not_says_of_beyond arePlain_trueWords h, Text.not_says_of_beyond arePlain_falseWords h⟩

end

end Reader

/-! ## Labels -/

/-- The words of a label that name a reader other than the string reader. -/
def Standard.words : Standard → List String
  | .string => []
  | .integer => ["integer", "int"]
  | .number => ["number", "float", "double"]
  | .boolean => ["boolean", "bool"]

namespace Standard

variable {kind other : Standard} {label : String}

theorem arePlain_words (kind : Standard) : Text.ArePlain kind.words := by
  cases kind <;> decide

theorem words_apart (h : kind ≠ other) : ∀ word ∈ kind.words, word ∉ other.words := by
  cases kind <;> cases other <;> first | exact absurd rfl h | decide

theorem eq_of_says (h : Text.Says kind.words label) (h' : Text.Says other.words label) :
    kind = other := by
  by_contra hne
  obtain ⟨word, hm, hm'⟩ := h.exists_mem_both kind.arePlain_words other.arePlain_words h'
  exact words_apart hne word hm hm'

end Standard

namespace Reader

open Text (Says)

section
variable {label : String}

theorem labels_eq : labels =
    [Standard.integer, .number, .boolean].map fun kind => (kind.words, kind.reader) := rfl

theorem not_says_words_string : ¬ Says Standard.string.words label := by
  rintro ⟨_, hm, _⟩
  cases hm

/-- A label names the reader that one of its words is for, or else the string reader. -/
theorem ofLabel_cases (label : String) :
    (∃ kind : Standard, Says kind.words label ∧ ofLabel label = kind.reader) ∨
      (∀ kind : Standard, ¬ Says kind.words label) ∧ ofLabel label = .string := by
  rw [ofLabel]
  cases hf : labels.find? fun entry => Text.isWord entry.1 (Text.trim label.toList) with
  | some entry =>
    have hm := List.mem_of_find?_eq_some hf
    have hword := List.find?_some hf
    rw [labels_eq] at hm
    obtain ⟨kind, _, rfl⟩ := List.mem_map.mp hm
    exact .inl ⟨kind, (Text.isWord_trim_iff kind.arePlain_words).mp hword, rfl⟩
  | none =>
    refine .inr ⟨fun kind hsays => ?_, rfl⟩
    have hnone := List.find?_eq_none.mp hf
    rw [labels_eq, List.forall_mem_map] at hnone
    have hword := (Text.isWord_trim_iff kind.arePlain_words).mpr hsays
    cases kind with
    | string => exact not_says_words_string hsays
    | integer => exact hnone .integer (by simp) hword
    | number => exact hnone .number (by simp) hword
    | boolean => exact hnone .boolean (by simp) hword

theorem ofLabel_eq_iff (kind : Standard) (hk : kind ≠ .string) (label : String) :
    ofLabel label = kind.reader ↔ Says kind.words label := by
  rcases ofLabel_cases label with ⟨other, hsays, hother⟩ | ⟨hnone, hstring⟩
  · rw [hother]
    constructor
    · intro h
      rwa [← Standard.reader_injective h]
    · intro h
      rw [Standard.eq_of_says h hsays]
  · rw [hstring]
    exact iff_of_false (fun h => hk (Standard.reader_injective h.symm)) (hnone kind)

theorem ofLabel_eq_string_iff :
    ofLabel label = .string ↔ ∀ kind : Standard, ¬ Says kind.words label := by
  rcases ofLabel_cases label with ⟨kind, hsays, hkind⟩ | ⟨hnone, hstring⟩
  · refine iff_of_false (fun h => ?_) fun hall => hall kind hsays
    have hk : kind = .string := Standard.reader_injective (hkind.symm.trans h)
    rw [hk] at hsays
    exact not_says_words_string hsays
  · exact iff_of_true hstring hnone

/-- Which reader a label names. -/
structure LabelReading (label : String) : Prop where
  integer_iff : ofLabel label = .integer ↔ Says ["integer", "int"] label
  number_iff : ofLabel label = .number ↔ Says ["number", "float", "double"] label
  boolean_iff : ofLabel label = .boolean ↔ Says ["boolean", "bool"] label
  string_iff : ofLabel label = .string ↔
    ¬ Says ["integer", "int", "number", "float", "double", "boolean", "bool"] label

theorem labelReading (label : String) : LabelReading label where
  integer_iff := ofLabel_eq_iff .integer nofun label
  number_iff := ofLabel_eq_iff .number nofun label
  boolean_iff := ofLabel_eq_iff .boolean nofun label
  string_iff := by
    have hany : Says ["integer", "int", "number", "float", "double", "boolean", "bool"] label ↔
        (Says Standard.integer.words label ∨ Says Standard.number.words label) ∨
          Says Standard.boolean.words label := by
      rw [← Text.says_append_iff, ← Text.says_append_iff]
      exact Iff.rfl
    rw [ofLabel_eq_string_iff, hany]
    constructor
    · rintro hall ((h | h) | h)
      · exact hall .integer h
      · exact hall .number h
      · exact hall .boolean h
    · intro hnot kind hsays
      cases kind with
      | string => exact not_says_words_string hsays
      | integer => exact hnot (.inl (.inl hsays))
      | number => exact hnot (.inl (.inr hsays))
      | boolean => exact hnot (.inr hsays)

/-- **Words are looked up by ASCII letters of either case.** Truth values and labels are told by
their words, whatever the case of the letters and whatever blanks stand around them, and by no
other text. -/
theorem words_looked_up :
    (∀ text, TruthReading text) ∧ ∀ label, LabelReading label :=
  ⟨truthReading, labelReading⟩

end

end Reader
end Toolbench
