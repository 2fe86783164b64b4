import Toolbench.Proofs.Numeral
import Toolbench.Proofs.Reading

/-! # The standard readers

A label names one of four readers (`exists_reader_eq`). Each of them reads every text: to a value
of its own kind if the text is in its language, and otherwise to the zero of this kind
(`Standard.exists_reading`). The note of a fallback cannot fail either, so a parameter without a
reader of its own reads every text (`Parameter.read_of_standard`). -/

namespace Toolbench

/-- A reader has no value for a text: the text is not in the reader's language. -/
def Reader.Rejects (reader : Reader) (text : String) : Prop :=
  ∀ value, reader.parse text ≠ .ok value

/-- The kinds of values that have a standard reader. -/
inductive Standard where
  | string | integer | number | boolean

namespace Standard

def reader : Standard → Reader
  | .string => .string
  | .integer => .integer
  | .number => .number
  | .boolean => .boolean

/-- What stands in for a text that is not in the language. -/
def zero : Standard → Value
  | .string => .str ""
  | .integer => .int 0
  | .number => .float (.zero false)
  | .boolean => .bool false

/-- A value is of a kind: a string is the text itself, an integer is within the digit limit, and
a number is finite. -/
def Fits (text : String) (value : Value) : Standard → Prop
  | .string => value = .str text
  | .integer => ∃ n : Int, value = .int n ∧
    (Nat.digits 10 n.natAbs).length ≤ Numeral.digitLimit
  | .number => ∃ x : Binary64, value = .float x ∧ x.IsFinite
  | .boolean => ∃ b : Bool, value = .bool b

theorem reader_injective {kind other : Standard} (h : kind.reader = other.reader) :
    kind = other := by
  have hl : kind.reader.label = other.reader.label := congrArg Reader.label h
  cases kind <;> cases other <;> first | rfl | exact absurd hl (by decide)

/-- The zeros can be shown. -/
theorem exists_quoted_zero (kind : Standard) : ∃ shown, kind.zero.quoted = .ok shown := by
  cases kind with
  | integer =>
    have hsmall : (0 : Int).natAbs < Value.magnitudeBound := Value.magnitudeBound_pos
    exact ⟨_, by rw [zero, Value.quoted, Value.integerText, if_pos hsmall]⟩
  | string | number | boolean => exact ⟨_, rfl⟩

/-- The reading of a text, as far as a reader has a value for it. -/
def value? (text : String) : Standard → Option Value
  | .string => some (.str text)
  | .integer => (Numeral.integer? (Text.trim text.toList)).map .int
  | .number => (Reader.number? (Text.trim text.toList)).map .float
  | .boolean => (Reader.truth? (Text.trim text.toList)).map .bool

theorem reader_eq (kind : Standard) :
    kind.reader = .ofPartial kind.reader.label (fun text => kind.value? text) kind.zero := by
  cases kind <;> rfl

theorem isFinite_of_number? {text : List Char} {x : Binary64}
    (h : Reader.number? text = some x) : x.IsFinite := by
  obtain ⟨⟨negative, d⟩, _, hx⟩ := Option.bind_eq_some_iff.mp h
  dsimp only at hx
  split at hx
  next =>
    cases hx
    trivial
  next => cases hx

theorem fits_of_value? {kind : Standard} {text : String} {value : Value}
    (h : kind.value? text = some value) : kind.Fits text value := by
  cases kind with
  | string => exact (Option.some.inj h).symm
  | integer =>
    obtain ⟨n, hn, rfl⟩ := Option.map_eq_some_iff.mp h
    exact ⟨n, rfl, Numeral.length_digits_of_integer? hn⟩
  | number =>
    obtain ⟨x, hx, rfl⟩ := Option.map_eq_some_iff.mp h
    exact ⟨x, rfl, isFinite_of_number? hx⟩
  | boolean =>
    obtain ⟨b, _, rfl⟩ := Option.map_eq_some_iff.mp h
    exact ⟨b, rfl⟩

/-- The zero of a kind is of this kind. Strings need none, as every text is one. -/
theorem fits_zero {kind : Standard} {text : String} (h : kind.value? text = none) :
    kind.Fits text kind.zero := by
  cases kind with
  | string => cases h
  | integer => exact ⟨0, rfl, by simp⟩
  | number => exact ⟨_, rfl, trivial⟩
  | boolean => exact ⟨_, rfl⟩

theorem parse_eq_ok_iff {kind : Standard} {text : String} {value : Value} :
    kind.reader.parse text = .ok value ↔ kind.value? text = some value := by
  rw [reader_eq]
  simp only [Reader.ofPartial]
  cases kind.value? text <;> simp

theorem rejects_iff {kind : Standard} {text : String} :
    kind.reader.Rejects text ↔ kind.value? text = none := by
  simp only [Reader.Rejects, ne_eq, parse_eq_ok_iff]
  exact Option.eq_none_iff_forall_ne_some.symm

section
variable {kind : Standard} {text : String}

theorem read_of_value? {value : Value} (h : kind.value? text = some value) :
    kind.reader.read (.str text) = .ok ⟨text, value, false⟩ := by
  have ht : (Value.str text).text = .ok text := rfl
  simp only [Reader.read, ht, parse_eq_ok_iff.mpr h]

theorem read_of_rejected (h : kind.value? text = none) :
    kind.reader.read (.str text) = .ok ⟨text, kind.zero, true⟩ := by
  have ht : (Value.str text).text = .ok text := rfl
  have hr : (Fault.bare .badValue).kind.isRejection = true := rfl
  rw [reader_eq]
  simp [Reader.read, ht, Reader.ofPartial, h, hr]

end

/-- What a standard reader makes of a text. -/
structure Reading (kind : Standard) (text : String) (argument : Argument) : Prop where
  fits : kind.Fits text argument.value
  accepted : ∀ value, kind.reader.parse text = .ok value → argument.value = value
  rejected : kind.reader.Rejects text → argument.value = kind.zero
  defaulted_iff : argument.defaulted = true ↔ kind.reader.Rejects text

/-- A standard reader reads every text. -/
theorem exists_reading (kind : Standard) (text : String) :
    ∃ argument, kind.reader.read (.str text) = .ok argument ∧ kind.Reading text argument := by
  cases hv : kind.value? text with
  | some value =>
    have hparse : kind.reader.parse text = .ok value := parse_eq_ok_iff.mpr hv
    refine ⟨_, read_of_value? hv, fits_of_value? hv, fun v h => ?_, fun h => ?_, ?_⟩
    · rw [hparse] at h
      exact Except.ok.inj h
    · exact absurd hparse (h value)
    · rw [rejects_iff, hv]
      simp
  | none =>
    have hr : kind.reader.Rejects text := rejects_iff.mpr hv
    refine ⟨_, read_of_rejected hv, fits_zero hv, fun v h => ?_, fun _ => rfl, ?_⟩
    · exact absurd h (hr v)
    · exact iff_of_true rfl hr

end Standard

theorem Reader.exists_reader_eq (label : String) :
    ∃ kind : Standard, ofLabel label = kind.reader := by
  rw [ofLabel]
  cases hf : labels.find? fun entry => Text.isWord entry.1 (Text.trim label.toList) with
  | none => exact ⟨.string, rfl⟩
  | some entry =>
    have hm : entry ∈ labels := List.mem_of_find?_eq_some hf
    simp only [labels, List.mem_cons, List.not_mem_nil, or_false] at hm
    rcases hm with rfl | rfl | rfl
    · exact ⟨.integer, rfl⟩
    · exact ⟨.number, rfl⟩
    · exact ⟨.boolean, rfl⟩

namespace Parameter

variable {p : Parameter} {kind : Standard} {text : String}

theorem reader_eq (h : p.ownReader = none) : p.reader = .ofLabel p.label := by
  rw [reader, h, Option.getD_none]

theorem notices_of_not_defaulted {raw value : Value} :
    p.notices raw ⟨text, value, false⟩ = .ok [] := rfl

/-- Only a value that cannot be shown keeps a note from being written. -/
theorem exists_notices {argument : Argument} {shown : String}
    (h : argument.value.quoted = .ok shown) :
    ∃ events, p.notices (.str text) argument = .ok events := by
  cases hn : p.notices (.str text) argument with
  | ok events => exact ⟨events, rfl⟩
  | error fault =>
    obtain ⟨_, htext | ⟨_, _, hvalue⟩⟩ := notices_eq_error_iff.mp hn
    · cases htext
    · rw [h] at hvalue
      cases hvalue

section
variable (hp : p.reader = kind.reader)
include hp

theorem read_of_value? {value : Value} (h : kind.value? text = some value) :
    p.read (.str text) = .ok (⟨text, value, false⟩, []) :=
  read_eq_ok_iff.mpr ⟨hp ▸ Standard.read_of_value? h, notices_of_not_defaulted⟩

theorem read_of_rejected (h : kind.value? text = none) :
    ∃ events, p.read (.str text) = .ok (⟨text, kind.zero, true⟩, events) := by
  obtain ⟨shown, hshown⟩ := kind.exists_quoted_zero
  obtain ⟨events, hn⟩ : ∃ events, p.notices (.str text) ⟨text, kind.zero, true⟩ = .ok events :=
    exists_notices hshown
  exact ⟨events, read_eq_ok_iff.mpr ⟨hp ▸ Standard.read_of_rejected h, hn⟩⟩

/-- A parameter that is read by a standard reader reads every text. -/
theorem read_of_standard (text : String) : ∃ argument events,
    p.read (.str text) = .ok (argument, events) ∧ kind.Reading text argument := by
  obtain ⟨argument, hread, h⟩ := kind.exists_reading text
  cases hv : kind.value? text with
  | some value =>
    obtain rfl : argument = ⟨text, value, false⟩ :=
      Except.ok.inj (hread.symm.trans (Standard.read_of_value? hv))
    exact ⟨_, [], read_of_value? hp hv, h⟩
  | none =>
    obtain rfl : argument = ⟨text, kind.zero, true⟩ :=
      Except.ok.inj (hread.symm.trans (Standard.read_of_rejected hv))
    obtain ⟨events, hread'⟩ := read_of_rejected hp hv
    exact ⟨_, events, hread', h⟩

end

end Parameter
end Toolbench
