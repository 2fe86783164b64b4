import Toolbench.Proofs.Coercion
import Toolbench.Proofs.ReadBack

/-! # Reading as normalisation

The limit on the digits that are read is also the limit on the digits that are written, so the
integer reader takes back the decimal text of an integer exactly if the integer has a text at all.
Reading by the standard readers of strings, integers and truth values is done once: what has been
made of a value, be it a fallback, is read as it is (`reading_normalises`). -/

namespace Toolbench

namespace Standard

variable {kind : Standard} {raw : Value} {text : String} {n : Int}

/-- What is read, or stands in for it, is of the reader's own kind. -/
theorem exists_read (kind : Standard) (h : raw.text? = some text) :
    ∃ argument, kind.reader.read raw = .ok argument ∧ argument.text = text ∧
      kind.Fits text argument.value := by
  cases hv : kind.value? text with
  | some value =>
    exact ⟨_, (Reader.read_str h kind.reader).symm.trans (read_of_value? hv), rfl,
      fits_of_value? hv⟩
  | none =>
    exact ⟨_, (Reader.read_str h kind.reader).symm.trans (read_of_rejected hv), rfl, fits_zero hv⟩

theorem read_eq_ok_iff {value : Value} :
    kind.reader.read (.str text) = .ok ⟨text, value, false⟩ ↔ kind.value? text = some value := by
  cases hv : kind.value? text with
  | some found => simp [read_of_value? hv]
  | none => simp [read_of_rejected hv]

theorem value?_toString_iff :
    Standard.integer.value? (toString n) = some (.int n) ↔
      (Nat.digits 10 n.natAbs).length ≤ Numeral.digitLimit := by
  rw [value?, Text.trim_of_not_isBlank Numeral.not_isBlank_toString]
  constructor
  · intro h
    obtain ⟨m, hm, he⟩ := Option.map_eq_some_iff.mp h
    cases he
    exact Numeral.length_digits_of_integer? hm
  · intro h
    rw [Numeral.integer?_toString (Value.digits_within h).2, Option.map_some]

end Standard

namespace Reader

/-- The decimal text of an integer, and what the integer reader makes of it. -/
structure IntegerNormal (n : Int) : Prop where
  /-- An integer of at most 4300 digits has a text, its decimal text, and no other integer has
  one. -/
  text?_eq : (Value.int n).text? =
    if (Nat.digits 10 n.natAbs).length ≤ 4300 then some (toString n) else none
  read_text_iff : Reader.integer.read (.str (toString n)) = .ok ⟨toString n, .int n, false⟩ ↔
    (Nat.digits 10 n.natAbs).length ≤ 4300
  read_iff : Reader.integer.read (.int n) = .ok ⟨toString n, .int n, false⟩ ↔
    (Nat.digits 10 n.natAbs).length ≤ 4300

/-- What the reader makes of a value it reads again as it is, and not as a fallback. -/
def Normalises (reader : Reader) : Prop :=
  ∀ (raw : Value) (text : String), raw.text? = some text → ∃ first again,
    reader.read raw = .ok first ∧ first.text = text ∧
    reader.read first.value = .ok again ∧ again.value = first.value ∧ again.defaulted = false

theorem normalises_reader (kind : Standard) (hk : kind ≠ .number) :
    Normalises kind.reader := by
  intro raw text h
  obtain ⟨first, hread, htext, hfits⟩ := kind.exists_read h
  obtain ⟨shown, hagain⟩ := Standard.read_of_fits hk hfits
  exact ⟨first, _, hread, htext, hagain, rfl, rfl⟩

theorem integerNormal (n : Int) : IntegerNormal n := by
  have htext : (Value.int n).text? =
      if (Nat.digits 10 n.natAbs).length ≤ 4300 then some (toString n) else none := by
    split
    next h => exact Value.text?_eq_some_iff.mpr (Value.text_int (Value.digits_within h).1)
    next h =>
      rw [Value.text?_eq_none_iff (.int n), Value.oversized_int_iff_digits]
      exact Nat.lt_of_not_le h
  have hread : Reader.integer.read (.str (toString n)) = .ok ⟨toString n, .int n, false⟩ ↔
      (Nat.digits 10 n.natAbs).length ≤ 4300 :=
    Standard.read_eq_ok_iff.trans Standard.value?_toString_iff
  refine ⟨htext, hread, ?_⟩
  by_cases h : (Nat.digits 10 n.natAbs).length ≤ 4300
  · rw [if_pos h] at htext
    rw [← Reader.read_str htext, hread]
  · rw [if_neg h] at htext
    have hover : (Value.int n).Oversized := (Value.text?_eq_none_iff (.int n)).mp htext
    have hfail : Standard.integer.reader.read (.int n) = .error .digitLimit :=
      Standard.read_eq_error_iff.mpr ((Value.text_eq_error_iff (.int n)).mpr ⟨hover, rfl⟩)
    have hread : Reader.integer.read (.int n) ≠ .ok ⟨toString n, .int n, false⟩ := fun hok => by
      rw [← Standard.reader, hfail] at hok
      cases hok
    exact iff_of_false hread h

/-- **Reading normalises.** Integers that have a text are read back from it, and no other integers
are. The readers of integers, truth values and strings read whatever they have made of a value as
it is. -/
theorem reading_normalises : (∀ n, IntegerNormal n) ∧
    Normalises .integer ∧ Normalises .boolean ∧ Normalises .string :=
  ⟨integerNormal, normalises_reader .integer nofun, normalises_reader .boolean nofun,
    normalises_reader .string nofun⟩

end Reader
end Toolbench
