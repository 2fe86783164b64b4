import Toolbench.Value.Text

/-! # Values without a text

An integer beyond the digit limit has no text, and neither has plain data that holds one anywhere.
These are all the plain data without a text (`Value.quoted_eq_error_iff`). Objects make their texts
themselves, so of a value that holds one nothing more can be said. -/

namespace Toolbench
namespace Value

/-- A value is oversized if it is an integer beyond the digit limit or holds one, at any depth,
among its items, keys or values. -/
inductive Oversized : Value → Prop
  | int {n : Int} : magnitudeBound ≤ n.natAbs → Oversized (.int n)
  | list {items : List Value} {item : Value} : item ∈ items → Oversized item →
      Oversized (.list items)
  | tuple {items : List Value} {item : Value} : item ∈ items → Oversized item →
      Oversized (.tuple items)
  | key {entries : List (Value × Value)} {entry : Value × Value} : entry ∈ entries →
      Oversized entry.1 → Oversized (.dict entries)
  | value {entries : List (Value × Value)} {entry : Value × Value} : entry ∈ entries →
      Oversized entry.2 → Oversized (.dict entries)

/-- Plain data: no object, and none at any depth among the items, keys and values. -/
inductive IsData : Value → Prop
  | null : IsData .null
  | bool (b : Bool) : IsData (.bool b)
  | int (n : Int) : IsData (.int n)
  | float (x : Binary64) : IsData (.float x)
  | str (s : String) : IsData (.str s)
  | list {items : List Value} : (∀ item ∈ items, IsData item) → IsData (.list items)
  | tuple {items : List Value} : (∀ item ∈ items, IsData item) → IsData (.tuple items)
  | dict {entries : List (Value × Value)} : (∀ entry ∈ entries, IsData entry.1) →
      (∀ entry ∈ entries, IsData entry.2) → IsData (.dict entries)

theorem magnitudeBound_pos : 0 < magnitudeBound := by
  unfold magnitudeBound
  -- the bound itself is not to be computed
  generalize Numeral.digitLimit = limit
  exact Nat.pow_pos (by decide)

theorem oversized_int_iff {n : Int} : (Value.int n).Oversized ↔ magnitudeBound ≤ n.natAbs :=
  ⟨fun | .int h => h, .int⟩

theorem oversized_list_iff {items : List Value} :
    (Value.list items).Oversized ↔ ∃ item ∈ items, item.Oversized :=
  ⟨fun | .list hm h => ⟨_, hm, h⟩, fun ⟨_, hm, h⟩ => .list hm h⟩

theorem oversized_tuple_iff {items : List Value} :
    (Value.tuple items).Oversized ↔ ∃ item ∈ items, item.Oversized :=
  ⟨fun | .tuple hm h => ⟨_, hm, h⟩, fun ⟨_, hm, h⟩ => .tuple hm h⟩

theorem oversized_dict_iff {entries : List (Value × Value)} :
    (Value.dict entries).Oversized ↔
      ∃ entry ∈ entries, entry.1.Oversized ∨ entry.2.Oversized := by
  constructor
  · rintro (_ | _ | _ | ⟨hm, h⟩ | ⟨hm, h⟩)
    · exact ⟨_, hm, .inl h⟩
    · exact ⟨_, hm, .inr h⟩
  · rintro ⟨entry, hm, h | h⟩
    · exact .key hm h
    · exact .value hm h

theorem not_oversized_str (s : String) : ¬ (Value.str s).Oversized := nofun

/-! ## Texts of plain data -/

/-- The size decides whether there is a text: if it is too large the digit limit's fault comes up
in its place. -/
def Shows {α : Type} (tooLarge : Prop) (shown : Except Fault α) : Prop :=
  tooLarge ∧ shown = .error .digitLimit ∨ ¬ tooLarge ∧ ∃ text, shown = .ok text

theorem Shows.eq_error_iff {α : Type} {tooLarge : Prop} {shown : Except Fault α} {fault : Fault}
    (h : Shows tooLarge shown) : shown = .error fault ↔ tooLarge ∧ fault = .digitLimit := by
  rcases h with ⟨hlarge, rfl⟩ | ⟨hsmall, _, rfl⟩
  · simpa [hlarge] using eq_comm
  · simp [hsmall]

theorem Shows.map {α β : Type} {tooLarge : Prop} {shown : Except Fault α} (f : α → β)
    (h : Shows tooLarge shown) : Shows tooLarge (shown.map f) := by
  rcases h with ⟨hlarge, rfl⟩ | ⟨hsmall, text, rfl⟩
  · exact .inl ⟨hlarge, rfl⟩
  · exact .inr ⟨hsmall, f text, rfl⟩

/-- Two things are shown one after the other. -/
theorem Shows.bind {α β : Type} {tooLarge tooLarge' : Prop} {shown : Except Fault α}
    {next : α → Except Fault β} (h : Shows tooLarge shown)
    (h' : ∀ text, Shows tooLarge' (next text)) :
    Shows (tooLarge ∨ tooLarge') (shown.bind next) := by
  rcases h with ⟨hlarge, rfl⟩ | ⟨hsmall, text, rfl⟩
  · exact .inl ⟨.inl hlarge, rfl⟩
  · rcases h' text with ⟨hlarge', he⟩ | ⟨hsmall', text', he⟩
    · exact .inl ⟨.inr hlarge', he⟩
    · exact .inr ⟨not_or.mpr ⟨hsmall, hsmall'⟩, text', he⟩

theorem shows_integerText (n : Int) : Shows (Value.int n).Oversized (integerText n) := by
  rw [integerText, oversized_int_iff]
  split
  next h => exact .inr ⟨Nat.not_le_of_lt h, _, rfl⟩
  next h => exact .inl ⟨Nat.le_of_not_lt h, rfl⟩

mutual

theorem shows_quoted : ∀ v : Value, v.IsData → Shows v.Oversized v.quoted
  | .null, _ | .bool _, _ | .float _, _ | .str _, _ => .inr ⟨nofun, _, rfl⟩
  | .int n, _ => shows_integerText n
  | .list items, h => by
    rw [oversized_list_iff]
    cases h with
    | list h => exact (shows_quotedItems items h).map _
  | .tuple items, h => by
    rw [oversized_tuple_iff]
    cases h with
    | tuple h => exact (shows_quotedItems items h).map _
  | .dict entries, h => by
    rw [oversized_dict_iff]
    cases h with
    | dict hkeys hvalues => exact (shows_quotedEntries entries hkeys hvalues).map _

theorem shows_quotedItems : ∀ items : List Value, (∀ item ∈ items, item.IsData) →
    Shows (∃ item ∈ items, item.Oversized) (quotedItems items)
  | [], _ => .inr ⟨nofun, _, rfl⟩
  | item :: items, h => by
    obtain ⟨hitem, hitems⟩ := List.forall_mem_cons.mp h
    simp only [List.mem_cons, exists_eq_or_imp]
    exact (shows_quoted item hitem).bind fun first => (shows_quotedItems items hitems).map _

theorem shows_quotedEntries : ∀ entries : List (Value × Value),
    (∀ entry ∈ entries, entry.1.IsData) → (∀ entry ∈ entries, entry.2.IsData) →
    Shows (∃ entry ∈ entries, entry.1.Oversized ∨ entry.2.Oversized) (quotedEntries entries)
  | [], _, _ => .inr ⟨nofun, _, rfl⟩
  | (key, value) :: entries, hkeys, hvalues => by
    obtain ⟨hkey, hkeys⟩ := List.forall_mem_cons.mp hkeys
    obtain ⟨hvalue, hvalues⟩ := List.forall_mem_cons.mp hvalues
    simp only [List.mem_cons, exists_eq_or_imp, or_assoc]
    exact (shows_quoted key hkey).bind fun first => (shows_quoted value hvalue).bind fun second =>
      (shows_quotedEntries entries hkeys hvalues).map _

end

/-- The plain data without a quoted text are the oversized ones. -/
theorem quoted_eq_error_iff {v : Value} {fault : Fault} (h : v.IsData) :
    v.quoted = .error fault ↔ v.Oversized ∧ fault = .digitLimit :=
  (shows_quoted v h).eq_error_iff

theorem shows_text {v : Value} (h : v.IsData) : Shows v.Oversized v.text := by
  cases v with
  | str s => exact .inr ⟨not_oversized_str s, s, rfl⟩
  | object => cases h
  | _ => exact shows_quoted _ h

theorem text_eq_error_iff {v : Value} {fault : Fault} (h : v.IsData) :
    v.text = .error fault ↔ v.Oversized ∧ fault = .digitLimit :=
  (shows_text h).eq_error_iff

theorem text?_eq_some_iff {v : Value} {text : String} :
    v.text? = some text ↔ v.text = .ok text := by
  rw [text?]
  cases v.text <;> simp [Except.toOption]

theorem text?_eq_none_iff {v : Value} (h : v.IsData) : v.text? = none ↔ v.Oversized := by
  rw [text?]
  rcases shows_text h with ⟨hlarge, he⟩ | ⟨hsmall, text, he⟩
  · simp [he, hlarge, Except.toOption]
  · simp [he, hsmall, Except.toOption]

end Value

namespace Fault

theorem text_eq_ok_iff {fault : Fault} {s : String} :
    fault.text = .ok s ↔ fault.text? = some s := by
  rw [text?]
  cases fault.text <;> simp [Except.toOption]

theorem text?_eq_none_iff {fault : Fault} :
    fault.text? = none ↔ ∃ reason, fault.text = .error reason := by
  rw [text?]
  cases fault.text <;> simp [Except.toOption]

@[simp]
theorem kind_ofText (kind : FaultKind) (shown : Except Fault String) :
    (ofText kind shown).kind = kind := by
  cases shown <;> rfl

@[simp]
theorem text_ofText (kind : FaultKind) (shown : Except Fault String) :
    (ofText kind shown).text = shown := by
  cases shown <;> rfl

theorem text_carrying (kind : FaultKind) (value : Value) : (carrying kind value).text =
    if kind = .missingKey then value.quoted else value.text :=
  text_ofText kind _

/-- A fault that carries plain data has no text exactly if the data is oversized. -/
theorem text_carrying_eq_error_iff {kind : FaultKind} {value : Value} {reason : Fault}
    (h : value.IsData) :
    (carrying kind value).text = .error reason ↔ value.Oversized ∧ reason = .digitLimit := by
  rw [text_carrying]
  split
  · exact Value.quoted_eq_error_iff h
  · exact Value.text_eq_error_iff h

end Fault
end Toolbench
