import Mathlib.Data.List.Forall2
import Toolbench.Proofs.Value
import Toolbench.Reader.Sequence

/-! # Reading arguments by position

Parameters read the arguments at their own positions, from the first on. Either all of them are
read (`Completes`), or there is a first position at which reading fails (`Stops`), and the
parameters after it are not used. -/

namespace Toolbench

/-- A reader fails on a value without a text, by a fault of its own that is no rejection, or for
want of a fallback. -/
theorem Reader.read_eq_error_iff {reader : Reader} {raw : Value} {fault : Fault} :
    reader.read raw = .error fault ↔ raw.text = .error fault ∨ ∃ text, raw.text = .ok text ∧
      (reader.parse text = .error fault ∧ fault.kind.isRejection = false ∨
      ∃ reason, reader.parse text = .error reason ∧ reason.kind.isRejection = true ∧
        reader.fallback = .error fault) := by
  rw [Reader.read]
  cases raw.text with
  | error => simp
  | ok text =>
    simp only [Except.ok.injEq, exists_eq_left', reduceCtorEq, false_or]
    cases hp : reader.parse text with
    | ok => simp
    | error reason =>
      cases hr : reason.kind.isRejection with
      | false =>
        simp only [Bool.false_eq_true, if_false, Except.error.injEq, exists_eq_left', hr,
          false_and, or_false]
        exact ⟨fun h => ⟨h, h ▸ hr⟩, fun h => h.1⟩
      | true =>
        have hn : ¬ (reason = fault ∧ fault.kind.isRejection = false) := by
          rintro ⟨rfl, h⟩
          rw [hr] at h
          cases h
        cases reader.fallback <;> simp [hr, hn]

/-- What takes the place of a rejected text is the reader's fallback. -/
theorem Reader.fallback_of_defaulted {reader : Reader} {raw : Value} {argument : Argument}
    (h : reader.read raw = .ok argument) (hd : argument.defaulted = true) :
    reader.fallback = .ok argument.value := by
  rw [read] at h
  split at h
  next => cases h
  next text ht =>
    split at h
    next =>
      cases h
      cases hd
    next reason hp =>
      split at h
      next =>
        split at h
        next value hf =>
          cases h
          exact hf
        next => cases h
      next => cases h

namespace Parameter

variable {p : Parameter} {raw : Value} {argument : Argument} {events : List Event}
  {fault : Fault}

theorem read_eq_ok_iff :
    p.read raw = .ok (argument, events) ↔
      p.reader.read raw = .ok argument ∧ p.notices raw argument = .ok events := by
  simp only [Parameter.read, bind, Except.bind, pure, Except.pure]
  cases p.reader.read raw with
  | error => simp
  | ok found =>
    cases hn : p.notices raw found with
    | error =>
      simp only [reduceCtorEq, Except.ok.injEq, false_iff, not_and, hn]
      rintro rfl h
      rw [hn] at h
      cases h
    | ok noticed =>
      simp only [Except.ok.injEq, Prod.mk.injEq, hn]
      refine and_congr_right fun he => ?_
      rw [← he, hn, Except.ok.injEq]

theorem read_eq_error_iff :
    p.read raw = .error fault ↔ p.reader.read raw = .error fault ∨
      ∃ argument, p.reader.read raw = .ok argument ∧ p.notices raw argument = .error fault := by
  simp only [Parameter.read, bind, Except.bind, pure, Except.pure]
  cases p.reader.read raw with
  | error => simp
  | ok found => cases hn : p.notices raw found <;> simp [hn]

/-- A fallback leaves one event, which shows what it took the place of. -/
theorem notices_eq_ok_iff :
    p.notices raw argument = .ok events ↔
      argument.defaulted = false ∧ events = [] ∨
      argument.defaulted = true ∧ ∃ shown fallback, raw.quoted = .ok shown ∧
        argument.value.quoted = .ok fallback ∧
        events = [.defaulted p.name p.label shown fallback] := by
  rw [Parameter.notices]
  cases argument.defaulted with
  | false => simp
  | true =>
    simp only [if_true, bind, Except.bind, pure, Except.pure]
    cases raw.quoted with
    | error => simp
    | ok shown =>
      cases argument.value.quoted with
      | error => simp
      | ok fallback => simpa using eq_comm

/-- The event cannot be noted if one of the two values cannot be shown. The argument comes first. -/
theorem notices_eq_error_iff :
    p.notices raw argument = .error fault ↔ argument.defaulted = true ∧
      (raw.quoted = .error fault ∨
        ∃ shown, raw.quoted = .ok shown ∧ argument.value.quoted = .error fault) := by
  rw [Parameter.notices]
  cases argument.defaulted with
  | false => simp
  | true =>
    simp only [if_true, bind, Except.bind, pure, Except.pure]
    cases raw.quoted with
    | error => simp
    | ok shown => cases argument.value.quoted <;> simp

end Parameter

namespace Argument

/-- Each parameter reads the argument beside it. A reading is the argument with its events. -/
def Reads (pairs : List (Parameter × Value)) (readings : List (Argument × List Event)) : Prop :=
  List.Forall₂ (fun pair reading => pair.1.read pair.2 = .ok reading) pairs readings

/-- All arguments are read. -/
def Completes (parameters : List Parameter) (args : List Value)
    (readings : List (Argument × List Event)) : Prop :=
  Reads (parameters.zip args) readings

/-- Position `i` is the first one at which reading fails. -/
structure Stops (parameters : List Parameter) (args : List Value) (i : Nat) (fault : Fault)
    (readings : List (Argument × List Event)) : Prop where
  before : Reads ((parameters.zip args).take i) readings
  here : ∃ p raw, parameters[i]? = some p ∧ args[i]? = some raw ∧ p.read raw = .error fault

def events (readings : List (Argument × List Event)) : List Event := readings.flatMap (·.2)

def values (readings : List (Argument × List Event)) : List Value := readings.map (·.1.value)

variable {parameters : List Parameter} {args : List Value} {i : Nat} {fault : Fault}
  {readings : List (Argument × List Event)}

section
variable {p : Parameter} {raw : Value}

theorem readAll_cons_of_ok {argument : Argument} {noted : List Event}
    (h : p.read raw = .ok (argument, noted)) :
    readAll (p :: parameters) (raw :: args) =
      (noted ++ (readAll parameters args).1, (readAll parameters args).2.map (argument :: ·)) := by
  simp only [readAll, h]

theorem readAll_cons_of_error (h : p.read raw = .error fault) :
    readAll (p :: parameters) (raw :: args) = ([], .error fault) := by
  simp only [readAll, h]

end

theorem fallbackNames_cons (p : Parameter) (argument : Argument) (arguments : List Argument) :
    fallbackNames (p :: parameters) (argument :: arguments) =
      (if argument.defaulted then [p.name] else []) ++ fallbackNames parameters arguments := by
  cases h : argument.defaulted <;> simp [fallbackNames, h]

theorem Reads.events_defaulted {pairs : List (Parameter × Value)} (h : Reads pairs readings) :
    ∀ event ∈ events readings, ∃ parameter label raw fallback,
      event = .defaulted parameter label raw fallback := by
  induction h with
  | nil => nofun
  | @cons pair reading _ _ hr _ ih =>
    intro event hm
    rcases List.mem_append.mp hm with hm | hm
    · obtain ⟨_, hn⟩ := Parameter.read_eq_ok_iff.mp hr
      have hm : event ∈ reading.2 := hm
      rcases Parameter.notices_eq_ok_iff.mp hn with ⟨_, he⟩ | ⟨_, _, _, _, _, he⟩ <;>
        rw [he] at hm
      · cases hm
      · exact ⟨_, _, _, _, List.mem_singleton.mp hm⟩
    · exact ih event hm

theorem completes_or_stops (parameters : List Parameter) (args : List Value) :
    (∃ readings, Completes parameters args readings) ∨
      ∃ i fault readings, Stops parameters args i fault readings := by
  induction parameters generalizing args with
  | nil => exact .inl ⟨[], .nil⟩
  | cons p parameters ih =>
    cases args with
    | nil => exact .inl ⟨[], .nil⟩
    | cons raw args =>
      cases hr : p.read raw with
      | error fault => exact .inr ⟨0, fault, [], .nil, p, raw, rfl, rfl, hr⟩
      | ok reading =>
        rcases ih args with ⟨readings, h⟩ | ⟨i, fault, readings, h⟩
        · exact .inl ⟨reading :: readings, .cons hr h⟩
        · exact .inr ⟨i + 1, fault, reading :: readings, .cons hr h.before, h.here⟩

theorem Completes.readAll (h : Completes parameters args readings) :
    readAll parameters args = (events readings, .ok (readings.map (·.1))) := by
  induction parameters generalizing args readings with
  | nil =>
    cases h
    rfl
  | cons p parameters ih =>
    cases args with
    | nil =>
      cases h
      rfl
    | cons raw args =>
      obtain _ | ⟨hr, h⟩ := h
      rw [readAll_cons_of_ok hr, ih h]
      rfl

theorem Stops.readAll (h : Stops parameters args i fault readings) :
    readAll parameters args = (events readings, .error fault) := by
  induction parameters generalizing args i readings with
  | nil =>
    obtain ⟨_, _, hp, _⟩ := h.here
    cases hp
  | cons p parameters ih =>
    cases args with
    | nil =>
      obtain ⟨_, _, _, ha, _⟩ := h.here
      cases ha
    | cons raw args =>
      obtain ⟨hbefore, hhere⟩ := h
      cases i with
      | zero =>
        cases hbefore
        obtain ⟨_, _, hp, ha, hr⟩ := hhere
        cases hp
        cases ha
        rw [readAll_cons_of_error hr]
        rfl
      | succ i =>
        obtain _ | ⟨hr, hbefore⟩ := hbefore
        rw [readAll_cons_of_ok hr, ih ⟨hbefore, hhere⟩]
        rfl

theorem Completes.length_eq (h : Completes parameters args readings)
    (hl : args.length = parameters.length) : readings.length = parameters.length := by
  have := List.Forall₂.length_eq h
  rw [List.length_zip, hl, Nat.min_self] at this
  exact this.symm

theorem Reads.getElem? {pairs : List (Parameter × Value)} {pair : Parameter × Value}
    (h : Reads pairs readings) (hp : pairs[i]? = some pair) :
    ∃ reading, readings[i]? = some reading ∧ pair.1.read pair.2 = .ok reading := by
  induction h generalizing i with
  | nil => cases hp
  | cons hr _ ih =>
    cases i with
    | zero =>
      cases hp
      exact ⟨_, rfl, hr⟩
    | succ i => exact ih hp

/-- There is one way to read the same arguments. -/
theorem Reads.unique {pairs : List (Parameter × Value)} {others : List (Argument × List Event)}
    (h : Reads pairs readings) (h' : Reads pairs others) : readings = others := by
  induction h generalizing others with
  | nil =>
    cases h'
    rfl
  | cons hr _ ih =>
    obtain _ | ⟨hr', h'⟩ := h'
    rw [ih h', Except.ok.inj (hr.symm.trans hr')]

theorem Completes.getElem? (h : Completes parameters args readings) {p : Parameter} {raw : Value}
    (hp : parameters[i]? = some p) (ha : args[i]? = some raw) :
    ∃ reading, readings[i]? = some reading ∧ p.read raw = .ok reading := by
  have hz : (parameters.zip args)[i]? = some (p, raw) :=
    List.getElem?_zip_eq_some.mpr ⟨hp, ha⟩
  exact Reads.getElem? h hz

/-- The value at a position is the one that the parameter at this position reads from the
argument at this position. -/
theorem Completes.values_getElem? (h : Completes parameters args readings) {p : Parameter}
    {raw : Value} (hp : parameters[i]? = some p) (ha : args[i]? = some raw) :
    ∃ argument, p.reader.read raw = .ok argument ∧
      (values readings)[i]? = some argument.value := by
  obtain ⟨⟨argument, noticed⟩, hi, hr⟩ := h.getElem? hp ha
  refine ⟨argument, (Parameter.read_eq_ok_iff.mp hr).1, ?_⟩
  simp only [values, List.getElem?_map, hi, Option.map_some]

/-- Reading that stops makes no use of the later parameters. -/
theorem Stops.of_take_eq (h : Stops parameters args i fault readings)
    {others : List Parameter} (ht : others.take (i + 1) = parameters.take (i + 1)) :
    Stops others args i fault readings := by
  have hbefore : others.take i = parameters.take i := by
    have := congrArg (List.take i) ht
    rwa [List.take_take, List.take_take, Nat.min_eq_left (Nat.le_succ i)] at this
  have hhere : others[i]? = parameters[i]? := by
    have := congrArg (·[i]?) ht
    simpa only [List.getElem?_take_of_lt (Nat.lt_succ_self i)] using this
  refine ⟨?_, by rw [hhere]; exact h.here⟩
  rw [List.zip, List.take_zipWith, hbefore, ← List.take_zipWith]
  exact h.before

end Argument
end Toolbench
