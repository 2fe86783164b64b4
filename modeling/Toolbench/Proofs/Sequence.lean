import Toolbench.Proofs.Reading

/-! # Reading in turn

Arguments are read one after the other. If every parameter can read the argument beside it, there
are as many results as pairs, each at its position, and the log has one warning for each argument
that was replaced. Otherwise the first fault ends the reading, with the warnings up to there, and
nothing behind it is read. Both are said at once by taking the lists apart anywhere: the second part
is read after the first, unless the first one fails (`readAll_in_turn`). -/

namespace Toolbench

namespace Parameter

/-- Whether the fallback takes the place of an argument. -/
def replaces (p : Parameter) (raw : Value) : Bool :=
  match p.reader.read raw with
  | .ok argument => argument.defaulted
  | .error _ => false

/-- The event warns that a fallback took the place of an argument, and shows both in their quoted
texts. -/
def Warns (p : Parameter) (raw : Value) (event : Event) : Prop :=
  ∃ argument shown fallback, p.reader.read raw = .ok argument ∧ raw.quoted = .ok shown ∧
    argument.value.quoted = .ok fallback ∧ event = .defaulted p.name p.label shown fallback

variable {p : Parameter} {raw : Value} {argument : Argument} {noted : List Event}

theorem replaces_of_read (h : p.read raw = .ok (argument, noted)) :
    p.replaces raw = argument.defaulted := by
  rw [replaces, (read_eq_ok_iff.mp h).1]

/-- A reading leaves one warning if the argument was replaced, and no event if it was not. -/
theorem noted_cases (h : p.read raw = .ok (argument, noted)) :
    p.replaces raw = false ∧ noted = [] ∨
      p.replaces raw = true ∧ ∃ event, noted = [event] ∧ p.Warns raw event := by
  obtain ⟨hread, hnotices⟩ := read_eq_ok_iff.mp h
  rw [replaces_of_read h]
  rcases notices_eq_ok_iff.mp hnotices with hkept | ⟨hreplaced, shown, fallback, hs, hf, he⟩
  · exact .inl hkept
  · exact .inr ⟨hreplaced, _, he, argument, shown, fallback, hread, hs, hf, rfl⟩

end Parameter

namespace Argument

/-- One warning for each replaced argument, in the order of the positions. -/
def Logged (parameters : List Parameter) (args : List Value) (log : List Event) : Prop :=
  List.Forall₂ (fun pair event => pair.1.Warns pair.2 event)
    ((parameters.zip args).filter fun pair => pair.1.replaces pair.2) log

/-- If both lists have a position `i`, the parameter there can read the argument there, and warn of
the fallback if it is used. -/
def ReadsAt (parameters : List Parameter) (args : List Value) (i : Nat) : Prop :=
  ∀ (p : Parameter) (raw : Value), parameters[i]? = some p → args[i]? = some raw →
    ∃ reading, p.read raw = .ok reading

/-- Position `i` is the first one at which an argument cannot be read, or its fallback cannot be
warned of. -/
structure Fails (parameters : List Parameter) (args : List Value) (i : Nat) (fault : Fault) :
    Prop where
  here : ∃ p raw, parameters[i]? = some p ∧ args[i]? = some raw ∧
    (p.reader.read raw = .error fault ∨
      ∃ argument, p.reader.read raw = .ok argument ∧ p.notices raw argument = .error fault)
  before : ∀ k < i, ReadsAt parameters args k

variable {parameters : List Parameter} {args : List Value} {i : Nat} {fault : Fault}
  {readings : List (Argument × List Event)}

/-! ## All arguments -/

theorem Reads.logged {pairs : List (Parameter × Value)} (h : Reads pairs readings) :
    List.Forall₂ (fun pair event => pair.1.Warns pair.2 event)
      (pairs.filter fun pair => pair.1.replaces pair.2) (events readings) := by
  induction h with
  | nil => exact .nil
  | @cons pair reading pairs readings hr _ ih =>
    rw [events, List.flatMap_cons, List.filter_cons]
    rcases Parameter.noted_cases hr with ⟨hkept, hn⟩ | ⟨hreplaced, event, hn, hwarns⟩
    · rw [hkept, hn]
      exact ih
    · rw [hreplaced, hn]
      exact .cons hwarns ih

/-- The replaced arguments, by what the parameters make of them or by what the results remember. -/
theorem Completes.fallbackNames_eq (h : Completes parameters args readings) :
    fallbackNames parameters (readings.map (·.1)) =
      ((parameters.zip args).filter fun pair => pair.1.replaces pair.2).map (·.1.name) := by
  induction parameters generalizing args readings with
  | nil => rfl
  | cons p parameters ih =>
    cases args with
    | nil =>
      cases h
      rfl
    | cons raw args =>
      obtain _ | ⟨hr, h⟩ := h
      rw [List.map_cons, fallbackNames_cons, ih h, List.zip_cons_cons, List.filter_cons,
        Parameter.replaces_of_read hr]
      split <;> rfl

theorem Completes.readsAt (h : Completes parameters args readings) (i : Nat) :
    ReadsAt parameters args i := by
  intro p raw hp ha
  obtain ⟨reading, _, hr⟩ := h.getElem? hp ha
  exact ⟨reading, hr⟩

theorem Completes.arguments_getElem? (h : Completes parameters args readings) {p : Parameter}
    {raw : Value} (hp : parameters[i]? = some p) (ha : args[i]? = some raw) :
    ∃ argument, (readings.map (·.1))[i]? = some argument ∧ p.reader.read raw = .ok argument := by
  obtain ⟨reading, hi, hr⟩ := h.getElem? hp ha
  refine ⟨reading.1, ?_, (Parameter.read_eq_ok_iff.mp hr).1⟩
  rw [List.getElem?_map, hi, Option.map_some]

/-! ## The first fault -/

theorem Stops.fails (h : Stops parameters args i fault readings) :
    Fails parameters args i fault := by
  obtain ⟨p, raw, hp, ha, hr⟩ := h.here
  refine ⟨⟨p, raw, hp, ha, Parameter.read_eq_error_iff.mp hr⟩, fun k hk q other hq ho => ?_⟩
  have hpair : ((parameters.zip args).take i)[k]? = some (q, other) := by
    rw [List.getElem?_take_of_lt hk]
    exact List.getElem?_zip_eq_some.mpr ⟨hq, ho⟩
  obtain ⟨reading, _, hreading⟩ := Reads.getElem? h.before hpair
  exact ⟨reading, hreading⟩

theorem Fails.exists_read (h : Fails parameters args i fault) :
    ∃ p raw, parameters[i]? = some p ∧ args[i]? = some raw ∧ p.read raw = .error fault := by
  obtain ⟨p, raw, hp, ha, hr⟩ := h.here
  exact ⟨p, raw, hp, ha, Parameter.read_eq_error_iff.mpr hr⟩

theorem Fails.not_readsAt (h : Fails parameters args i fault) : ¬ ReadsAt parameters args i := by
  intro hi
  obtain ⟨p, raw, hp, ha, hr⟩ := h.exists_read
  obtain ⟨reading, hreading⟩ := hi p raw hp ha
  rw [hr] at hreading
  cases hreading

/-- There is one first fault. -/
theorem Fails.unique {j : Nat} {other : Fault} (h : Fails parameters args i fault)
    (h' : Fails parameters args j other) : i = j ∧ fault = other := by
  obtain rfl : i = j := by
    rcases Nat.lt_trichotomy i j with hlt | he | hlt
    · exact absurd (h'.before i hlt) h.not_readsAt
    · exact he
    · exact absurd (h.before j hlt) h'.not_readsAt
  obtain ⟨p, raw, hp, ha, hr⟩ := h.exists_read
  obtain ⟨p', raw', hp', ha', hr'⟩ := h'.exists_read
  cases hp.symm.trans hp'
  cases ha.symm.trans ha'
  exact ⟨rfl, Except.error.inj (hr.symm.trans hr')⟩

/-- The parts before the first fault have been read. -/
theorem Fails.exists_stops (h : Fails parameters args i fault) :
    ∃ readings, Stops parameters args i fault readings := by
  rcases completes_or_stops parameters args with ⟨_, hc⟩ | ⟨j, other, readings, hs⟩
  · exact absurd (hc.readsAt i) h.not_readsAt
  · obtain ⟨rfl, rfl⟩ := h.unique hs.fails
    exact ⟨readings, hs⟩

theorem Stops.logged (h : Stops parameters args i fault readings) :
    Logged (parameters.take i) (args.take i) (events readings) := by
  have hbefore := h.before.logged
  rwa [List.zip, List.take_zipWith] at hbefore

/-! ## Parts -/

/-- What reading two parts comes to: the second one is read only if the first one returns. -/
def followedBy (first rest : List Event × Except Fault (List Argument)) :
    List Event × Except Fault (List Argument) :=
  match first.2 with
  | .error fault => (first.1, .error fault)
  | .ok arguments => (first.1 ++ rest.1, rest.2.map (arguments ++ ·))

theorem followedBy_of_error {first : List Event × Except Fault (List Argument)}
    (h : first.2 = .error fault) (rest : List Event × Except Fault (List Argument)) :
    followedBy first rest = first := by
  obtain ⟨log, read⟩ := first
  cases h
  rfl

theorem nil_followedBy (rest : List Event × Except Fault (List Argument)) :
    followedBy ([], .ok []) rest = rest := by
  obtain ⟨log, read⟩ := rest
  cases read <;> rfl

theorem cons_followedBy (argument : Argument) (noted : List Event)
    (first rest : List Event × Except Fault (List Argument)) :
    followedBy (noted ++ first.1, first.2.map (argument :: ·)) rest =
      (noted ++ (followedBy first rest).1, (followedBy first rest).2.map (argument :: ·)) := by
  obtain ⟨log, _ | arguments⟩ := first
  · rfl
  · obtain ⟨log', _ | arguments'⟩ := rest <;> simp [followedBy, Except.map]

theorem readAll_nil_right (parameters : List Parameter) :
    readAll parameters [] = ([], .ok []) := by
  cases parameters <;> rfl

/-- The lists may be taken apart at any position. -/
theorem readAll_split (parameters : List Parameter) (args : List Value) (k : Nat) :
    readAll parameters args = followedBy (readAll (parameters.take k) (args.take k))
      (readAll (parameters.drop k) (args.drop k)) := by
  -- the first pair goes to the first part, unless this one is empty
  induction parameters generalizing args k with
  | nil =>
    rw [List.take_nil, List.drop_nil]
    rfl
  | cons p parameters ih =>
    cases k with
    | zero => exact (nil_followedBy _).symm
    | succ k =>
      cases args with
      | nil =>
        simp only [List.take_nil, List.drop_nil, readAll_nil_right]
        rfl
      | cons raw args =>
        simp only [List.take_succ_cons, List.drop_succ_cons]
        cases hr : p.read raw with
        | error fault =>
          rw [readAll_cons_of_error hr, readAll_cons_of_error hr]
          rfl
        | ok reading =>
          rw [readAll_cons_of_ok hr, readAll_cons_of_ok hr, cons_followedBy, ← ih]

theorem Fails.take (h : Fails parameters args i fault) :
    Fails (parameters.take (i + 1)) (args.take (i + 1)) i fault := by
  obtain ⟨p, raw, hp, ha, hr⟩ := h.here
  refine ⟨⟨p, raw, ?_, ?_, hr⟩, fun k hk q other hq ho => h.before k hk q other ?_ ?_⟩
  · rwa [List.getElem?_take_of_lt i.lt_succ_self]
  · rwa [List.getElem?_take_of_lt i.lt_succ_self]
  · rwa [List.getElem?_take_of_lt (Nat.lt_succ_of_lt hk)] at hq
  · rwa [List.getElem?_take_of_lt (Nat.lt_succ_of_lt hk)] at ho

theorem Fails.readAll_snd (h : Fails parameters args i fault) :
    (readAll parameters args).2 = .error fault := by
  obtain ⟨readings, hs⟩ := h.exists_stops
  rw [hs.readAll]

/-- What stands behind the first fault does not matter. -/
theorem Fails.readAll_take (h : Fails parameters args i fault) (later : List Parameter)
    (laterArgs : List Value) :
    readAll (parameters.take (i + 1) ++ later) (args.take (i + 1) ++ laterArgs) =
      readAll (parameters.take (i + 1)) (args.take (i + 1)) := by
  obtain ⟨_, _, hp, ha, _⟩ := h.here
  have hparameters : (parameters.take (i + 1)).length = i + 1 :=
    List.length_take_of_le (List.getElem?_eq_some_iff.mp hp).1
  have hargs : (args.take (i + 1)).length = i + 1 :=
    List.length_take_of_le (List.getElem?_eq_some_iff.mp ha).1
  rw [readAll_split _ _ (i + 1), List.take_left' hparameters, List.take_left' hargs]
  exact followedBy_of_error h.take.readAll_snd _

/-! ## In turn -/

/-- How a list of arguments is read. -/
structure InTurn (parameters : List Parameter) (args : List Value) : Prop where
  returns_iff : (∃ arguments, (readAll parameters args).2 = .ok arguments) ↔
    ∀ i, ReadsAt parameters args i
  /-- There is one result for each pair of a parameter and an argument, and it is what the
  parameter's reader makes of the argument. The log and the names that are told of tell of exactly
  the replaced ones. -/
  returned : ∀ arguments, (readAll parameters args).2 = .ok arguments →
    arguments.length = min parameters.length args.length ∧
    (∀ (i : Nat) (p : Parameter) (raw : Value), parameters[i]? = some p → args[i]? = some raw →
      ∃ argument, arguments[i]? = some argument ∧ p.reader.read raw = .ok argument) ∧
    Logged parameters args (readAll parameters args).1 ∧
    fallbackNames parameters arguments =
      ((parameters.zip args).filter fun pair => pair.1.replaces pair.2).map (·.1.name)
  raises_iff : ∀ fault, (readAll parameters args).2 = .error fault ↔
    ∃ i, Fails parameters args i fault
  /-- The log has the warnings of the earlier positions, and any other parameters and arguments may
  stand at the later ones. -/
  stopped : ∀ i fault, Fails parameters args i fault →
    Logged (parameters.take i) (args.take i) (readAll parameters args).1 ∧
    ∀ later laterArgs, readAll (parameters.take (i + 1) ++ later)
      (args.take (i + 1) ++ laterArgs) = readAll parameters args
  split : ∀ k, readAll parameters args = followedBy (readAll (parameters.take k) (args.take k))
    (readAll (parameters.drop k) (args.drop k))

/-- **Reading in turn.** Arguments are read by position, in order, and up to the first fault. -/
theorem readAll_in_turn (parameters : List Parameter) (args : List Value) :
    InTurn parameters args where
  returns_iff := by
    rcases completes_or_stops parameters args with ⟨readings, hc⟩ | ⟨i, fault, readings, hs⟩
    · exact iff_of_true ⟨_, congrArg Prod.snd hc.readAll⟩ hc.readsAt
    · refine iff_of_false ?_ fun hall => hs.fails.not_readsAt (hall i)
      rintro ⟨arguments, ha⟩
      rw [hs.readAll] at ha
      cases ha
  returned arguments ha := by
    rcases completes_or_stops parameters args with ⟨readings, hc⟩ | ⟨i, fault, readings, hs⟩
    · rw [hc.readAll] at ha ⊢
      cases ha
      refine ⟨?_, fun i p raw hp hraw => hc.arguments_getElem? hp hraw, hc.logged,
        hc.fallbackNames_eq⟩
      rw [List.length_map, ← List.Forall₂.length_eq hc, List.length_zip]
    · rw [hs.readAll] at ha
      cases ha
  raises_iff fault := by
    refine ⟨fun hf => ?_, fun ⟨i, h⟩ => h.readAll_snd⟩
    rcases completes_or_stops parameters args with ⟨readings, hc⟩ | ⟨i, other, readings, hs⟩
    · rw [hc.readAll] at hf
      cases hf
    · rw [hs.readAll] at hf
      cases hf
      exact ⟨i, hs.fails⟩
  stopped i fault h := by
    constructor
    · obtain ⟨readings, hs⟩ := h.exists_stops
      rw [hs.readAll]
      exact hs.logged
    · intro later laterArgs
      -- the lists themselves are one way to go on behind the first fault
      have hself := h.readAll_take (parameters.drop (i + 1)) (args.drop (i + 1))
      rw [List.take_append_drop, List.take_append_drop] at hself
      rw [h.readAll_take, hself]
  split := readAll_split parameters args

end Argument

end Toolbench
