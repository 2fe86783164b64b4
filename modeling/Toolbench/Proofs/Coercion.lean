import Toolbench.Proofs.Delivery
import Toolbench.Proofs.Likeness
import Toolbench.Proofs.Overlooked

/-! # Arguments that are no strings

An argument of any kind is read by its text. A call on plain data that has a text is the call on
the texts: it answers the same, and only what the warnings of fallbacks show of the arguments
tells the two apart (`SameButShown`). A value without a text is where reading ends, with the
fault of the digit limit and not with a fallback, and no handler is started then
(`call_coerces`). -/

namespace Toolbench

/-- An event without the argument that it shows. -/
def Event.unshown : Event → Event
  | .defaulted parameter label _ fallback => .defaulted parameter label "" fallback
  | event => event

/-- Values and the texts that they have. -/
def Value.Texts (args : List Value) (texts : List String) : Prop :=
  List.Forall₂ (fun arg text => arg.text? = some text) args texts

/-! ## Reading a value by its text -/

namespace Value

variable {raw : Value} {text : String}

theorem text_of_text? (h : raw.text? = some text) : raw.text = .ok text :=
  text?_eq_some_iff.mp h

theorem not_oversized_of_text? (hd : raw.IsData) (h : raw.text? = some text) :
    ¬ raw.Oversized := by
  rw [← text?_eq_none_iff hd, h]
  exact Option.some_ne_none text

/-- Plain data with a text has a quoted text too. -/
theorem exists_quoted (hd : raw.IsData) (h : raw.text? = some text) :
    ∃ shown, raw.quoted = .ok shown := by
  rcases shows_quoted raw hd with ⟨hover, _⟩ | ⟨_, hshown⟩
  · exact absurd hover (not_oversized_of_text? hd h)
  · exact hshown

theorem exists_texts {args : List Value} (hd : ∀ arg ∈ args, arg.IsData)
    (h : ∀ arg ∈ args, ¬ arg.Oversized) : ∃ texts, Texts args texts := by
  induction args with
  | nil => exact ⟨[], .nil⟩
  | cons arg args ih =>
    obtain ⟨hdata, hdatas⟩ := List.forall_mem_cons.mp hd
    obtain ⟨hsmall, hsmalls⟩ := List.forall_mem_cons.mp h
    obtain ⟨texts, htexts⟩ := ih hdatas hsmalls
    obtain ⟨text, ht⟩ := Option.ne_none_iff_exists'.mp fun hnone =>
      hsmall ((text?_eq_none_iff hdata).mp hnone)
    exact ⟨text :: texts, .cons ht htexts⟩

end Value

section
variable {raw : Value} {text : String} (h : raw.text? = some text)
include h

theorem Reader.read_str (reader : Reader) : reader.read (.str text) = reader.read raw := by
  have hs : (Value.str text).text = .ok text := rfl
  simp only [Reader.read, hs, Value.text_of_text? h]

namespace Parameter

variable (hd : raw.IsData)
include hd

theorem notices_str (p : Parameter) (argument : Argument) :
    Agree (fun events events' => events.map Event.unshown = events'.map Event.unshown)
      (p.notices raw argument) (p.notices (.str text) argument) := by
  obtain ⟨shown, hshown⟩ := Value.exists_quoted hd h
  obtain ⟨shown', hshown'⟩ : ∃ shown', (Value.str text).quoted = .ok shown' := ⟨_, rfl⟩
  rw [notices, notices, hshown, hshown']
  split
  · cases argument.value.quoted with
    | error fault => exact .error fault
    | ok fallback => exact .ok rfl
  · exact .ok rfl

/-- A parameter reads the same from a value and from its text, and fails alike. -/
theorem read_str (p : Parameter) :
    Agree (fun reading reading' => reading.1 = reading'.1 ∧
        reading.2.map Event.unshown = reading'.2.map Event.unshown)
      (p.read raw) (p.read (.str text)) := by
  have hreader := p.reader.read_str h
  cases hr : p.reader.read raw with
  | error fault =>
    rw [read_eq_error_iff.mpr (.inl hr), read_eq_error_iff.mpr (.inl (hreader.trans hr))]
    exact .error fault
  | ok argument =>
    rcases (p.notices_str h hd argument).cases with ⟨fault, hn, hn'⟩ | ⟨_, _, heq, hn, hn'⟩
    · rw [read_eq_error_iff.mpr (.inr ⟨argument, hr, hn⟩),
        read_eq_error_iff.mpr (.inr ⟨argument, hreader.trans hr, hn'⟩)]
      exact .error fault
    · rw [read_eq_ok_iff.mpr ⟨hr, hn⟩, read_eq_ok_iff.mpr ⟨hreader.trans hr, hn'⟩]
      exact .ok ⟨rfl, heq⟩

end Parameter

end

/-- Arguments are read as their texts are. -/
theorem Argument.readAll_texts {args : List Value} {texts : List String}
    (hd : ∀ arg ∈ args, arg.IsData) (h : Value.Texts args texts) (parameters : List Parameter) :
    (readAll parameters args).1.map Event.unshown =
        (readAll parameters (texts.map .str)).1.map Event.unshown ∧
      (readAll parameters args).2 = (readAll parameters (texts.map .str)).2 := by
  induction h generalizing parameters with
  | nil => exact ⟨rfl, rfl⟩
  | @cons raw text args texts ht _ ih =>
    cases parameters with
    | nil => exact ⟨rfl, rfl⟩
    | cons p parameters =>
      obtain ⟨hdata, hdatas⟩ := List.forall_mem_cons.mp hd
      obtain ⟨hevents, hread⟩ := ih hdatas parameters
      rw [List.map_cons]
      rcases (p.read_str ht hdata).cases with ⟨fault, hr, hr'⟩ | ⟨reading, reading', hsame, hr, hr'⟩
      · rw [readAll, readAll, hr, hr']
        exact ⟨rfl, rfl⟩
      · rw [readAll, readAll, hr, hr']
        refine ⟨?_, ?_⟩
        · simp only [List.map_append, hsame.2, hevents]
        · simp only [hsame.1, hread]

/-! ## Values that standard readers fail on -/

/-- A standard reader fails on values without a text only. -/
theorem Standard.read_eq_error_iff {kind : Standard} {raw : Value} {fault : Fault} :
    kind.reader.read raw = .error fault ↔ raw.text = .error fault := by
  constructor
  · intro h
    rcases Reader.read_eq_error_iff.mp h with ht | ⟨text, _, hparse⟩
    · exact ht
    · obtain ⟨argument, hread, _⟩ := kind.exists_reading text
      have hs : (Value.str text).text = .ok text := rfl
      have hfail : kind.reader.read (.str text) = .error fault :=
        Reader.read_eq_error_iff.mpr (.inr ⟨text, hs, hparse⟩)
      rw [hfail] at hread
      cases hread
  · intro h
    exact Reader.read_eq_error_iff.mpr (.inl h)

theorem Value.oversized_int_iff_digits {n : Int} :
    (Value.int n).Oversized ↔ Numeral.digitLimit < (Nat.digits 10 n.natAbs).length := by
  rw [oversized_int_iff]
  unfold magnitudeBound
  -- the bound itself is not to be computed
  generalize Numeral.digitLimit = limit
  rw [← Nat.not_le, ← Nat.not_lt, not_iff_not]
  exact (Nat.digits_length_le_iff (by decide) n.natAbs).symm

namespace Argument

variable {parameters : List Parameter} {args : List Value}
  {readings : List (Argument × List Event)} {i : Nat} {fault : Fault}

/-- An oversized value is not read, so it keeps the arguments from being read. -/
theorem Completes.not_oversized (h : Completes parameters args readings)
    (hl : args.length = parameters.length) (hd : ∀ arg ∈ args, arg.IsData) :
    ∀ arg ∈ args, ¬ arg.Oversized := by
  intro arg hm hover
  obtain ⟨i, hi⟩ := List.getElem?_of_mem hm
  obtain ⟨hlt, _⟩ := List.getElem?_eq_some_iff.mp hi
  have hp : parameters[i]? = some parameters[i] := List.getElem?_eq_getElem (hl ▸ hlt)
  obtain ⟨argument, hread, _⟩ := h.values_getElem? hp hi
  have hfail : parameters[i].reader.read arg = .error .digitLimit :=
    Reader.read_eq_error_iff.mpr (.inl ((Value.text_eq_error_iff (hd arg hm)).mpr ⟨hover, rfl⟩))
  rw [hfail] at hread
  cases hread

/-- Where standard readers stop, an oversized value is in the way. -/
theorem Stops.oversized (h : Stops parameters args i fault readings)
    (hstandard : ∀ p ∈ parameters, ∃ kind : Standard, p.reader = kind.reader)
    (hd : ∀ arg ∈ args, arg.IsData) : (∃ arg ∈ args, arg.Oversized) ∧ fault = .digitLimit := by
  obtain ⟨p, raw, hp, hraw, hread⟩ := h.here
  obtain ⟨kind, hkind⟩ := hstandard p (List.mem_of_getElem? hp)
  have hm : raw ∈ args := List.mem_of_getElem? hraw
  cases ht : raw.text with
  | ok text =>
    obtain ⟨argument, noticed, hread', _⟩ := Parameter.read_of_standard hkind text
    rcases (p.read_str (Value.text?_eq_some_iff.mpr ht) (hd raw hm)).cases with
      ⟨_, _, hfail⟩ | ⟨_, _, _, hok, _⟩
    · rw [hfail] at hread'
      cases hread'
    · rw [hread] at hok
      cases hok
  | error reason =>
    have hfail : p.reader.read raw = .error reason := hkind ▸ Standard.read_eq_error_iff.mpr ht
    rw [Parameter.read_eq_error_iff.mpr (.inl hfail)] at hread
    obtain ⟨hover, rfl⟩ := (Value.text_eq_error_iff (hd raw hm)).mp ht
    exact ⟨⟨raw, hm, hover⟩, (Except.error.inj hread).symm⟩

end Argument

namespace Bench

open Argument (Completes Stops events values)

/-! ## Calls on values and on their texts -/

/-- A call on values and the call on their texts. -/
structure SameButShown (depth : Nat) (mode : Mode) (name : String) (args : List Value)
    (texts : List String) (bench : Bench) : Prop where
  result_eq : (call depth mode name args bench).1 = (call depth mode name (texts.map .str) bench).1
  /-- A tool is given the same arguments, or the same fault stops the reading. -/
  arguments_eq : ∀ tool, bench.catalog.find? name = some tool →
    (Argument.readAll tool.declaration.parameters args).2 =
      (Argument.readAll tool.declaration.parameters (texts.map .str)).2
  /-- All of the bench but its log is the same. -/
  bench_eq : { (call depth mode name args bench).2 with
      log := (call depth mode name (texts.map .str) bench).2.log } =
    (call depth mode name (texts.map .str) bench).2
  /-- The logs differ in nothing but what is shown of the arguments. -/
  log : ∃ told told' rest, (call depth mode name args bench).2.log = bench.log ++ told ++ rest ∧
    (call depth mode name (texts.map .str) bench).2.log = bench.log ++ told' ++ rest ∧
    told.map Event.unshown = told'.map Event.unshown

/-- Past its reading a tool depends on what has been read, and not on what has been logged. -/
theorem apply_of_read (depth : Nat) (mode : Mode) (tool : Tool) (bench : Bench)
    (read : Except Fault (List Argument)) : ∃ result after, ∀ args,
      (Argument.readAll tool.declaration.parameters args).2 = read →
        bench.apply (answerUpTo depth) mode tool args =
          (result, preceded (bench.log ++ (Argument.readAll tool.declaration.parameters args).1)
            after) := by
  have hrecord (events : List Event) :
      bench.record events = preceded (bench.log ++ events) { bench with log := [] } := by
    simp only [record, preceded, List.append_nil]
  refine ⟨(proceed (answerUpTo depth) mode tool read { bench with log := [] }).1,
    (proceed (answerUpTo depth) mode tool read { bench with log := [] }).2, ?_⟩
  intro args hread
  have O := overlooked_past (bench.log ++ (Argument.readAll tool.declaration.parameters args).1)
  have hproceed := O.proceed (O.answerUpTo depth) (O.kept.answerUpTo depth) mode tool read
    { bench with log := [] } id
  rw [apply_eq_proceed, hread, hrecord, hproceed]

/-- A call that does not come to read its arguments depends on their number alone. -/
theorem call_of_unread {bench : Bench} {name : String} {given : Nat}
    (h : ∀ tool, bench.catalog.find? name = some tool → given ≠ tool.declaration.arity)
    (depth : Nat) (mode : Mode) : ∃ result event, ∀ args : List Value, args.length = given →
      call depth mode name args bench = (result, bench.record [event]) := by
  cases hf : bench.catalog.find? name with
  | none => exact ⟨_, _, fun args _ => callWith_of_find?_none hf⟩
  | some tool =>
    refine ⟨.ok (.wrongArity bench.settings name tool.declaration.arity given),
      .wrongArity name given tool.declaration.arity, ?_⟩
    rintro args rfl
    exact callWith_of_length_ne hf (h tool hf)

theorem sameButShown {args : List Value} {texts : List String}
    (hd : ∀ arg ∈ args, arg.IsData) (h : Value.Texts args texts) (depth : Nat)
    (mode : Mode) (name : String) (bench : Bench) :
    SameButShown depth mode name args texts bench := by
  have hl : (texts.map Value.str).length = args.length := by
    rw [List.length_map]
    exact (List.Forall₂.length_eq h).symm
  have hread (tool : Tool) := Argument.readAll_texts hd h tool.declaration.parameters
  by_cases hreads : ∃ tool, bench.catalog.find? name = some tool ∧
      args.length = tool.declaration.arity
  · obtain ⟨tool, hf, harity⟩ := hreads
    obtain ⟨hevents, hsame⟩ := hread tool
    obtain ⟨result, after, happly⟩ := apply_of_read depth mode tool bench
      (Argument.readAll tool.declaration.parameters args).2
    have hcall : call depth mode name args bench = _ :=
      (callWith_of_length_eq hf harity).trans (happly args rfl)
    have hcall' : call depth mode name (texts.map .str) bench = _ :=
      (callWith_of_length_eq hf (hl.trans harity)).trans (happly (texts.map .str) hsame.symm)
    refine ⟨?_, fun tool _ => (hread tool).2, ?_, _, _, after.log, ?_, ?_, hevents⟩ <;>
      simp only [hcall, hcall', preceded]
  · have hunread : ∀ tool, bench.catalog.find? name = some tool →
        args.length ≠ tool.declaration.arity := fun tool hf he => hreads ⟨tool, hf, he⟩
    obtain ⟨result, event, hcalls⟩ := call_of_unread hunread depth mode
    have hcall := hcalls args rfl
    have hcall' := hcalls (texts.map .str) hl
    refine ⟨?_, fun tool _ => (hread tool).2, ?_, [event], [event], [], ?_, ?_, rfl⟩ <;>
      simp only [hcall, hcall', record, List.append_nil]

/-! ## Calls that an oversized value stops -/

section
variable {depth : Nat} {mode : Mode} {name : String} {args : List Value} {bench : Bench}
  {tool : Tool}
  (hf : bench.catalog.find? name = some tool)
  (hl : args.length = tool.declaration.parameters.length)
  (hstandard : ∀ p ∈ tool.declaration.parameters, ∃ kind : Standard, p.reader = kind.reader)
  (hd : ∀ arg ∈ args, arg.IsData)
include hf hl hstandard hd

/-- An oversized value ends the reading, and the call reports the fault of the digit limit. -/
theorem call_of_oversized (h : ∃ arg ∈ args, arg.Oversized) : ∃ i readings,
    Stops tool.declaration.parameters args i .digitLimit readings ∧
    call depth mode name args bench = (Observation.failure bench.settings name .digitLimit [],
      bench.record (events readings ++ [.failed name])) := by
  rcases Argument.completes_or_stops tool.declaration.parameters args with
    ⟨readings, hc⟩ | ⟨i, fault, readings, hs⟩
  · obtain ⟨arg, hm, hover⟩ := h
    exact absurd hover (hc.not_oversized hl hd arg hm)
  · obtain ⟨_, rfl⟩ := hs.oversized hstandard hd
    refine ⟨i, readings, hs, ?_⟩
    rw [call, callWith_of_stops hf hl hs, capture_of_isException rfl, record_record]
    rfl

/-- The handler is not started exactly if there is an oversized value. -/
theorem deliveries_call_eq_iff {handler : Handler} (hn : tool.handler = handler.noted) :
    (call depth mode name args bench).2.deliveries = bench.deliveries ↔
      ∃ arg ∈ args, arg.Oversized := by
  constructor
  · intro hidle
    rcases Argument.completes_or_stops tool.declaration.parameters args with
      ⟨readings, hc⟩ | ⟨i, fault, readings, hs⟩
    · have hstarted := call_started depth mode hf hl hc hn
      rw [hidle] at hstarted
      have hlength := hstarted.length_le
      rw [List.length_append, List.length_singleton] at hlength
      omega
    · exact (hs.oversized hstandard hd).1
  · intro h
    obtain ⟨_, _, _, hcall⟩ : ∃ i readings, _ ∧ call depth mode name args bench = _ :=
      call_of_oversized hf hl hstandard hd h
    rw [hcall]
    rfl

end

/-- How arguments of any kind of plain data are coerced. -/
structure Coercion (depth : Nat) (mode : Mode) (name : String) (bench : Bench) : Prop where
  /-- Arguments that all have a text may as well be handed in by their texts. -/
  texts : ∀ {args : List Value} {texts : List String}, (∀ arg ∈ args, arg.IsData) →
    Value.Texts args texts → SameButShown depth mode name args texts bench
  /-- A standard reader fails on the values without a text, and on no others. -/
  fails_iff : ∀ (kind : Standard) (raw : Value) (fault : Fault),
    kind.reader.read raw = .error fault ↔ raw.text = .error fault
  /-- On plain data it fails by the fault of the digit limit, and does not fall back. -/
  fails_data_iff : ∀ (kind : Standard) (raw : Value) (fault : Fault), raw.IsData →
    (kind.reader.read raw = .error fault ↔ raw.Oversized ∧ fault = .digitLimit)
  oversized_int_iff : ∀ n : Int,
    (Value.int n).Oversized ↔ 4300 < (Nat.digits 10 n.natAbs).length
  /-- If all parameters have standard readers, the handler is left alone exactly if one of the
  arguments has no text. -/
  unstarted_iff : ∀ {args : List Value} {tool : Tool} {handler : Handler},
    bench.catalog.find? name = some tool →
    args.length = tool.declaration.parameters.length →
    (∀ p ∈ tool.declaration.parameters, ∃ kind : Standard, p.reader = kind.reader) →
    (∀ arg ∈ args, arg.IsData) → tool.handler = handler.noted →
      ((call depth mode name args bench).2.deliveries = bench.deliveries ↔
        ∃ arg ∈ args, arg.Oversized)
  /-- The call then reports the fault, without fallbacks. It would do so with any handler. -/
  unstarted : ∀ {args : List Value} {tool : Tool}, bench.catalog.find? name = some tool →
    args.length = tool.declaration.parameters.length →
    (∀ p ∈ tool.declaration.parameters, ∃ kind : Standard, p.reader = kind.reader) →
    (∀ arg ∈ args, arg.IsData) → (∃ arg ∈ args, arg.Oversized) →
      (∃ o, (call depth mode name args bench).1 = .ok o ∧ o.outcome = .failure ∧
        o.error = some ("ValueError: Exceeds the limit (4300 digits) for integer string " ++
          "conversion; use sys.set_int_max_str_digits() to increase the limit") ∧
        o.fallbacks = []) ∧
      ∀ other : Tool, other.declaration = tool.declaration →
        call depth mode name args (bench.put other) =
          ((call depth mode name args bench).1, (call depth mode name args bench).2.put other)

/-- **Arguments are coerced.** A call on plain data that has a text is the call on the texts, and
a value without a text keeps the handler from being started. -/
theorem call_coerces (depth : Nat) (mode : Mode) (name : String) (bench : Bench) :
    Coercion depth mode name bench where
  texts hd h := sameButShown hd h depth mode name bench
  fails_iff _ _ _ := Standard.read_eq_error_iff
  fails_data_iff _ _ _ hd := Standard.read_eq_error_iff.trans (Value.text_eq_error_iff hd)
  oversized_int_iff _ := Value.oversized_int_iff_digits
  unstarted_iff hf hl hstandard hd hn := deliveries_call_eq_iff hf hl hstandard hd hn
  unstarted {args tool} hf hl hstandard hd h := by
    obtain ⟨i, readings, hs, hcall⟩ := call_of_oversized hf hl hstandard hd h
    obtain ⟨o, ho⟩ : ∃ o, Observation.failure bench.settings name .digitLimit [] = .ok o :=
      Observation.exists_failure rfl
    obtain ⟨text, ht, rfl⟩ := Observation.failure_eq_ok_iff.mp ho
    obtain rfl := Option.some.inj ht
    refine ⟨⟨_, by rw [hcall, ho], rfl, rfl, rfl⟩, ?_⟩
    intro other hd
    have hname : other.name = name := by
      rw [← Catalog.name_of_find? hf, Tool.name, Tool.name, hd]
    have hsame : other.declaration.parameters = tool.declaration.parameters := by rw [hd]
    exact call_put_of_stops depth mode hf hl hs hname (by rw [hsame]) (by rw [hsame])

end Bench
end Toolbench
