import Toolbench.Proofs.Run

/-! # The outcome of a call

`Classified` is the decision table of a call: when a name is unknown, when the number of
arguments is wrong, which readers and which values come into play otherwise, and when the call
ends in success, in a reported failure or with a fault that goes on to the caller. That a part
of a tool is not used in some case is said by putting another tool in its place. -/

namespace Toolbench

/-- A handler that notes the arguments it is started with before it goes on. -/
def Handler.noted (handler : Handler) : Handler := fun values => .deliver values (handler values)

/-- A script that notes no arguments and calls no tool, and neither does the work it puts off. -/
def Script.Quiet : {mode : Mode} → Script mode → Prop
  | _, .finish _ | _, .fail _ => True
  | _, .postpone _ work => work.Quiet
  | _, .deliver .. | _, .call .. | _, .await .. => False
  | _, .register _ _ next => ∀ refusal, (next refusal).Quiet
  | _, .remove _ next => ∀ removed, (next removed).Quiet
  | _, .list next => ∀ names, (next names).Quiet
  | _, .pause next cancelled => next.Quiet ∧ cancelled.Quiet
  | _, .park cancelled => cancelled.Quiet

/-- What is still to be waited for notes no arguments and calls no tool. -/
def Ending.Quiet : {mode : Mode} → Ending mode → Prop
  | _, .reply _ => True
  | _, .pending _ work => work.Quiet

namespace Script

variable {answer : Answer}

theorem Quiet.run {mode : Mode} {script : Script mode} (h : script.Quiet) (answer : Answer)
    (bench : Bench) :
    (script.run answer bench).2.deliveries = bench.deliveries ∧
      ∀ ending, (script.run answer bench).1 = .ok ending → ending.Quiet := by
  induction script generalizing bench with
  | finish => exact ⟨rfl, fun _ he => by cases he; trivial⟩
  | fail => exact ⟨rfl, nofun⟩
  | postpone => exact ⟨rfl, fun _ he => by cases he; exact h⟩
  | deliver | call | await => exact h.elim
  | register declaration handler next _ ih =>
    rw [Script.run]
    split
    next after hr =>
      obtain ⟨_, _, rfl⟩ := Bench.eq_of_register_eq_ok hr
      exact ih none (h none) _
    next error _ => exact ih (some error) (h _) bench
  | remove tool next ih =>
    obtain ⟨_, _, hr⟩ := bench.exists_remove_eq tool
    have hd : (bench.remove tool).2.deliveries = bench.deliveries := by rw [hr]; rfl
    exact hd ▸ ih (bench.remove tool).1 (h _) (bench.remove tool).2
  | list next ih => exact ih _ (h _) bench
  | pause next cancelled ih ih' =>
    rw [Script.run]
    split
    next => exact ih h.1 bench
    next => exact ih' h.2 _
    next => exact ih h.1 _
  | park cancelled ih => exact ih h _

theorem Quiet.obtain {script : Script .direct} (h : script.Quiet) (mode : Mode) (tool : String)
    (bench : Bench) :
    (script.obtain answer mode tool bench).2.deliveries = bench.deliveries := by
  obtain ⟨hd, he⟩ := h.run answer bench
  generalize ho : script.obtain answer mode tool bench = outcome
  cases Script.obtain_eq_iff.mp ho with
  | fault hr | reply hr | unawaited hr => rwa [hr] at hd
  | @workFault _ work between _ _ hr hw | @workReply _ work between _ _ hr hw =>
    rw [hr] at hd he
    have hquiet : work.Quiet := he _ rfl
    have hd' := (hquiet.run answer between).1.trans hd
    rwa [hw] at hd'

theorem obtain_noted {handler : Handler} {values : List Value} {mode : Mode} {tool : String}
    {bench : Bench} : (handler.noted values).obtain answer mode tool bench =
      (handler values).obtain answer mode tool (bench.deliver values) := rfl

end Script

namespace Bench

open Argument (Completes Stops events values)

structure Classified (depth : Nat) (mode : Mode) (name : String) (args : List Value)
    (bench : Bench) : Prop where
  unknownTool_iff : (∃ o, (call depth mode name args bench).1 = .ok o ∧
    o.outcome = .unknownTool) ↔ name ∉ bench.catalog.names
  wrongArity_iff : (∃ o, (call depth mode name args bench).1 = .ok o ∧
    o.outcome = .wrongArity) ↔ ∃ tool, bench.catalog.find? name = some tool ∧
      args.length ≠ tool.declaration.parameters.length
  /-- In both cases one warning is logged, and nothing else happens to the bench. -/
  idle : ∀ o, (call depth mode name args bench).1 = .ok o →
    o.outcome = .unknownTool ∨ o.outcome = .wrongArity → ∃ event, event.level = .warning ∧
      (call depth mode name args bench).2 = bench.record [event]
  /-- A wrong number of arguments is found without using the readers or the handler. -/
  idle_any : ∀ {tool other : Tool}, bench.catalog.find? name = some tool →
    args.length ≠ tool.declaration.parameters.length → other.name = name →
    other.declaration.parameters.length = tool.declaration.parameters.length →
      call depth mode name args (bench.put other) =
        ((call depth mode name args bench).1, (call depth mode name args bench).2.put other)
  /-- Otherwise the arguments are read by position, up to the first fault. -/
  reading : ∀ {tool : Tool}, bench.catalog.find? name = some tool →
    args.length = tool.declaration.parameters.length →
      (∃ readings, Completes tool.declaration.parameters args readings) ∨
      ∃ i fault readings, Stops tool.declaration.parameters args i fault readings
  /-- The first fault of reading ends the call. -/
  stopped : ∀ {tool : Tool} {i : Nat} {fault : Fault}
    {readings : List (Argument × List Event)}, bench.catalog.find? name = some tool →
    args.length = tool.declaration.parameters.length →
    Stops tool.declaration.parameters args i fault readings →
      call depth mode name args bench =
        (bench.record (events readings)).capture mode name [] fault
  /-- Neither the handler nor a later reader is used then. -/
  stopped_any : ∀ {tool other : Tool} {i : Nat} {fault : Fault}
    {readings : List (Argument × List Event)}, bench.catalog.find? name = some tool →
    args.length = tool.declaration.parameters.length →
    Stops tool.declaration.parameters args i fault readings → other.name = name →
    other.declaration.parameters.length = tool.declaration.parameters.length →
    other.declaration.parameters.take (i + 1) = tool.declaration.parameters.take (i + 1) →
      call depth mode name args (bench.put other) =
        ((call depth mode name args bench).1, (call depth mode name args bench).2.put other)
  /-- When all arguments are read, there is one value for each parameter, and it is what the
  parameter's reader makes of the argument at its position. -/
  positional : ∀ {tool : Tool} {readings : List (Argument × List Event)},
    bench.catalog.find? name = some tool →
    args.length = tool.declaration.parameters.length →
    Completes tool.declaration.parameters args readings →
      (values readings).length = tool.declaration.parameters.length ∧
      ∀ {i : Nat} {p : Parameter} {raw : Value},
        tool.declaration.parameters[i]? = some p → args[i]? = some raw →
        ∃ argument, p.reader.read raw = .ok argument ∧
          (values readings)[i]? = some argument.value
  /-- The handler is started with these values, and everything that is noted after them is noted
  by its own script. -/
  started : ∀ {tool : Tool} {readings : List (Argument × List Event)} {handler : Handler},
    bench.catalog.find? name = some tool →
    args.length = tool.declaration.parameters.length →
    Completes tool.declaration.parameters args readings → tool.handler = handler.noted →
      bench.deliveries ++ [values readings] <+:
        (call depth mode name args bench).2.deliveries ∧
      (call depth mode name args bench).2.deliveries =
        ((handler (values readings)).obtain (answerUpTo depth) mode name
          ((bench.record (events readings)).deliver (values readings))).2.deliveries
  /-- It is started once. -/
  started_once : ∀ {tool : Tool} {readings : List (Argument × List Event)} {handler : Handler},
    bench.catalog.find? name = some tool →
    args.length = tool.declaration.parameters.length →
    Completes tool.declaration.parameters args readings → tool.handler = handler.noted →
    (handler (values readings)).Quiet →
      (call depth mode name args bench).2.deliveries =
        bench.deliveries ++ [values readings]
  /-- Work that a direct call would have to wait for is not done: the call ends where the work
  was put off. -/
  unawaited : ∀ {tool : Tool} {readings : List (Argument × List Event)} {form : Deferral}
    {work : Script .awaited} {after : Bench}, mode = .direct →
    bench.catalog.find? name = some tool →
    args.length = tool.declaration.parameters.length →
    Completes tool.declaration.parameters args readings →
    (tool.handler (values readings)).run (answerUpTo depth)
        (bench.record (events readings)) = (.ok (.pending form work), after) →
      call depth mode name args bench =
        after.capture mode name (fallbacksOf tool readings) (.mustAwait name)
  success_iff : (∃ o, (call depth mode name args bench).1 = .ok o ∧ o.outcome = .success) ↔
    ∃ tool fallbacks reply text after, bench.catalog.find? name = some tool ∧
      args.length = tool.declaration.parameters.length ∧
      Returns (answerUpTo depth) mode tool args bench fallbacks reply text after
  /-- The observation of a success, and the bench after it. -/
  success : ∀ {tool : Tool} {fallbacks : List String} {reply : Reply} {text : String}
    {after : Bench}, bench.catalog.find? name = some tool →
    args.length = tool.declaration.parameters.length →
    Returns (answerUpTo depth) mode tool args bench fallbacks reply text after →
      ∃ o, Observation.success bench.settings name reply fallbacks = .ok o ∧
        call depth mode name args bench = (.ok o, after)
  failure_iff : (∃ o, (call depth mode name args bench).1 = .ok o ∧ o.outcome = .failure) ↔
    ∃ tool fallbacks fault after, bench.catalog.find? name = some tool ∧
      args.length = tool.declaration.parameters.length ∧
      Raises (answerUpTo depth) mode tool args bench fallbacks fault after ∧
      fault.kind.isException = true ∧ fault.text? ≠ none
  /-- A fault ends the call in the bench it left, with the fallbacks that are known by then. -/
  failure : ∀ {tool : Tool} {fallbacks : List String} {fault : Fault} {after : Bench},
    bench.catalog.find? name = some tool →
    args.length = tool.declaration.parameters.length →
    Raises (answerUpTo depth) mode tool args bench fallbacks fault after →
      call depth mode name args bench = after.capture mode name fallbacks fault
  escapes_iff : ∀ escaped, (call depth mode name args bench).1 = .error escaped ↔
    ∃ tool fallbacks fault after, bench.catalog.find? name = some tool ∧
      args.length = tool.declaration.parameters.length ∧
      Raises (answerUpTo depth) mode tool args bench fallbacks fault after ∧
      (fault.kind.isException = false ∧ escaped = fault ∨
        fault.kind.isException = true ∧
          ∃ reason, fault.text = .error reason ∧ escaped = reason.leaving mode)

section
variable {answer : Answer} {depth : Nat} {mode : Mode} {name : String} {args : List Value}
  {bench : Bench} {tool other : Tool} {fallbacks : List String} {fault : Fault}
  {readings : List (Argument × List Event)}

theorem apply_deliveries (h : Completes tool.declaration.parameters args readings) :
    (bench.apply answer mode tool args).2.deliveries =
      (workOn answer mode tool readings bench).2.deliveries := by
  rcases hw : workOn answer mode tool readings bench with ⟨result, after⟩
  obtain ⟨_, he⟩ := settle_snd mode tool.name (fallbacksOf tool readings) result after
  rw [apply_of_completes h, hw, he]
  rfl

theorem call_of_returns {reply : Reply} {text : String} {after : Bench}
    (hf : bench.catalog.find? name = some tool)
    (hl : args.length = tool.declaration.parameters.length)
    (h : Returns (answerUpTo depth) mode tool args bench fallbacks reply text after) :
    ∃ o, Observation.success bench.settings name reply fallbacks = .ok o ∧
      call depth mode name args bench = (.ok o, after) := by
  obtain ⟨o, ho, happly⟩ := h.apply
  have hc : call depth mode name args bench = (.ok o, after) := by
    rw [call, callWith_of_length_eq hf hl, happly]
  have hs : after.settings = bench.settings := by
    have := kept_settings.call depth mode name args bench
    rwa [hc] at this
  rw [hs, Catalog.name_of_find? hf] at ho
  exact ⟨o, ho, hc⟩

theorem call_noted {handler : Handler} (depth : Nat) (mode : Mode)
    (hf : bench.catalog.find? name = some tool)
    (hl : args.length = tool.declaration.parameters.length)
    (h : Completes tool.declaration.parameters args readings)
    (hn : tool.handler = handler.noted) :
    (call depth mode name args bench).2.deliveries =
      ((handler (values readings)).obtain (answerUpTo depth) mode name
        ((bench.record (events readings)).deliver (values readings))).2.deliveries := by
  rw [call, callWith_of_length_eq hf hl, apply_deliveries h, workOn, hn, Script.obtain_noted,
    Catalog.name_of_find? hf]

theorem call_started {handler : Handler} (depth : Nat) (mode : Mode)
    (hf : bench.catalog.find? name = some tool)
    (hl : args.length = tool.declaration.parameters.length)
    (h : Completes tool.declaration.parameters args readings)
    (hn : tool.handler = handler.noted) :
    bench.deliveries ++ [values readings] <+: (call depth mode name args bench).2.deliveries := by
  rw [call_noted depth mode hf hl h hn]
  exact kept_deliveries.obtain (kept_deliveries.answerUpTo depth) mode name
    (handler (values readings)) ((bench.record (events readings)).deliver (values readings))

/-- Another tool with the same parameters up to the one that cannot be read fails in the same
way. -/
theorem call_put_of_stops {other : Tool} {i : Nat} {fault : Fault} (depth : Nat) (mode : Mode)
    (hf : bench.catalog.find? name = some tool)
    (hl : args.length = tool.declaration.parameters.length)
    (h : Stops tool.declaration.parameters args i fault readings) (hn : other.name = name)
    (he : other.declaration.parameters.length = tool.declaration.parameters.length)
    (ht : other.declaration.parameters.take (i + 1) = tool.declaration.parameters.take (i + 1)) :
    call depth mode name args (bench.put other) =
      ((call depth mode name args bench).1, (call depth mode name args bench).2.put other) := by
  rw [call, callWith_of_stops (find?_put hn) (hl.trans he.symm) (h.of_take_eq ht),
    callWith_of_stops hf hl h]
  exact capture_map (·.put other) (bench.record (events readings)) rfl (fun _ => rfl) mode name []
    fault

end

/-- Calls are classified by the decision table. -/
theorem call_classified (depth : Nat) (mode : Mode) (name : String) (args : List Value)
    (bench : Bench) : Classified depth mode name args bench where
  unknownTool_iff := callWith_unknownTool_iff
  wrongArity_iff := callWith_wrongArity_iff
  idle o hc ho := by
    rcases outcome_cases hc with ⟨_, hf⟩ | ⟨tool, hf, ⟨_, hl⟩ | ⟨_, ⟨hw, _⟩ | ⟨hw, _⟩⟩⟩
    · exact ⟨_, rfl, by rw [call, callWith_of_find?_none hf]⟩
    · exact ⟨_, rfl, by rw [call, callWith_of_length_ne hf hl]⟩
    all_goals
      rw [hw] at ho
      rcases ho with ho | ho <;> cases ho
  idle_any {tool other} hf hl hn he := by
    have hl' : args.length ≠ other.declaration.arity := fun h => hl (h.trans he)
    rw [call, callWith_of_length_ne hf hl, callWith_of_length_ne (find?_put hn) hl',
      Declaration.arity, Declaration.arity, he]
    rfl
  reading {tool} _ _ := Argument.completes_or_stops tool.declaration.parameters args
  stopped hf hl h := callWith_of_stops hf hl h
  stopped_any hf hl h hn he ht := call_put_of_stops depth mode hf hl h hn he ht
  positional _ hl h :=
    ⟨by rw [values, List.length_map, h.length_eq hl], fun hp ha => h.values_getElem? hp ha⟩
  started hf hl h hn := ⟨call_started depth mode hf hl h hn, call_noted depth mode hf hl h hn⟩
  started_once hf hl h hn hq := by
    rw [call_noted depth mode hf hl h hn, hq.obtain]
    rfl
  unawaited hm hf hl h hp := by
    subst hm
    rw [call, callWith_of_length_eq hf hl, apply_of_completes h, workOn, Script.obtain, hp,
      Catalog.name_of_find? hf]
    rfl
  success_iff := callWith_success_iff
  success hf hl h := call_of_returns hf hl h
  failure_iff := callWith_failure_iff
  failure hf hl h := callWith_of_raises hf hl h
  escapes_iff _ := callWith_fst_eq_error_iff

end Bench
end Toolbench
