import Toolbench.Bench.Basic
import Toolbench.Reader.Sequence

/-! Calls of tools by name. A call finds the tool, counts the arguments, reads them and runs the
tool's script; whatever exception comes up after that is reported in the observation of the call.
Nested calls go through the same steps, up to a depth limit that the outermost call is given. -/

namespace Toolbench

/-- The answer to calls that a script makes. -/
abbrev Answer := Mode → String → List Value → Bench → Except Fault Observation × Bench

/-- How a script ends: with a reply, or with work that is still to be waited for. -/
inductive Ending : Mode → Type where
  | reply {mode : Mode} (reply : Reply) : Ending mode
  | pending (form : Deferral) (work : Script .awaited) : Ending .direct

/-- Runs a script to its end, with the given answer to the calls it makes. A pause lets a turn
pass; a cancellation that is due arrives at the next pause or while the script is parked, and it
arrives once. -/
def Script.run (answer : Answer) :
    {mode : Mode} → Script mode → Bench → Except Fault (Ending mode) × Bench
  | _, .finish reply, bench => (.ok (.reply reply), bench)
  | _, .fail fault, bench => (.error fault, bench)
  | _, .postpone form work, bench => (.ok (.pending form work), bench)
  | _, .deliver values next, bench => next.run answer (bench.deliver values)
  | _, .register declaration handler next, bench =>
    match bench.register declaration (some handler) with
    | .ok bench => (next none).run answer bench
    | .error error => (next (some error)).run answer bench
  | _, .remove tool next, bench =>
    let (removed, bench) := bench.remove tool
    (next removed).run answer bench
  | _, .list next, bench => (next bench.catalog.names).run answer bench
  | _, .call tool values next, bench =>
    let (result, bench) := answer .direct tool values bench
    (next result).run answer bench
  | _, .await tool values next, bench =>
    let (result, bench) := answer .awaited tool values bench
    (next result).run answer bench
  | _, .pause next cancelled, bench =>
    match bench.cancelAfter with
    | none => next.run answer bench
    | some 0 => cancelled.run answer { bench with cancelAfter := none }
    | some (turns + 1) => next.run answer { bench with cancelAfter := some turns }
  | _, .park cancelled, bench => cancelled.run answer { bench with cancelAfter := none }

/-- Work that is waited for cannot end by the fault that marks the end of a sequence. -/
def Fault.ofWork (fault : Fault) (form : Deferral) : Fault :=
  if fault.kind = .exhausted then .message .runtime (form.name ++ " raised StopIteration")
  else fault

/-- A fault on its way out of a call; a call that is waited for is work itself. -/
def Fault.leaving (fault : Fault) : Mode → Fault
  | .direct => fault
  | .awaited => fault.ofWork .coroutine

/-- A direct call met a tool that must be waited for. -/
def Fault.mustAwait (tool : String) : Fault :=
  .message .badType ("tool '" ++ tool ++
    "' is asynchronous; call it with ToolRegistry.acall()")

/-- The reply of a script, waited for if the mode allows it. -/
def Script.obtain (answer : Answer) (mode : Mode) (tool : String) (script : Script .direct)
    (bench : Bench) : Except Fault Reply × Bench :=
  match script.run answer bench with
  | (.error fault, bench) => (.error fault, bench)
  | (.ok (.reply reply), bench) => (.ok reply, bench)
  | (.ok (.pending form work), bench) =>
    match mode with
    | .direct => (.error (.mustAwait tool), bench)
    | .awaited =>
      match work.run answer bench with
      | (.ok (.reply reply), bench) => (.ok reply, bench)
      | (.error fault, bench) => (.error (fault.ofWork form), bench)

namespace Bench

/-- Ends a call with a fault: an exception is logged and reported, any other fault goes on. An
exception without a text cannot be reported, and what comes up in the place of its text goes on. -/
def capture (mode : Mode) (tool : String) (fallbacks : List String) (fault : Fault)
    (bench : Bench) : Except Fault Observation × Bench :=
  if fault.kind.isException then
    ((Observation.failure bench.settings tool fault fallbacks).mapError (·.leaving mode),
      bench.record [.failed tool])
  else (.error fault, bench)

/-- Ends a call with a reply, or with the fault that the reply has no text. -/
def conclude (mode : Mode) (tool : String) (fallbacks : List String) (reply : Reply)
    (bench : Bench) : Except Fault Observation × Bench :=
  match Observation.success bench.settings tool reply fallbacks with
  | .ok observation => (.ok observation, bench)
  | .error fault => bench.capture mode tool fallbacks fault

/-- Runs a tool on as many arguments as it takes. -/
def apply (answer : Answer) (mode : Mode) (tool : Tool) (args : List Value) (bench : Bench) :
    Except Fault Observation × Bench :=
  let (events, read) := Argument.readAll tool.declaration.parameters args
  let bench := bench.record events
  match read with
  | .error fault => bench.capture mode tool.name [] fault
  | .ok arguments =>
    let fallbacks := Argument.fallbackNames tool.declaration.parameters arguments
    match (tool.handler (arguments.map (·.value))).obtain answer mode tool.name bench with
    | (.error fault, bench) => bench.capture mode tool.name fallbacks fault
    | (.ok reply, bench) => bench.conclude mode tool.name fallbacks reply

/-- Calls a tool by name, with the given answer to nested calls. -/
def callWith (answer : Answer) : Answer := fun mode name args bench =>
  match bench.catalog.find? name with
  | none => (.ok (.unknownTool bench.settings name), bench.record [.unknownTool name])
  | some tool =>
    let arity := tool.declaration.arity
    if args.length = arity then bench.apply answer mode tool args
    else
      (.ok (.wrongArity bench.settings name arity args.length),
        bench.record [.wrongArity name args.length arity])

/-- The answer to calls nested at most `depth` deep. -/
def answerUpTo : Nat → Answer
  | 0 => fun _ _ _ bench => (.error .tooDeep, bench)
  | depth + 1 => callWith (answerUpTo depth)

/-- Calls a tool by name; calls that it makes may be nested `depth` deep. -/
def call (depth : Nat) : Answer :=
  callWith (answerUpTo depth)

end Bench

end Toolbench
