import Toolbench.Bench.Call
import Toolbench.Demo

/-! Sessions: a bench that is set up and then used step by step. Each step leaves an entry with
its result, the events it logged, the arguments that it delivered to handlers, and the names of
the tools after it. A step that fails does not keep the next ones from being taken. -/

namespace Toolbench.Session

/-- The depth to which calls may be nested in a session. -/
def depth : Nat := 1000

/-- The arguments of a call as they are handed in: one by one, as the characters of a text, or
not at all. -/
inductive Arguments where
  | oneByOne (values : List Value)
  | characters (text : String)
  | absent

def Arguments.toList? : Arguments → Option (List Value)
  | .oneByOne values => some values
  | .characters text => some (text.toList.map fun c => .str (String.singleton c))
  | .absent => none

/-- Reads arguments for parameters, as many as both lists have. -/
def Arguments.read (parameters : List Parameter) (args : Arguments) :
    List Event × Except Fault (List Argument) :=
  match args.toList? with
  | some values => Argument.readAll parameters values
  | none => ([], .error (.message .badType "'NoneType' object is not iterable"))

/-- A change of the settings that a session makes on the way. -/
structure Change where
  strictRegistration : Option Bool := none
  preamble : Option String := none
  reportFallbacks : Option Bool := none
  logLevel : Option String := none

def Change.apply (change : Change) (settings : Settings) : Settings :=
  ⟨change.strictRegistration.getD settings.strictRegistration,
   change.preamble.getD settings.preamble,
   change.reportFallbacks.getD settings.reportFallbacks,
   change.logLevel.getD settings.logLevel⟩

inductive Step where
  /-- Registers a tool; `returned` says whether the step gives the handler back. -/
  | register (draft : Declaration.Draft) (handler : Option Handler) (returned : Bool)
  | remove (tool : String)
  | find (tool : String)
  | contains (tool : String)
  | size
  | functionSchemas
  | toolSchemas
  | describe
  | summary
  | call (mode : Mode) (tool : String) (args : Arguments)
  /-- Starts an awaited call, lets it have three turns, and cancels it. -/
  | callCancelled (tool : String) (args : Arguments)
  /-- Runs a tool on whatever arguments there are, without a call around it. -/
  | applyDirectly (tool : String) (args : Arguments)
  | change (settings : Change)
  | isStrict
  | setStrict (strict : Bool)

/-- What running a tool directly shows. -/
structure Application where
  tool : String
  arguments : List Argument
  fallbacks : List String
  reply : Reply

inductive Result where
  | nothing
  | flag (b : Bool)
  | flags (a b : Bool)
  | sizes (a b : Nat)
  | text (s : String)
  | documents (parts : List Document)
  | declaration (declaration : Option Declaration)
  | observation (observation : Observation)
  | application (application : Option Application)

structure Entry where
  result : Except Fault Result
  log : List Event
  deliveries : List (List Value)
  /-- No names are told when there is no bench. -/
  names : Option (List String)

/-- Calls a tool; arguments that are not there cannot be counted. -/
def callTool (mode : Mode) (tool : String) (args : Arguments) (bench : Bench) :
    Except Fault Observation × Bench :=
  match args.toList? with
  | some values => Bench.call depth mode tool values bench
  | none =>
    if bench.catalog.contains tool then
      (.error (.message .badType "object of type 'NoneType' has no len()"), bench)
    else Bench.call depth mode tool [] bench

/-- Calls a tool in a task that is cancelled after three turns. -/
def callAndCancel (tool : String) (args : Arguments) (bench : Bench) :
    Except Fault Observation × Bench :=
  let (result, bench) := callTool .awaited tool args { bench with cancelAfter := some 2 }
  (result, { bench with cancelAfter := none })

/-- Reads the arguments of a tool and runs it, without counting and without reporting. -/
def applyTool (tool : Tool) (args : Arguments) (bench : Bench) :
    Except Fault Application × Bench :=
  let (events, read) := args.read tool.declaration.parameters
  let bench := bench.record events
  match read with
  | .error fault => (.error fault, bench)
  | .ok arguments =>
    let application (reply : Reply) : Application :=
      ⟨tool.name, arguments,
        Argument.fallbackNames tool.declaration.parameters arguments, reply⟩
    match (tool.handler (arguments.map (·.value))).run (Bench.answerUpTo depth) bench with
    | (.error fault, bench) => (.error fault, bench)
    | (.ok (.reply reply), bench) => (.ok (application reply), bench)
    | (.ok (.pending form _), bench) => (.ok (application form.reply), bench)

namespace Step

/-- Takes a step on a bench. -/
def run (step : Step) (bench : Bench) : Except Fault Result × Bench :=
  match step with
  | .register draft handler returned =>
    match draft.check.bind fun declaration => bench.register declaration handler with
    | .error error => (.error error.fault, bench)
    | .ok bench => (.ok (if returned then .flag true else .nothing), bench)
  | .remove tool =>
    let (removed, bench) := bench.remove tool
    (.ok (.flag removed), bench)
  | .find tool => (.ok (.declaration ((bench.catalog.find? tool).map (·.declaration))), bench)
  | .contains tool =>
    (.ok (.flags (bench.catalog.find? tool).isSome (bench.catalog.contains tool)), bench)
  | .size => (.ok (.sizes bench.catalog.size bench.catalog.size), bench)
  | .functionSchemas => (.ok (.documents bench.catalog.functionSchemas), bench)
  | .toolSchemas => (.ok (.documents bench.catalog.toolSchemas), bench)
  | .describe => (.ok (.text bench.catalog.describe), bench)
  | .summary => (.ok (.text bench.catalog.summary), bench)
  | .call mode tool args =>
    let (result, bench) := callTool mode tool args bench
    (result.map .observation, bench)
  | .callCancelled tool args =>
    let (result, bench) := callAndCancel tool args bench
    (result.map .observation, bench)
  | .applyDirectly name args =>
    match bench.catalog.find? name with
    | none => (.ok (.application none), bench)
    | some tool =>
      let (result, bench) := applyTool tool args bench
      (result.map fun application => .application (some application), bench)
  | .change settings => (.ok .nothing, { bench with settings := settings.apply bench.settings })
  | .isStrict => (.ok (.flag bench.catalog.strict), bench)
  | .setStrict strict =>
    (.ok .nothing, { bench with catalog := { bench.catalog with strict } })

/-- Takes a step with an empty log. -/
def entry (step : Step) (bench : Bench) : Entry × Bench :=
  let (result, bench) := step.run { bench with log := [], deliveries := [] }
  (⟨result, bench.log, bench.deliveries, some bench.catalog.names⟩, bench)

end Step

/-- Takes one step after the other. -/
def steps : List Step → Bench → List Entry
  | [], _ => []
  | step :: rest, bench =>
    let (entry, bench) := step.entry bench
    entry :: steps rest bench

/-- How the bench of a session is set up. -/
inductive Setup where
  | fresh (strict : Option Bool) (tools : List (Declaration.Draft × Option Handler))
  | demo

/-- Registers tools one after the other, up to the first refusal. -/
def registerAll (bench : Bench) : List (Declaration × Option Handler) →
    Except RegistrationError Unit × Bench
  | [] => (.ok (), bench)
  | (declaration, handler) :: rest =>
    match bench.register declaration handler with
    | .error error => (.error error, bench)
    | .ok bench => registerAll bench rest

/-- Sets up a bench. All declarations are checked before the first tool is registered. -/
def Setup.run (settings : Settings) : Setup → Except RegistrationError Unit × Bench
  | .demo =>
    match Demo.bench settings with
    | .ok bench => (.ok (), bench)
    | .error error => (.error error, .start settings none)
  | .fresh strict tools =>
    let bench := Bench.start settings strict
    match tools.mapM fun entry => entry.1.check.map fun declaration => (declaration, entry.2) with
    | .error error => (.error error, bench)
    | .ok tools => registerAll bench tools

/-- The entries of a session, the setup first. Without a bench there are no steps. -/
def run (settings : Settings) (setup : Setup) (script : List Step) : List Entry :=
  match setup.run settings with
  | (.error error, bench) => [⟨.error error.fault, bench.log, bench.deliveries, none⟩]
  | (.ok (), bench) =>
    ⟨.ok .nothing, bench.log, bench.deliveries, some bench.catalog.names⟩ :: steps script bench

end Toolbench.Session
