import Toolbench.Declaration.Basic
import Toolbench.Observation

/-! Scripts: what a tool does with the arguments it receives. A script ends with a reply or a
fault. On the way it may work on the catalog that it was called from and call other tools in it;
what it does next depends on the answer. A direct script may put off its work to an awaited one,
which alone can wait for a call, for the next turn of the others, or for its cancellation. -/

namespace Toolbench

/-- How the answer of a call is obtained: at once, or by waiting for it. -/
inductive Mode where
  | direct | awaited
deriving DecidableEq, Repr

/-- The forms of work that is put off: a coroutine, or an object that hands out a generator to
whoever waits for it. -/
inductive Deferral where
  | coroutine | generator
deriving DecidableEq, Repr

namespace Deferral

def name : Deferral → String
  | .coroutine => "coroutine"
  | .generator => "generator"

/-- The type name of the object that stands for the work. -/
def typeName : Deferral → String
  | .coroutine => "coroutine"
  | .generator => "Awaitable"

/-- Work that nobody waits for, as what a tool returns. -/
def reply (form : Deferral) : Reply :=
  .object form.typeName (.ok ("<" ++ form.typeName ++ " object>"))

end Deferral

inductive Script : Mode → Type where
  | finish {mode : Mode} (reply : Reply) : Script mode
  | fail {mode : Mode} (fault : Fault) : Script mode
  /-- Ends at once; the work is done when someone waits for it. -/
  | postpone (form : Deferral) (work : Script .awaited) : Script .direct
  /-- Notes the arguments that the script was started with. -/
  | deliver {mode : Mode} (values : List Value) (next : Script mode) : Script mode
  | register {mode : Mode} (declaration : Declaration) (handler : List Value → Script .direct)
      (next : Option RegistrationError → Script mode) : Script mode
  | remove {mode : Mode} (tool : String) (next : Bool → Script mode) : Script mode
  | list {mode : Mode} (next : List String → Script mode) : Script mode
  | call {mode : Mode} (tool : String) (values : List Value)
      (next : Except Fault Observation → Script mode) : Script mode
  | await (tool : String) (values : List Value)
      (next : Except Fault Observation → Script .awaited) : Script .awaited
  /-- Lets the others take a turn. -/
  | pause (next cancelled : Script .awaited) : Script .awaited
  /-- Waits for nothing but its cancellation. -/
  | park (cancelled : Script .awaited) : Script .awaited

/-- What is registered for a tool: a script for every list of arguments. The script depends on the
arguments and on the answers that it is given, and on nothing else: a handler keeps no state of
its own. A reply may be an observation, but an argument is a value and a fault has a text, so of
an observation these take on no more than what is said of it. -/
abbrev Handler := List Value → Script .direct

/-- A declared tool with its handler. -/
structure Tool where
  declaration : Declaration
  handler : Handler

def Tool.name (tool : Tool) : String :=
  tool.declaration.name

end Toolbench
