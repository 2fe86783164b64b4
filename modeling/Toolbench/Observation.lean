import Toolbench.Value.Text
import Toolbench.Settings.Basic

/-! Observations: what a call reports. The text of an observation is meant for the reader of a
conversation, and its outcome tells the cases apart without it. -/

namespace Toolbench

inductive Outcome where
  | success | unknownTool | wrongArity | failure
deriving DecidableEq, Repr

/-- What a tool returns: plain data, an object of some type that has a text of its own or fails
to give one, or the observation of a nested call. -/
inductive Reply where
  | data (value : Value)
  | object (typeName : String) (text : Except Fault String)
  | observation (tool : String) (outcome : Outcome) (text : String) (reply : Reply)
      (fallbacks : List String) (error : Option String)

structure Observation where
  tool : String
  outcome : Outcome
  text : String
  reply : Reply
  fallbacks : List String
  error : Option String

namespace Reply

def text : Reply → Except Fault String
  | .data value => value.text
  | .object _ text => text
  | .observation _ _ text _ _ _ => .ok text

end Reply

namespace Outcome

/-- The public name of an outcome. -/
def name : Outcome → String
  | .success => "success"
  | .unknownTool => "not_found"
  | .wrongArity => "arity_mismatch"
  | .failure => "handler_failure"

end Outcome

namespace Observation

/-- An observation as what a tool returns. -/
def toReply (o : Observation) : Reply :=
  .observation o.tool o.outcome o.text o.reply o.fallbacks o.error

/-- No tool of that name is known. -/
def unknownTool (settings : Settings) (tool : String) : Observation where
  tool := tool
  outcome := .unknownTool
  text := settings.preamble ++ "Error. No tool named '" ++ tool ++
    "' found in the tools registry."
  reply := .data .null
  fallbacks := []
  error := none

/-- The tool takes another number of arguments. -/
def wrongArity (settings : Settings) (tool : String) (expected given : Int) : Observation where
  tool := tool
  outcome := .wrongArity
  text := settings.preamble ++ "Error using tool named '" ++ tool ++ "'. The tool '" ++ tool ++
    "' expects " ++ toString expected ++ " arguments, but " ++ toString given ++ " were given."
  reply := .data .null
  fallbacks := []
  error := none

/-- The same for counts of any size, which may be beyond the digit limit. -/
def ofCounts (settings : Settings) (tool : String) (expected given : Int) :
    Except Fault Observation := do
  let _ ← (Value.int expected).text
  let _ ← (Value.int given).text
  return wrongArity settings tool expected given

/-- The remark on the parameters whose argument was replaced, at the end of a text. -/
def warning (settings : Settings) (fallbacks : List String) : String :=
  if fallbacks ≠ [] ∧ settings.reportFallbacks then
    " (warning: could not parse arguments " ++ ", ".intercalate fallbacks ++
      "; default values were used)"
  else ""

/-- The tool returned; the fault is that of a reply without a text. -/
def success (settings : Settings) (tool : String) (reply : Reply) (fallbacks : List String) :
    Except Fault Observation :=
  reply.text.map fun text =>
    { tool := tool
      outcome := .success
      text := settings.preamble ++ "the tool '" ++ tool ++ "' returned: " ++ text ++
        warning settings fallbacks
      reply := reply
      fallbacks := fallbacks
      error := none }

/-- The tool failed; the fault is that of a fault without a text. -/
def failure (settings : Settings) (tool : String) (fault : Fault)
    (fallbacks : List String) : Except Fault Observation :=
  fault.text.map fun text =>
    let reason := fault.kind.name ++ ": " ++ text
    { tool := tool
      outcome := .failure
      text := settings.preamble ++ "Error using tool named '" ++ tool ++ "'. The tool '" ++ tool ++
        "' failed: " ++ reason
      reply := .data .null
      fallbacks := fallbacks
      error := some reason }

end Observation

end Toolbench
