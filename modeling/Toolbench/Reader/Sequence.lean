import Toolbench.Declaration.Basic
import Toolbench.Event

/-! Reading a list of arguments. Arguments belong to parameters by position, and reading stops
where either list ends. Each fallback is logged; the first fault ends the reading, and nothing
after it is read. -/

namespace Toolbench

/-- The events that one argument leaves in the log: one when its fallback was used. -/
def Parameter.notices (p : Parameter) (raw : Value) (argument : Argument) :
    Except Fault (List Event) :=
  if argument.defaulted then do
    let shown ← raw.quoted
    let fallback ← argument.value.quoted
    return [.defaulted p.name p.label shown fallback]
  else .ok []

/-- Reads one argument for a parameter. -/
def Parameter.read (p : Parameter) (raw : Value) : Except Fault (Argument × List Event) := do
  let argument ← p.reader.read raw
  let events ← p.notices raw argument
  return (argument, events)

namespace Argument

/-- Reads arguments for parameters: the events logged, and the arguments or the first fault. -/
def readAll : List Parameter → List Value → List Event × Except Fault (List Argument)
  | p :: parameters, raw :: raws =>
    match p.read raw with
    | .error fault => ([], .error fault)
    | .ok (argument, events) =>
      let rest := readAll parameters raws
      (events ++ rest.1, rest.2.map (argument :: ·))
  | _, _ => ([], .ok [])

/-- The names of the parameters whose argument is a fallback. -/
def fallbackNames (parameters : List Parameter) (arguments : List Argument) : List String :=
  ((parameters.zip arguments).filter (·.2.defaulted)).map (·.1.name)

end Argument

end Toolbench
