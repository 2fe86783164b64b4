import Toolbench.Demo
import Toolbench.Settings.Sources

/-! The command: reads the settings from the environment and from the file `.env`, and runs the
demonstration. The log goes to the standard error, from the level that the settings name on. -/

namespace Toolbench.Main

/-- The weight of a level by its name; a record is shown when it weighs no less. -/
def weight (level : String) : Nat :=
  ([("CRITICAL", 50), ("FATAL", 50), ("ERROR", 40), ("WARN", 30), ("WARNING", 30), ("INFO", 20),
    ("DEBUG", 10)] : List (String × Nat)).lookup level |>.getD 0

def levelName : Level → String
  | .info => "INFO"
  | .warning => "WARNING"
  | .error => "ERROR"

/-- The record of an event, if the level lets it through. -/
def shown? (level : String) (event : Event) : Option String :=
  if weight level ≤ weight (levelName event.level) then
    some (levelName event.level ++ ":" ++ event.message)
  else none

/-- The variables of the environment that settings come from. -/
def environment : IO (List (String × String)) := do
  Settings.Key.all.filterMapM fun key => do
    let name := (Settings.scope ++ key.name).map Char.toUpper
    return (← IO.getEnv name).map fun value => (name, value)

def file : IO (Option String) := do
  try
    return some (← IO.FS.readFile ".env")
  catch _ =>
    return none

end Toolbench.Main

open Toolbench in
def main : IO UInt32 := do
  match Settings.load ⟨[], ← Main.environment, ← Main.file⟩ with
  | .error problems =>
    for (key, problem) in problems do
      IO.eprintln (key.name ++ ": " ++ problem.name)
    return 1
  | .ok settings =>
    let draws ← Demo.ranges.mapM fun range => IO.rand range.1 range.2
    match Demo.run settings (draws.getD 0 0) (draws.getD 1 0) with
    | .error fault =>
      IO.eprintln (fault.kind.name ++ ": " ++ (fault.text?.getD ""))
      return 1
    | .ok (output, log) =>
      for record in log.filterMap (Main.shown? settings.logLevel) do
        IO.eprintln record
      IO.print output
      return 0
