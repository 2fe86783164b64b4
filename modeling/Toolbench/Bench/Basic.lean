import Toolbench.Catalog

/-! A bench is a catalog at work: its settings, its log, the arguments that handlers were started
with, and the turns that are left until the running task is cancelled, if it is to be. -/

namespace Toolbench

structure Bench where
  catalog : Catalog
  settings : Settings
  log : List Event
  deliveries : List (List Value)
  cancelAfter : Option Nat

namespace Bench

/-- A bench with nothing on it; it is strict when the settings or the caller say so. -/
def start (settings : Settings) (strict : Option Bool) : Bench :=
  ⟨.empty (strict.getD settings.strictRegistration), settings, [], [], none⟩

def record (bench : Bench) (events : List Event) : Bench :=
  { bench with log := bench.log ++ events }

def deliver (bench : Bench) (values : List Value) : Bench :=
  { bench with deliveries := bench.deliveries ++ [values] }

/-- Registers a tool; a refused registration leaves the bench as it was. -/
def register (bench : Bench) (declaration : Declaration) (handler : Option Handler) :
    Except RegistrationError Bench :=
  (bench.catalog.register declaration handler).map fun (catalog, events) =>
    { bench with catalog }.record events

/-- Removes a tool, and says whether there was one of that name. -/
def remove (bench : Bench) (tool : String) : Bool × Bench :=
  if bench.catalog.contains tool then
    (true, { bench with catalog := bench.catalog.erase tool }.record [.removed tool])
  else (false, bench)

end Bench

end Toolbench
