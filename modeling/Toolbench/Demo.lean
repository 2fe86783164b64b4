import Toolbench.Bench.Call
import Toolbench.Stock.Handlers

/-! A bench with three tools: a sum, a person, and a sum whose terms may be left out. The
demonstration describes the tools and calls each of them once; two of the arguments are numbers
drawn at random. -/

namespace Toolbench.Demo

/-- A positional function as a handler that leaves no note of its arguments. -/
def quiet (reply : List Value → Except Fault Reply) : Handler := fun values =>
  .ofExcept (reply values)

/-- The sum of two arguments. -/
def sum : List Value → Except Fault Reply :=
  Stock.Positional.guard ⟨"foo", ["a", "b"], 0⟩ fun values =>
    return .data (← (← Stock.argument values 0).add (← Stock.argument values 1))

/-- A person of a name and an age, who is told by both. -/
def person (name age : Value) : Reply :=
  .object "Person" do
    let name ← name.text
    let age ← age.text
    return name ++ " is " ++ age ++ " years old"

def makePerson : List Value → Except Fault Reply :=
  Stock.Positional.guard ⟨"make_person", ["name", "age"], 0⟩ fun values =>
    return person (← Stock.argument values 0) (← Stock.argument values 1)

/-- The sum of two arguments, for which `1` and `-1` stand when they are left out. -/
def sumOfUpToTwo : List Value → Except Fault Reply :=
  Stock.Positional.guard ⟨"add", [], 2⟩ fun values =>
    return .data (← (values[0]?.getD (Value.int 1)).add (values[1]?.getD (Value.int (-1))))

/-- A parameter with nothing to be said about it. -/
def parameter (name label : String) (required : Bool) : Parameter.Draft :=
  ⟨⟨name, label, "", required⟩, none⟩

/-- The three tools, in the order in which they are registered. -/
def tools : List (Declaration.Draft × Handler) :=
  [(⟨"foo", "Adds together two numbers a + b",
      [parameter "a" "integer" true, parameter "b" "integer" true]⟩, quiet sum),
   (⟨"makePerson", "", [parameter "name" "string" true, parameter "age" "integer" true]⟩,
      quiet makePerson),
   (⟨"add", "", [parameter "a" "integer" false, parameter "b" "integer" false]⟩,
      quiet sumOfUpToTwo)]

/-- The bench with the three tools. -/
def bench (settings : Settings) : Except RegistrationError Bench :=
  tools.foldlM
    (fun bench entry => do
      let declaration ← entry.1.check
      bench.register declaration (some entry.2))
    (Bench.start settings none)

/-- The levels that the log can be set to. -/
def levels : List String :=
  ["CRITICAL", "FATAL", "ERROR", "WARN", "WARNING", "INFO", "DEBUG", "NOTSET"]

/-- The ranges, ends included, of the numbers that are drawn. -/
def ranges : List (Nat × Nat) := [(1, 9), (0, 99)]

/-- Calls a tool and gives its observation a line of its own. -/
def printed (tool : String) (args : List Value) (bench : Bench) : Except Fault (String × Bench) :=
  let (result, bench) := Bench.call 0 .direct tool args bench
  result.map fun observation => (observation.text ++ "\n", bench)

/-- What the demonstration prints and what it logs, with the two numbers that were drawn. -/
def run (settings : Settings) (term age : Int) : Except Fault (String × List Event) := do
  if settings.logLevel ∉ levels then
    throw (.message .badValue ("Unknown level: " ++
      String.ofList (Text.quoted settings.logLevel.toList)))
  let bench ← (bench settings).mapError RegistrationError.fault
  let header := "Tool Registry: " ++ bench.catalog.describe ++ "\n"
  let term ← (Value.int term).text
  let (first, bench) ← printed "foo" [.str term, .str "4"] bench
  let age ← (Value.int age).text
  let (second, bench) ← printed "makePerson" [.str "Alice", .str age] bench
  let (third, bench) ← printed "add" [] bench
  return (header ++ first ++ second ++ third, bench.log)

end Toolbench.Demo
