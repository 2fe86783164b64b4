import Toolbench.Fault

/-! Functions of a fixed number of arguments, given by position, of which the last ones may be
left out. Too many or too few arguments are a fault that names the function. -/

namespace Toolbench.Stock

structure Positional where
  name : String
  required : List String
  optional : Nat := 0

namespace Positional

/-- Names in a sentence. -/
def listed : List String → String
  | [] => ""
  | [a] => a
  | [a, b] => a ++ " and " ++ b
  | names => ", ".intercalate names.dropLast ++ ", and " ++ names.getLastD ""

def plural (count : Nat) (noun : String) : String :=
  if count = 1 then noun else noun ++ "s"

/-- The fault of being given more arguments than there are places for. -/
def tooMany (f : Positional) (given : Nat) : Fault :=
  let most := f.required.length + f.optional
  let places :=
    if f.optional = 0 then toString most ++ " positional " ++ plural most "argument"
    else "from " ++ toString f.required.length ++ " to " ++ toString most ++ " positional " ++
      plural most "argument"
  .message .badType (f.name ++ "() takes " ++ places ++ " but " ++ toString given ++
    (if given = 1 then " was" else " were") ++ " given")

/-- The fault of being left without a required argument. -/
def missing (f : Positional) (given : Nat) : Fault :=
  let names := (f.required.drop given).map fun name => "'" ++ name ++ "'"
  .message .badType (f.name ++ "() missing " ++ toString names.length ++ " required positional " ++
    plural names.length "argument" ++ ": " ++ listed names)

/-- The fault of a number of arguments, if it is one. -/
def fault? (f : Positional) (given : Nat) : Option Fault :=
  if f.required.length + f.optional < given then some (f.tooMany given)
  else if given < f.required.length then some (f.missing given)
  else none

/-- A function behind the check of the number of its arguments. -/
def guard {α β : Type} (f : Positional) (body : List α → Except Fault β) (args : List α) :
    Except Fault β :=
  match f.fault? args.length with
  | some fault => .error fault
  | none => body args

end Positional

end Toolbench.Stock
