import Toolbench.Fault
import Toolbench.Number.Binary64

/-! Values: what tools are called with and, mostly, what they return. All but objects are plain
data. A mapping keeps its entries in the order in which their keys first came, and holds no two
equal keys; numbers of different kinds are equal keys when they denote the same number. -/

namespace Toolbench

inductive Value where
  | null
  | bool (b : Bool)
  | int (n : Int)
  | float (x : Binary64)
  | str (s : String)
  | list (items : List Value)
  | tuple (items : List Value)
  | dict (entries : List (Value × Value))
  /-- An object of another type, which makes its two texts itself and may fail to. -/
  | object (typeName : String) (text quoted : Except Fault String)

namespace Value

/-- The name of a value's type in messages. -/
def typeName : Value → String
  | .null => "NoneType"
  | .bool _ => "bool"
  | .int _ => "int"
  | .float _ => "float"
  | .str _ => "str"
  | .list _ => "list"
  | .tuple _ => "tuple"
  | .dict _ => "dict"
  | .object typeName _ _ => typeName

/-- The whole number that a value counts as: a truth value counts as zero or one. -/
def wholeNumber? : Value → Option Int
  | .bool b => some (if b then 1 else 0)
  | .int n => some n
  | _ => none

/-- A finite number in units of the floating-point numbers. -/
def numberUnits? : Value → Option Int
  | .float x => x.units?
  | v => v.wholeNumber?.map (· * Binary64.unitsInOne)

mutual

/-- Two values are the same key of a mapping. -/
def sameKey : Value → Value → Bool
  | .null, .null => true
  | .str s, .str t => s == t
  | .tuple a, .tuple b => sameKeys a b
  | .float (.infinite s), .float (.infinite t) => s == t
  | a, b => a.numberUnits?.isSome && a.numberUnits? == b.numberUnits?

def sameKeys : List Value → List Value → Bool
  | [], [] => true
  | a :: as, b :: bs => sameKey a b && sameKeys as bs
  | _, _ => false

end

/-- Sets the value of a key: a key that is present keeps its place and its first form. -/
def setEntry (entries : List (Value × Value)) (key value : Value) : List (Value × Value) :=
  match entries with
  | [] => [(key, value)]
  | entry :: rest =>
    if entry.1.sameKey key then (entry.1, value) :: rest
    else entry :: setEntry rest key value

/-- The mapping that sets the given entries one after the other. -/
def ofEntries (entries : List (Value × Value)) : Value :=
  .dict (entries.foldl (fun known entry => setEntry known entry.1 entry.2) [])

end Value

end Toolbench
