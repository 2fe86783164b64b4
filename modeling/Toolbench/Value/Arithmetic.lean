import Toolbench.Value.Basic

/-! Arithmetic on values. Truth values count as zero and one, whole numbers are exact, and an
operation with a floating-point operand takes place among the floating-point numbers. Sums join
two strings, two lists or two tuples; a product repeats a string, a list or a tuple. -/

namespace Toolbench.Value

/-- An operand of floating-point arithmetic; a whole number beyond its range is a fault. -/
def toFloat (n : Int) : Except Fault Binary64 :=
  match Binary64.ofInt n with
  | .infinite _ => .error (.message .overflow "int too large to convert to float")
  | x => .ok x

/-- Two numbers brought to one kind: both whole, or both floating-point. -/
inductive Operands where
  | whole (a b : Int)
  | float (a b : Binary64)

/-- The operands of a numeric operation; nothing when one of them is not a number. -/
def operands? : Value → Value → Option (Except Fault Operands)
  | .float a, .float b => some (.ok (.float a b))
  | .float a, b => b.wholeNumber?.map fun n => (toFloat n).map (.float a)
  | a, .float b => a.wholeNumber?.map fun n => (toFloat n).map (.float · b)
  | a, b =>
    match a.wholeNumber?, b.wholeNumber? with
    | some m, some n => some (.ok (.whole m n))
    | _, _ => none

def unsupported (operator : String) (a b : Value) : Fault :=
  .message .badType ("unsupported operand type(s) for " ++ operator ++ ": '" ++ a.typeName ++
    "' and '" ++ b.typeName ++ "'")

def cannotJoin (a b : Value) : Fault :=
  .message .badType ("can only concatenate " ++ a.typeName ++ " (not \"" ++ b.typeName ++
    "\") to " ++ a.typeName)

/-- The sum of two numbers, or two sequences of one kind joined. -/
def add (a b : Value) : Except Fault Value :=
  match operands? a b with
  | some operands => operands.map fun
    | .whole m n => .int (m + n)
    | .float x y => .float (x.add y)
  | none =>
    match a, b with
    | .str s, .str t => .ok (.str (s ++ t))
    | .list s, .list t => .ok (.list (s ++ t))
    | .tuple s, .tuple t => .ok (.tuple (s ++ t))
    | .str _, _ | .list _, _ | .tuple _, _ => .error (cannotJoin a b)
    | _, _ => .error (unsupported "+" a b)

/-- The sum of all values, from a whole zero on. -/
def sum (values : List Value) : Except Fault Value :=
  values.foldlM add (.int 0)

/-- The greatest length of a sequence. -/
def lengthBound : Nat := Nat.pow 2 63 - 1

/-- The length from which on a repeated sequence is too large to be held. -/
def storageBound : Nat := Nat.pow 2 36

/-- How often a sequence of the given length is repeated by a factor. A factor below zero
counts as zero. -/
def repetitions (length : Nat) (tooLong : Fault) (factor : Int) : Except Fault Nat :=
  if factor < -Int.pow 2 63 ∨ Int.pow 2 63 ≤ factor then
    .error (.message .overflow "cannot fit 'int' into an index-sized integer")
  else if lengthBound < length * factor.toNat then .error tooLong
  else if storageBound < length * factor.toNat then .error (.bare .outOfMemory)
  else .ok (if length = 0 then 0 else factor.toNat)

def repeated {α : Type} (items : List α) (times : Nat) : List α :=
  (List.replicate times items).flatten

/-- A sequence repeated by a factor; nothing for a value that is no sequence. -/
def repeat? (sequence factor : Value) : Option (Except Fault Value) :=
  let scaled (length : Nat) (tooLong : Fault) (make : Nat → Value) : Except Fault Value :=
    match factor.wholeNumber? with
    | some n => (repetitions length tooLong n).map make
    | none => .error (.message .badType
        ("can't multiply sequence by non-int of type '" ++ factor.typeName ++ "'"))
  match sequence with
  | .str s => some <| scaled s.length (.message .overflow "repeated string is too long")
      fun times => .str (String.ofList (repeated s.toList times))
  | .list items => some <| scaled items.length (.bare .outOfMemory)
      fun times => .list (repeated items times)
  | .tuple items => some <| scaled items.length (.bare .outOfMemory)
      fun times => .tuple (repeated items times)
  | _ => none

/-- The product of two numbers, or a sequence repeated. -/
def mul (a b : Value) : Except Fault Value :=
  match operands? a b with
  | some operands => operands.map fun
    | .whole m n => .int (m * n)
    | .float x y => .float (x.mul y)
  | none =>
    match repeat? a b, repeat? b a with
    | some product, _ => product
    | none, some product => product
    | none, none => .error (unsupported "*" a b)

/-- The quotient of two numbers, always a floating-point number. -/
def div (a b : Value) : Except Fault Value :=
  match operands? a b with
  | some operands => operands.bind fun
    | .whole m n =>
      if n = 0 then .error (.message .zeroDivision "division by zero")
      else
        match Binary64.ofQuotient ((m < 0) != (n < 0)) m.natAbs n.natAbs with
        | .infinite _ =>
          .error (.message .overflow "integer division result too large for a float")
        | x => .ok (.float x)
    | .float x y =>
      if y.IsZero then .error (.message .zeroDivision "float division by zero")
      else .ok (.float (x.div y))
  | none => .error (unsupported "/" a b)

/-- The number of characters, items or entries. -/
def length : Value → Except Fault Nat
  | .str s => .ok s.length
  | .list items | .tuple items => .ok items.length
  | .dict entries => .ok entries.length
  | v => .error (.message .badType ("object of type '" ++ v.typeName ++ "' has no len()"))

end Toolbench.Value
