import Toolbench.Value.Basic
import Toolbench.Number.Layout
import Toolbench.Number.Numeral
import Toolbench.Text.Quoted

/-! The texts of a value. `text` is what a reader sees: a string stands for itself. `quoted` shows
strings in their quoted form, and is how the parts of a list, tuple or mapping are shown. To write
an integer beyond the digit limit is a fault, and so it is to write a value that holds one. -/

namespace Toolbench

namespace Value

/-- Floating-point numbers are written in full from `0.0001` up to sixteen digits before the
point, and exponents have at least two digits. -/
def layout : Layout := ⟨-3, 16, 2⟩

/-- The magnitudes of the integers that have a text lie below this bound. -/
def magnitudeBound : Nat := Nat.pow 10 Numeral.digitLimit

/-- The decimal text of an integer, within the digit limit. -/
def integerText (n : Int) : Except Fault String :=
  if n.natAbs < magnitudeBound then .ok (toString n) else .error .digitLimit

/-- Items between brackets, with a comma and a space between two of them. -/
def bracketed (opening closing : String) (items : List String) : String :=
  opening ++ ", ".intercalate items ++ closing

/-- A tuple of one item has a comma after it. -/
def tupleText : List String → String
  | [item] => "(" ++ item ++ ",)"
  | items => bracketed "(" ")" items

mutual

def quoted : Value → Except Fault String
  | .null => .ok "None"
  | .bool b => .ok (if b then "True" else "False")
  | .int n => integerText n
  | .float x => .ok (String.ofList (layout.write x))
  | .str s => .ok (String.ofList (Text.quoted s.toList))
  | .list items => (quotedItems items).map (bracketed "[" "]")
  | .tuple items => (quotedItems items).map tupleText
  | .dict entries => (quotedEntries entries).map (bracketed "\x7b" "\x7d")
  | .object _ _ quoted => quoted

def quotedItems : List Value → Except Fault (List String)
  | [] => .ok []
  | item :: items => do
    let first ← quoted item
    let rest ← quotedItems items
    return first :: rest

def quotedEntries : List (Value × Value) → Except Fault (List String)
  | [] => .ok []
  | (key, value) :: entries => do
    let first ← quoted key
    let second ← quoted value
    let rest ← quotedEntries entries
    return (first ++ ": " ++ second) :: rest

end

def text : Value → Except Fault String
  | .str s => .ok s
  | .object _ text _ => text
  | v => v.quoted

def text? (v : Value) : Option String :=
  v.text.toOption

end Value

/-- The fault of a kind that carries a value, which explains it by its text. A missing key is
shown quoted. -/
def Fault.carrying (kind : FaultKind) (value : Value) : Fault :=
  .ofText kind (if kind = .missingKey then value.quoted else value.text)

end Toolbench
