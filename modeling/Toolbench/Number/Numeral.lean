import Toolbench.Number.Decimal
import Toolbench.Text.Digit

/-! Numerals as they are read. A digit group is one or more digits of any script with at most
single underscores between two of them. An integer numeral is an optional sign and a group; a
decimal numeral may have a fraction after a point and an exponent of ten, and needs a digit
before or after the point. -/

namespace Toolbench.Numeral

/-- The digits that continue a group, and the text after it. -/
def moreDigits : List Char → List Nat × List Char
  | [] => ([], [])
  | '_' :: c :: text =>
    match Text.digitValue? c with
    | some d => let (ds, rest) := moreDigits text; (d :: ds, rest)
    | none => ([], '_' :: c :: text)
  | c :: text =>
    match Text.digitValue? c with
    | some d => let (ds, rest) := moreDigits text; (d :: ds, rest)
    | none => ([], c :: text)

/-- A digit group at the start of a text, and the text after it; no digits when there is none. -/
def group : List Char → List Nat × List Char
  | [] => ([], [])
  | c :: text =>
    match Text.digitValue? c with
    | some d => let (ds, rest) := moreDigits text; (d :: ds, rest)
    | none => ([], c :: text)

/-- Whether a text starts with a minus sign, and the text after its sign. -/
def sign : List Char → Bool × List Char
  | '-' :: text => (true, text)
  | '+' :: text => (false, text)
  | text => (false, text)

def signed (negative : Bool) (n : Nat) : Int :=
  if negative then -(n : Int) else n

/-- The greatest number of digits that integers are read and written with. -/
def digitLimit : Nat := 4300

/-- The integer that a numeral within the digit limit denotes. -/
def integer? (text : List Char) : Option Int :=
  let (negative, body) := sign text
  match group body with
  | ([], _) => none
  | (digits, []) =>
    if digits.length ≤ digitLimit then some (signed negative (Text.ofDigits digits)) else none
  | _ => none

/-- The fraction digits after a point, if the text starts with one. -/
def fraction : List Char → List Nat × List Char
  | '.' :: text => group text
  | text => ([], text)

/-- The exponent of ten at the end of a text; nothing stands for zero. -/
def exponent? : List Char → Option Int
  | [] => some 0
  | c :: text =>
    if c = 'e' ∨ c = 'E' then
      let (negative, body) := sign text
      match group body with
      | ([], _) => none
      | (digits, []) => some (signed negative (Text.ofDigits digits))
      | _ => none
    else none

/-- The sign and the decimal fraction that a decimal numeral denotes. -/
def decimal? (text : List Char) : Option (Bool × Decimal) :=
  let (negative, body) := sign text
  let (whole, afterWhole) := group body
  let (part, afterPart) := fraction afterWhole
  if whole ++ part = [] then none
  else
    (exponent? afterPart).map fun exponent =>
      (negative, ⟨Text.ofDigits (whole ++ part), exponent - part.length⟩)

end Toolbench.Numeral
