import Toolbench.Reader.Standard

/-! Readers for particular uses, beside the standard ones. -/

namespace Toolbench.Stock

/-- The integer that a numeral denotes. A numeral beyond the digit limit is refused with the number
of its digits, and any other text with the beginning of its quoted form. -/
def integer (text : String) : Except Fault Int :=
  let (negative, body) := Numeral.sign (Text.trim text.toList)
  match Numeral.group body with
  | (digit :: digits, []) =>
    if (digit :: digits).length ≤ Numeral.digitLimit then
      .ok (Numeral.signed negative (Text.ofDigits (digit :: digits)))
    else .error (.longNumeral (digit :: digits).length)
  | _ =>
    .error (.message .badValue ("invalid literal for int() with base 10: " ++
      String.ofList ((Text.quoted text.toList).take 200)))

/-- Integers between commas. -/
def integers (text : String) : Except Fault Value :=
  ((text.toList.splitOn ',').mapM fun piece => integer (String.ofList piece)).map
    fun ns => .list (ns.map .int)

/-- The value that a table has for a text, or the fault that comes up when it is made; a text that
is not in the table is a missing key. Of two entries for one text the later counts. -/
def lookup (table : List (String × Except Fault Value)) (text : String) : Except Fault Value :=
  (table.reverse.lookup text).getD (.error (.carrying .missingKey (.str text)))

/-- The text between angle brackets. -/
def bracketed (text : String) : Except Fault Value :=
  .ok (.str ("<" ++ text ++ ">"))

end Toolbench.Stock
