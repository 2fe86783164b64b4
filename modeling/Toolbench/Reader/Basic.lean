import Toolbench.Value.Text

/-! Readers turn the text of an argument into a value. A text that a reader rejects does not
stop a call: the reader's fallback stands in for it, and the argument remembers that. Any other
fault of a reader passes through. -/

namespace Toolbench

/-- A reader has a label for what it reads, the reading itself, and the value that stands in for
a rejected text. -/
structure Reader where
  label : String
  parse : String → Except Fault Value
  fallback : Except Fault Value

/-- An argument after reading. -/
structure Argument where
  text : String
  value : Value
  defaulted : Bool

namespace Reader

/-- A reader whose only fault is rejection. -/
def ofPartial (label : String) (parse : String → Option Value) (fallback : Value) : Reader where
  label := label
  parse text := ((parse text).map Except.ok).getD (.error (.bare .badValue))
  fallback := .ok fallback

/-- Reads an argument. A value that is no string is read by its text. -/
def read (reader : Reader) (raw : Value) : Except Fault Argument :=
  match raw.text with
  | .error fault => .error fault
  | .ok text =>
    match reader.parse text with
    | .ok value => .ok ⟨text, value, false⟩
    | .error fault =>
      if fault.kind.isRejection then
        match reader.fallback with
        | .ok value => .ok ⟨text, value, true⟩
        | .error fault => .error fault
      else .error fault

end Reader

end Toolbench
