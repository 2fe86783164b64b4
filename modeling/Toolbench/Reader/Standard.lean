import Toolbench.Reader.Basic
import Toolbench.Text.Blank
import Toolbench.Text.LetterCase

/-! The four standard readers and the labels that name them. All but the string reader pass over
blanks at the two ends of a text. -/

namespace Toolbench.Reader

def trueWords : List String := ["true", "1", "yes"]

def falseWords : List String := ["false", "0", "no"]

/-- The truth value of a word. -/
def truth? (text : List Char) : Option Bool :=
  if Text.isWord trueWords text then some true
  else if Text.isWord falseWords text then some false
  else none

/-- The finite number nearest to a decimal numeral, if there is one. -/
def number? (text : List Char) : Option Binary64 := do
  let (negative, d) ← Numeral.decimal? text
  match d.toBinary64 negative with
  | .finite negative rank => some (.finite negative rank)
  | _ => none

/-- Every text stands for itself. -/
def string : Reader :=
  .ofPartial "string" (fun text => some (.str text)) (.str "")

def integer : Reader :=
  .ofPartial "integer" (fun text => (Numeral.integer? (Text.trim text.toList)).map .int) (.int 0)

def number : Reader :=
  .ofPartial "number" (fun text => (number? (Text.trim text.toList)).map .float)
    (.float (.zero false))

def boolean : Reader :=
  .ofPartial "boolean" (fun text => (truth? (Text.trim text.toList)).map .bool) (.bool false)

/-- The words of a type label that name a reader other than the string reader. -/
def labels : List (List String × Reader) :=
  [(["integer", "int"], integer), (["number", "float", "double"], number),
   (["boolean", "bool"], boolean)]

/-- The reader that a type label names, and the string reader for a label that names none. -/
def ofLabel (label : String) : Reader :=
  ((labels.find? fun entry => Text.isWord entry.1 (Text.trim label.toList)).map (·.2)).getD
    string

end Toolbench.Reader
