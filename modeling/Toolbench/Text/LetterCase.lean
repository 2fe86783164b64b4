import Toolbench.Text.Capital
import Toolbench.Text.Cased

/-! Letter case. Words are compared in small letters: keywords after folding the ASCII capitals
only, and the words of an argument or a label with every capital made small. -/

namespace Toolbench.Text

/-- A text with its ASCII capitals made small. -/
def fold (text : List Char) : List Char :=
  text.map Char.toLower

/-- `word` is one of the `keywords`, up to ASCII letter case. -/
def isKeyword (keywords : List String) (word : List Char) : Bool :=
  keywords.any fun keyword => keyword.toList == fold word

/-- The small form of a character between two texts, the first of them given from its end. The
dotted capital I becomes an i with a dot of its own, and a capital sigma at the end of a word has
another small form than elsewhere. -/
def smallBetween (before : List Char) (c : Char) (after : List Char) : List Char :=
  if c = '\u0130' then ['i', '\u0307']
  else if c = '\u03a3' ∧ endsWord before after then ['\u03c2']
  else [small c]

/-- The rest of a text in small letters, after what is before it. -/
def lowerAfter (before : List Char) : List Char → List Char
  | [] => []
  | c :: after => smallBetween before c after ++ lowerAfter (c :: before) after

/-- A text in small letters. -/
def lower (text : List Char) : List Char :=
  lowerAfter [] text

/-- `text` in small letters is one of the `words`. -/
def isWord (words : List String) (text : List Char) : Bool :=
  words.any fun word => word.toList == lower text

end Toolbench.Text
