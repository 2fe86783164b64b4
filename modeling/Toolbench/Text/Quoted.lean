import Toolbench.Text.Printable

/-! The quoted form of a text, which shows every character of it in printable ones. The text
stands between apostrophes, or between quotation marks when it holds an apostrophe and no
quotation mark. A backslash marks the delimiter, a backslash, the three usual line and column
controls and, by a hexadecimal code of the least width that fits, every unprintable character. -/

namespace Toolbench.Text

/-- The `width` lowest hexadecimal digits of a number, the highest first. -/
def hexadecimal (width n : Nat) : List Char :=
  match width with
  | 0 => []
  | width + 1 => hexadecimal width (n / 16) ++ [Nat.digitChar (n % 16)]

theorem length_hexadecimal (width n : Nat) : (hexadecimal width n).length = width := by
  induction width generalizing n with
  | zero => rfl
  | succ width ih => simp [hexadecimal, ih]

/-- How one character is written between the given delimiters. -/
def escaped (delimiter c : Char) : List Char :=
  if c = delimiter ∨ c = '\x5c' then ['\x5c', c]
  else if c = '\t' then ['\x5c', 't']
  else if c = '\n' then ['\x5c', 'n']
  else if c = '\r' then ['\x5c', 'r']
  else if isPrintable c then [c]
  else if c.toNat < 0x100 then '\x5c' :: 'x' :: hexadecimal 2 c.toNat
  else if c.toNat < 0x10000 then '\x5c' :: 'u' :: hexadecimal 4 c.toNat
  else '\x5c' :: 'U' :: hexadecimal 8 c.toNat

/-- The character that stands at both ends of the quoted form. -/
def delimiter (text : List Char) : Char :=
  if '\x27' ∈ text ∧ '\x22' ∉ text then '\x22' else '\x27'

def quoted (text : List Char) : List Char :=
  delimiter text :: text.flatMap (escaped (delimiter text)) ++ [delimiter text]

end Toolbench.Text
