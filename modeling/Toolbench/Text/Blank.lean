/-! Blank characters, the spaces that stand around a word and count for nothing. `trim` removes
them at both ends of a text, and a text is `Visible` when something is left of it. -/

namespace Toolbench.Text

/-- The code points of the blank characters, as closed ranges. -/
def blankRanges : List (Nat × Nat) :=
  [(0x09, 0x0D), (0x1C, 0x20), (0x85, 0x85), (0xA0, 0xA0), (0x1680, 0x1680), (0x2000, 0x200A),
   (0x2028, 0x2029), (0x202F, 0x202F), (0x205F, 0x205F), (0x3000, 0x3000)]

def isBlank (c : Char) : Bool :=
  blankRanges.any fun range => range.1 ≤ c.toNat && c.toNat ≤ range.2

/-- A text without the blank characters at its two ends. -/
def trim (text : List Char) : List Char :=
  ((text.dropWhile isBlank).reverse.dropWhile isBlank).reverse

/-- A text is visible when one of its characters is not blank. -/
def Visible (text : String) : Prop :=
  text.toList.any (fun c => !isBlank c) = true

instance (text : String) : Decidable (Visible text) :=
  inferInstanceAs (Decidable (_ = true))

theorem visible_iff {text : String} : Visible text ↔ ∃ c ∈ text.toList, isBlank c = false := by
  simp [Visible]

end Toolbench.Text
