import LogDiagram.Text.Basic

/-!
# White space around a text

`Char.isBlank` is the Unicode property White_Space, and `Text.trimmed` takes blanks from both ends of a text.
-/

namespace LogDiagram

/-- The Unicode property White_Space. -/
def isBlank (c : Char) : Bool :=
  let n := c.toNat
  (9 ≤ n && n ≤ 13) || n == 0x20 || n == 0x85 || n == 0xA0 || n == 0x1680 || (0x2000 ≤ n && n ≤ 0x200A) ||
    n == 0x2028 || n == 0x2029 || n == 0x202F || n == 0x205F || n == 0x3000

namespace Text

def trimmedLeft (t : Text) : Text := t.dropWhile isBlank

def trimmedRight (t : Text) : Text := (t.reverse.dropWhile isBlank).reverse

/-- A text without the blanks at both ends. -/
def trimmed (t : Text) : Text := t.trimmedLeft.trimmedRight

def isAllBlank (t : Text) : Bool := t.all isBlank

end Text

end LogDiagram
