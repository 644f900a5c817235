import LogDiagram.Text.Basic

/-!
# Hexadecimal numbers

Formats name characters by numbers in hexadecimal digits, which may be written with letters of either case.

* `Text.hexNumber?` reads such a number, and `Text.scalar?` gives the character that has it.
-/

namespace LogDiagram.Text

def hexDigit? (c : Char) : Option Nat :=
  if '0' ≤ c ∧ c ≤ '9' then some (c.toNat - '0'.toNat)
  else if 'a' ≤ c ∧ c ≤ 'f' then some (c.toNat - 'a'.toNat + 10)
  else if 'A' ≤ c ∧ c ≤ 'F' then some (c.toNat - 'A'.toNat + 10)
  else none

def hexNumber? (digits : Text) : Option Nat :=
  digits.foldlM (fun n c => (hexDigit? c).map fun d => n * 16 + d) 0

/-- The character with the given number; surrogates have none. -/
def scalar? (n : Nat) : Option Char := if h : n.isValidChar then some (Char.ofNatAux n h) else none

end LogDiagram.Text
