import LogDiagram.Unicode.Ranges

/-!
# Sets of characters as ranges of bytes

In UTF-8 a range of characters is a union of rectangles: a range for the first byte, one for the second byte, and so on.
`byteRanges` cuts a range of characters into such rectangles, in ascending order.
-/

namespace LogDiagram.Regex.Size

open Unicode (Ranges)

/-- A range of bytes, both ends included. -/
structure ByteRange where
  first : Nat
  last : Nat
  deriving DecidableEq, Repr

/-- The bytes of a character in UTF-8. -/
def encode (n : Nat) : List Nat :=
  if n < 0x80 then [n]
  else if n < 0x800 then [0xC0 + n / 64, 0x80 + n % 64]
  else if n < 0x10000 then [0xE0 + n / 4096, 0x80 + n / 64 % 64, 0x80 + n % 64]
  else [0xF0 + n / 262144, 0x80 + n / 4096 % 64, 0x80 + n / 64 % 64, 0x80 + n % 64]

/-- Where a range has to be cut so that its parts begin and end with blocks of the given length. -/
def blockCut? (first last block : Nat) : Option Nat :=
  if first / block = last / block then none
  else if first % block ≠ 0 then some (first / block * block + block - 1)
  else if last % block ≠ block - 1 then some (last / block * block - 1)
  else none

/--
The last character in front of the place where a range has to be cut: at the surrogates, where the number of bytes
changes, or where not all continuation bytes can follow a lead.
-/
def cut? (first last : Nat) : Option Nat :=
  if first < 0xE000 ∧ 0xD7FF < last then some 0xD7FF
  else
    match [0x7F, 0x7FF, 0xFFFF].find? fun limit => first ≤ limit && limit < last with
    | some limit => some limit
    | none => if last ≤ 0x7F then none else [64, 4096, 262144].findSome? (blockCut? first last)

/-- The parts of a range that need not be cut. -/
def rectangles (first last : Nat) : List (Nat × Nat) :=
  match cut? first last with
  | none => [(first, last)]
  | some p =>
    if _h : first ≤ p ∧ p < last then rectangles first p ++ rectangles (Ranges.next p) last
    else [(first, last)]
termination_by last - first
decreasing_by
  · omega
  · simp only [Ranges.next]
    split <;> omega

/-- The ranges of bytes, one for each byte, that write the characters of a part. -/
def byteRange (part : Nat × Nat) : List ByteRange := List.zipWith ByteRange.mk (encode part.1) (encode part.2)

def byteRanges (set : Ranges) : List (List ByteRange) :=
  set.flatMap fun (first, last) => (rectangles first last).map byteRange

end LogDiagram.Regex.Size
