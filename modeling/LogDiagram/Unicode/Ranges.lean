import LogDiagram.Text.Basic

/-!
# Sets of characters as ranges

`Ranges` lists the code points of a set in ascending order, two neighbours with a gap between them, so that each set has
one list. `union`, `inter`, `diff`, `symmDiff` and `compl` work on such lists, and `ofList` puts any list in order.

The tables of this folder write a set in hexadecimal, `41-5A` for a range and `AA` for a single code point, separated
by spaces or line feeds. `Ranges.ofString` reads such a table.
-/

namespace LogDiagram.Unicode

/-- Ranges of code points, both ends included. -/
abbrev Ranges := List (Nat × Nat)

namespace Ranges

/-- A code point lies in one of the ranges; those behind it are not looked at. -/
def contains : Ranges → Nat → Bool
  | [], _ => false
  | (first, last) :: rest, n => first ≤ n && (n ≤ last || contains rest n)

def all : Ranges := [(0, 0x10FFFF)]

def ascii : Ranges := [(0, 0x7F)]

/-- The set of one code point. -/
def single (n : Nat) : Ranges := [(n, n)]

/-! ## Neighbours -/

/-- The character behind another one; surrogates are no characters. -/
def next (n : Nat) : Nat := if n = 0xD7FF then 0xE000 else n + 1

/-- The character in front of another one; surrogates are no characters. -/
def previous (n : Nat) : Nat := if n = 0xE000 then 0xD7FF else n - 1

/-! ## Lists in order -/

/-- Ascending ranges with those joined that meet or overlap; the range from `first` to `last` may still grow. -/
def joinFrom (first last : Nat) : Ranges → Ranges
  | [] => [(first, last)]
  | (a, b) :: rest =>
    if a ≤ last + 1 then joinFrom first (max last b) rest else (first, last) :: joinFrom a b rest

/-- Ranges in ascending order with those joined that meet or overlap. -/
def join : Ranges → Ranges
  | [] => []
  | (a, b) :: rest => joinFrom a b rest

/-- The set with the given ranges, which may come in any order. -/
def ofList (ranges : Ranges) : Ranges := join (ranges.mergeSort fun r s => r.1 ≤ s.1)

/-! ## Operations -/

/-- The members of one of two sets. -/
def union (s t : Ranges) : Ranges := join (List.merge s t fun r q => r.1 ≤ q.1)

/-- The members of some of several sets. -/
def unions (sets : List Ranges) : Ranges := sets.foldl union []

/-- The common members of two sets. -/
def inter : Ranges → Ranges → Ranges
  | [], _ => []
  | _, [] => []
  | (a, b) :: s, (c, d) :: t =>
    let rest := if b < d then inter s ((c, d) :: t) else inter ((a, b) :: s) t
    if max a c ≤ min b d then (max a c, min b d) :: rest else rest
termination_by s t => s.length + t.length

/-- The members of the first set that are none of the second. -/
def diff : Ranges → Ranges → Ranges
  | [], _ => []
  | s, [] => s
  | (a, b) :: s, (c, d) :: t =>
    if d < a then diff ((a, b) :: s) t
    else if b < c then (a, b) :: diff s ((c, d) :: t)
    else
      let rest := if d < b then diff ((next d, b) :: s) t else diff s ((c, d) :: t)
      if a < c then (a, previous c) :: rest else rest
termination_by s t => s.length + t.length

/-- The members of exactly one of two sets. -/
def symmDiff (s t : Ranges) : Ranges := (s.union t).diff (s.inter t)

/--
What lies between a range that ends at `last` and one that starts at `first`. If only surrogates do, these two ends
stand for it.
-/
def gap (last first : Nat) : Nat × Nat := (min (next last) (previous first), max (next last) (previous first))

/-- The gaps between ranges, and what lies behind the last of them, which ends at `last`. -/
def gaps (last : Nat) : Ranges → Ranges
  | [] => if last < 0x10FFFF then [(next last, 0x10FFFF)] else []
  | (a, b) :: rest => gap last a :: gaps b rest

/-- The characters that are no members. -/
def compl : Ranges → Ranges
  | [] => all
  | (a, b) :: rest => if 0 < a then (0, previous a) :: gaps b rest else gaps b rest

/-! ## Tables -/

/-- The value of a hexadecimal digit; zero for any other character. -/
def hexDigit (c : Char) : Nat :=
  if '0' ≤ c ∧ c ≤ '9' then c.toNat - '0'.toNat
  else if 'A' ≤ c ∧ c ≤ 'F' then c.toNat - 'A'.toNat + 10
  else if 'a' ≤ c ∧ c ≤ 'f' then c.toNat - 'a'.toNat + 10
  else 0

/-- The ranges of a table; `start` is the number in front of a hyphen, `number` the one that is being read. -/
def readTable : (start number : Option Nat) → Text → Ranges
  | start, number, [] => (number.map fun n => (start.getD n, n)).toList
  | start, number, c :: rest =>
    if c = '-' then readTable number none rest
    else if c = ' ' || c = '\n' then
      match number with
      | some n => (start.getD n, n) :: readTable none none rest
      | none => readTable none none rest
    else readTable start (some (number.getD 0 * 16 + hexDigit c)) rest

/-- The set that a table writes. -/
def ofString (s : String) : Ranges := readTable none none s.toList

end Ranges

end LogDiagram.Unicode
