import LogDiagram.Text.Basic

/-!
# Binary floating point numbers

A `Binary64` is a non-negative number `mantissa * 2 ^ exponent` with at most 53 bits in its mantissa and no exponent
below -1074.

* `Binary64.ofRatio` rounds a quotient to the nearest such number, a tie to the even mantissa;
* `Binary64.shortest` gives the fewest decimal digits that are rounded back to the number.

The exponent is not bounded above here: `Binary64.isTooLarge` says that a number is beyond the greatest finite one.
-/

namespace LogDiagram

/-- The number `mantissa * 2 ^ exponent`. -/
structure Binary64 where
  mantissa : Nat
  exponent : Int
  deriving DecidableEq, Repr

namespace Binary64

def leastExponent : Int := -1074

def zero : Binary64 := ⟨0, leastExponent⟩

/-- A quotient `num * 2 ^ shift / den` as two natural numbers. -/
def scaled (num den : Nat) (shift : Int) : Nat × Nat :=
  if 0 ≤ shift then (num * Nat.pow 2 shift.toNat, den) else (num, den * Nat.pow 2 (-shift).toNat)

/-- The natural number nearest to a quotient; a tie goes to the even one. -/
def roundQuotient (num den : Nat) : Nat :=
  let q := num / den
  let r := num % den
  if 2 * r > den || (2 * r == den && q % 2 == 1) then q + 1 else q

/-- The exponent with which a quotient has a mantissa of 53 bits, or the least exponent. -/
def exponentOf (num den : Nat) : Int :=
  let guess : Int := (Nat.log2 num : Int) - Nat.log2 den - 52
  let (n, d) := scaled num den (-guess)
  -- The two logarithms leave the mantissa one bit short at most.
  max leastExponent (if n / d < Nat.pow 2 52 then guess - 1 else guess)

/-- The number nearest to a quotient. -/
def ofRatio (num den : Nat) : Binary64 :=
  if num = 0 then zero
  else
    let exponent := exponentOf num den
    let (n, d) := scaled num den (-exponent)
    let mantissa := roundQuotient n d
    if mantissa = Nat.pow 2 53 then ⟨Nat.pow 2 52, exponent + 1⟩ else ⟨mantissa, exponent⟩

def ofNat (n : Nat) : Binary64 := ofRatio n 1

def ratio (x : Binary64) : Nat × Nat := scaled x.mantissa 1 x.exponent

def mul (x y : Binary64) : Binary64 :=
  let (a, b) := x.ratio
  let (c, d) := y.ratio
  ofRatio (a * c) (b * d)

def div (x y : Binary64) : Binary64 :=
  let (a, b) := x.ratio
  let (c, d) := y.ratio
  ofRatio (a * d) (b * c)

/-- The number lies beyond the greatest finite one. -/
def isTooLarge (x : Binary64) : Bool := x.exponent > 971

/-! ## Decimal digits -/

/-- The exponent of the first decimal digit of a quotient of at least one. -/
def decimalExponentUp (num den : Nat) : Nat := (Text.ofNat (num / den)).length - 1

/-- How often a quotient below one has to be multiplied by ten to reach one. -/
def decimalExponentDown (num den : Nat) : (fuel : Nat) → Nat
  | 0 => 0
  | fuel + 1 => if den ≤ num then 0 else decimalExponentDown (num * 10) den fuel + 1

def decimalExponent (num den : Nat) : Int :=
  if den ≤ num then decimalExponentUp num den else -(decimalExponentDown num den 400 : Int)

/-- The quotient `digits * 10 ^ place` lies among the numbers that are rounded to `x`. -/
def roundsTo (x : Binary64) (digits : Nat) (place : Int) : Bool :=
  let (num, den) := if 0 ≤ place then (digits * Nat.pow 10 place.toNat, 1) else (digits, Nat.pow 10 (-place).toNat)
  ofRatio num den == x

/-- The neighbours of a number on the grid of multiples of `10 ^ place`: the one nearer to it, or even, comes first. -/
def neighbours (num den : Nat) (place : Int) : List Nat :=
  let (n, d) := if 0 ≤ place then (num, den * Nat.pow 10 place.toNat) else (num * Nat.pow 10 (-place).toNat, den)
  let q := n / d
  if roundQuotient n d = q then [q, q + 1] else [q + 1, q]

/-- The first grid, from `count` digits on, that has a decimal which is rounded to `x`. -/
def shortestFrom (x : Binary64) (count : Nat) : (fuel : Nat) → Nat × Int
  | 0 => (x.mantissa, 0)
  | fuel + 1 =>
    let (num, den) := x.ratio
    let place := decimalExponent num den - (count : Int) + 1
    match (neighbours num den place).find? fun digits => x.roundsTo digits place with
    -- The neighbour above may be the next power of ten, which has one digit only.
    | some digits => if digits = Nat.pow 10 count then (1, place + count) else (digits, place)
    | none => shortestFrom x (count + 1) fuel

/-- The fewest decimal digits that are rounded to the number, and the power of ten of the last one. -/
def shortest (x : Binary64) : Nat × Int := shortestFrom x 1 17

end Binary64

end LogDiagram
