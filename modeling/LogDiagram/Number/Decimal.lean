import LogDiagram.Number.Binary64

/-!
# Decimal notation

Quotients written with decimal digits, rounded to the nearest of what can be written, a tie to the even digit.

* `Decimal.fixed` writes a quotient with so many places behind the point;
* `Decimal.scientific` writes it with one digit in front of the point and a power of ten;
* `Decimal.general` takes whichever is shorter, without zeros at the end;
* `Decimal.read?` reads a number from the front of a text.
-/

namespace LogDiagram.Decimal

/-- The numeral of a number with at least so many digits. -/
def padded (width n : Nat) : Text :=
  let digits := Text.ofNat n
  List.replicate (width - digits.length) '0' ++ digits

/-- The digits of a whole number with a point in front of the last `places` ones; a point alone if it is kept. -/
def pointed (keepsPoint : Bool) (places n : Nat) : Text :=
  let digits := padded (places + 1) n
  let whole := digits.take (digits.length - places)
  if places = 0 then (if keepsPoint then whole ++ ['.'] else whole)
  else whole ++ '.' :: digits.drop (digits.length - places)

def fixed (keepsPoint : Bool) (places num den : Nat) : Text :=
  pointed keepsPoint places (Binary64.roundQuotient (num * Nat.pow 10 places) den)

/-- The digits of a quotient, one more than `places`, and the power of ten of the first one. -/
def leading (places num den : Nat) : Nat × Int :=
  if num = 0 then (0, 0)
  else
    let exponent := Binary64.decimalExponent num den
    let shift := (places : Int) - exponent
    let digits :=
      if 0 ≤ shift then Binary64.roundQuotient (num * Nat.pow 10 shift.toNat) den
      else Binary64.roundQuotient num (den * Nat.pow 10 (-shift).toNat)
    if digits = Nat.pow 10 (places + 1) then (digits / 10, exponent + 1) else (digits, exponent)

def power (isUpper : Bool) (exponent : Int) : Text :=
  (if isUpper then 'E' else 'e') :: (if exponent < 0 then '-' else '+') :: padded 2 exponent.natAbs

/-- A quotient with one digit in front of the point and so many behind it. -/
def scientific (isUpper keepsPoint : Bool) (places num den : Nat) : Text :=
  let (digits, exponent) := leading places num den
  pointed keepsPoint places digits ++ power isUpper exponent

/-- Digits with a point, without the zeros at the end. -/
def withoutZeros (t : Text) : Text :=
  if t.contains '.' then
    let t := (t.reverse.dropWhile (· == '0')).reverse
    if t.getLast? = some '.' then t.dropLast else t
  else t

/-- A quotient with so many digits that count, in the shorter notation; zeros at the end are kept only if asked for. -/
def general (isUpper keepsZeros : Bool) (precision num den : Nat) : Text :=
  let precision := max 1 precision
  let (digits, exponent) := leading (precision - 1) num den
  let finish (t : Text) : Text := if keepsZeros then t else withoutZeros t
  if exponent < -4 ∨ exponent ≥ precision then
    finish (pointed keepsZeros (precision - 1) digits) ++ power isUpper exponent
  else finish (fixed keepsZeros ((precision : Int) - 1 - exponent).toNat num den)

/-- A number in decimal notation: its sign, a quotient, and what follows it. -/
structure Numeral where
  isNegative : Bool
  num : Nat
  den : Nat
  rest : Text
  deriving DecidableEq, Repr

def exponentLimit : Nat := 400

def ofDigits (digits : Text) : Nat := digits.foldl (fun n c => n * 10 + (c.toNat - '0'.toNat)) 0

def read? (t : Text) : Option Numeral :=
  let (isNegative, t) := match t with
    | '-' :: rest => (true, rest)
    | '+' :: rest => (false, rest)
    | _ => (false, t)
  let (whole, rest) := t.span Char.isDigit
  let (places, rest) : Text × Text := match rest with
    | '.' :: after =>
      let (places, after) := after.span Char.isDigit
      if whole.isEmpty && places.isEmpty then ([], rest) else (places, after)
    | _ => ([], rest)
  if whole.isEmpty && places.isEmpty then none
  else
    let (exponent, rest) : Int × Text := match rest with
      | e :: after =>
        if e = 'e' ∨ e = 'E' then
          let (isDown, digits) := match after with
            | '-' :: digits => (true, digits)
            | '+' :: digits => (false, digits)
            | digits => (false, digits)
          let (digits, after) := digits.span Char.isDigit
          if digits.isEmpty then (0, rest)
          else
            let n : Int := min (ofDigits digits) exponentLimit
            (if isDown then -n else n, after)
        else (0, rest)
      | [] => (0, rest)
    let digits := ofDigits (whole ++ places)
    let shift := exponent - places.length
    some {
      isNegative, rest
      num := if 0 ≤ shift then digits * Nat.pow 10 shift.toNat else digits
      den := if 0 ≤ shift then 1 else Nat.pow 10 (-shift).toNat }

end LogDiagram.Decimal
