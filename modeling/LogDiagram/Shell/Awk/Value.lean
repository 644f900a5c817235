import LogDiagram.Shell.Awk.Token
import LogDiagram.Shell.Order
import LogDiagram.Shell.Printing

/-!
# Values of scripts that work on records

A value is a number or a text; a text that was read counts as a number if it looks like one.

* `AwkValue.toNumber`, `AwkValue.toText` and `AwkValue.isTrue` say what a value is where one kind is asked for;
* `AwkArray` is an array, whose keys come in the order in which they are handed out.
-/

namespace LogDiagram.Shell

inductive AwkValue where
  | unset
  | number (value : Float)
  | text (t : Text)
  /-- A text that was read. -/
  | input (t : Text)

namespace AwkNumber

/-- A number as a quotient with a sign; none for one that is not finite. -/
def quotient? (x : Float) : Option (Bool × Nat × Nat) :=
  let bits := x.toBits.toNat
  let isNegative := bits / Nat.pow 2 63 == 1
  let exponent := bits / Nat.pow 2 52 % 2048
  let fraction := bits % Nat.pow 2 52
  if exponent = 2047 then none
  else
    let mantissa := if exponent = 0 then fraction else fraction + Nat.pow 2 52
    let (num, den) := Binary64.scaled mantissa 1 ((max exponent 1 : Int) - 1075)
    some (isNegative, num, den)

/-- A number as a conversion takes it. -/
def toQuantity (x : Float) : Quantity :=
  match quotient? x with
  | some (isNegative, num, den) => .finite isNegative num den
  | none => if x.isNaN then .undefined else .infinite (x < 0)

/-- A number without what stands behind its point. -/
def truncated (x : Float) : Float := if x < 0 then x.ceil else x.floor

/-- The whole number nearest to zero of which a number is not further away from zero; it has at most 64 bits. -/
def toInt (x : Float) : Int :=
  let limit : Int := (Nat.pow 2 64 : Nat) - 1
  match quotient? x with
  | some (isNegative, num, den) =>
    let n : Int := num / den
    if isNegative then max (-n) (-(Nat.pow 2 63 : Nat)) else min n limit
  | none => if x < 0 then -(Nat.pow 2 63 : Nat) else limit

/-- What is left over when a number is divided by another one. -/
def remainder (x y : Float) : Float :=
  match quotient? x, quotient? y with
  | some (isNegative, a, b), some (_, c, d) =>
    if c = 0 then 0.0 / 0.0 else AwkToken.floatOfRatio isNegative (a * d % (c * b)) (b * d)
  | some _, none => if y.isNaN then y else x
  | none, _ => 0.0 / 0.0

/-- The value of two numbers with an operator between them. -/
def calculate : AwkOperator → Float → Float → Float
  | .add, x, y => x + y
  | .subtract, x, y => x - y
  | .multiply, x, y => x * y
  | .divide, x, y => x / y
  | .remainder, x, y => remainder x y
  | .power, x, y => x.pow y

def letters : List Char := ['a', 'A', 'c', 'd', 'e', 'E', 'f', 'F', 'g', 'G', 'i', 'o', 's', 'u', 'x', 'X']

/-- A number written as a format with one conversion says. -/
def written (format : Text) (x : Float) : Text :=
  match x.isNaN, quotient? x with
  | true, _ => "-nan".toList
  | false, none => if x < 0 then "-inf".toList else "inf".toList
  | false, some (isNegative, num, den) =>
    if num % den = 0 && num / den < Nat.pow 2 64 then
      let digits := Text.ofNat (num / den)
      if isNegative && num != 0 then '-' :: digits else digits
    else
      (formatParts letters (format.length + 1) format).flatMap fun part =>
        match part with
        | .text t | .faulty t => t
        | .conversion c =>
          let number : Extent → Option Nat
            | .number n => some n
            | .argument => none
          quantityText c.flags ((number c.width).getD 0) (c.precision.bind number) c.letter (toQuantity x)

/-- The number in front of a text, and whether nothing but blanks follows. -/
def read (t : Text) : Float × Bool :=
  let isBlank (c : Char) : Bool := c == ' ' || ('\t' ≤ c && c ≤ '\r')
  let t := t.dropWhile isBlank
  let hexadecimal? : Option (Float × Bool) := match t with
    | '0' :: x :: rest =>
      if x = 'x' ∨ x = 'X' then
        match EditStep.readDigits 16 16 none rest with
        | (some n, rest) => some (Float.ofNat n, rest.all isBlank)
        | (none, _) => none
      else none
    | _ => none
  match hexadecimal?, Decimal.read? t with
  | some result, _ => result
  | none, some numeral => (AwkToken.floatOfRatio numeral.isNegative numeral.num numeral.den, numeral.rest.all isBlank)
  | none, none => (0, false)

end AwkNumber

namespace AwkValue

def toNumber : AwkValue → Float
  | unset => 0
  | number x => x
  | text t | input t => (AwkNumber.read t).1

/-- The value as a text; `format` is for numbers that are not whole. -/
def toText (format : Text) : AwkValue → Text
  | unset => []
  | number x => AwkNumber.written format x
  | text t | input t => t

def number? : AwkValue → Option Float
  | unset => some 0
  | number x => some x
  | text _ => none
  | input t =>
    let (x, isWhole) := AwkNumber.read t
    if isWhole then some x else none

def isTrue : AwkValue → Bool
  | unset => false
  | number x => x != 0
  | text t => !t.isEmpty
  | input t =>
    match number? (.input t) with
    | some x => x != 0
    | none => !t.isEmpty

def ofBool (b : Bool) : AwkValue := number (if b then 1 else 0)

def ofNat (n : Nat) : AwkValue := number (Float.ofNat n)

/-- How two values compare: as numbers if both are, or else as texts. -/
def compare (format : Text) (comparison : AwkComparison) (a b : AwkValue) : Bool :=
  match a.number?, b.number? with
  | some x, some y =>
    match comparison with
    | .less => x < y
    | .upTo => x ≤ y
    | .equal => x == y
    | .different => x != y
    | .atLeast => y ≤ x
    | .greater => y < x
  | _, _ =>
    let order := compareTexts (a.toText format) (b.toText format)
    match comparison with
    | .less => order == .lt
    | .upTo => order != .gt
    | .equal => order == .eq
    | .different => order != .eq
    | .atLeast => order != .lt
    | .greater => order == .gt

end AwkValue

/-- An array: its elements, the one that was used last comes first. -/
abbrev AwkArray := List (Text × AwkValue)

namespace AwkArray

/-- A number that is calculated from the characters of a key. -/
def hash (key : Text) : UInt32 :=
  key.foldl (fun h c => (h ^^^ UInt32.ofNat c.toNat) * 16777619) 2166136261

/-- How many lists the keys are spread over: twice as many as long as a list has more than twelve. -/
def listCount (size : Nat) : (fuel : Nat) → (count : Nat) → Nat
  | 0, count => count
  | fuel + 1, count => if size > 12 * count then listCount size fuel (2 * count) else count

/-- The keys in the order in which a loop takes them. -/
def keys (array : AwkArray) : List Text :=
  let count := listCount array.length 24 64
  let place (key : Text) : Nat := (hash key).toNat % count
  ((array.map fun entry => (place entry.1, entry.1)).mergeSort fun a b => a.1 ≤ b.1).map (·.2)

/-- The element with a key becomes the one that was used last; it is made if there is none. -/
def use (key : Text) (array : AwkArray) : AwkValue × AwkArray :=
  match array with
  | (first, value) :: rest =>
    if first == key then (value, (first, value) :: rest)
    else
      match array.lookup key with
      | some value => (value, (key, value) :: array.filter fun entry => entry.1 != key)
      | none => (.unset, (key, .unset) :: array)
  | [] => (.unset, [(key, .unset)])

def put (key : Text) (value : AwkValue) (array : AwkArray) : AwkArray :=
  (key, value) :: (if array.any fun entry => entry.1 == key then array.filter fun entry => entry.1 != key else array)

end AwkArray

end LogDiagram.Shell
