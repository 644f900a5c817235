import LogDiagram.Json.Basic
import LogDiagram.Text.Hexadecimal

/-!
# Words, numbers and strings of JSON

Each reader takes the text behind the first character of a value and gives the value with the text behind it; where the
value is broken there is no text behind it.
-/

namespace LogDiagram.Json

/-- A value and the text behind it, which is absent if the value is broken. -/
abbrev Reading := Json × Option Text

/-- A value that is broken in the same way for all. -/
def brokenAs (fault : Fault) : Reading := (broken fault fault, none)

/-- The white space between tokens. -/
def isSpacing (c : Char) : Bool := c = ' ' || c = '\t' || c = '\n' || c = '\r'

/-- A text without the white space in front. -/
def skipSpacing (t : Text) : Text := t.dropWhile isSpacing

def readWord (value : Json) : (word : Text) → Text → Reading
  | [], t => (value, some t)
  | _ :: _, [] => brokenAs .unfinished
  | w :: word, c :: t => if w = c then readWord value word t else brokenAs .malformed

/-! ## Numbers -/

/-- The greatest number that digits are gathered to. -/
def significandLimit : Nat := Nat.pow 2 64 - 1

/-- A number with further digits behind it, as long as it stays within the limit, and the digits left over. -/
def gather (n : Nat) : Text → Nat × Text
  | [] => (n, [])
  | d :: digits =>
    let next := n * 10 + (d.toNat - '0'.toNat)
    if next ≤ significandLimit then gather next digits else (n, d :: digits)

/-- The greatest power of ten that a number is scaled by at once. -/
def greatestPower : Nat := 308

/-- A number divided by a power of ten, by at most `greatestPower` at once. -/
def dividedByTens (value : Binary64) : (fuel exponent : Nat) → Binary64
  | 0, _ => value
  | fuel + 1, exponent =>
    if value.mantissa = 0 then value
    else if exponent ≤ greatestPower then value.div (.ofNat (Nat.pow 10 exponent))
    else dividedByTens (value.div (.ofNat (Nat.pow 10 greatestPower))) fuel (exponent - greatestPower)

/-- The decimal with the given digits and power of ten; none if it is beyond the greatest finite number. -/
def decimal? (significand : Nat) (exponent : Int) : Option Binary64 :=
  let value := Binary64.ofNat significand
  if significand = 0 then some .zero
  else if exponent < 0 then some (dividedByTens value (greatestPower * 8) (-exponent).toNat)
  else if exponent ≤ greatestPower then
    let value := value.mul (.ofNat (Nat.pow 10 exponent.toNat))
    if value.isTooLarge then none else some value
  else none

/-- The parts of a number: its digits before and behind the point, and its power of ten. -/
structure NumberParts where
  negative : Bool
  whole : Text
  fraction : Option Text
  exponent : Option Int
  deriving DecidableEq, Repr

def NumberParts.value (parts : NumberParts) : Json :=
  let (significand, dropped) := gather 0 parts.whole
  let (significand, unused) := gather significand (parts.fraction.getD [])
  let fractionDigits := (parts.fraction.getD []).length - unused.length
  let exponent : Int := dropped.length - (fractionDigits : Int) + parts.exponent.getD 0
  let isInteger := parts.fraction.isNone && parts.exponent.isNone && dropped.isEmpty &&
    (!parts.negative || (0 < significand && significand ≤ Nat.pow 2 63))
  if isInteger then .number (.integer (if parts.negative then -(significand : Int) else significand))
  else
    match decimal? significand exponent with
    | some value => .number (.decimal parts.negative value)
    | none => .meaningless

def digits (t : Text) : Text × Text := t.span Char.isDigit

/-- A number that ends too soon: for someone who skips it, it is just no number. -/
def unfinishedNumber : Reading := (broken .unfinished .malformed, none)

/-- The power of ten of a number, behind its letter. -/
def readExponent (parts : NumberParts) (t : Text) : Reading :=
  let (negative, t) := match t with
    | '+' :: rest => (false, rest)
    | '-' :: rest => (true, rest)
    | _ => (false, t)
  match digits t with
  | ([], []) => unfinishedNumber
  | ([], _ :: _) => brokenAs .malformed
  | (ds, rest) =>
    let n : Int := ds.foldl (fun n d => n * 10 + (d.toNat - '0'.toNat)) 0
    ({ parts with exponent := some (if negative then -n else n) }.value, some rest)

/-- What follows the digits in front of a power of ten. -/
def readScale (parts : NumberParts) (t : Text) : Reading :=
  match t with
  | 'e' :: rest | 'E' :: rest => readExponent parts rest
  | _ => (parts.value, some t)

/-- What follows the digits in front of a point. -/
def readFraction (parts : NumberParts) (t : Text) : Reading :=
  match t with
  | '.' :: rest =>
    match digits rest with
    | ([], []) => unfinishedNumber
    | ([], _ :: _) => brokenAs .malformed
    | (ds, rest) => readScale { parts with fraction := some ds } rest
  | _ => readScale parts t

/-- A number behind its sign; only zero starts with a zero. -/
def readNumber (negative : Bool) (t : Text) : Reading :=
  match digits t with
  | ([], []) => unfinishedNumber
  | ([], _ :: _) => brokenAs .malformed
  | ('0' :: _ :: _, _) => brokenAs .malformed
  | (ds, rest) => readFraction ⟨negative, ds, none, none⟩ rest

/-! ## Strings -/

/-- What is read of a string: its characters, last one first, the first half of a surrogate pair, and whether all of it
has a meaning. -/
structure OpenString where
  done : Text
  high : Option Nat
  isMeaningful : Bool
  deriving DecidableEq, Repr

namespace OpenString

/-- Nothing read yet. -/
def empty : OpenString := ⟨[], none, true⟩

/-- One more character. Half a pair in front of it stays without its other half. -/
def push (s : OpenString) (c : Char) : OpenString := ⟨c :: s.done, none, s.isMeaningful && s.high.isNone⟩

/-- One more unit by its number: a character, or half a pair. -/
def pushUnit (s : OpenString) (n : Nat) : OpenString :=
  match s.high with
  | some high =>
    if 0xDC00 ≤ n ∧ n < 0xE000 then
      ⟨Char.ofNat (0x10000 + (high - 0xD800) * 0x400 + (n - 0xDC00)) :: s.done, none, s.isMeaningful⟩
    else ⟨s.done, none, false⟩
  | none =>
    if 0xD800 ≤ n ∧ n < 0xDC00 then { s with high := some n }
    else if 0xDC00 ≤ n ∧ n < 0xE000 then { s with isMeaningful := false }
    else s.push (Char.ofNat n)

def close (s : OpenString) : Json := if s.isMeaningful && s.high.isNone then .string s.done.reverse else .meaningless

/-- A string that breaks the rules. Someone who reads it may have stopped before. -/
def fail (s : OpenString) (fault : Fault) : Reading :=
  (broken (if s.isMeaningful then fault else .malformed) fault, none)

end OpenString

/-- The number that four hexadecimal digits write. -/
def hexUnit? (a b c d : Char) : Option Nat :=
  Text.hexNumber? [a, b, c, d]

/-- The characters that stand behind a backslash and what they stand for. -/
def escaped? : Char → Option Char
  | '"' => some '"'
  | '\\' => some '\\'
  | '/' => some '/'
  | 'b' => some '\x08'
  | 'f' => some '\x0c'
  | 'n' => some '\n'
  | 'r' => some '\r'
  | 't' => some '\t'
  | _ => none

/-- Half a pair that no escaped unit follows stays without its other half. -/
def OpenString.loseHalf (s : OpenString) : OpenString := ⟨s.done, none, s.isMeaningful && s.high.isNone⟩

/-- A string behind its opening quote or a later character of it. -/
def readStringFrom (s : OpenString) : Text → Reading
  | [] => s.fail .unfinished
  | '"' :: rest => (s.close, some rest)
  | ['\\'] => s.fail .unfinished
  | '\\' :: 'u' :: a :: b :: c :: d :: rest =>
    match hexUnit? a b c d with
    | some n => readStringFrom (s.pushUnit n) rest
    | none => s.fail .malformed
  | '\\' :: 'u' :: rest => s.fail (if Text.utf8Size rest < 4 then .unfinished else .malformed)
  | '\\' :: e :: rest =>
    match escaped? e with
    | some c => readStringFrom (s.push c) rest
    | none => s.loseHalf.fail .malformed
  | c :: rest => if c.toNat < 0x20 then s.loseHalf.fail .malformed else readStringFrom (s.push c) rest

def readString (t : Text) : Reading := readStringFrom .empty t

end LogDiagram.Json
