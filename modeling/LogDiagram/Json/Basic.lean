import LogDiagram.Number.Binary64
import LogDiagram.Text.Quoted

/-!
# JSON values as far as they can be read

A `Json` is what a text holds, up to the first place where it breaks the rules. The value at that place is `broken`, and
nothing behind it is kept: a value is checked while it is read, so nobody gets to see what would come later. Two kinds
of values are well formed and still have no meaning: a string with half a surrogate pair and a number out of range. They
may be skipped, but not read.

* `Json.skipFault?` is the first fault on the way over a value that nobody reads;
* `Json.description` names a value that is not of the wanted kind.
-/

namespace LogDiagram

/-- How a text breaks the rules. -/
inductive Fault where
  /-- A character stands where it must not. -/
  | malformed
  /-- The text ends too soon. -/
  | unfinished
  deriving DecidableEq, Repr

inductive Numeral where
  | integer (n : Int)
  | decimal (negative : Bool) (value : Binary64)
  deriving DecidableEq, Repr

/-- A value, up to the first place where the text breaks the rules. -/
inductive Json where
  | null
  | boolean (b : Bool)
  | number (n : Numeral)
  | string (t : Text)
  /-- A string with half a surrogate pair or a number out of range. -/
  | meaningless
  /-- The items and, if the list does not end as it should, why. -/
  | array (items : List Json) (ending : Option Fault)
  /-- The keys with their values and, if the object does not end as it should, why. A key is a string if it is well
  formed. -/
  | object (members : List (Json × Json)) (ending : Option Fault)
  /-- No value: what is wrong for someone who reads it, and for someone who skips it. -/
  | broken (whenRead whenSkipped : Fault)
  deriving Repr

/-- The text of a number with a decimal point: positional from a hundred thousandth up to sixteen digits. -/
def Numeral.decimalText (negative : Bool) (value : Binary64) : Text :=
  let sign : Text := if negative then ['-'] else []
  if value.mantissa = 0 then sign ++ "0.0".toList
  else
    let (n, place) := value.shortest
    let digits := Text.ofNat n
    let point : Int := digits.length + place
    let zeros (k : Int) : Text := List.replicate k.toNat '0'
    sign ++
      if 0 ≤ place ∧ point ≤ 16 then digits ++ zeros place ++ ['.', '0']
      else if 0 < point ∧ point ≤ 16 then digits.take point.toNat ++ '.' :: digits.drop point.toNat
      else if -5 < point ∧ point ≤ 0 then '0' :: '.' :: (zeros (-point) ++ digits)
      else
        digits.take 1 ++ (if digits.length = 1 then [] else '.' :: digits.drop 1) ++
          'e' :: ((if 0 < point then ['+'] else []) ++ Text.ofInt (point - 1))

namespace Json

mutual

/-- The first fault of a value that is skipped. -/
def skipFault? : Json → Option Fault
  | array items ending => skipItems? items <|> ending
  | object members ending => skipMembers? members <|> ending
  | broken _ whenSkipped => some whenSkipped
  | _ => none

def skipItems? : List Json → Option Fault
  | [] => none
  | item :: items =>
    match skipFault? item with
    | some fault => some fault
    | none => skipItems? items

def skipMembers? : List (Json × Json) → Option Fault
  | [] => none
  | (key, value) :: members =>
    match skipFault? key with
    | some fault => some fault
    | none =>
      match skipFault? value with
      | some fault => some fault
      | none => skipMembers? members

end

def description : Json → Text
  | null => "null".toList
  | boolean b => "boolean `".toList ++ (if b then "true".toList else "false".toList) ++ ['`']
  | number (.integer n) => "integer `".toList ++ Text.ofInt n ++ ['`']
  | number (.decimal negative value) => "floating point `".toList ++ Numeral.decimalText negative value ++ ['`']
  | string t => "string ".toList ++ t.quoted
  | array _ _ => "sequence".toList
  | object _ _ => "map".toList
  | meaningless | broken _ _ => "nothing".toList

end Json

end LogDiagram
