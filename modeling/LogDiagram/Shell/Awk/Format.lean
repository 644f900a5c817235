import LogDiagram.Shell.Awk.State

/-!
# Texts that scripts make

* `AwkFormat.fill` fills values in a format;
* `AwkText.replaceAll` replaces what fits an expression;
* `AwkText.part` cuts a part out of a text.
-/

namespace LogDiagram.Shell

namespace AwkFormat

/-- What became of a format: the text, and a complaint that stopped it. -/
structure Filled where
  text : Text
  complaint : Option Text

def Filled.behind (filled : Filled) (t : Text) : Filled := { filled with text := t ++ filled.text }

def shown (textOf : AwkValue → Text) (flags : Text) (width : Nat) (precision : Option Nat) (letter : Char)
    (value : AwkValue) : Text :=
  let place (t : Text) : Text := filled (flags.contains '-') width t
  match letter with
  | 's' => place (match precision with
    | some n => (textOf value).take n
    | none => textOf value)
  | 'c' =>
    place (match value.number?, value with
      | some x, .number _ | some x, .input _ | some x, .unset =>
        [Char.ofNat ((AwkNumber.toInt x) % 256).toNat]
      | _, value => [((textOf value).head?).getD '\x00'])
  | letter =>
    let x := value.toNumber
    if ['d', 'i', 'u', 'o', 'x', 'X'].contains letter then
      if x.isNaN || x.isInf then
        place (if x.isNaN then "-nan".toList else if x < 0 then "-inf".toList else "inf".toList)
      else wholeText flags width precision letter (AwkNumber.toInt x)
    else quantityText flags width precision letter (AwkNumber.toQuantity x)

/-- The number of an extent, and the values that are left; none if a value is missing. -/
def extent? (values : List AwkValue) : Extent → Option (Int × List AwkValue)
  | .number n => some (n, values)
  | .argument =>
    match values with
    | value :: rest => some (AwkNumber.toInt value.toNumber, rest)
    | [] => none

/-- A format with values filled in; `fuel` bounds its parts. -/
def fill (textOf : AwkValue → Text) (name : String) (whole : Text) : (fuel : Nat) → Text → List AwkValue → Filled
  | 0, _, _ | _, [], _ => ⟨[], none⟩
  | fuel + 1, '%' :: '%' :: rest, values => (fill textOf name whole fuel rest values).behind ['%']
  | fuel + 1, '%' :: rest, values =>
    let lacking : Filled :=
      ⟨[], some ("not enough arguments passed to ".toList ++ name.toList ++ "(\"".toList ++ whole ++ "\")".toList)⟩
    match readConversion AwkNumber.letters rest with
    | (.conversion c, rest) =>
      match extent? values c.width with
      | none => lacking
      | some (width, values) =>
        match c.precision.elim (some (none, values)) fun extent =>
            (extent? values extent).map fun (n, values) => (some n, values) with
        | none => lacking
        | some (precision, values) =>
          match values with
          | [] => lacking
          | value :: values =>
            let flags := if width < 0 then '-' :: c.flags else c.flags
            let precision := precision.bind fun n => if n < 0 then none else some n.toNat
            (fill textOf name whole fuel rest values).behind (shown textOf flags width.natAbs precision c.letter value)
    | _ => ⟨[], some ("bad conversion in ".toList ++ name.toList ++ "(\"".toList ++ whole ++ "\")".toList)⟩
  | fuel + 1, c :: rest, values => (fill textOf name whole fuel rest values).behind [c]

end AwkFormat

namespace AwkText

/--
What is put in the place of a text that fitted: the sign `&` in the replacement stands for that text. Of backslashes in
front of the sign every other one counts, and the last one takes away its meaning if their number is odd. `slashes` is
how many were passed.
-/
def replacementOf (fitted : Text) : (slashes : Nat) → Text → Text
  | n, '\\' :: rest => replacementOf fitted (n + 1) rest
  | n, '&' :: rest =>
    List.replicate (n / 2) '\\' ++ (if n % 2 = 1 then ['&'] else fitted) ++ replacementOf fitted 0 rest
  | n, c :: rest => List.replicate n '\\' ++ c :: replacementOf fitted 0 rest
  | n, [] => List.replicate n '\\'

/--
A text with the places replaced where an expression fits, and how many there are; just the first one unless all are
asked for. `fuel` bounds the places.
-/
def replaceFrom (expression : Expression) (replacement subject : Text) (isGlobal : Bool) :
    (fuel first : Nat) → (isBehindMatch : Bool) → Text × Nat
  | 0, first, _ => (subject.drop first, 0)
  | fuel + 1, first, isBehindMatch =>
    match expression.findFrom? ⟨false, false⟩ subject first with
    | none => (subject.drop first, 0)
    | some found =>
      let front := (subject.drop first).take (found.first - first)
      let isEmpty := found.first = found.last
      let step := (subject.drop found.last).take (if isEmpty then 1 else 0)
      let isSkipped := isEmpty && isBehindMatch && found.first == first
      let filled := if isSkipped then [] else replacementOf (found.text subject 0) 0 replacement
      let count := if isSkipped then 0 else 1
      if isEmpty && found.last ≥ subject.length then (front ++ filled, count)
      else if !isGlobal then (front ++ filled ++ subject.drop found.last, count)
      else
        let next := if isEmpty then found.last + 1 else found.last
        let (rest, more) := replaceFrom expression replacement subject isGlobal fuel next (!isEmpty)
        (front ++ filled ++ step ++ rest, count + more)

/-- A text with the places replaced where an expression fits, and how many there are. -/
def replaceAll (expression : Expression) (replacement subject : Text) (isGlobal : Bool) : Text × Nat :=
  replaceFrom expression replacement subject isGlobal (subject.length + 2) 0 false

/-- The part of a text from a character on, up to so many characters or to the end. -/
def part (t : Text) (first : Float) (size : Option Float) : Text :=
  let start := AwkNumber.toInt first
  let rest := t.drop (start.toNat - 1)
  match size with
  | none => rest
  | some size => rest.take ((AwkNumber.toInt size) + (if start < 0 then -start else 0)).toNat

/-- The place of a text in another one, counted from one; zero if there is none. -/
def place (sub t : Text) : Nat :=
  match Text.cut? sub t with
  | some (front, _) => front.length + 1
  | none => 0

end AwkText

end LogDiagram.Shell
