import LogDiagram.Shell.Arguments
import LogDiagram.Shell.Expression
import LogDiagram.Shell.Printing

/-!
# Programs that calculate

* `countNumbers` prints numbers in a row;
* `evaluateWords` prints the value of an expression whose parts are words.
-/

namespace LogDiagram.Shell

/-! ## Numbers in a row -/

/-- A number as it was written: a quotient, how many places stand behind its point, and how wide it is. -/
structure RowNumber where
  num : Int
  den : Nat
  places : Nat
  width : Nat
  deriving DecidableEq, Repr

namespace RowNumber

def read? (t : Text) : Option RowNumber :=
  match Decimal.read? (t.dropWhile isBlankChar) with
  | none => none
  | some numeral =>
    if !numeral.rest.isEmpty then none
    else
      let digits := t.takeWhile fun c => c != 'e' && c != 'E'
      let places := ((digits.dropWhile (· != '.')).drop 1).length
      let isPower := digits.length < t.length
      let num : Int := numeral.num
      some ⟨if numeral.isNegative then -num else num, numeral.den, if isPower && numeral.den = 1 then 0 else places, t.length⟩

/-- A quotient with so many places behind the point. -/
def shown (places : Nat) (num : Int) (den : Nat) : Text :=
  let digits := Decimal.fixed false places num.natAbs den
  if num < 0 then '-' :: digits else digits

end RowNumber

/-- A quotient as the conversion of a format shows it. -/
def formatNumber (parts : List FormatPart) (num : Int) (den : Nat) : Text :=
  parts.flatMap fun part =>
    match part with
    | .text t => t
    | .faulty t => t
    | .conversion c =>
      let number : Option Extent → Option Nat
        | some (.number n) => some n
        | _ => none
      quantityText c.flags ((number (some c.width)).getD 0) (number c.precision) c.letter
        (.finite (num < 0) num.natAbs den)

def countNumbers : Program := fun arguments session =>
  let hint (complaint : Text) (session : Session) : Session :=
    (session.complain "seq" complaint 1).write 2 "Try 'seq --help' for more information.\n".toList
  -- A number below zero is no option.
  let isOption (t : Text) : Bool :=
    match t with
    | '-' :: c :: _ => !(c.isDigit || c == '.')
    | _ => false
  let rec split (fuel : Nat) (front : List Text) (arguments : List Text) : List Text × List Text :=
    match fuel, arguments with
    | 0, arguments => (front, arguments)
    | _, [] => (front, [])
    | fuel + 1, t :: rest =>
      if t = ['-', 's'] ∨ t = ['-', 'f'] then split fuel (front ++ t :: rest.take 1) (rest.drop 1)
      else if isOption t then split fuel (front ++ [t]) rest
      else (front, t :: rest)
  let (front, operands) := split arguments.length [] arguments
  session.withArguments "seq" ⟨"f:s:w", [("format", 'f'), ("separator", 's'), ("equal-width", 'w')], true⟩ 1
    (fun found session =>
      match operands.find? fun t => (RowNumber.read? t).isNone with
      | some t => hint ("invalid floating point argument: ".toList ++ quoted t) session
      | none =>
        let one : RowNumber := ⟨1, 1, 0, 1⟩
        let run (first step last : RowNumber) : Session :=
          if step.num = 0 then
            hint ("invalid Zero increment value: ".toList ++ quoted ((operands[1]?).getD [])) session
          else
            let den := first.den * step.den * last.den
            let start : Int := first.num * (step.den * last.den : Nat)
            let stride : Int := step.num * (first.den * last.den : Nat)
            let finish : Int := last.num * (first.den * step.den : Nat)
            let span := if stride < 0 then start - finish else finish - start
            let count := if span < 0 then 0 else (span / stride.natAbs).toNat + 1
            let places := max first.places step.places
            let widthOf (n : RowNumber) : Nat :=
              n.width + (places - n.places) - (n.places - places) -
                (if n.places != 0 && places = 0 then 1 else 0) + (if n.places = 0 && places != 0 then 1 else 0)
            let width := if found.has 'w' then max (widthOf first) (widthOf last) else 0
            let parts := (found.value? 'f').map fun t => formatParts conversionLetters (t.length + 1) t
            let show_ (i : Nat) : Text :=
              let num := start + stride * i
              match parts with
              | some parts => formatNumber parts num den
              | none =>
                let t := RowNumber.shown places num den
                match t with
                | '-' :: digits => '-' :: (List.replicate (width - t.length) '0' ++ digits)
                | digits => List.replicate (width - digits.length) '0' ++ digits
            let separator := (found.value? 's').getD ['\n']
            let printed := Text.joined separator ((List.range count).map show_)
            if count = 0 then session else session.printLine printed
        match operands.filterMap RowNumber.read? with
        | [] => hint "missing operand".toList session
        | [last] => run one one last
        | [first, last] => run first one last
        | [first, step, last] => run first step last
        | _ => hint ("extra operand ".toList ++ quoted ((operands[3]?).getD [])) session) front

/-- How many lines a program prints that would never end. -/
def endlessLines : Nat := 65536

/-- Prints a line again and again. -/
def printEndlessly : Program := fun arguments session =>
  let line := (if arguments.isEmpty then ['y'] else Text.joined [' '] arguments) ++ ['\n']
  (session.print (List.replicate endlessLines line).flatten).withStatus 0

def seconds? (t : Text) : Option (Nat × Nat) :=
  match Decimal.read? t with
  | some numeral =>
    let unit : Option Nat := match numeral.rest with
      | [] | ['s'] => some 1
      | ['m'] => some 60
      | ['h'] => some 3600
      | ['d'] => some 86400
      | _ => none
    if numeral.isNegative then none else unit.map fun unit => (numeral.num * unit, numeral.den)
  | none => none

/-- Waits; no time passes here. -/
def wait : Program := fun arguments session =>
  let hint (session : Session) : Session :=
    session.write 2 "Try 'sleep --help' for more information.\n".toList
  if arguments.isEmpty then hint (session.complain "sleep" "missing operand".toList 1)
  else
    match arguments.filter fun t => (seconds? t).isNone with
    | [] => session.withStatus 0
    | wrong => hint (wrong.foldl (fun session t =>
        session.complain "sleep" ("invalid time interval ".toList ++ quoted t) 1) session)

/-! ## Expressions of words -/

namespace WordExpression

/-- The whole number that a text writes. -/
def integer? (t : Text) : Option Int :=
  match t with
  | '-' :: digits => (digitsValue? digits).map fun n => -(n : Int)
  | digits => (digitsValue? digits).map fun n => (n : Int)

def isNothing (t : Text) : Bool := t.isEmpty || integer? t == some 0

/-- A value of true or false. -/
def truth (b : Bool) : Text := if b then ['1'] else ['0']

/-- How much of a text fits an expression at its front: the group if there is one, or else the length. -/
def fitting (t form : Text) : Except Text Text := do
  let expression ← Expression.read ⟨false, false⟩ form
  let hasGroup := Text.occursIn ['\\', '('] form
  match Expression.findAt? ⟨false, false⟩ t expression (fun first _ => first == 0) none 0 t with
  | some found => return if hasGroup then found.text t 1 else Text.ofNat (found.last - found.first)
  | none => return if hasGroup then [] else ['0']

/-- The operators, those that bind least first. -/
def levels : List (List String) :=
  [["|"], ["&"], ["<", "<=", "=", "==", "!=", ">=", ">"], ["+", "-"], ["*", "/", "%"], [":"]]

/-- The value of two values with an operator between them. -/
def apply (operator : String) (a b : Text) : Except Text Text := do
  let order : Ordering := match integer? a, integer? b with
    | some m, some n => compare m n
    | _, _ => if a = b then .eq else if Text.isUpTo a b then .lt else .gt
  let numbers : Except Text (Int × Int) := match integer? a, integer? b with
    | some m, some n => .ok (m, n)
    | _, _ => .error "non-integer argument".toList
  match operator with
  | "|" => return if !isNothing a then a else if isNothing b then ['0'] else b
  | "&" => return if isNothing a || isNothing b then ['0'] else a
  | "<" => return truth (order == .lt)
  | "<=" => return truth (order != .gt)
  | "=" | "==" => return truth (order == .eq)
  | "!=" => return truth (order != .eq)
  | ">=" => return truth (order != .lt)
  | ">" => return truth (order == .gt)
  | ":" => fitting a b
  | _ =>
    let (m, n) ← numbers
    match operator with
    | "+" => return Text.ofInt (m + n)
    | "-" => return Text.ofInt (m - n)
    | "*" => return Text.ofInt (m * n)
    | _ =>
      if n = 0 then throw "division by zero".toList
      return Text.ofInt (if operator = "/" then m.tdiv n else m.tmod n)

mutual

/-- The value of words, from operators of a level on, and the words that are left. -/
def evaluate (fuel : Nat) (levels : List (List String)) (previous : Text) (words : List Text) :
    Except Text (Text × List Text) :=
  match fuel with
  | 0 => .error "syntax error".toList
  | fuel + 1 =>
    match levels with
    | [] => single fuel previous words
    | operators :: tighter => do
      let (value, rest) ← evaluate fuel tighter previous words
      more fuel operators tighter value rest

def more (fuel : Nat) (operators : List String) (tighter : List (List String)) (value : Text) (words : List Text) :
    Except Text (Text × List Text) :=
  match fuel, words with
  | 0, _ => .error "syntax error".toList
  | _, [] => .ok (value, [])
  | fuel + 1, word :: rest =>
    match operators.find? fun operator => operator.toList == word with
    | none => .ok (value, words)
    | some operator => do
      let (second, rest) ← evaluate fuel tighter word rest
      more fuel operators tighter (← apply operator value second) rest

/-- The value of a single word, of a function or of something in parentheses. -/
def single (fuel : Nat) (previous : Text) (words : List Text) : Except Text (Text × List Text) :=
  match fuel with
  | 0 => .error "syntax error".toList
  | fuel + 1 =>
    let next (previous : Text) (words : List Text) : Except Text (Text × List Text) := single fuel previous words
    match words with
    | [] => .error ("syntax error: missing argument after ".toList ++ quoted previous)
    | word :: rest =>
      match String.ofList word with
      | "(" => do
        let (value, rest) ← evaluate fuel levels word rest
        match rest with
        | [')'] :: rest => return (value, rest)
        | [] => throw ("syntax error: expecting ')' after ".toList ++ quoted value)
        | other :: _ => throw ("syntax error: expecting ')' instead of ".toList ++ quoted other)
      | ")" => .error "syntax error: unexpected ')'".toList
      | "+" =>
        match rest with
        | value :: rest => .ok (value, rest)
        | [] => .error ("syntax error: missing argument after ".toList ++ quoted word)
      | "length" => do
        let (t, rest) ← next word rest
        return (Text.ofNat t.length, rest)
      | "index" => do
        let (t, rest) ← next word rest
        let (set, rest) ← next t rest
        return (Text.ofNat (match t.findIdx? set.contains with
          | some i => i + 1
          | none => 0), rest)
      | "match" => do
        let (t, rest) ← next word rest
        let (form, rest) ← next t rest
        return (← fitting t form, rest)
      | "substr" => do
        let (t, rest) ← next word rest
        let (first, rest) ← next t rest
        let (count, rest) ← next first rest
        match integer? first, integer? count with
        | some first, some count =>
          return (if first ≤ 0 ∨ count ≤ 0 then [] else (t.drop (first.toNat - 1)).take count.toNat, rest)
        | _, _ => return ([], rest)
      | _ => .ok (word, rest)

end

end WordExpression

/-- Prints the value of an expression whose parts are words. -/
def evaluateWords : Program := fun arguments session =>
  let words := if arguments.head? = some ['-', '-'] then arguments.tail else arguments
  if words.isEmpty then
    (session.complain "expr" "missing operand".toList 2).write 2 "Try 'expr --help' for more information.\n".toList
  else
    match WordExpression.evaluate (16 * words.length + 32) WordExpression.levels [] words with
    | .error complaint => session.complain "expr" complaint 2
    | .ok (_, other :: _) => session.complain "expr" ("syntax error: unexpected argument ".toList ++ quoted other) 2
    | .ok (value, []) => (session.printLine value).withStatus (if WordExpression.isNothing value then 1 else 0)

end LogDiagram.Shell
