import LogDiagram.Shell.Session

/-!
# Expressions of numbers

A script calculates with whole numbers of 64 bits, which start over where they end. A variable in an expression stands
for the number that its value writes, and a variable without a value for zero.

* `Formula.read` reads an expression;
* `Formula.value` is its value, and the session in which its assignments are made.
-/

namespace LogDiagram.Shell

/-- An operator between two numbers. -/
inductive Operator where
  | add | subtract | multiply | divide | remainder
  | shiftLeft | shiftRight
  | less | lessOrEqual | greater | greaterOrEqual | equal | unequal
  | bitAnd | bitXor | bitOr
  | both | either
  deriving DecidableEq, Repr

/-- An operator in front of a number. -/
inductive Sign where
  | plus | minus | complement | negation
  deriving DecidableEq, Repr

/-- An expression. -/
inductive Formula where
  | number (n : Int)
  | variable (name : Text)
  | signed (sign : Sign) (operand : Formula)
  | combined (operator : Operator) (left right : Formula)
  | choice (condition yes no : Formula)
  /-- A variable gets the value of an expression, combined with its old value if an operator is given. -/
  | assigned (name : Text) (operator : Option Operator) (value : Formula)
  deriving DecidableEq, Repr

/-- Why there is no value. -/
inductive FormulaError where
  | noOperand
  | noEnd
  | noColon
  | zeroDivision
  | illegalNumber (t : Text)
  deriving DecidableEq, Repr

/-- A number as a whole number of 64 bits. -/
def wrapped (n : Int) : Int := n.bmod (Nat.pow 2 64)

def greatestNumber : Int := Nat.pow 2 63 - 1

def digitIn? (base : Nat) (c : Char) : Option Nat :=
  let n :=
    if c.isDigit then c.toNat - '0'.toNat
    else if c.isAlpha then c.toLower.toNat - 'a'.toNat + 10
    else base
  if n < base then some n else none

/-- The number that the digits in front of a text write, with how many there are, and what follows. -/
def numeral (base : Nat) (t : Text) : Nat × Nat × Text :=
  let digits := t.takeWhile fun c => (digitIn? base c).isSome
  (digits.foldl (fun n c => n * base + (digitIn? base c).getD 0) 0, digits.length, t.drop digits.length)

/-- The number in front of a text, where a leading zero stands for base 8 and `0x` for base 16. -/
def unsignedNumber (t : Text) : Nat × Text :=
  match t with
  | '0' :: x :: rest =>
    if x = 'x' ∨ x = 'X' then
      match numeral 16 rest with
      | (_, 0, _) => (0, x :: rest)
      | (n, _, rest) => (n, rest)
    else let (n, _, rest) := numeral 8 t; (n, rest)
  | _ => let (n, _, rest) := numeral 10 t; (n, rest)

/-- The number in front of an expression; one beyond 64 bits becomes the greatest number. -/
def literal (t : Text) : Nat × Text :=
  let (n, rest) := unsignedNumber t
  (min n greatestNumber.toNat, rest)

/-- A blank between parts of an expression. -/
def isBlankChar (c : Char) : Bool := c == ' ' || ('\t' ≤ c && c ≤ '\r')

/-- Whether a minus sign stands in front of a number, and the number without its sign. -/
def splitSign (t : Text) : Bool × Text :=
  match t with
  | '-' :: rest => (true, rest)
  | '+' :: rest => (false, rest)
  | _ => (false, t)

/-- The number that a whole text writes; blanks around it do not matter, and it has to be one of 64 bits. -/
def wholeNumber? (t : Text) : Option Int :=
  let (isNegative, digits) := splitSign (t.dropWhile isBlankChar)
  let (size, rest) := unsignedNumber digits
  let n : Int := if isNegative then -size else size
  let isWritten := digits.head?.any Char.isDigit && rest.all isBlankChar
  if isWritten ∧ -greatestNumber - 1 ≤ n ∧ n ≤ greatestNumber then some n else none

namespace Formula

/-! ## Reading -/

/-- The operators, the tightest ones first; each level with how they are written, longer ones first. -/
def levels : List (List (String × Operator)) := [
  [("*", .multiply), ("/", .divide), ("%", .remainder)],
  [("+", .add), ("-", .subtract)],
  [("<<", .shiftLeft), (">>", .shiftRight)],
  [("<=", .lessOrEqual), (">=", .greaterOrEqual), ("<", .less), (">", .greater)],
  [("==", .equal), ("!=", .unequal)],
  [("&", .bitAnd)], [("^", .bitXor)], [("|", .bitOr)], [("&&", .both)], [("||", .either)]]

def assigners : List (String × Operator) := [
  ("<<", .shiftLeft), (">>", .shiftRight), ("*", .multiply), ("/", .divide), ("%", .remainder), ("+", .add),
  ("-", .subtract), ("&", .bitAnd), ("^", .bitXor), ("|", .bitOr)]

/-- A text without the blanks in front. -/
def skip (t : Text) : Text := t.dropWhile isBlankChar

/-- The operator of a level in front of a text; one that is the start of another operator is none. -/
def operator? (level : List (String × Operator)) (t : Text) : Option (Operator × Text) :=
  level.findSome? fun (name, operator) =>
    match Text.afterPrefix? name.toList t with
    | none => none
    | some rest =>
      let isOther := match name, rest with
        | "&", '&' :: _ | "|", '|' :: _ | "<", '<' :: _ | ">", '>' :: _ => true
        | "==", _ | "!=", _ | "<=", _ | ">=", _ | "&&", _ | "||", _ => false
        | _, '=' :: _ => true
        | _, _ => false
      if isOther then none else some (operator, rest)

/-- What an assignment in front of a text, behind the name, is combined with, and what follows. -/
def assigner? (t : Text) : Option (Option Operator × Text) :=
  match t with
  | '=' :: '=' :: _ => none
  | '=' :: rest => some (none, rest)
  | _ =>
    assigners.findSome? fun (name, operator) =>
      match Text.afterPrefix? name.toList t with
      | some ('=' :: rest) => some (some operator, rest)
      | _ => none

/-- A formula in front of a text. -/
abbrev Found := Except FormulaError (Formula × Text)

mutual

/-- An assignment, a choice or anything that binds tighter. -/
def readWhole (fuel : Nat) (t : Text) : Found :=
  match fuel with
  | 0 => .error .noOperand
  | fuel + 1 =>
    let t := skip t
    let (name, rest) := t.span isNameChar
    match if isName name then assigner? (skip rest) else none with
    | some (operator, rest) => do
      let (value, rest) ← readWhole fuel rest
      return (.assigned name operator value, rest)
    | none => do
      let (condition, rest) ← readLevel fuel levels.length t
      match skip rest with
      | '?' :: rest =>
        let (yes, rest) ← readWhole fuel rest
        match skip rest with
        | ':' :: rest =>
          let (no, rest) ← readWhole fuel rest
          return (.choice condition yes no, rest)
        | _ => throw .noColon
      | rest => return (condition, rest)

/-- Operands with the operators of a level and of the tighter ones between them. -/
def readLevel (fuel : Nat) (level : Nat) (t : Text) : Found :=
  match fuel with
  | 0 => .error .noOperand
  | fuel + 1 =>
    match level with
    | 0 => readOperand fuel (skip t)
    | level + 1 => do
      let (first, rest) ← readLevel fuel level t
      readMore fuel level first rest

def readMore (fuel : Nat) (level : Nat) (first : Formula) (t : Text) : Found :=
  match fuel with
  | 0 => .error .noOperand
  | fuel + 1 =>
    match operator? (levels.getD level []) (skip t) with
    | none => .ok (first, t)
    | some (operator, rest) => do
      let (second, rest) ← readLevel fuel level rest
      readMore fuel level (.combined operator first second) rest

/-- A number, a variable, an expression in parentheses, or one of them with a sign. -/
def readOperand (fuel : Nat) (t : Text) : Found :=
  match fuel with
  | 0 => .error .noOperand
  | fuel + 1 =>
    let signed (sign : Sign) (rest : Text) : Found :=
      (readOperand fuel (skip rest)).map fun (operand, rest) => (.signed sign operand, rest)
    match t with
    | '(' :: rest => do
      let (inner, rest) ← readWhole fuel rest
      match skip rest with
      | ')' :: rest => return (inner, rest)
      | _ => throw .noOperand
    | '+' :: rest => signed .plus rest
    | '-' :: rest => signed .minus rest
    | '~' :: rest => signed .complement rest
    | '!' :: rest => signed .negation rest
    | c :: _ =>
      if c.isDigit then
        let (n, rest) := literal t
        .ok (.number n, rest)
      else if isNameChar c then
        let (name, rest) := t.span isNameChar
        .ok (.variable name, rest)
      else .error .noOperand
    | [] => .error .noOperand

end

def read (t : Text) : Except FormulaError Formula := do
  let (formula, rest) ← readWhole (16 * (t.length + 4)) t
  if (skip rest).isEmpty then return formula else throw .noEnd

/-! ## Values -/

def truth (holds : Bool) : Int := if holds then 1 else 0

def bits (n : Int) : BitVec 64 := BitVec.ofInt 64 n

/-- The value of an operator between numbers. -/
def combine (operator : Operator) (a b : Int) : Except FormulaError Int :=
  match operator with
  | .add => .ok (wrapped (a + b))
  | .subtract => .ok (wrapped (a - b))
  | .multiply => .ok (wrapped (a * b))
  | .divide => if b = 0 then .error .zeroDivision else .ok (wrapped (a.tdiv b))
  | .remainder => if b = 0 then .error .zeroDivision else .ok (a.tmod b)
  | .shiftLeft => .ok (bits a <<< (b % 64).toNat).toInt
  | .shiftRight => .ok ((bits a).sshiftRight (b % 64).toNat).toInt
  | .less => .ok (truth (a < b))
  | .lessOrEqual => .ok (truth (a ≤ b))
  | .greater => .ok (truth (a > b))
  | .greaterOrEqual => .ok (truth (a ≥ b))
  | .equal => .ok (truth (a == b))
  | .unequal => .ok (truth (a != b))
  | .bitAnd => .ok (bits a &&& bits b).toInt
  | .bitXor => .ok (bits a ^^^ bits b).toInt
  | .bitOr => .ok (bits a ||| bits b).toInt
  | .both => .ok (truth (a != 0 && b != 0))
  | .either => .ok (truth (a != 0 || b != 0))

def numberOf (session : Session) (name : Text) : Except FormulaError Int :=
  match session.textOf? name with
  | none | some [] => .ok 0
  | some value =>
    match wholeNumber? value with
    | some n => .ok n
    | none => .error (.illegalNumber value)

/-- The value of an expression, and the session in which its assignments are made. -/
def value : Formula → Session → Except FormulaError (Int × Session)
  | .number n, session => .ok (n, session)
  | .variable name, session => (numberOf session name).map fun n => (n, session)
  | .signed sign operand, session => do
    let (n, session) ← operand.value session
    let result : Int := match sign with
      | .plus => n
      | .minus => wrapped (-n)
      | .complement => -n - 1
      | .negation => truth (n == 0)
    return (result, session)
  | .combined operator left right, session => do
    let (a, session) ← left.value session
    -- The right operand of a connective does not count if the left one decides.
    if operator = .both ∧ a = 0 then return (0, session)
    if operator = .either ∧ a ≠ 0 then return (1, session)
    let (b, session) ← right.value session
    return (← combine operator a b, session)
  | .choice condition yes no, session => do
    let (n, session) ← condition.value session
    if n != 0 then yes.value session else no.value session
  | .assigned name operator formula, session => do
    let (n, session) ← formula.value session
    let n ← match operator with
      | some operator => combine operator (← numberOf session name) n
      | none => pure n
    return (n, session.assign name (Text.ofInt n))

end Formula

def FormulaError.message (source : Text) : FormulaError → Text
  | illegalNumber t => "Illegal number: ".toList ++ t
  | error =>
    let reason := match error with
      | noOperand => "expecting primary"
      | noEnd => "expecting EOF"
      | noColon => "expecting ':'"
      | _ => "division by zero"
    "arithmetic expression: ".toList ++ reason.toList ++ ": \"".toList ++ source ++ ['"']

end LogDiagram.Shell
