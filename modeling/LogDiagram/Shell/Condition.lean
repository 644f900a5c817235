import LogDiagram.Shell.Arguments
import LogDiagram.Shell.Arithmetic
import LogDiagram.Shell.System

/-!
# Conditions

The program that tells whether something holds of texts, numbers or files. A condition is a list of texts; what a text
means in it depends on the texts behind it.

* `Condition.holds` tells whether a condition holds, or what is wrong with it;
* `test` and `bracket` are the program under its two names.
-/

namespace LogDiagram.Shell

namespace Condition

def unaryOperators : List String :=
  ["-r", "-w", "-x", "-e", "-f", "-d", "-c", "-b", "-p", "-u", "-g", "-k", "-s", "-t", "-z", "-n", "-h", "-L", "-O",
    "-G", "-S"]

def binaryOperators : List String :=
  ["=", "!=", "<", ">", "-eq", "-ne", "-ge", "-gt", "-le", "-lt", "-nt", "-ot", "-ef"]

/-- What the first of some texts is. -/
inductive Mark where
  | nothing
  | operand
  | negation
  | either
  | both
  | opening
  | closing
  | unary
  | binary
  deriving DecidableEq, Repr

def markOf (t : Text) : Mark :=
  match String.ofList t with
  | "!" => .negation
  | "-o" => .either
  | "-a" => .both
  | "(" => .opening
  | ")" => .closing
  | name => if unaryOperators.contains name then .unary else if binaryOperators.contains name then .binary else .operand

/-- What the first of some texts is, which depends on those behind it. -/
def mark : List Text → Mark
  | [] => .nothing
  | t :: rest =>
    match markOf t, rest with
    | .unary, [] => .operand
    | .unary, next :: _ :: _ => if markOf next = .binary then .operand else .unary
    | .opening, [] => .operand
    | found, _ => found

def ofOne (session : Session) (operator operand : Text) : Bool :=
  let node := (session.find operand).toOption
  let isSystem := (systemName? operand).isSome
  match String.ofList operator with
  | "-n" => !operand.isEmpty
  | "-z" => operand.isEmpty
  | "-e" | "-r" | "-w" | "-O" | "-G" => node.isSome || isSystem
  | "-f" => isSystem || (match node with | some (.file _) => true | _ => false)
  | "-d" => node == some .directory
  | "-c" => node == some .device
  | "-s" =>
    isSystem || (match node with
      | some (.file content) => !content.isEmpty
      | found => found == some .directory)
  | "-x" => isSystem || node == some .directory || session.isExecutable operand
  | "-h" | "-L" => (session.tree.linkAtPath? operand.ofPlain).isSome
  | _ => false

/-- The number that an operand writes in base 10. -/
def number (t : Text) : Except Text Int :=
  let (isNegative, digits) := splitSign ((t.dropWhile isBlankChar).reverse.dropWhile isBlankChar).reverse
  match digitsValue? digits with
  | some n =>
    let n : Int := if isNegative then -n else n
    if wrapped n = n then .ok n else .error ("Illegal number: ".toList ++ t)
  | none => .error ("Illegal number: ".toList ++ t)

/-- When something was last changed, counted from the latest change. -/
def ageOf? (session : Session) (path : Text) : Option Nat := do
  let place ← (session.tree.follow path.ofPlain true).toOption
  session.tree.entries.findIdx? fun entry => entry.1 == place

def ofTwo (session : Session) (left operator right : Text) : Except Text Bool :=
  let compare (f : Int → Int → Bool) : Except Text Bool := do return f (← number left) (← number right)
  match String.ofList operator with
  | "=" => .ok (left == right)
  | "!=" => .ok (left != right)
  | "<" => .ok (!Text.isUpTo right left)
  | ">" => .ok (!Text.isUpTo left right)
  | "-eq" => compare fun a b => a == b
  | "-ne" => compare fun a b => a != b
  | "-lt" => compare fun a b => a < b
  | "-le" => compare fun a b => a ≤ b
  | "-gt" => compare fun a b => a > b
  | "-ge" => compare fun a b => a ≥ b
  | "-ef" =>
    .ok (match session.tree.follow left.ofPlain true, session.tree.follow right.ofPlain true with
      | .ok a, .ok b => a == b && (session.tree.node? a).isSome
      | _, _ => false)
  | name =>
    .ok (match ageOf? session left, ageOf? session right with
      | some a, some b => if name = "-nt" then a < b else b < a
      | _, _ => false)

mutual

def readAny (session : Session) (fuel : Nat) (ts : List Text) : Except Text (Bool × List Text) :=
  match fuel with
  | 0 => .error "too deep".toList
  | fuel + 1 => do
    let (first, rest) ← readAll session fuel ts
    if mark rest = .either then
      let (more, rest) ← readAny session fuel rest.tail
      return (first || more, rest)
    else return (first, rest)

def readAll (session : Session) (fuel : Nat) (ts : List Text) : Except Text (Bool × List Text) :=
  match fuel with
  | 0 => .error "too deep".toList
  | fuel + 1 => do
    let (first, rest) ← readOne session fuel ts
    if mark rest = .both then
      let (more, rest) ← readAll session fuel rest.tail
      return (first && more, rest)
    else return (first, rest)

def readOne (session : Session) (fuel : Nat) (ts : List Text) : Except Text (Bool × List Text) :=
  match fuel with
  | 0 => .error "too deep".toList
  | fuel + 1 => do
    match mark ts, ts with
    | .negation, _ :: rest =>
      let (holds, rest) ← readOne session fuel rest
      return (!holds, rest)
    | .opening, _ :: rest =>
      if mark rest = .closing then return (false, rest.tail)
      let (holds, rest) ← readAny session fuel rest
      if mark rest = .closing then return (holds, rest.tail) else throw "closing paren expected".toList
    | .unary, operator :: operand :: rest => return (ofOne session operator operand, rest)
    | .unary, [operator] => throw (operator ++ ": argument expected".toList)
    | _, [] => return (false, [])
    | _, t :: rest => readPlain session t rest

/-- A condition without an operator in front: a comparison, or a text that must not be empty. -/
def readPlain (session : Session) (t : Text) (rest : List Text) : Except Text (Bool × List Text) :=
  match mark rest, rest with
  | .binary, operator :: right :: rest => (ofTwo session t operator right).map fun holds => (holds, rest)
  | .binary, [operator] => .error (operator ++ ": argument expected".toList)
  | _, _ => .ok (!t.isEmpty, rest)

end

/-- The first of some texts after the one in front compares the two around it, and there are no more. -/
def isComparison : List Text → Bool
  | [operator, _] => markOf operator == .binary
  | _ => false

def holdsPlainly (session : Session) (ts : List Text) : Except Text Bool := do
  let (holds, rest) ← if isComparison ts.tail then readPlain session (ts.head?.getD []) ts.tail
    else readAny session (4 * ts.length + 4) ts
  if rest.isEmpty then return holds
  else throw ((ts[ts.length - rest.length - 1]?).getD [] ++ ": unexpected operator".toList)

/-- Whether a condition holds. With three or four texts an exclamation mark or parentheses come before all else. -/
def holds (session : Session) (isNegated : Bool) : List Text → Except Text Bool
  | [] => .ok false
  | t :: rest =>
    let isSpecial := (rest.length == 2 || rest.length == 3) && !(isComparison rest)
    if isSpecial && t == ['!'] then holds session true rest
    else
      let isEnclosed := isSpecial && t == ['('] && rest.getLast? == some [')']
      (holdsPlainly session (if isEnclosed then rest.dropLast else t :: rest)).map fun result => result != isNegated

end Condition

/-- Tells by the exit code whether a condition holds. -/
def testAs (name : String) : Program := fun arguments session =>
  match Condition.holds session false arguments with
  | .ok true => session.withStatus 0
  | .ok false => session.withStatus 1
  | .error complaint => session.complainAlone (name.toList ++ ':' :: ' ' :: complaint) 2

/-- Tells by the exit code whether a condition holds. -/
def test : Program := testAs "test"

/-- As `test`, with a bracket around the condition. -/
def bracket : Program := fun arguments session =>
  if arguments.getLast? = some [']'] then testAs "[" arguments.dropLast session
  else session.complainAlone "[: missing ]".toList 2

end LogDiagram.Shell
