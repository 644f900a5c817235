import LogDiagram.Shell.Expression

/-!
# Scripts that work on records

A script is a list of rules, each with a condition and with statements that are run for the records that meet it, and of
functions.

* `AwkExpression` and `AwkStatement` are what a script is made of.
-/

namespace LogDiagram.Shell

/-- An operator between two numbers. -/
inductive AwkOperator where
  | add
  | subtract
  | multiply
  | divide
  | remainder
  | power
  deriving DecidableEq, Repr

inductive AwkComparison where
  | less
  | upTo
  | equal
  | different
  | atLeast
  | greater
  deriving DecidableEq, Repr

/-- Where a line is read from, or where text is written to. -/
inductive AwkStream where
  | file
  /-- A file that is written to at its end. -/
  | fileEnd
  | command
  deriving DecidableEq, Repr

inductive AwkExpression where
  | number (value : Float)
  | text (t : Text)
  /-- Whether the record fits an expression. -/
  | pattern (expression : Expression)
  | name (name : Text)
  | element (array : Text) (index : List AwkExpression)
  | field (number : AwkExpression)
  | assign (operator : Option AwkOperator) (target value : AwkExpression)
  /-- A variable is changed by one; the value is the one before or the one behind the change. -/
  | step (isBefore : Bool) (isUp : Bool) (target : AwkExpression)
  | choice (condition first second : AwkExpression)
  | both (first second : AwkExpression)
  | either (first second : AwkExpression)
  | isIn (index : List AwkExpression) (array : Text)
  | fits (isNegated : Bool) (subject expression : AwkExpression)
  | compare (comparison : AwkComparison) (first second : AwkExpression)
  | join (first second : AwkExpression)
  | calculate (operator : AwkOperator) (first second : AwkExpression)
  | negative (inner : AwkExpression)
  | positive (inner : AwkExpression)
  | negation (inner : AwkExpression)
  | call (name : Text) (arguments : List AwkExpression)
  | builtin (name : String) (arguments : List AwkExpression)
  /-- Reads a line: of the input, of a file or of the output of a command. -/
  | getLine (source : Option (AwkStream × AwkExpression)) (target : Option AwkExpression)
  /-- Several expressions in parentheses. -/
  | group (members : List AwkExpression)

inductive AwkStatement where
  | expression (value : AwkExpression)
  /-- Prints values, or a format with values. -/
  | print (isFormat : Bool) (values : List AwkExpression) (target : Option (AwkStream × AwkExpression))
  | choice (condition : AwkExpression) (first : List AwkStatement) (second : List AwkStatement)
  /-- A loop; the test comes behind the body if it is run at least once. -/
  | loop (runsFirst : Bool) (condition : Option AwkExpression) (step body : List AwkStatement)
  | block (body : List AwkStatement)
  | forEach (variableName array : Text) (body : List AwkStatement)
  | delete (array : Text) (index : List AwkExpression)
  | next
  | nextFile
  | leave
  | again
  | exit (code : Option AwkExpression)
  | giveBack (value : Option AwkExpression)

/-- When the statements of a rule are run. -/
inductive AwkCondition where
  | first
  | last
  | always
  | holds (condition : AwkExpression)
  /-- From a record that meets one condition up to one that meets another one. -/
  | range (index : Nat) (start finish : AwkExpression)

/-- A rule. Without statements the record is printed. -/
structure AwkRule where
  condition : AwkCondition
  body : Option (List AwkStatement)

/-- A function: its parameters and its statements. -/
structure AwkFunction where
  name : Text
  parameters : List Text
  body : List AwkStatement

structure AwkScript where
  rules : List AwkRule
  functions : List AwkFunction

/-- What is wrong with a script: the line and the complaint. -/
structure AwkFault where
  line : Nat
  complaint : Text

end LogDiagram.Shell
