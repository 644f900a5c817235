import LogDiagram.Regex.Basic

/-!
# Putting regular expressions together

The functions below build expressions from smaller ones and write them as short as they can: texts side by side become
one text, alternatives of one character become a set, and what alternatives start with in common is written once.

* `Regex.ofSet`, `Regex.sequence`, `Regex.choice` and `Regex.repetition` build expressions;
* `Regex.parts` and `Regex.alternatives` take sequences and choices apart.
-/

namespace LogDiagram.Regex

open Unicode (Ranges)

/-- One character of a set; a set of one character is a text. -/
def ofSet (set : Ranges) : Regex :=
  match set with
  | [(first, last)] => if first = last then text [Char.ofNat first] else one set
  | _ => one set

/-! ## Sequences -/

/-- The expressions that follow one another. -/
def parts : Regex → List Regex
  | empty => []
  | andThen r s => r :: parts s
  | r => [r]

/-- Expressions in a row, with texts side by side made one text. -/
def joinTexts : List Regex → List Regex
  | [] => []
  | text t :: rest =>
    match joinTexts rest with
    | text u :: rest => text (t ++ u) :: rest
    | rest => text t :: rest
  | r :: rest => r :: joinTexts rest

def ofParts : List Regex → Regex
  | [] => empty
  | [r] => r
  | r :: rest => andThen r (ofParts rest)

/-- One expression after the other. -/
def sequence (rs : List Regex) : Regex := ofParts (joinTexts (rs.flatMap parts))

/-! ## Alternatives -/

/-- The expressions among which an expression chooses. -/
def alternatives : Regex → List Regex
  | either r s => r :: alternatives s
  | r => [r]

/-- The expression with the given alternatives; without any there is no piece. -/
def ofAlternatives : List Regex → Regex
  | [] => one []
  | [r] => r
  | r :: rest => either r (ofAlternatives rest)

/-- The only character of a text. -/
def char? : Regex → Option Nat
  | text [c] => some c.toNat
  | _ => none

def set? : Regex → Option Ranges
  | one set => some set
  | _ => none

/-- The parts of a sequence of two or more. -/
def sequence? : Regex → Option (List Regex)
  | andThen r s => some (r :: s.parts)
  | _ => none

def commonStart : List Regex → List Regex → List Regex
  | r :: rs, s :: ss => if r = s then r :: commonStart rs ss else []
  | _, _ => []

/-- What several sequences have in common at their start. -/
def commonParts : List (List Regex) → List Regex
  | [] => []
  | first :: rest => rest.foldl commonStart first

/-- How many parts an expression has, those inside of parts counted. -/
def weight : Regex → Nat
  | andThen r s | either r s => r.weight + s.weight + 1
  | repeated body _ _ _ | captured _ _ body => body.weight + 1
  | _ => 1

/-- One of several expressions; `fuel` bounds how often a common start is taken out of them. -/
def choiceWithin : (fuel : Nat) → List Regex → Regex
  | 0, rs => ofAlternatives rs
  | fuel + 1, rs =>
    match rs.flatMap alternatives with
    | [] => ofAlternatives []
    | [r] => r
    | rs =>
      match rs.mapM char?, rs.mapM set?, rs.mapM sequence? with
      | some cs, _, _ => ofSet (Ranges.ofList (cs.map fun n => (n, n)))
      | none, some sets, _ => ofSet (Ranges.unions sets)
      | none, none, some sequences =>
        match commonParts sequences with
        | [] => ofAlternatives rs
        | start =>
          let rests := sequences.map fun parts => sequence (parts.drop start.length)
          sequence (start ++ [choiceWithin fuel rests])
      | none, none, none => ofAlternatives rs

def choice (rs : List Regex) : Regex := choiceWithin (rs.foldl (fun size r => size + weight r) 1) rs

/-! ## Repetitions -/

/-- Pieces one after the other; empty pieces are not counted. -/
def repetition (body : Regex) (least : Nat) (most : Option Nat) (eager : Bool) : Regex :=
  let (least, most) :=
    if body.isEmptyOnly then (min least 1, some ((most.map fun m => min m 1).getD 1)) else (least, most)
  match least, most with
  | 0, some 0 => empty
  | 1, some 1 => body
  | least, most => repeated body least most eager

end LogDiagram.Regex
