import LogDiagram.Rule.Defect
import LogDiagram.Text.Blank

/-!
# Rules

What a configuration says about the lines of a log:

* a `Rule` turns a line that holds all its patterns into a line of the diagram;
* a `Replacement` replaces a piece of text wherever it stands;
* a `PairSpec` says which diagram line has to answer which;
* a `RuleSet` is what one run works with. `RuleSet.ofParts` refuses rules and pairs that miss a part.

The order of rules is their priority: `Rule.findFor?` gives the first rule that matches.
-/

namespace LogDiagram

/-- A piece of a line to be captured: the text between two markers. -/
structure VariableSpec where
  startsWith : Text
  endsWith : Text
  deriving DecidableEq, Repr

/-- What happens to a diagram line that was written before. -/
inductive DuplicatePolicy where
  /-- It is written again. -/
  | keep
  /-- It is dropped if an equal line was written before. -/
  | removeAll
  /-- It is dropped if it equals the last line written. -/
  | removeContinuous
  /-- As `removeAll`, and the first equal line counts how often it came. -/
  | count
  /-- As `removeContinuous`, and the last line counts how often it came. -/
  | countContinuous
  deriving DecidableEq, Repr

namespace DuplicatePolicy

/-- The policy that a configuration names; blanks around the name do not count and no name means `keep`. -/
def ofTag? (tag : Text) : Option DuplicatePolicy :=
  match String.ofList tag.trimmed with
  | "" | "none" | "allowed" => some keep
  | "remove_all" | "remove" => some removeAll
  | "remove_continuous" => some removeContinuous
  | "count" => some count
  | "count_continuous" => some countContinuous
  | _ => none

def label : DuplicatePolicy → Text
  | keep => "none".toList
  | removeAll => "remove_all".toList
  | removeContinuous => "remove_continuous".toList
  | count => "count".toList
  | countContinuous => "count_continuous".toList

def isCounting : DuplicatePolicy → Bool
  | count | countContinuous => true
  | keep | removeAll | removeContinuous => false

/-- A policy is found under its own label. -/
theorem ofTag?_label (p : DuplicatePolicy) : ofTag? p.label = some p := by cases p <;> decide

end DuplicatePolicy

/-- How lines of one kind become lines of the diagram. -/
structure Rule where
  /-- The group by which the rule can be switched on and off. -/
  group : Option Text
  /-- Whether the rule applies when no group is chosen. -/
  enabled : Bool
  /-- The texts that a line has to hold, in any order. -/
  patterns : List Text
  /-- The pieces of the line that the diagram line shows. -/
  captures : List VariableSpec
  /-- The diagram line, with places for the captured pieces. -/
  template : Text
  /-- What happens to repeated diagram lines. -/
  duplicates : DuplicatePolicy
  deriving DecidableEq, Repr

/-- A text and what it is replaced by. -/
structure Replacement where
  search : Text
  replace : Text
  deriving DecidableEq, Repr

/-- Which diagram line answers which, and what is written where the answer is missing. -/
structure PairSpec where
  /-- Marks the line that wants an answer. -/
  source : Text
  /-- Marks the answer. -/
  pairsWith : Text
  /-- Marks the line before which the answer has to come. -/
  before : Text
  /-- The line written where an answer is missing. -/
  error : Text
  deriving DecidableEq, Repr

namespace Rule

/-- The line holds every pattern of the rule. -/
def isFor (rule : Rule) (line : Text) : Bool := rule.patterns.all fun pattern => pattern.occursIn line

/-- The first rule that matches a line. -/
def findFor? (rules : List Rule) (line : Text) : Option Rule := rules.find? fun rule => rule.isFor line

/-- The first part that the rule lacks. -/
def missingField? (rule : Rule) : Option Text :=
  if rule.patterns.isEmpty then some "patterns".toList
  else if rule.template.isEmpty then some "print".toList
  else none

end Rule

namespace PairSpec

/-- The first part that the pair lacks; an empty marker would stand in every line. -/
def missingField? (pair : PairSpec) : Option Text :=
  if pair.source.isEmpty then some "source".toList
  else if pair.pairsWith.isEmpty then some "pairswith".toList
  else none

end PairSpec

/-- What one run works with. -/
structure RuleSet where
  /-- The rules, the one with the highest priority first. -/
  rules : List Rule
  /-- A line that holds one of these texts is left out. -/
  blacklist : List Text
  /-- What is replaced in a line, in this order. -/
  replacements : List Replacement
  /-- The pairs to be checked, in this order. -/
  pairs : List PairSpec
  deriving DecidableEq, Repr

namespace RuleSet

def firstMissing? {α : Type} (list : String) (missing? : α → Option Text) (entries : List α) : Option EntryError :=
  entries.zipIdx.findSome? fun (entry, i) => (missing? entry).map fun field => ⟨entryOf list i, .missing field⟩

/-- A rule set of complete rules and pairs; otherwise the first part that is missing, rules first. -/
def ofParts (rules : List Rule) (blacklist : List Text) (replacements : List Replacement) (pairs : List PairSpec) :
    Except EntryError RuleSet :=
  match firstMissing? "rules" Rule.missingField? rules with
  | some missing => .error missing
  | none =>
    match firstMissing? "pairs" PairSpec.missingField? pairs with
    | some missing => .error missing
    | none => .ok { rules, blacklist, replacements, pairs }

end RuleSet

def isBlacklisted (blacklist : List Text) (line : Text) : Bool := blacklist.any fun entry => entry.occursIn line

end LogDiagram
