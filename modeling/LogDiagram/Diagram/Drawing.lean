import LogDiagram.Diagram.OutputBuffer
import LogDiagram.Diagram.PairCheck
import LogDiagram.Rule.Capture

/-!
# From log lines to diagram lines

`RuleSet.drawLine?` turns one line into a diagram line; `RuleSet.draw` runs over a whole log, drops repeated
lines, fills in the tallies, checks the pairs and counts what happened to each line.
-/

namespace LogDiagram

/-- What happened to the lines of a log. -/
structure Stats where
  /-- The lines of the log. -/
  linesRead : Nat
  /-- The lines left out by the blacklist. -/
  blacklisted : Nat
  /-- The lines no rule matches. -/
  unmatched : Nat
  /-- The diagram lines dropped as duplicates. -/
  suppressed : Nat
  /-- The error lines of the pair check. -/
  pairErrors : Nat
  deriving DecidableEq, Repr

/-- A diagram and how it came about. -/
structure Drawing where
  lines : List Text
  stats : Stats
  deriving DecidableEq, Repr

namespace RuleSet

/-- A line after its replacements. -/
def substitute (set : RuleSet) (line : Text) : Text := Replacement.applyAll set.replacements line

/-- The diagram line of a line after its replacements, by the first rule that matches. -/
def renderLine? (set : RuleSet) (line : Text) : Option (Text × DuplicatePolicy) :=
  (Rule.findFor? set.rules line).map fun rule =>
    (rule.template.render (VariableSpec.captureAll rule.captures line), rule.duplicates)

/-- The diagram line of a line and what happens to its repetitions; none for a blacklisted or unmatched line. -/
def drawLine? (set : RuleSet) (line : Text) : Option (Text × DuplicatePolicy) :=
  let line := set.substitute line
  if isBlacklisted set.blacklist line then none else set.renderLine? line

/-- What a run over a log has so far. -/
structure Run where
  buffer : OutputBuffer
  stats : Stats
  deriving DecidableEq, Repr

/-- Before the first line. -/
def Run.start : Run := ⟨.empty, ⟨0, 0, 0, 0, 0⟩⟩

def step (set : RuleSet) (run : Run) (raw : Text) : Run :=
  let line := set.substitute raw
  let stats := { run.stats with linesRead := run.stats.linesRead + 1 }
  if isBlacklisted set.blacklist line then
    { run with stats := { stats with blacklisted := stats.blacklisted + 1 } }
  else
    match set.renderLine? line with
    | none => { run with stats := { stats with unmatched := stats.unmatched + 1 } }
    | some (rendered, policy) =>
      match run.buffer.push rendered policy with
      | (buffer, true) => { buffer, stats }
      | (buffer, false) => { buffer, stats := { stats with suppressed := stats.suppressed + 1 } }

/-- The diagram lines of a log. -/
def draw (set : RuleSet) (log : List Text) : Drawing :=
  let run := log.foldl set.step .start
  let (lines, added) := PairSpec.annotateAll set.pairs run.buffer.finish
  { lines, stats := { run.stats with pairErrors := added } }

end RuleSet

end LogDiagram
