import LogDiagram.Config.Selection
import LogDiagram.Diagram.Document
import LogDiagram.Diagram.Drawing
import LogDiagram.Text.Lines

/-!
# What a configuration makes of a log

`Config.product` is everything that is computed from the lines of a log: the lines that are kept of it, its diagram and
the document around the diagram. No file is touched here.
-/

namespace LogDiagram

/-- What becomes of a log. -/
structure Product where
  /-- How many lines were deleted. -/
  deleted : Nat
  /-- The other lines, after their replacements. -/
  trimmed : List Text
  drawing : Drawing
  document : Document
  deriving DecidableEq, Repr

/-- What a configuration with the rules chosen from it makes of the lines of a log. -/
def Config.product (config : Config) (set : RuleSet) (log : List Text) : Product :=
  let (kept, deleted) := LineDeletion.deleteFrom config.deletions log
  let drawing := set.draw kept
  { deleted
    trimmed := kept.map set.substitute
    drawing
    document := .assemble config.wrapTextPre drawing.lines config.wrapTextPost config.autoNewLine }

end LogDiagram
