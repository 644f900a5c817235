import LogDiagram.Text.Basic

/-!
# Lines of a text

A line ends before a line feed, or before a carriage return with a line feed behind it. A final line feed ends the last
line and starts no new one; a carriage return that no line feed follows belongs to its line.

* `Text.lines` takes a text apart, `Text.ofLines` writes lines each with a line feed behind it.
-/

namespace LogDiagram.Text

/-- A line, given last character first, without the carriage return in front of its line feed. -/
def endedLine : Text → Text
  | '\r' :: line => line.reverse
  | line => line.reverse

/-- The pass behind `lines`: `line` is the open line and `done` the finished ones, each last one first. -/
def linesFrom (line : Text) (done : List Text) : Text → List Text
  | [] => if line.isEmpty then done.reverse else (line.reverse :: done).reverse
  | c :: rest =>
    if c = '\n' then linesFrom [] (endedLine line :: done) rest else linesFrom (c :: line) done rest

/-- The lines of a text without their ends. -/
def lines (t : Text) : List Text := linesFrom [] [] t

/-- The lines, each followed by a line feed. -/
def ofLines (ls : List Text) : Text := ls.flatMap fun line => line ++ ['\n']

end LogDiagram.Text
