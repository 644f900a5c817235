import LogDiagram.Text.Basic

/-!
# Documents

A `Document` is the diagram between its opening and closing lines. With `newLines` every line is followed by a line
feed; without, the lines stand back to back.
-/

namespace LogDiagram

/-- The lines of a document and whether each is followed by a line feed. -/
structure Document where
  lines : List Text
  newLines : Bool
  deriving DecidableEq, Repr

namespace Document

/-- The diagram between its opening and closing lines. -/
def assemble (opening body closing : List Text) (newLines : Bool) : Document :=
  ⟨opening ++ body ++ closing, newLines⟩

def text (document : Document) : Text :=
  document.lines.flatMap fun line => if document.newLines then line ++ ['\n'] else line

end Document

end LogDiagram
