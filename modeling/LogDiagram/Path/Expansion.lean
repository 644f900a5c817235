import LogDiagram.Path.Basic
import LogDiagram.Text.Replace

/-!
# Names of path parts in configured texts

`Path.Parts.expand` writes the parts of the path of a log in the places that name them.
-/

namespace LogDiagram.Path.Parts

/-- A text with the parts of the path in the places that name them. -/
def expand (parts : Parts) (t : Text) : Text :=
  Text.replaceAll fileMark parts.file
    (Text.replaceAll stemMark parts.stem (Text.replaceAll directoryMark parts.directory t))

end LogDiagram.Path.Parts
