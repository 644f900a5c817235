import LogDiagram.Bytes.Slice

/-!
# Previews of long lines

`Text.preview` is what a message shows of a line: the whole line if it has at most 200 bytes in UTF-8. The end of a
longer line's preview goes back from there until it cuts no character.
-/

namespace LogDiagram.Text

/-- The number of bytes of a line that a preview may show. -/
def previewLimit : Nat := 200

/--
The front part of a line that fits into so many bytes. Nothing comes out if the search for its end steps below zero or
if a character is cut.
-/
def frontWithin? (limit : Nat) (line : Text) : Option Text :=
  let bs := Bytes.ofText line
  if bs.length ≤ limit then some line
  else do
    let stop ← bs.boundaryUpTo? limit
    let front ← (bs.slice 0 stop).toOption
    Bytes.toText? front

/-- The part of a line that may be shown in a message. -/
def preview (line : Text) : Text := (frontWithin? previewLimit line).getD []

end LogDiagram.Text
