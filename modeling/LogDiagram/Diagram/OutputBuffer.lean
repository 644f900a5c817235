import LogDiagram.Rule.Template

/-!
# The lines of a diagram while they are written

An `OutputBuffer` holds the diagram lines that were kept and, for some of them, a tally under the position of the line.
`OutputBuffer.push` offers a line under a policy, and `OutputBuffer.finish` gives the lines with their tallies filled
in.
-/

namespace LogDiagram

/-- The kept lines in order, and the tallies, each with the position of its line. -/
structure OutputBuffer where
  kept : Array Text
  tallies : List (Nat × Nat)
  deriving DecidableEq, Repr

namespace OutputBuffer

def empty : OutputBuffer := ⟨#[], []⟩

/-- The given lines, without tallies. -/
def ofLines (lines : List Text) : OutputBuffer := ⟨lines.toArray, []⟩

/-- The kept lines in order, without their tallies. -/
def lines (buffer : OutputBuffer) : List Text := buffer.kept.toList

/-- The tally of the `i`-th kept line. -/
def tally? (buffer : OutputBuffer) (i : Nat) : Option Nat := buffer.tallies.lookup i

/-- The buffer with a tally for the `i`-th kept line, in the place of the one it had. -/
def setTally (buffer : OutputBuffer) (i n : Nat) : OutputBuffer :=
  { buffer with tallies := (i, n) :: buffer.tallies.filter fun entry => entry.1 != i }

/-- Whether a policy drops a line behind the kept ones. -/
def drops (buffer : OutputBuffer) (policy : DuplicatePolicy) (candidate : Text) : Bool :=
  match policy with
  | .keep => false
  | .removeAll | .count => buffer.kept.contains candidate
  | .removeContinuous | .countContinuous => buffer.kept.back? == some candidate

/-- The position of the kept line that counts a dropped one: its first occurrence, or the last line. -/
def counterOf? (buffer : OutputBuffer) (policy : DuplicatePolicy) (candidate : Text) : Option Nat :=
  match policy with
  | .count => buffer.kept.idxOf? candidate
  | .countContinuous => if buffer.kept.isEmpty then none else some (buffer.kept.size - 1)
  | .keep | .removeAll | .removeContinuous => none

/-- One more occurrence of the `i`-th kept line. A line without a tally starts at one. -/
def countAt (buffer : OutputBuffer) (i : Nat) : OutputBuffer := buffer.setTally i ((buffer.tally? i).getD 0 + 1)

/-- The buffer with one more kept line, which has a tally from the start if its policy counts. -/
def append (buffer : OutputBuffer) (line : Text) (policy : DuplicatePolicy) : OutputBuffer :=
  let longer := { buffer with kept := buffer.kept.push line }
  if policy.isCounting then longer.setTally (longer.kept.size - 1) 1 else longer

/-- Offers a line; the answer says whether it was appended. -/
def push (buffer : OutputBuffer) (candidate : Text) (policy : DuplicatePolicy) : OutputBuffer × Bool :=
  if buffer.drops policy candidate then
    match buffer.counterOf? policy candidate with
    | some i => (buffer.countAt i, false)
    | none => (buffer, false)
  else (buffer.append candidate policy, true)

/-- The kept lines in order, each tally filled in where it belongs. -/
def finish (buffer : OutputBuffer) : List Text :=
  (buffer.tallies.foldl (fun kept (i, n) => kept.modify i fun line => line.fillCount n) buffer.kept).toList

end OutputBuffer

end LogDiagram
