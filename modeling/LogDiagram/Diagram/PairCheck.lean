import LogDiagram.Rule.Basic

/-!
# Checking that requests are answered

A source line waits for its answer until another source line, or a line before which the answer has to come, or the
end. Where the wait ends without an answer, `PairSpec.annotate` writes the error line of the pair: in front of the line
that ended the wait, or at the end of the list. The check goes over the list first; the errors are inserted after it,
the last one first, so that no place moves before its turn.
-/

namespace LogDiagram.PairSpec

/-- The state of a check: the place of the source line that waits, and the places of the errors, the last one first. -/
structure Check where
  waiting : Option Nat
  errorPlaces : List Nat
  deriving DecidableEq, Repr

def Check.start : Check := ⟨none, []⟩

/-- One line at its place. A source line is looked for first, then an answer, then a line that ends the wait. -/
def step (pair : PairSpec) (check : Check) (entry : Text × Nat) : Check :=
  let (line, place) := entry
  match check.waiting with
  | some _ =>
    if pair.source.occursIn line then ⟨some place, place :: check.errorPlaces⟩
    else if pair.pairsWith.occursIn line then { check with waiting := none }
    else if pair.before.occursIn line then ⟨none, place :: check.errorPlaces⟩
    else check
  | none => if pair.source.occursIn line then { check with waiting := some place } else check

/-- The check of a list. -/
def check (pair : PairSpec) (lines : List Text) : Check := lines.zipIdx.foldl pair.step .start

/-- The list with the error line of the pair inserted at one place after the other. -/
def insertErrors (pair : PairSpec) (places : List Nat) (lines : List Text) : List Text :=
  places.foldl (fun lines place => lines.insertIdx place pair.error) lines

/-- The list with the error lines of one pair, and their number. -/
def annotate (pair : PairSpec) (lines : List Text) : List Text × Nat :=
  let check := pair.check lines
  match check.waiting with
  | some _ => (pair.insertErrors check.errorPlaces (lines ++ [pair.error]), check.errorPlaces.length + 1)
  | none => (pair.insertErrors check.errorPlaces lines, check.errorPlaces.length)

/-- The list with the error lines of several pairs, each one seeing those of the pairs before it, and their number. -/
def annotateAll (pairs : List PairSpec) (lines : List Text) : List Text × Nat :=
  pairs.foldl (fun (lines, added) pair => let (lines, more) := pair.annotate lines; (lines, added + more)) (lines, 0)

end LogDiagram.PairSpec
