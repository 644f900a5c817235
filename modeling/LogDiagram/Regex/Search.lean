import LogDiagram.Regex.Basic

/-!
# Searching with a regular expression

A line of `n` characters has `n + 1` places. `Regex.reach` takes marked places and marks those where a piece of the
expression ends that starts at a marked place; a line matches if some place is marked after all of them were marked.
-/

namespace LogDiagram.Regex

/-- For each place of a line whether it is marked. -/
abbrev Marks := List Bool

def places (line : Text) : List Place :=
  List.zipWith Place.mk (none :: line.map some) (line.map some ++ [none])

namespace Marks

def or (a b : Marks) : Marks := List.zipWith (· || ·) a b

def diff (a b : Marks) : Marks := List.zipWith (fun x y => x && !y) a b

def isAny (marks : Marks) : Bool := marks.any id

def only (test : Place → Bool) (places : List Place) (marks : Marks) : Marks :=
  List.zipWith (fun place marked => marked && test place) places marks

/-- Every mark before a character of the set goes to the next place; the other marks go. -/
def stepOver (set : Unicode.Ranges) (places : List Place) (marks : Marks) : Marks :=
  (false :: only (fun place => place.after.any fun c => set.contains c.toNat) places marks).dropLast

/-- The marks after `n` steps; a step that changes nothing is the last one. -/
def iterate (step : Marks → Marks) : (n : Nat) → Marks → Marks
  | 0, marks => marks
  | n + 1, marks =>
    let next := step marks
    if next = marks then marks else iterate step n next

/--
All marks that at most `n` steps reach. `fresh` holds the marks that were found last and are not in `found` yet.
-/
def closure (step : Marks → Marks) : (n : Nat) → (found fresh : Marks) → Marks
  | 0, found, fresh => found.or fresh
  | n + 1, found, fresh =>
    if fresh.isAny then
      let found := found.or fresh
      closure step n found ((step fresh).diff found)
    else found

end Marks

/-- The places where a piece of the expression ends that starts at a marked place. -/
def reach (places : List Place) : Regex → Marks → Marks
  | empty, marks => marks
  | text t, marks => t.foldl (fun marks c => marks.stepOver (CharSet.single c) places) marks
  | one set, marks => marks.stepOver set places
  | look l, marks => marks.only l.holds places
  | andThen r s, marks => s.reach places (r.reach places marks)
  | either r s, marks => (r.reach places marks).or (s.reach places marks)
  | captured _ _ body, marks => body.reach places marks
  | repeated body least most _, marks =>
    let start := Marks.iterate (body.reach places) least marks
    let rounds := match most with
      | some m => m - least
      | none => places.length
    Marks.closure (body.reach places) rounds (start.map fun _ => false) start

/-- The line holds a piece that the expression stands for. -/
def isIn (regex : Regex) (line : Text) : Bool :=
  let places := places line
  (regex.reach places (places.map fun _ => true)).isAny

end LogDiagram.Regex
