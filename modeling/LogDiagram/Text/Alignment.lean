/-!
# Alignments

Two lists of elements are aligned by telling which elements of either one have no partner in the other one. As few as
possible have none: the shortest way from the front of both lists to their ends is searched for from both sides at once,
and what is in front of and behind its middle is aligned in turn.

* `Alignment.ofArrays` aligns two lists;
* `Alignment.changes` tells where they differ.
-/

namespace LogDiagram

/-- For each element of two lists whether it has no partner in the other one. -/
structure Alignment where
  left : Array Bool
  right : Array Bool
  deriving DecidableEq, Repr

/-- So many elements from a position on in the first list stand in the place of others in the second list. -/
structure Change where
  left : Nat
  leftCount : Nat
  right : Nat
  rightCount : Nat
  deriving DecidableEq, Repr

namespace Alignment

/-- Takes steps as long as there is one; `fuel` bounds them. -/
def iterate {σ : Type} (step : σ → Option σ) : (fuel : Nat) → σ → σ
  | 0, state => state
  | fuel + 1, state =>
    match step state with
    | some next => iterate step fuel next
    | none => state

/-- The element at a position has no partner; there is none outside of a list. -/
def isSet (marks : Array Bool) (position : Nat) : Bool := marks.getD position false

section

variable {α : Type} [BEq α] [Inhabited α] (xs ys : Array α)

/-- The elements at two positions are equal. -/
def isSame (x y : Int) : Bool := 0 ≤ x && 0 ≤ y && xs.getD x.toNat default == ys.getD y.toNat default

/-- A part of two lists: from the first positions on up to the last ones. -/
structure Part where
  x : Int
  xEnd : Int
  y : Int
  yEnd : Int

/-- How far the search went on each diagonal; `shift` is added to the number of a diagonal. -/
structure Reach where
  shift : Int
  cells : Array Int

/-- How far the search went on a diagonal. -/
def Reach.get (reach : Reach) (d : Int) : Int := reach.cells.getD (d + reach.shift).toNat 0

/-- The search went so far on a diagonal. -/
def Reach.set (reach : Reach) (d x : Int) : Reach := { reach with cells := reach.cells.setIfInBounds (d + reach.shift).toNat x }

/-- The diagonals from one to another one, of which every second one is searched. -/
def diagonals (least greatest : Int) : List Int :=
  (List.range ((greatest - least + 2) / 2).toNat).map fun (i : Nat) => greatest - 2 * (i : Int)

/-- What is known in a search from both sides: the bounds of the diagonals and how far either side went. -/
structure Quest where
  frontLeast : Int
  frontGreatest : Int
  backLeast : Int
  backGreatest : Int
  front : Reach
  back : Reach

/-- One more bound of diagonals: one step outside, or one inside where there is no room. -/
def widened (isOutside : Bool) (bound step : Int) : Int := if isOutside then bound + step else bound - step

/-- The front side goes one step further; the middle ends the search. -/
def stepFront (part : Part) (isOdd : Bool) (quest : Quest) : Except (Int × Int) Quest := do
  let dMin := part.x - part.yEnd
  let dMax := part.xEnd - part.y
  let least := widened (quest.frontLeast > dMin) quest.frontLeast (-1)
  let greatest := widened (quest.frontGreatest < dMax) quest.frontGreatest 1
  let front := if quest.frontLeast > dMin then quest.front.set (least - 1) (-1) else quest.front
  let front := if quest.frontGreatest < dMax then front.set (greatest + 1) (-1) else front
  let front ← (diagonals least greatest).foldlM (fun front d => do
    let low := front.get (d - 1)
    let high := front.get (d + 1)
    let start := if low < high then high else low + 1
    let x := iterate (fun x => if x < part.xEnd && x - d < part.yEnd && isSame xs ys x (x - d) then some (x + 1) else none)
      (part.xEnd - part.x).toNat start
    if isOdd && quest.backLeast ≤ d && d ≤ quest.backGreatest && quest.back.get d ≤ x then throw (x, x - d)
    return front.set d x) front
  return { quest with frontLeast := least, frontGreatest := greatest, front }

/-- The back side goes one step further; the middle ends the search. -/
def stepBack (part : Part) (isOdd : Bool) (quest : Quest) : Except (Int × Int) Quest := do
  let dMin := part.x - part.yEnd
  let dMax := part.xEnd - part.y
  let far := part.xEnd + part.yEnd + 2
  let least := widened (quest.backLeast > dMin) quest.backLeast (-1)
  let greatest := widened (quest.backGreatest < dMax) quest.backGreatest 1
  let back := if quest.backLeast > dMin then quest.back.set (least - 1) far else quest.back
  let back := if quest.backGreatest < dMax then back.set (greatest + 1) far else back
  let back ← (diagonals least greatest).foldlM (fun back d => do
    let low := back.get (d - 1)
    let high := back.get (d + 1)
    let start := if low < high then low else high - 1
    let x := iterate (fun x =>
        if part.x < x && part.y < x - d && isSame xs ys (x - 1) (x - d - 1) then some (x - 1) else none)
      (part.xEnd - part.x).toNat start
    if !isOdd && quest.frontLeast ≤ d && d ≤ quest.frontGreatest && x ≤ quest.front.get d then throw (x, x - d)
    return back.set d x) back
  return { quest with backLeast := least, backGreatest := greatest, back }

/-- Steps of both sides until the middle is found; `fuel` bounds them. -/
def searchMiddle (part : Part) (isOdd : Bool) : (fuel : Nat) → Quest → Int × Int
  | 0, _ => (part.x, part.y)
  | fuel + 1, quest =>
    match stepFront xs ys part isOdd quest >>= stepBack xs ys part isOdd with
    | .ok quest => searchMiddle part isOdd fuel quest
    | .error middle => middle

/-- The middle of a shortest way through a part. -/
def middle (part : Part) : Int × Int :=
  let frontMiddle := part.x - part.y
  let backMiddle := part.xEnd - part.yEnd
  let size := (xs.size + ys.size + 5)
  let reach : Reach := ⟨ys.size + 2, Array.replicate size 0⟩
  searchMiddle xs ys part ((frontMiddle - backMiddle) % 2 != 0) size
    ⟨frontMiddle, frontMiddle, backMiddle, backMiddle, reach.set frontMiddle part.x, reach.set backMiddle part.xEnd⟩

/-- A part without what is equal at its front and at its end. -/
def narrowed (part : Part) : Part :=
  let size := xs.size + ys.size
  let part := iterate (fun part : Part =>
    if part.x < part.xEnd && part.y < part.yEnd && isSame xs ys part.x part.y then
      some { part with x := part.x + 1, y := part.y + 1 }
    else none) size part
  iterate (fun part : Part =>
    if part.x < part.xEnd && part.y < part.yEnd && isSame xs ys (part.xEnd - 1) (part.yEnd - 1) then
      some { part with xEnd := part.xEnd - 1, yEnd := part.yEnd - 1 }
    else none) size part

def positions (first last : Int) : List Nat := (List.range (last - first).toNat).map fun i => first.toNat + i

/-- The elements of a part without a partner; `fuel` bounds how often a part is parted again. -/
def unmatched : (fuel : Nat) → Part → List Nat × List Nat
  | 0, part => (positions part.x part.xEnd, positions part.y part.yEnd)
  | fuel + 1, part =>
    let part := narrowed xs ys part
    if part.x = part.xEnd ∨ part.y = part.yEnd then (positions part.x part.xEnd, positions part.y part.yEnd)
    else
      let (x, y) := middle xs ys part
      let (leftFront, rightFront) := unmatched fuel { part with xEnd := x, yEnd := y }
      let (leftBack, rightBack) := unmatched fuel { part with x, y }
      (leftFront ++ leftBack, rightFront ++ rightBack)

def marked (size : Nat) (positions : List Nat) : Array Bool :=
  positions.foldl (fun marks position => marks.setIfInBounds position true) (Array.replicate size false)

/-! ## Moving changes -/

/-- A run of elements without a partner: its bounds, the place in the other list, and where both lists change. -/
structure Run where
  marks : Array Bool
  start : Nat
  stop : Nat
  other : Nat
  /-- The end of the run at a place where the other list changes, too. -/
  corresponding : Option Nat

/-- The place in front of one and of all marks in front of it. -/
def backOver (marks : Array Bool) (position : Nat) : Nat :=
  iterate (fun p => if isSet marks p && p != 0 then some (p - 1) else none) (position + 1) (position - 1)

/-- A run that is moved back by one element if the one in front equals its last one. -/
def moveBack? (others : Array Bool) (run : Run) : Option Run :=
  if run.start != 0 && isSame xs xs ((run.start : Int) - 1) ((run.stop : Int) - 1) then
    let marks := (run.marks.setIfInBounds (run.start - 1) true).setIfInBounds (run.stop - 1) false
    let start := iterate (fun p => if p != 0 && isSet marks (p - 1) then some (p - 1) else none) run.start (run.start - 1)
    some { run with marks, start, stop := run.stop - 1, other := backOver others run.other }
  else none

/-- A run that is moved on by one element if the one behind equals its first one. -/
def moveOn? (others : Array Bool) (run : Run) : Option Run :=
  if run.stop < xs.size && isSame xs xs run.start run.stop then
    let marks := (run.marks.setIfInBounds run.start false).setIfInBounds run.stop true
    let stop := iterate (fun p => if isSet marks p then some (p + 1) else none) xs.size (run.stop + 1)
    let other := run.other + 1
    let next := iterate (fun p => if isSet others p then some (p + 1) else none) others.size other
    some { run with
      marks, start := run.start + 1, stop, other := next
      corresponding := if next != other then some stop else run.corresponding }
  else none

/-- A run that is moved as far back and then as far on as possible, until it does not grow any more. -/
def settle (others : Array Bool) : (fuel : Nat) → Run → Run
  | 0, run => run
  | fuel + 1, run =>
    let length := run.stop - run.start
    let run := iterate (moveBack? xs others) xs.size run
    let isBoth := run.other != 0 && isSet others (run.other - 1)
    let run := iterate (moveOn? xs others) xs.size
      { run with corresponding := if isBoth then some run.stop else none }
    if run.stop - run.start = length then run else settle others fuel run

/-- A run that is moved back to the last place where the other list changes, too. -/
def moveToPartner (others : Array Bool) (run : Run) : Run :=
  match run.corresponding with
  | none => run
  | some place =>
    iterate (fun run : Run =>
      if place < run.stop then
        some { run with
          marks := (run.marks.setIfInBounds (run.start - 1) true).setIfInBounds (run.stop - 1) false
          start := run.start - 1, stop := run.stop - 1, other := backOver others run.other }
      else none) xs.size run

/-- Marks moved to where changes are expected; `fuel` bounds the elements from `position` on. -/
def settled (others : Array Bool) : (fuel position other : Nat) → (marks : Array Bool) → Array Bool
  | 0, _, _, marks => marks
  | fuel + 1, position, other, marks =>
    let skipOthers (p : Nat) : Nat := iterate (fun p => if isSet others p then some (p + 1) else none) others.size p
    if position ≥ xs.size then marks
    else if !isSet marks position then settled others fuel (position + 1) (skipOthers other + 1) marks
    else
      let stop := iterate (fun p => if isSet marks p then some (p + 1) else none) xs.size (position + 1)
      let run := moveToPartner xs others (settle xs others (xs.size + 1) ⟨marks, position, stop, skipOthers other, none⟩)
      settled others fuel run.stop run.other run.marks

def ofArrays : Alignment :=
  -- What has no equal at all in the other list takes no part in the search.
  let keptLeft := (List.range xs.size).filter fun i => ys.contains (xs.getD i default)
  let keptRight := (List.range ys.size).filter fun i => xs.contains (ys.getD i default)
  let pick (all : Array α) (kept : List Nat) : Array α := (kept.map fun i => all.getD i default).toArray
  let left := pick xs keptLeft
  let right := pick ys keptRight
  let (deleted, inserted) := unmatched left right (left.size + right.size + 1) ⟨0, left.size, 0, right.size⟩
  let whole (size : Nat) (kept : List Nat) (positions : List Nat) : Array Bool :=
    let free := kept.toArray
    let bare := (marked size kept).map fun isKept => !isKept
    (positions.filterMap fun i => free[i]?).foldl (fun marks position => marks.setIfInBounds position true) bare
  let left := whole xs.size keptLeft deleted
  let right := whole ys.size keptRight inserted
  let left := settled xs right (xs.size + 1) 0 0 left
  ⟨left, settled ys left (ys.size + 1) 0 0 right⟩

end

/-- The changes from two positions on; `fuel` bounds the elements. -/
def changesFrom (alignment : Alignment) : (fuel left right : Nat) → List Change
  | 0, _, _ => []
  | fuel + 1, left, right =>
    if left ≥ alignment.left.size && right ≥ alignment.right.size then []
    else
      let leftEnd := iterate (fun p => if isSet alignment.left p then some (p + 1) else none) alignment.left.size left
      let rightEnd := iterate (fun p => if isSet alignment.right p then some (p + 1) else none) alignment.right.size right
      let rest := changesFrom alignment fuel (leftEnd + 1) (rightEnd + 1)
      if leftEnd = left ∧ rightEnd = right then rest
      else ⟨left, leftEnd - left, right, rightEnd - right⟩ :: rest

/-- Where two lists differ, in order. -/
def changes (alignment : Alignment) : List Change :=
  alignment.changesFrom (alignment.left.size + alignment.right.size + 1) 0 0

end Alignment

end LogDiagram
