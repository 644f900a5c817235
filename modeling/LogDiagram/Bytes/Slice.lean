import LogDiagram.Bytes.Utf8

/-!
# Slices of bytes

The bytes of a text may be cut between two characters and nowhere else.

* `Bytes.isBoundary`: the offsets between characters;
* `Bytes.slice`: the bytes between two of them, which fails anywhere else;
* `Bytes.boundaryUpTo?`: the last of them up to some offset, by a search backwards.
-/

namespace LogDiagram.Bytes

/-- No character is cut at the offset: it is the end of the bytes, or the byte there is none inside a character. -/
def isBoundary (bs : Bytes) (offset : Nat) : Bool :=
  if h : offset < bs.length then !isContinuation bs[offset] else offset == bs.length

/-- Why bytes cannot be sliced. -/
inductive SliceFault where
  /-- The slice ends before it starts, or behind the end of the bytes. -/
  | outOfRange
  /-- The slice starts or ends inside a character. -/
  | insideCharacter
  deriving DecidableEq, Repr

/-- The bytes between two offsets. -/
def slice (bs : Bytes) (start stop : Nat) : Except SliceFault Bytes :=
  if stop < start ∨ bs.length < stop then .error .outOfRange
  else if bs.isBoundary start && bs.isBoundary stop then .ok ((bs.drop start).take (stop - start))
  else .error .insideCharacter

/--
The first offset, going backwards from the given one, at which no character is cut. The search has no bound of its own:
it fails if it would step below zero.
-/
def boundaryUpTo? (bs : Bytes) : Nat → Option Nat
  | 0 => if bs.isBoundary 0 then some 0 else none
  | offset + 1 => if bs.isBoundary (offset + 1) then some (offset + 1) else boundaryUpTo? bs offset

end LogDiagram.Bytes
