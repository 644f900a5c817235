import LogDiagram.Regex.Parser.Escape

/-!
# Sets of characters in brackets

`readBrackets` reads a set behind its opening bracket: characters, ranges, named sets, sets in brackets inside, and the
operations `&&`, `--` and `~~` between them, taken from left to right. With a set comes the number of levels it
nests.
-/

namespace LogDiagram.Regex.Parser

open Unicode (Ranges)

/-- A set that was read and how many levels it nests. -/
structure Nested where
  set : Ranges
  depth : Nat
  deriving DecidableEq, Repr

inductive SetOp where
  | inter
  | diff
  | symmDiff
  deriving DecidableEq, Repr

/-- The items read so far, the last one first, and the operation that waits for its second set. -/
structure OpenSet where
  items : List Nested
  pending : Option (SetOp × Nested)
  deriving DecidableEq, Repr

namespace OpenSet

/-- Nothing read yet. -/
def empty : OpenSet := ⟨[], none⟩

def push (set : OpenSet) (item : Nested) : OpenSet := { set with items := item :: set.items }

def union (set : OpenSet) : Nested :=
  match set.items with
  | [] => ⟨[], 0⟩
  | [item] => item
  | items => ⟨Ranges.ofList (items.flatMap Nested.set), 1 + items.foldl (fun d i => max d i.depth) 0⟩

/-- The set read so far, after the operation that waited. -/
def settled (flags : Flags) (set : OpenSet) : Nested :=
  match set.pending with
  | none => set.union
  | some (op, left) =>
    let right := set.union
    let (s, t) := (flags.cased left.set, flags.cased right.set)
    let result := match op with
      | .inter => s.inter t
      | .diff => s.diff t
      | .symmDiff => s.symmDiff t
    ⟨result, 1 + max left.depth right.depth⟩

/-- An operation: what was read is its first set. -/
def operate (flags : Flags) (set : OpenSet) (op : SetOp) : OpenSet := ⟨[], some (op, set.settled flags)⟩

end OpenSet

/-- A set of ASCII named between colons, behind an opening bracket. -/
def readPosix (flags : Flags) : Text → Option (Ranges × Text)
  | ':' :: rest =>
    let (negated, rest) := match rest with
      | '^' :: rest => (true, rest)
      | _ => (false, rest)
    match Text.cut? [':'] rest with
    | some (name, ']' :: rest) =>
      (CharSet.posix? (String.ofList name)).map fun s =>
        (if negated then (flags.cased s).compl else flags.cased s, rest)
    | _ => none
  | _ => none

/-- A character or an escape inside brackets. -/
def readMember (flags : Flags) : Text → Option (Atom × Text)
  | [] => none
  | '\\' :: rest => readEscape flags rest
  | c :: rest => some (.char c, rest)

/-- A character that may be a member of a set; without Unicode only those of ASCII may. -/
def memberChar? (flags : Flags) : Atom → Option Char
  | .char c => if flags.unicode || c.toNat < 0x80 then some c else none
  | _ => none

def memberSet? (flags : Flags) : Atom → Option Ranges
  | .set s => some s
  | .look _ => none
  | atom => (memberChar? flags atom).map CharSet.single

/--
The character that is looked at behind a hyphen. Where white space and comments do not count, the look goes over white
space and over the sign of one comment, but not over the comment itself: it meets the first visible character in it.
-/
def peek? (flags : Flags) (t : Text) : Option Char :=
  if !flags.extended then t.head?
  else
    match t.dropWhile isBlank with
    | '#' :: rest => (rest.dropWhile isBlank).head?
    | rest => rest.head?

/-- A hyphen behind a member starts a range, unless a closing bracket or a second hyphen is met behind it. -/
def rangeRest? (flags : Flags) : Text → Option Text
  | '-' :: rest => if peek? flags rest = some ']' ∨ peek? flags rest = some '-' then none else some (flags.skip rest)
  | _ => none

/-- A member, or a range of characters. -/
def readItem (flags : Flags) (t : Text) : Option (Ranges × Text) :=
  match readMember flags t with
  | none => none
  | some (first, rest) =>
    let rest := flags.skip rest
    match rangeRest? flags rest with
    | none => (memberSet? flags first).map fun s => (s, rest)
    | some rest =>
      match readMember flags rest with
      | none => none
      | some (last, rest) =>
        match memberChar? flags first, memberChar? flags last with
        | some a, some b => if a ≤ b then some (CharSet.range a b, rest) else none
        | _, _ => none

/-- The hyphens at the start of a set, which stand for themselves. -/
def readHyphens (flags : Flags) : (fuel : Nat) → OpenSet → Text → OpenSet × Text
  | 0, set, t => (set, t)
  | fuel + 1, set, '-' :: rest => readHyphens flags fuel (set.push ⟨CharSet.single '-', 0⟩) (flags.skip rest)
  | _, set, t => (set, t)

/-- What an opening bracket may be followed by: a negation, hyphens, a closing bracket that stands for itself. -/
def readOpening (flags : Flags) (t : Text) : Bool × OpenSet × Text :=
  let t := flags.skip t
  let (negated, t) := match t with
    | '^' :: rest => (true, flags.skip rest)
    | _ => (false, t)
  let (set, t) := readHyphens flags t.length .empty t
  match set.items, t with
  | [], ']' :: rest => (negated, set.push ⟨CharSet.single ']', 0⟩, flags.skip rest)
  | _, _ => (negated, set, t)

/-- A set behind its opening bracket and opening; `fuel` bounds the items. -/
def readSet (flags : Flags) : (fuel : Nat) → (negated : Bool) → OpenSet → Text → Option (Nested × Text)
  | 0, _, _, _ => none
  | fuel + 1, negated, set, t =>
    match flags.skip t with
    | [] => none
    | ']' :: rest =>
      let inner := set.settled flags
      (flags.signed? negated (flags.cased inner.set)).map fun s => (⟨s, inner.depth + 1⟩, rest)
    | '&' :: '&' :: rest => readSet flags fuel negated (set.operate flags .inter) rest
    | '-' :: '-' :: rest => readSet flags fuel negated (set.operate flags .diff) rest
    | '~' :: '~' :: rest => readSet flags fuel negated (set.operate flags .symmDiff) rest
    | '[' :: rest =>
      match readPosix flags rest with
      | some (s, rest) =>
        if !flags.unicode && s.contains 0x80 then none else readSet flags fuel negated (set.push ⟨s, 0⟩) rest
      | none =>
        let (innerNegated, inner, rest) := readOpening flags rest
        match readSet flags fuel innerNegated inner rest with
        | some (item, rest) => readSet flags fuel negated (set.push item) rest
        | none => none
    | t =>
      match readItem flags t with
      | some (s, rest) => readSet flags fuel negated (set.push ⟨s, 0⟩) rest
      | none => none

def readBrackets (flags : Flags) (t : Text) : Option (Nested × Text) :=
  let (negated, set, rest) := readOpening flags t
  readSet flags (t.length + 1) negated set rest

end LogDiagram.Regex.Parser
