import LogDiagram.Bytes.Utf8
import LogDiagram.Regex.Size.Basic

/-!
# Compiling alternatives that are texts

Alternatives that are all texts become a tree: texts go the same way as long as their bytes are equal. Texts keep their
order, so a text that ends where others go on divides those in front of it from those behind it.

A node of the tree is given by what is left of the texts that reach it.
-/

namespace LogDiagram.Regex.Size

/-- What is left of the texts that reach a node. -/
abbrev Suffixes := List Bytes

/-- Every text ends here. -/
def isLeaf (suffixes : Suffixes) : Bool := suffixes.all List.isEmpty

/-- The texts between those that end here; before the first text that goes on, only one that ends here counts. -/
def groups (suffixes : Suffixes) : List Suffixes :=
  let (leading, rest) := suffixes.span List.isEmpty
  let rest := rest.splitOnP List.isEmpty
  if leading.isEmpty then rest else [] :: rest

/-- Puts what is left of a text with the other ones of its first byte. -/
def addBranch (first : UInt8) (tail : Bytes) : List (UInt8 × Suffixes) → List (UInt8 × Suffixes)
  | [] => [(first, [tail])]
  | (b, tails) :: rest =>
    if first < b then (first, [tail]) :: (b, tails) :: rest
    else if first = b then (b, tails ++ [tail]) :: rest
    else (b, tails) :: addBranch first tail rest

/-- The nodes that follow, in the order of the bytes that lead to them. -/
def branches (group : Suffixes) : List (UInt8 × Suffixes) :=
  group.foldl (fun found suffix =>
    match suffix with
    | [] => found
    | b :: tail => addBranch b tail found) []

/-- The state of a group whose texts go on in the given number of ways. -/
def addGroup (ways : Nat) : Compilation Nat :=
  if ways = 0 then pure 0
  else do
    let _ ← if ways = 1 then addState 0 else addTransitions ways
    pure 1

/-- The states of a node and of those below it; `depth` bounds the lengths of the texts. -/
def compileNode : (depth : Nat) → Suffixes → Compilation Unit
  | 0, _ => pure ()
  | depth + 1, suffixes => do
    let groups := groups suffixes
    let states ← groups.mapM fun group => do
      let branches := branches group
      for (_, below) in branches do
        if isLeaf below then pure () else compileNode depth below
      addGroup branches.length
    let _ ← addState (alternativeSize * (states.sum + (groups.length - 1)))
    pure ()

def compileTexts (texts : List Bytes) : Compilation Unit := do
  let _ ← addState 0
  compileNode ((texts.map List.length).foldl max 0 + 1) texts

end LogDiagram.Regex.Size
