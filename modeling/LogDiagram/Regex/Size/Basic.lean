import LogDiagram.Regex.Build

/-!
# The memory of a compiled expression

An expression is compiled into states, which are numbered as they are added. A `Compilation` adds states and keeps count
of them and of their memory; it fails as soon as the memory exceeds `sizeLimit`.

Only the memory is of interest, so a compilation yields no states: those that other ones refer to are known by their
number.
-/

namespace LogDiagram.Regex.Size

/-- The memory that a compiled expression may take, in bytes. -/
def sizeLimit : Nat := 10 * 1024 * 1024

def stateSize : Nat := 32

/-- The memory of a transition in a state that has a list of them. -/
def transitionSize : Nat := 8

/-- The memory of an alternative in a state that chooses among several. -/
def alternativeSize : Nat := 4

/-- How many states there are, and their memory. -/
structure Usage where
  states : Nat
  memory : Nat
  deriving DecidableEq, Repr

/-- A step of compiling, which fails if there is not enough memory. -/
abbrev Compilation (α : Type) := StateT Usage Option α

/-- More memory for the states at hand. -/
def grow (bytes : Nat) : Compilation Unit := fun usage =>
  if usage.memory + bytes ≤ sizeLimit then some ((), { usage with memory := usage.memory + bytes }) else none

/-- One more state, which takes some memory besides its own; the result is its number. -/
def addState (extra : Nat) : Compilation Nat := fun usage =>
  let memory := usage.memory + stateSize + extra
  if memory ≤ sizeLimit then some (usage.states, ⟨usage.states + 1, memory⟩) else none

/-- Several states without anything besides them. -/
def addStates : (count : Nat) → Compilation Unit
  | 0 => pure ()
  | count + 1 => do
    let _ ← addState 0
    addStates count

def addTransitions (count : Nat) : Compilation Nat := addState (transitionSize * count)

/-- A state that chooses goes on to one more state. -/
def addAlternative : Compilation Unit := grow alternativeSize

/-- A piece goes on to another state, which is one more alternative if the last state of the piece chooses. -/
def goOn (endsInChoice : Bool) : Compilation Unit := if endsInChoice then addAlternative else pure ()

end LogDiagram.Regex.Size
