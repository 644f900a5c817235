import LogDiagram.Regex.Size.Basic
import LogDiagram.Regex.Size.ByteRanges
import Std.Data.HashMap

/-!
# Compiling sets of characters

A set of ASCII characters is one state with a transition for each range. For other sets states are shared between
characters with equal bytes at the end.

* `compileForward` builds the states from the last byte to the first. An `OpenState` still waits for transitions; a
  finished state is looked up among those that the set has already.
* `compileBackward` builds a chain of states for each range of bytes, and shares what chains have in common.

Lookups go by a hash of limited length, and a state that another one has put out of its place is added again.
-/

namespace LogDiagram.Regex.Size

open Unicode (Ranges)

def mix (hash : UInt64) (n : Nat) : UInt64 := (hash ^^^ n.toUInt64) * 1099511628211

def hashStart : UInt64 := 14695981039346656037

/-- A table with a number of places: what was put last into each of them. -/
abbrev Places (α : Type) := Std.HashMap Nat α

/-! ## Forward -/

/-- A transition to another state on a range of bytes. -/
structure Transition where
  bytes : ByteRange
  target : Nat
  deriving DecidableEq, Repr

/-- How many places there are for finished states. -/
def forwardPlaces : Nat := 10000

def forwardPlace (transitions : List Transition) : Nat :=
  let hash := transitions.foldl (fun h t => mix (mix (mix h t.bytes.first) t.bytes.last) t.target) hashStart
  hash.toNat % forwardPlaces

abbrev Finished := Places (List Transition × Nat)

/-- A state that waits for transitions: those it has, last one first, and the range whose target is not finished. -/
structure OpenState where
  done : List Transition
  waiting : Option ByteRange
  deriving DecidableEq, Repr

def OpenState.lead (state : OpenState) (target : Nat) : OpenState :=
  match state.waiting with
  | some bytes => ⟨⟨bytes, target⟩ :: state.done, none⟩
  | none => state

def OpenState.of (bytes : ByteRange) : OpenState := ⟨[], some bytes⟩

/-- The number of a finished state, which is added unless it is there. -/
def finishState (state : OpenState) : StateT Finished (StateT Usage Option) Nat := fun finished => do
  let transitions := state.done.reverse
  let place := forwardPlace transitions
  let found := match finished[place]? with
    | some (known, id) => if known = transitions then some id else none
    | none => none
  match found with
  | some id => pure (id, finished)
  | none =>
    let id ← addTransitions transitions.length
    pure (id, finished.insert place (transitions, id))

/-- Finishes open states, the innermost first; the result is the number of the outermost, or the target without any. -/
def finishAll (target : Nat) : List OpenState → StateT Finished (StateT Usage Option) Nat
  | [] => pure target
  | state :: inner => do
    let next ← finishAll target inner
    finishState (state.lead next)

/-- Adds a sequence of byte ranges to the open states; what it has not in common with them is finished. -/
def addSequence (target : Nat) :
    List OpenState → List ByteRange → StateT Finished (StateT Usage Option) (List OpenState)
  | states, [] => pure states
  | [], bytes => pure (bytes.map .of)
  | state :: inner, bytes :: rest =>
    if state.waiting = some bytes then do
      let inner ← addSequence target inner rest
      pure (state :: inner)
    else do
      let next ← finishAll target inner
      pure ({ state.lead next with waiting := some bytes } :: rest.map .of)

/-- The states of a set that is read from the first byte of a character to the last. -/
def compileForward (set : Ranges) : Compilation Unit := do
  let target ← addState 0
  let states := (byteRanges set).foldlM (addSequence target) [⟨[], none⟩]
  let _ ← (states >>= finishAll target).run ∅
  pure ()

/-! ## Backward -/

/-- How many places there are for states of chains. -/
def backwardPlaces : Nat := 1000

/-- The place of a state that goes on to another one on a range of bytes. -/
def backwardPlace (target : Nat) (bytes : ByteRange) : Nat :=
  (mix (mix (mix hashStart target) bytes.first) bytes.last).toNat % backwardPlaces

/-- The states of chains: for each place the state that goes on to another one, that one and the range of bytes. -/
abbrev Chains := Places (Nat × ByteRange × Nat)

/-- Adds the states of a chain that are not there; the result is the number of its last state. -/
def addChain : (target : Nat) → List ByteRange → Chains → Compilation (Nat × Chains)
  | target, [], chains => pure (target, chains)
  | target, bytes :: rest, chains =>
    let place := backwardPlace target bytes
    let found := match chains[place]? with
      | some (from', known, id) => if from' = target && known = bytes then some id else none
      | none => none
    match found with
    | some id => addChain id rest chains
    | none => do
      let id ← addState 0
      addChain id rest (chains.insert place (target, bytes, id))

/-- The states of a set that is read from the last byte of a character to the first. -/
def compileBackward (set : Ranges) : Compilation Unit := do
  let _ ← addState 0
  let target ← addState 0
  let _ ← (byteRanges set).foldlM (fun chains sequence => do
    let (_, chains) ← addChain target sequence chains
    addAlternative
    pure chains) ∅
  pure ()

/-! ## Both -/

def isAscii (set : Ranges) : Bool := List.all set fun (_, last) => last ≤ 0x7F

def compileSet (backward : Bool) (set : Ranges) : Compilation Unit :=
  if isAscii set then do
    let _ ← addState 0
    let _ ← addTransitions set.length
    pure ()
  else if backward then compileBackward set
  else compileForward set

end LogDiagram.Regex.Size
