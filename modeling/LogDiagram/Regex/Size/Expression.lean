import LogDiagram.Regex.Size.CharSet
import LogDiagram.Regex.Size.Trie

/-!
# Compiling expressions

An expression is compiled twice: forward, to find where pieces end, and backward, to find where they start. It may be
used if both have enough memory.

A compiled part is entered at one state and left at another one; what counts of the latter is whether it chooses among
alternatives, since what follows is one more of them.
-/

namespace LogDiagram.Regex.Size

/-- The part of a choice that an expression is. -/
inductive Role where
  /-- No part of a choice. -/
  | whole
  /-- The second alternative; the first one may end in a choice. -/
  | second (endsInChoice : Bool)
  /-- One of the alternatives behind the second one. -/
  | later
  deriving DecidableEq, Repr

/-- Takes an alternative into the choice around it: the choice gets its own two states after its second alternative. -/
def joinChoice (role : Role) (endsInChoice : Bool) : Compilation Bool :=
  match role with
  | .whole => pure endsInChoice
  | .second firstEndsInChoice => do
    let _ ← addState 0
    let _ ← addState 0
    addAlternative
    goOn firstEndsInChoice
    addAlternative
    goOn endsInChoice
    pure false
  | .later => do
    addAlternative
    goOn endsInChoice
    pure false

/-! ## Repetitions -/

def moreCopies (body : Compilation Bool) : (count : Nat) → (endsInChoice : Bool) → Compilation Bool
  | 0, endsInChoice => pure endsInChoice
  | count + 1, endsInChoice => do
    let next ← body
    goOn endsInChoice
    moreCopies body count next

/-- Copies of a part, one after the other. -/
def copies (body : Compilation Bool) : (count : Nat) → Compilation Bool
  | 0 => do
    let _ ← addState 0
    pure false
  | count + 1 => do
    let first ← body
    moreCopies body count first

/-- Copies of a part each of which may be left out with those behind it. -/
def optionalCopies (body : Compilation Bool) : (count : Nat) → (endsInChoice : Bool) → Compilation Bool
  | 0, endsInChoice => do
    goOn endsInChoice
    pure false
  | count + 1, endsInChoice => do
    let _ ← addState 0
    let next ← body
    goOn endsInChoice
    addAlternative
    addAlternative
    optionalCopies body count next

/-- A part any number of times. If it may be empty, its first time is a way of its own. -/
def anyCopies (isNeverEmpty : Bool) (body : Compilation Bool) : Compilation Bool :=
  if isNeverEmpty then do
    let _ ← addState 0
    let last ← body
    addAlternative
    goOn last
    pure true
  else do
    let last ← body
    let _ ← addState 0
    goOn last
    addAlternative
    let _ ← addState 0
    let _ ← addState 0
    addAlternative
    addAlternative
    addAlternative
    pure false

/-- A part at least once. -/
def someCopies (body : Compilation Bool) : Compilation Bool := do
  let last ← body
  let _ ← addState 0
  goOn last
  addAlternative
  pure true

/-- A part with a least and a greatest number of times. -/
def compileRepeated (isNeverEmpty : Bool) (body : Compilation Bool) (least : Nat) (most : Option Nat) :
    Compilation Bool :=
  match least, most with
  | 0, none => anyCopies isNeverEmpty body
  | 1, none => someCopies body
  | least, none => do
    let front ← copies body (least - 1)
    let last ← body
    let _ ← addState 0
    goOn front
    goOn last
    addAlternative
    pure true
  | 0, some 1 => do
    let _ ← addState 0
    let last ← body
    let _ ← addState 0
    addAlternative
    addAlternative
    goOn last
    pure false
  | least, some most => do
    let front ← copies body least
    if least = most then pure front
    else do
      let _ ← addState 0
      optionalCopies body (most - least) front

/-! ## Expressions -/

/-- The bytes of an alternative that is a text, in the order in which they are read. -/
def textBytes? (backward : Bool) : Regex → Option Bytes
  | text t => some (if backward then (Bytes.ofText t).reverse else Bytes.ofText t)
  | _ => none

/-- The states of an expression that plays a role in a choice; the result says whether the last one chooses. -/
def compile (backward : Bool) : Regex → Role → Compilation Bool
  | empty, role => do
    let _ ← addState 0
    joinChoice role false
  | look _, role => do
    let _ ← addState 0
    joinChoice role false
  | text t, role => do
    addStates (max 1 t.utf8Size)
    joinChoice role false
  | one set, role => do
    compileSet backward set
    joinChoice role false
  | andThen r s, role => do
    let last ← if backward then do
        let front ← compile backward s .whole
        let last ← compile backward r .whole
        goOn front
        pure last
      else do
        let front ← compile backward r .whole
        let last ← compile backward s .whole
        goOn front
        pure last
    joinChoice role last
  | repeated body least most _, role => do
    let last ← compileRepeated body.isNeverEmpty (compile backward body .whole) least most
    joinChoice role last
  | captured _ _ body, role =>
    if backward then do
      let last ← compile backward body .whole
      joinChoice role last
    else do
      let _ ← addState 0
      let last ← compile backward body .whole
      let _ ← addState 0
      goOn last
      joinChoice role false
  | either r s, role =>
    match role, (either r s).alternatives.mapM (textBytes? backward) with
    | .whole, some texts => do
      compileTexts texts
      pure false
    | .whole, none => do
      let first ← compile backward r .whole
      compile backward s (.second first)
    | .second _, _ | .later, _ => do
      let last ← compile backward r .whole
      let _ ← joinChoice role last
      compile backward s .later

/-- Every piece starts at the start of the text, or, backward, ends at the end of it. -/
def isAnchored (backward : Bool) : Regex → Bool
  | look l => l == if backward then .finish else .start
  | andThen r s =>
    if backward then isAnchored backward s || (s.isEmptyOnly && isAnchored backward r)
    else isAnchored backward r || (r.isEmptyOnly && isAnchored backward s)
  | either r s => isAnchored backward r && isAnchored backward s
  | repeated body least _ _ => 0 < least && isAnchored backward body
  | captured _ _ body => isAnchored backward body
  | _ => false

/-- The states that skip what stands in front of a piece. -/
def compilePrefix (anchored : Bool) : Compilation Unit := do
  let _ ← addState 0
  if anchored then pure ()
  else do
    let _ ← addState 0
    let _ ← addTransitions 1
    addAlternative
    addAlternative

/-- All states of an expression. Forward, the piece that is found is kept like that of a group. -/
def compileAll (backward : Bool) (regex : Regex) : Compilation Unit := do
  compilePrefix (isAnchored backward regex)
  if backward then do
    let last ← compile backward regex .whole
    let _ ← addState 0
    goOn last
  else do
    let _ ← addState 0
    let last ← compile backward regex .whole
    let _ ← addState 0
    goOn last
    let _ ← addState 0
    pure ()

/-- There is enough memory for an expression. -/
def isWithinLimit (regex : Regex) : Bool :=
  [false, true].all fun backward => (compileAll backward regex ⟨0, 0⟩).isSome

end LogDiagram.Regex.Size
