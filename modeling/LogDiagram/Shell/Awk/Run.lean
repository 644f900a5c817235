import LogDiagram.Shell.Awk.Format
import LogDiagram.Shell.Awk.Reader

/-!
# Running scripts that work on records

What the expressions and statements of a script do, and the program that runs scripts. `fuel` bounds how deep they stand
in each other and how often loops go round.

* `AwkRun.evaluate` is the value of an expression, and `AwkRun.perform` runs a statement;
* `runRecordScript` is the program.
-/

namespace LogDiagram.Shell

/-- Something that can be given a value. -/
inductive AwkPlace where
  | name (name : Text)
  | element (array : Nat) (key : Text)
  | field (number : Int)

namespace AwkRun

def ofExcept {α : Type} (result : Except Text α) : AwkRun α :=
  match result with
  | .ok a => pure a
  | .error complaint => throw (.fault complaint)

/-- The state becomes another one, unless something is wrong. -/
def change (f : AwkState → Except Text AwkState) : AwkRun Unit := do set (← ofExcept (f (← get)))

def textOf (value : AwkValue) : AwkRun Text := do return (← get).textOf value

def keyOf (values : List AwkValue) : AwkRun Text := do
  let state ← get
  return Text.joined (state.textValue "SUBSEP") (values.map state.textOf)

def arrayOf (name : Text) : AwkRun Nat := modifyGet fun state => state.arrayOf name

def valueAt (place : AwkPlace) : AwkRun AwkValue := do
  let state ← get
  match place with
  | .name name => return state.value name
  | .element id key =>
    let (value, array) := (state.array id).use key
    set (state.setArray id array)
    return value
  | .field number => ofExcept (state.field number)

def give (place : AwkPlace) (value : AwkValue) : AwkRun Unit :=
  change fun state =>
    match place with
    | .name name => state.assign name value
    | .element id key => .ok (state.setArray id ((state.array id).put key value))
    | .field number => state.setField number value

def expressionOf (value : AwkValue) : AwkRun Expression := do
  let t ← textOf value
  ofExcept ((Expression.read ⟨true, true⟩ t).mapError fun complaint =>
    "regular expression compile failed (".toList ++ complaint ++ ")\n".toList ++ t)

def fits (expression : Expression) (t : Text) : AwkValue :=
  .ofBool (expression.find? ⟨false, false⟩ t).isSome

/-- A record of the files that are named among the operands is read: whether there is one. -/
def readRecord : AwkRun (Option Text) := do
  let (record, state) ← ofExcept ((← get).nextRecord? ((← get).operand + 1000000))
  set state
  return record

/-- A record of a file or of the output of a command is read, and a number that tells how that went. -/
def readSource (interpreter : Interpreter) (kind : AwkStream) (name : Text) : AwkRun (Option Text × Int) := do
  match ← modifyGet fun state => state.source? interpreter kind name with
  | none => return (none, -1)
  | some source =>
    match ← ofExcept ((← get).cutRecord? source.rest) with
    | none => return (none, 0)
    | some (record, rest) =>
      modify fun state => state.setSource source rest
      if kind == .command then modify fun state => state.count "NR"
      return (some record, 1)

/-- A text is printed, or written to a file or a command. -/
def put (target : Option (AwkStream × Text)) (t : Text) : AwkRun Unit :=
  match target with
  | none => modify fun state => { state with printed := t :: state.printed }
  | some (kind, name) => change fun state => state.write kind name t

/-- A number that cannot be foreseen, from zero up to one. -/
def chance : AwkRun Float :=
  modifyGet fun state =>
    let seed := (state.seed * 1103515245 + 12345) % Nat.pow 2 31
    (Float.ofNat seed / Float.ofNat (Nat.pow 2 31), { state with seed })

/-- The value of a function that every script has and that takes values. -/
def applyBuiltin (interpreter : Interpreter) (name : String) (values : List AwkValue) : AwkRun AwkValue := do
  let first := values.head?.getD .unset
  let second := (values[1]?).getD .unset
  let x := first.toNumber
  match name with
  | "length" =>
    let state ← get
    return .ofNat (if values.isEmpty then state.record else state.textOf first).length
  | "substr" => return .text (AwkText.part (← textOf first) second.toNumber ((values[2]?).map AwkValue.toNumber))
  | "index" => return .ofNat (AwkText.place (← textOf second) (← textOf first))
  | "sprintf" =>
    let state ← get
    let form := state.textOf first
    match AwkFormat.fill state.textOf "sprintf" form (form.length + 1) form values.tail with
    | ⟨t, none⟩ => return .text t
    | ⟨_, some complaint⟩ => throw (.fault complaint)
  | "sin" => return .number x.sin
  | "cos" => return .number x.cos
  | "atan2" => return .number (x.atan2 second.toNumber)
  | "exp" => return .number x.exp
  | "log" => return .number x.log
  | "sqrt" => return .number x.sqrt
  | "int" => return .number (AwkNumber.truncated x)
  | "rand" => return .number (← chance)
  | "srand" => modifyGet fun state =>
      (.ofNat state.seed, { state with seed := if values.isEmpty then 0 else (AwkNumber.toInt x).natAbs })
  | "tolower" => return .text ((← textOf first).map Char.toLower)
  | "toupper" => return .text ((← textOf first).map Char.toUpper)
  | "system" =>
    let state := (← get).flush
    let session := AwkState.runCommand interpreter (← textOf first) state.session
    set { state with session }
    return .ofNat (if session.status > 128 then session.status + 128 else session.status)
  | "close" =>
    let name ← textOf first
    let code ← modifyGet fun state => state.close interpreter name
    return .number (Float.ofInt code)
  | "fflush" =>
    modify AwkState.flush
    return .number 0
  | _ => return .unset

def combined (operator : Option AwkOperator) (before value : AwkValue) : AwkValue :=
  match operator with
  | none => value
  | some operator => .number (AwkNumber.calculate operator before.toNumber value.toNumber)

mutual

def evaluate (interpreter : Interpreter) (fuel : Nat) (e : AwkExpression) : AwkRun AwkValue :=
  match fuel with
  | 0 => throw (.fault "stack overflow".toList)
  | fuel + 1 => do
    let value (e : AwkExpression) : AwkRun AwkValue := evaluate interpreter fuel e
    match e with
    | .number x => return .number x
    | .text t => return .text t
    | .pattern expression => return fits expression (← get).record
    | .name _ | .element _ _ | .field _ => valueAt (← placeOf interpreter fuel e)
    | .assign operator target inner =>
      let place ← placeOf interpreter fuel target
      let v ← value inner
      let before ← if operator.isSome then valueAt place else pure .unset
      let v := combined operator before v
      give place v
      return v
    | .step isBefore isUp target =>
      let place ← placeOf interpreter fuel target
      let before := (← valueAt place).toNumber
      let after := if isUp then before + 1 else before - 1
      give place (.number after)
      return .number (if isBefore then after else before)
    | .choice condition first second => if (← value condition).isTrue then value first else value second
    | .both first second => if (← value first).isTrue then return .ofBool (← value second).isTrue else return .ofBool false
    | .either first second => if (← value first).isTrue then return .ofBool true else return .ofBool (← value second).isTrue
    | .isIn index array =>
      let key ← keyOf (← evaluateAll interpreter fuel index)
      let id ← arrayOf array
      return .ofBool (((← get).array id).any fun entry => entry.1 == key)
    | .fits isNegated subject pattern =>
      let subject ← textOf (← value subject)
      let expression ← expressionFrom interpreter fuel pattern
      return .ofBool ((fits expression subject).isTrue != isNegated)
    | .compare comparison first second =>
      let a ← value first
      let b ← value second
      return .ofBool (AwkValue.compare (← get).format comparison a b)
    | .join first second =>
      let a ← value first
      let b ← value second
      return .text ((← textOf a) ++ (← textOf b))
    | .calculate operator first second =>
      let a ← value first
      let b ← value second
      return .number (AwkNumber.calculate operator a.toNumber b.toNumber)
    | .negative inner => return .number (-(← value inner).toNumber)
    | .positive inner => return .number (← value inner).toNumber
    | .negation inner => return .ofBool (!(← value inner).isTrue)
    | .call name arguments => callFunction interpreter fuel name arguments
    | .builtin name arguments => callBuiltin interpreter fuel name arguments
    | .getLine source target => readLine interpreter fuel source target
    | .group [inner] => value inner
    | .group members => return .text (← keyOf (← evaluateAll interpreter fuel members))

def evaluateAll (interpreter : Interpreter) (fuel : Nat) (expressions : List AwkExpression) : AwkRun (List AwkValue) :=
  match fuel with
  | 0 => throw (.fault "stack overflow".toList)
  | fuel + 1 =>
    match expressions with
    | [] => return []
    | first :: rest => do
      let value ← evaluate interpreter fuel first
      return value :: (← evaluateAll interpreter fuel rest)

def placeOf (interpreter : Interpreter) (fuel : Nat) (target : AwkExpression) : AwkRun AwkPlace :=
  match fuel with
  | 0 => throw (.fault "stack overflow".toList)
  | fuel + 1 => do
    match target with
    | .name name => return .name name
    | .element array index =>
      let key ← keyOf (← evaluateAll interpreter fuel index)
      return .element (← arrayOf array) key
    | .field number => return .field (AwkNumber.toInt (← evaluate interpreter fuel number).toNumber)
    | .group [inner] => placeOf interpreter fuel inner
    | _ => throw (.fault "no place for a value".toList)

def expressionFrom (interpreter : Interpreter) (fuel : Nat) (pattern : AwkExpression) : AwkRun Expression :=
  match fuel with
  | 0 => throw (.fault "stack overflow".toList)
  | fuel + 1 => do
    match pattern with
    | .pattern expression => return expression
    | .group [.pattern expression] => return expression
    | pattern => expressionOf (← evaluate interpreter fuel pattern)

/-- Reads a line: the value is one, zero at the end, and minus one if there is no such file. -/
def readLine (interpreter : Interpreter) (fuel : Nat) (source : Option (AwkStream × AwkExpression))
    (target : Option AwkExpression) : AwkRun AwkValue :=
  match fuel with
  | 0 => throw (.fault "stack overflow".toList)
  | fuel + 1 => do
    let (record, code) : Option Text × Int ← match source with
      | none => do
        let record ← readRecord
        pure (record, if record.isSome then 1 else 0)
      | some (kind, name) => do
        let name ← textOf (← evaluate interpreter fuel name)
        readSource interpreter kind name
    match record, target with
    | none, _ => pure ()
    | some record, none => change fun state => state.setRecord record
    | some record, some target => give (← placeOf interpreter fuel target) (.input record)
    return .number (Float.ofInt code)

/-- What the parameters of a function are for some arguments: names are passed with their arrays. -/
def slotsOf (interpreter : Interpreter) (fuel : Nat) (arguments : List AwkExpression) : AwkRun (List AwkSlot) :=
  match fuel with
  | 0 => throw (.fault "stack overflow".toList)
  | fuel + 1 =>
    match arguments with
    | [] => return []
    | .name name :: rest => do
      let slot : AwkSlot := ⟨(← get).value name, some (← arrayOf name)⟩
      return slot :: (← slotsOf interpreter fuel rest)
    | argument :: rest => do
      let slot : AwkSlot := ⟨← evaluate interpreter fuel argument, none⟩
      return slot :: (← slotsOf interpreter fuel rest)

def callFunction (interpreter : Interpreter) (fuel : Nat) (name : Text) (arguments : List AwkExpression) :
    AwkRun AwkValue :=
  match fuel with
  | 0 => throw (.fault "stack overflow".toList)
  | fuel + 1 => do
    match (← get).functions.find? fun f => f.name == name with
    | none => throw (.fault ("function ".toList ++ name ++ " never defined".toList))
    | some f =>
      let slots ← slotsOf interpreter fuel arguments
      let outer := (← get).locals
      let own := f.parameters.zipIdx.map fun (parameter, i) => (parameter, (slots[i]?).getD ⟨.unset, none⟩)
      modify fun state => { state with locals := own }
      let value ← tryCatch
        (do
          performAll interpreter fuel f.body
          pure AwkValue.unset)
        (fun stop =>
          match stop with
          | .giveBack value => pure value
          | stop => throw stop)
      modify fun state => { state with locals := outer }
      return value

def callBuiltin (interpreter : Interpreter) (fuel : Nat) (name : String) (arguments : List AwkExpression) :
    AwkRun AwkValue :=
  match fuel with
  | 0 => throw (.fault "stack overflow".toList)
  | fuel + 1 => do
    match name, arguments with
    | "length", [.name array] =>
      let state ← get
      match state.value array, (state.slot? array).bind (·.array) with
      | .unset, some id => return .ofNat (state.array id).length
      | value, _ => return .ofNat (state.textOf value).length
    | "split", subject :: .name array :: rest =>
      let subject ← textOf (← evaluate interpreter fuel subject)
      let separator : AwkState.Separator ← match rest with
        | [.pattern expression] => pure (.expression expression)
        | [separator] => do
          let t ← textOf (← evaluate interpreter fuel separator)
          ofExcept (AwkState.Separator.read t)
        | _ => ofExcept (AwkState.Separator.read ((← get).textValue "FS"))
      let parts := separator.split false subject
      let id ← arrayOf array
      modify fun state => state.setArray id
        (parts.zipIdx.map fun (part, i) => (Text.ofNat (i + 1), AwkValue.input part)).reverse
      return .ofNat parts.length
    | "match", [subject, pattern] =>
      let subject ← textOf (← evaluate interpreter fuel subject)
      let expression ← expressionFrom interpreter fuel pattern
      let (first, size) : Nat × Int := match expression.find? ⟨false, false⟩ subject with
        | some found => (found.first + 1, found.last - found.first)
        | none => (0, -1)
      modify fun state =>
        (state.put "RSTART".toList (.ofNat first)).put "RLENGTH".toList (.number (Float.ofInt size))
      return .ofNat first
    | name, pattern :: replacement :: rest =>
      if name = "sub" ∨ name = "gsub" then
        let expression ← expressionFrom interpreter fuel pattern
        let replacement ← textOf (← evaluate interpreter fuel replacement)
        let place : Option AwkPlace ← match rest with
          | [] => pure (some (.field 0))
          | target :: _ =>
            match target with
            | .name _ | .element _ _ | .field _ => do
              let place ← placeOf interpreter fuel target
              pure (some place)
            | _ => pure none
        let subject ← match place, rest with
          | some place, _ => textOf (← valueAt place)
          | none, target :: _ => textOf (← evaluate interpreter fuel target)
          | none, [] => pure []
        let (changed, count) := AwkText.replaceAll expression replacement subject (name == "gsub")
        match place with
        | some place => if count != 0 then give place (.text changed)
        | none => pure ()
        return .ofNat count
      else applyBuiltin interpreter name (← evaluateAll interpreter fuel arguments)
    | name, arguments => applyBuiltin interpreter name (← evaluateAll interpreter fuel arguments)

def perform (interpreter : Interpreter) (fuel : Nat) (statement : AwkStatement) : AwkRun Unit :=
  match fuel with
  | 0 => throw (.fault "stack overflow".toList)
  | fuel + 1 => do
    match statement with
    | .expression e =>
      let _ ← evaluate interpreter fuel e
    | .print isFormat expressions target =>
      let values ← evaluateAll interpreter fuel expressions
      let target : Option (AwkStream × Text) ← match target with
        | some (kind, name) => do
          let name ← textOf (← evaluate interpreter fuel name)
          pure (some (kind, name))
        | none => pure none
      let state ← get
      match isFormat, values with
      | true, form :: values =>
        let form := state.textOf form
        let filled := AwkFormat.fill state.textOf "printf" form (form.length + 1) form values
        put target filled.text
        match filled.complaint with
        | some complaint => throw (.fault complaint)
        | none => pure ()
      | _, [] => put target (state.record ++ state.textValue "ORS")
      | _, values =>
        let format := state.textValue "OFMT"
        put target (Text.joined (state.textValue "OFS") (values.map fun value => value.toText format) ++
          state.textValue "ORS")
    | .choice condition first second =>
      if (← evaluate interpreter fuel condition).isTrue then performAll interpreter fuel first
      else performAll interpreter fuel second
    | .loop runsFirst condition step body => performLoop interpreter fuel runsFirst condition step body
    | .block body => performAll interpreter fuel body
    | .forEach variableName array body =>
      let id ← arrayOf array
      performEach interpreter fuel variableName body ((← get).array id).keys
    | .delete array index =>
      let id ← arrayOf array
      if index.isEmpty then modify fun state => state.setArray id []
      else
        let key ← keyOf (← evaluateAll interpreter fuel index)
        modify fun state => state.setArray id ((state.array id).filter fun entry => entry.1 != key)
    | .next => throw .next
    | .nextFile => throw .nextFile
    | .leave => throw .leave
    | .again => throw .again
    | .exit code =>
      match code with
      | some code =>
        let value ← evaluate interpreter fuel code
        modify fun state => { state with code := (AwkNumber.toInt value.toNumber % 256).toNat }
      | none => pure ()
      throw .exit
    | .giveBack value =>
      match value with
      | some value => throw (.giveBack (← evaluate interpreter fuel value))
      | none => throw (.giveBack .unset)

def performAll (interpreter : Interpreter) (fuel : Nat) (statements : List AwkStatement) : AwkRun Unit :=
  match fuel with
  | 0 => throw (.fault "stack overflow".toList)
  | fuel + 1 =>
    match statements with
    | [] => return ()
    | first :: rest => do
      perform interpreter fuel first
      performAll interpreter fuel rest

/-- Runs the body of a loop once: whether the loop goes on. -/
def performBody (interpreter : Interpreter) (fuel : Nat) (body : List AwkStatement) : AwkRun Bool :=
  match fuel with
  | 0 => throw (.fault "stack overflow".toList)
  | fuel + 1 =>
    tryCatch
      (do
        performAll interpreter fuel body
        pure true)
      (fun stop =>
        match stop with
        | .leave => pure false
        | .again => pure true
        | stop => throw stop)

def performLoop (interpreter : Interpreter) (fuel : Nat) (runsFirst : Bool) (condition : Option AwkExpression)
    (step body : List AwkStatement) : AwkRun Unit :=
  match fuel with
  | 0 => throw (.fault "stack overflow".toList)
  | fuel + 1 => do
    let goesOn : Bool ← match runsFirst, condition with
      | false, some condition => do
        let value ← evaluate interpreter fuel condition
        pure value.isTrue
      | _, _ => pure true
    if goesOn then
      if ← performBody interpreter fuel body then
        performAll interpreter fuel step
        performLoop interpreter fuel false condition step body

def performEach (interpreter : Interpreter) (fuel : Nat) (name : Text) (body : List AwkStatement) (keys : List Text) :
    AwkRun Unit :=
  match fuel with
  | 0 => throw (.fault "stack overflow".toList)
  | fuel + 1 =>
    match keys with
    | [] => return ()
    | key :: rest => do
      change fun state => state.assign name (.input key)
      if ← performBody interpreter fuel body then performEach interpreter fuel name body rest

end

/-- More depth and rounds than scripts have. -/
def fuelLimit : Nat := 100000000

/-- Runs the statements of a rule; without any the record is printed. -/
def performRule (interpreter : Interpreter) (rule : AwkRule) : AwkRun Unit :=
  performAll interpreter fuelLimit (rule.body.getD [.print false [] none])

def meets (interpreter : Interpreter) (condition : AwkCondition) : AwkRun Bool := do
  let holds (e : AwkExpression) : AwkRun Bool := do return (← evaluate interpreter fuelLimit e).isTrue
  match condition with
  | .first | .last => return false
  | .always => return true
  | .holds e => holds e
  | .range index start finish =>
    let isInside := (← get).ranges.contains index
    if isInside || (← holds start) then
      let isLast ← holds finish
      modify fun state =>
        let others := state.ranges.filter (· != index)
        { state with ranges := if isLast then others else index :: others }
      return true
    return false

/-- Runs the rules whose conditions the record meets. -/
def performRules (interpreter : Interpreter) : List AwkRule → AwkRun Unit
  | [] => return ()
  | rule :: rest => do
    if ← meets interpreter rule.condition then performRule interpreter rule
    performRules interpreter rest

/-- Runs the rules for all records; `fuel` bounds the records. -/
def performRecords (interpreter : Interpreter) (rules : List AwkRule) :
    (fuel : Nat) → AwkState → Except AwkStop Unit × AwkState
  | 0, state => (.ok (), state)
  | fuel + 1, state =>
    let takeRecord : AwkRun Bool := do
      match ← readRecord with
      | some record =>
        change fun state => state.setRecord record
        return true
      | none => return false
    match takeRecord state with
    | (.error stop, state) => (.error stop, state)
    | (.ok false, state) => (.ok (), state)
    | (.ok true, state) =>
      match performRules interpreter rules state with
      | (.error .exit, state) => (.error .exit, state)
      | (.error (.fault complaint), state) => (.error (.fault complaint), state)
      | (.error .nextFile, state) => performRecords interpreter rules fuel { state with input := none }
      | (_, state) => performRecords interpreter rules fuel state

end AwkRun

namespace AwkScript

def rulesFor (isStart : Bool) (script : AwkScript) : List AwkRule :=
  script.rules.filter fun rule =>
    match rule.condition with
    | .first => isStart
    | .last => !isStart
    | _ => false

def needsNone (script : AwkScript) : Bool :=
  script.rules.all fun rule =>
    match rule.condition with
    | .first => true
    | _ => false

def run (interpreter : Interpreter) (script : AwkScript) (state : AwkState) : Session :=
  let performAll (rules : List AwkRule) (state : AwkState) : Except AwkStop Unit × AwkState :=
    (rules.forM (AwkRun.performRule interpreter)) state
  let ended (result : Except AwkStop Unit × AwkState) : Session :=
    match result with
    | (.error (.fault complaint), state) =>
      ({ state with code := 2 }.finish interpreter).complain "awk" complaint 2
    | (_, state) => state.finish interpreter
  match performAll (script.rulesFor true) state with
  | (.error (.fault complaint), state) => ended (.error (.fault complaint), state)
  | (result, state) =>
    if script.needsNone then state.finish interpreter
    else
      let isOver := match result with
        | .error .exit => true
        | _ => false
      let records := if isOver then (.ok (), state)
        else AwkRun.performRecords interpreter script.rules AwkRun.fuelLimit state
      match records with
      | (.error (.fault complaint), state) => ended (.error (.fault complaint), state)
      | (_, state) => ended (performAll (script.rulesFor false) state)

end AwkScript

/-- A script in front of its first statement. -/
def AwkState.start (session : Session) (functions : List AwkFunction) (operands : List Text) : AwkState :=
  let state : AwkState := {
    session, functions
    globals := [("FS".toList, ⟨.text [' '], none⟩), ("OFS".toList, ⟨.text [' '], none⟩),
      ("ORS".toList, ⟨.text ['\n'], none⟩), ("RS".toList, ⟨.text ['\n'], none⟩), ("NR".toList, ⟨.number 0, none⟩),
      ("FNR".toList, ⟨.number 0, none⟩), ("SUBSEP".toList, ⟨.text ['\x1c'], none⟩),
      ("CONVFMT".toList, ⟨.text "%.6g".toList, none⟩), ("OFMT".toList, ⟨.text "%.6g".toList, none⟩),
      ("FILENAME".toList, ⟨.text [], none⟩), ("ARGC".toList, ⟨.ofNat (operands.length + 1), none⟩),
      ("ARGV".toList, ⟨.unset, some 0⟩), ("ENVIRON".toList, ⟨.unset, some 1⟩)]
    locals := []
    arrays := [(0, ("awk".toList :: operands).zipIdx.map fun (word, i) => (Text.ofNat i, .input word)),
      (1, session.environment.map fun (name, value) => (name, .input value))]
    nextArray := 2
    record := []
    fields := []
    input := none
    operand := 1
    hasFile := false
    targets := []
    sources := []
    printed := []
    ranges := []
    seed := 1
    code := 0 }
  state

def runRecordScript : Utility := fun interpreter arguments session =>
  session.withArguments "awk" ⟨"F:f:v:W:V", [("assign", 'v'), ("field-separator", 'F'), ("file", 'f'),
    ("version", 'V')], true⟩ 2
    (fun found session =>
      let usage : Session := session.complain "awk"
        "usage: awk [-F value] [-v var=value] [--] 'program text' [file ...]".toList 0
      let (files, session) : Except Text (List Text) × Session := (found.values 'f').foldl (fun (done, session) path =>
        match done with
        | .error complaint => (.error complaint, session)
        | .ok pieces =>
          match session.readOrTake path with
          | (.ok content, session) => (.ok (pieces ++ [content]), session)
          | (.error cause, session) => (.error (AwkState.openComplaint path cause), session)) (.ok [], session)
      if found.has 'V' || (found.value? 'W').any "version".toList.isPrefixOf then session.printLine "mawk 1.3.4 20240123".toList
      else
        match files, found.operands with
        | .error complaint, _ => session.complain "awk" complaint 2
        | .ok [], [] => usage
        | .ok pieces, operands =>
          let (source, operands) : Text × List Text :=
            if pieces.isEmpty then (operands.head?.getD [], operands.tail)
            else (pieces.flatMap fun piece => piece ++ ['\n'], operands)
          match AwkScript.read source with
          | .error fault =>
            session.complain "awk" ("line ".toList ++ Text.ofNat fault.line ++ ':' :: ' ' :: fault.complaint) 2
          | .ok script =>
            let state := AwkState.start session script.functions operands
            let state := match found.value? 'F' with
              | some separator => state.put "FS".toList (.text (AwkState.outsideText separator))
              | none => state
            let prepared := (found.values 'v').foldlM (fun state word =>
              match AwkState.setting? word with
              | some (name, value) => AwkState.assign state name (.input value)
              | none => .error ("improper assignment: -v ".toList ++ word)) state
            match prepared with
            | .error complaint => session.complain "awk" complaint 2
            | .ok state => script.run interpreter state) arguments

end LogDiagram.Shell
