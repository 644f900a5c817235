import LogDiagram.Shell.Awk.Value
import LogDiagram.Shell.Launch

/-!
# A script between two statements

What a script has at one moment: its variables and arrays, the record with its fields, and the files and commands that
it reads from and writes to.

* `AwkState.value` and `AwkState.assign` are about variables;
* `AwkState.setRecord` and `AwkState.setField` keep the record and its fields in step;
* `AwkState.flush` hands over what was written.
-/

namespace LogDiagram.Shell

/-- What a name stands for: a value, and an array if it is used as one. -/
structure AwkSlot where
  value : AwkValue
  array : Option Nat

/-- A file or a command that is written to; the last piece of what is written to it comes first. -/
structure AwkTarget where
  kind : AwkStream
  name : Text
  pieces : List Text

/-- A file or a command that is read: what is left of it, and the exit code of a command. -/
structure AwkSource where
  kind : AwkStream
  name : Text
  rest : Text
  status : Nat

/-- What a script has at one moment. -/
structure AwkState where
  session : Session
  functions : List AwkFunction
  globals : List (Text × AwkSlot)
  /-- The parameters of the function that runs. -/
  locals : List (Text × AwkSlot)
  arrays : List (Nat × AwkArray)
  /-- The number of the next array. -/
  nextArray : Nat
  record : Text
  fields : List AwkValue
  /-- What is left of the file that is read. -/
  input : Option Text
  /-- The number of the next operand. -/
  operand : Nat
  /-- A file was named among the operands. -/
  hasFile : Bool
  targets : List AwkTarget
  sources : List AwkSource
  /-- What was printed, the last piece first. -/
  printed : List Text
  /-- The ranges in which the record stands. -/
  ranges : List Nat
  seed : Nat
  code : Nat

/-- Why a statement is not followed by the next one. -/
inductive AwkStop where
  | next
  | nextFile
  | leave
  | again
  | exit
  | giveBack (value : AwkValue)
  | fault (complaint : Text)

abbrev AwkRun := ExceptT AwkStop (StateM AwkState)

namespace AwkState

/-! ## Variables -/

def slot? (state : AwkState) (name : Text) : Option AwkSlot :=
  (state.locals.lookup name).orElse fun _ => state.globals.lookup name

def setSlot (state : AwkState) (name : Text) (slot : AwkSlot) : AwkState :=
  let put (slots : List (Text × AwkSlot)) : List (Text × AwkSlot) :=
    if slots.any fun entry => entry.1 == name then
      slots.map fun entry => if entry.1 == name then (name, slot) else entry
    else (name, slot) :: slots
  if state.locals.any fun entry => entry.1 == name then { state with locals := put state.locals }
  else { state with globals := put state.globals }

def fieldCountName : Text := "NF".toList

def value (state : AwkState) (name : Text) : AwkValue :=
  if name = fieldCountName then .ofNat state.fields.length else ((state.slot? name).map (·.value)).getD .unset

def format (state : AwkState) : Text := (state.value "CONVFMT".toList).toText []

def textOf (state : AwkState) (value : AwkValue) : Text :=
  match value with
  | .unset => []
  | .text t | .input t => t
  | .number _ => value.toText state.format

def textValue (state : AwkState) (name : String) : Text := state.textOf (state.value name.toList)

/-- A name gets a value, and nothing else changes. -/
def put (state : AwkState) (name : Text) (value : AwkValue) : AwkState :=
  state.setSlot name ⟨value, (state.slot? name).bind (·.array)⟩

/-- The number of the array of a name, which is made if there is none. -/
def arrayOf (state : AwkState) (name : Text) : Nat × AwkState :=
  let slot := (state.slot? name).getD ⟨.unset, none⟩
  match slot.array with
  | some id => (id, state)
  | none =>
    let id := state.nextArray
    (id, { state with nextArray := id + 1 }.setSlot name { slot with array := some id })

def array (state : AwkState) (id : Nat) : AwkArray := (state.arrays.lookup id).getD []

/-- The array with a number becomes another one. -/
def setArray (state : AwkState) (id : Nat) (array : AwkArray) : AwkState :=
  { state with arrays := (id, array) :: state.arrays.filter fun entry => entry.1 != id }

/-! ## Fields -/

/-- Blanks part the fields of a text; a line end is one of them. -/
def blankFields (t : Text) : List Text :=
  let isBlank (c : Char) : Bool := c == ' ' || c == '\t' || c == '\n'
  let (field, done) := t.foldl (fun (field, done) c =>
    if isBlank c then (([] : Text), if field.isEmpty then done else field.reverse :: done)
    else (c :: field, done)) (([] : Text), ([] : List Text))
  (if field.isEmpty then done else field.reverse :: done).reverse

/-- The pieces of a text between the places where an expression fits more than nothing; `fuel` bounds them. -/
def piecesBetween (expression : Expression) (subject : Text) : (fuel first : Nat) → List Text
  | 0, first => [subject.drop first]
  | fuel + 1, first =>
    let previous := if first = 0 then none else subject[first - 1]?
    match Expression.findAt? ⟨false, false⟩ subject expression (· < ·) previous first (subject.drop first) with
    | some found =>
      (subject.drop first).take (found.first - first) :: piecesBetween expression subject fuel found.last
    | none => [subject.drop first]

/-- How the parts of a text are parted. -/
inductive Separator where
  | blanks
  | nothing
  | char (c : Char)
  | expression (e : Expression)

def Separator.read (t : Text) : Except Text Separator :=
  match t with
  | [' '] => .ok .blanks
  | [] => .ok .nothing
  | [c] => .ok (.char c)
  | t => (Expression.read ⟨true, true⟩ t).map .expression

/-- The parts of a text; line ends may part them, too. -/
def Separator.split (separator : Separator) (hasLines : Bool) (t : Text) : List Text :=
  if t.isEmpty then []
  else
    match separator with
    | .blanks => blankFields t
    | .nothing => t.map fun c => [c]
    | .char c => Text.splitAtChar c (if hasLines then t.map fun d => if d = '\n' then c else d else t)
    | .expression e => piecesBetween (if hasLines then .either e (.char '\n') else e) t (t.length + 1) 0

def split (state : AwkState) (t : Text) : Except Text (List AwkValue) := do
  let separator ← Separator.read (state.textValue "FS")
  return (separator.split (state.textValue "RS").isEmpty t).map .input

def setRecord (state : AwkState) (record : Text) : Except Text AwkState := do
  return { state with record, fields := ← state.split record }

/-- The record consists of some fields. -/
def withFields (state : AwkState) (fields : List AwkValue) : AwkState :=
  { state with
    fields
    record := Text.joined (state.textValue "OFS") (fields.map state.textOf) }

/-- So many fields, the first of which are as before. -/
def resized (fields : List AwkValue) (count : Nat) : List AwkValue :=
  fields.take count ++ List.replicate (count - fields.length) .unset

def fieldLimit : Nat := 1000000

/-- A field gets a value; the field with the number zero is the record. -/
def setField (state : AwkState) (number : Int) (value : AwkValue) : Except Text AwkState :=
  if number < 0 then .error "negative field index $".toList
  else if number = 0 then do
    let after ← state.setRecord (state.textOf value)
    return after
  else
    let n := min number.toNat fieldLimit
    let fields := if n ≤ state.fields.length then state.fields else resized state.fields n
    .ok (state.withFields (fields.set (n - 1) value))

/-- The value of a field; the field with the number zero is the record. -/
def field (state : AwkState) (number : Int) : Except Text AwkValue :=
  if number < 0 then .error "negative field index $".toList
  else if number = 0 then .ok (.input state.record)
  else .ok ((state.fields[number.toNat - 1]?).getD .unset)

/-- A name gets a value; the number of fields changes the record. -/
def assign (state : AwkState) (name : Text) (value : AwkValue) : Except Text AwkState :=
  if name = fieldCountName then
    let count := AwkNumber.toInt value.toNumber
    if count < 0 then .error "negative value assigned to NF".toList
    else .ok (state.withFields (resized state.fields (min count.toNat fieldLimit)))
  else .ok (state.put name value)

/-! ## Records -/

/-- The record in front of a text, and what follows; none if nothing is left. -/
def cutRecord? (state : AwkState) (t : Text) : Except Text (Option (Text × Text)) := do
  match state.textValue "RS" with
  | [] =>
    let t := t.dropWhile (· == '\n')
    if t.isEmpty then return none
    let (record, rest) := (Text.cut? ['\n', '\n'] t).getD ((if t.getLast? = some '\n' then t.dropLast else t), [])
    return some (record, rest.dropWhile (· == '\n'))
  | [c] =>
    if t.isEmpty then return none
    let (record, rest) := t.span (· != c)
    return some (record, rest.drop 1)
  | separator =>
    if t.isEmpty then return none
    let expression ← Expression.read ⟨true, true⟩ separator
    match Expression.findAt? ⟨false, false⟩ t expression (· < ·) none 0 t with
    | some found => return some (t.take found.first, t.drop found.last)
    | none => return some (t, [])

def count (state : AwkState) (name : String) : AwkState :=
  state.put name.toList (.number ((state.value name.toList).toNumber + 1))

def outsideText (t : Text) : Text :=
  let marked := t.flatMap fun c => if c = '"' then ['\\', '"'] else if c = '\n' then ['\\', 'n'] else [c]
  ((AwkToken.readText (marked.length + 2) [] (marked ++ ['"'])).map (·.1)).getD t

/-- A word that gives a variable a value: the name and the value. -/
def setting? (word : Text) : Option (Text × Text) :=
  let (name, value) := word.span (· != '=')
  match name, value with
  | c :: more, '=' :: value =>
    if (c.isAlpha || c == '_') && more.all AwkToken.isNameChar then some (name, outsideText value) else none
  | _, _ => none

/-- How a complaint about a file starts that cannot be read. -/
def openComplaint (path : Text) (cause : OsError) : Text :=
  "cannot open ".toList ++ path ++ " (".toList ++ cause.description ++ [')']

/-- Opens the next file that is named among the operands; false if there is none. The input counts if none is named. -/
def openNext (state : AwkState) : (fuel : Nat) → Except Text (Bool × AwkState)
  | 0 => .ok (false, state)
  | fuel + 1 => do
    let start (path content : Text) (session : Session) : AwkState :=
      ({ state with
        session
        operand := state.operand + 1
        hasFile := true
        input := some content }.put "FILENAME".toList (.text path)).put "FNR".toList (.number 0)
    let takeInput (path : Text) : AwkState :=
      let (content, session) := state.session.takeInput
      start path (content.toOption.getD []) session
    if state.operand ≥ ((state.value "ARGC".toList).toNumber.toUInt64).toNat then
      if state.hasFile then return (false, state)
      return (true, takeInput [])
    let (id, _) := state.arrayOf "ARGV".toList
    let word := state.textOf (((state.array id).lookup (Text.ofNat state.operand)).getD .unset)
    let passed := { state with operand := state.operand + 1 }
    if word.isEmpty then openNext passed fuel
    else
      match setting? word with
      | some (name, value) => openNext (← passed.assign name (.input value)) fuel
      | none =>
        if word = ['-'] ∨ word = "/dev/stdin".toList then return (true, takeInput word)
        match state.session.readFile word with
        | .ok content => return (true, start word content state.session)
        | .error cause => throw (openComplaint word cause)

/-- The next record of the files that are named among the operands, if there is one. -/
def nextRecord? (state : AwkState) : (fuel : Nat) → Except Text (Option Text × AwkState)
  | 0 => .ok (none, state)
  | fuel + 1 => do
    let cut ← match state.input with
      | some rest => state.cutRecord? rest
      | none => pure none
    match cut with
    | some (record, rest) => return (some record, ({ state with input := some rest }.count "NR").count "FNR")
    | none =>
      let (isOpen, state) ← { state with input := none }.openNext (state.operand + 1000000)
      if isOpen then nextRecord? state fuel else return (none, state)

/-! ## Other files and commands -/

def runCommand (interpreter : Interpreter) (command : Text) (session : Session) : Session :=
  interpreter.launch ["sh".toList, "-c".toList, command] session

/-- What was printed and written to files is handed over. -/
def flush (state : AwkState) : AwkState :=
  let session := state.session.print state.printed.reverse.flatten
  let (session, targets) := state.targets.foldl (fun (session, targets) target =>
    if target.kind == .command || target.pieces.isEmpty then (session, target :: targets)
    else
      (((session.writeFile target.name target.pieces.reverse.flatten true).toOption).getD session,
        { target with pieces := [] } :: targets)) (session, ([] : List AwkTarget))
  { state with session, printed := [], targets := targets.reverse }

/-- A text is written to a file or a command, which is opened if it is not open yet. -/
def write (state : AwkState) (kind : AwkStream) (name t : Text) : Except Text AwkState := do
  if name = "/dev/stdout".toList ∨ name = ['-'] then return { state with printed := t :: state.printed }
  if name = "/dev/stderr".toList then return { state with session := state.session.write 2 t }
  let isMeant (target : AwkTarget) : Bool := target.name == name && (target.kind == .command) == (kind == .command)
  if state.targets.any isMeant then
    let targets := state.targets.map fun target =>
      if isMeant target then { target with pieces := t :: target.pieces } else target
    return { state with targets }
  let opened ←
    if kind = .command then pure state.flush
    else
      match state.session.writeFile name [] (kind == .fileEnd) with
      | .ok session => pure { state with session }
      | .error cause => throw ("cannot open ".toList ++ name ++ " for output (".toList ++ cause.description ++ [')'])
  return { opened with targets := ⟨kind, name, [t]⟩ :: opened.targets }

/-- What is left of a file or of the output of a command, which is opened if it is not open yet. -/
def source? (interpreter : Interpreter) (state : AwkState) (kind : AwkStream) (name : Text) :
    Option AwkSource × AwkState :=
  match state.sources.find? fun source => source.kind == kind && source.name == name with
  | some source => (some source, state)
  | none =>
    let put (rest : Text) (status : Nat) (state : AwkState) : Option AwkSource × AwkState :=
      let source : AwkSource := ⟨kind, name, rest, status⟩
      (some source, { state with sources := source :: state.sources })
    if kind == .command then
      let state := state.flush
      let (output, session) := state.session.capture (runCommand interpreter name)
      put output session.status { state with session }
    else if name = ['-'] ∨ name = "/dev/stdin".toList then
      let (content, session) := state.session.takeInput
      put (content.toOption.getD []) 0 { state with session }
    else
      match state.session.readFile name with
      | .ok content => put content 0 state
      | .error _ => (none, state)

/-- What is left of a source becomes another text. -/
def setSource (state : AwkState) (source : AwkSource) (rest : Text) : AwkState :=
  { state with sources := state.sources.map fun other =>
      if other.kind == source.kind && other.name == source.name then { other with rest } else other }

/-- Runs a command with what was written to it. -/
def runTarget (interpreter : Interpreter) (target : AwkTarget) (session : Session) : Session :=
  (runCommand interpreter target.name (session.openStream 0 (.source target.pieces.reverse.flatten false))).withStreamsOf
    session

/-- Closes everything with a name; the answer is the exit code of a command, or a negative number if nothing is open. -/
def close (interpreter : Interpreter) (state : AwkState) (name : Text) : Int × AwkState :=
  let state := state.flush
  match state.targets.find? fun target => target.name == name, state.sources.find? fun source => source.name == name with
  | some target, _ =>
    let state := { state with targets := state.targets.filter fun other => other.name != name }
    if target.kind = .command then
      let session := runTarget interpreter target state.session
      (session.status, { state with session })
    else (0, state)
  | none, some source => (source.status, { state with sources := state.sources.filter fun other => other.name != name })
  | none, none => (-1, state)

/-- Hands over everything in the end: commands run first. -/
def finish (interpreter : Interpreter) (state : AwkState) : Session :=
  let session := state.targets.reverse.foldl (fun session target =>
    if target.kind = .command then runTarget interpreter target session else session) state.session
  { state with session }.flush.session.withStatus state.code

end AwkState

end LogDiagram.Shell
