import LogDiagram.Bytes.Plain
import LogDiagram.Command.Machine
import LogDiagram.Shell.Basic
import LogDiagram.Shell.Volume

/-!
# Sessions of a shell

A `Session` is what a shell has at one moment: its tree of files, its variables, its streams and how the last command
ended. Programs take a session to the one after them. All texts in a session are plain: a shell takes each byte for a
character.

* `Session.print` and `Session.complain` write to the streams, and `Session.takeInput` reads from them;
* `Session.capture` catches what is written, and `Session.enclose` keeps changes inside;
* `Session.assign` and `Session.value?` are about variables.
-/

namespace LogDiagram.Shell

/-- Where an open stream leads. -/
inductive Channel where
  /-- What is written is collected: the pieces, the last one first. -/
  | collected (pieces : List Text)
  /-- What can still be read; a reader may give back what it did not use if it can turn back. -/
  | source (rest : Text) (turnsBack : Bool)
  /-- Nothing can be read, and what is written is lost. -/
  | nowhere
  /-- A directory, which cannot be read. -/
  | directory
  /-- A file, and the position of the next byte unless every write goes to the end. -/
  | file (place : Place) (position : Nat) (isAppending : Bool)
  deriving DecidableEq, Repr

/-- A variable. One that is fixed keeps its value. -/
structure Binding where
  value : Option Text
  isExported : Bool
  isFixed : Bool
  deriving DecidableEq, Repr

/-- How the commands of a script go on. -/
inductive Flow where
  | running
  /-- So many loops are left. -/
  | leaving (loops : Nat)
  /-- So many loops but one are left, and that one goes on. -/
  | continuing (loops : Nat)
  /-- The innermost function or file of commands is left. -/
  | returning
  /-- The shell is left. -/
  | exited
  /-- The shell is left because of something that it does not understand. -/
  | failed
  | killed (signal : Nat)
  deriving DecidableEq, Repr

/-- What a shell has at one moment. -/
structure Session where
  tree : FileTree
  bindings : List (Text × Binding)
  functions : List (Text × Command)
  /-- The name of the shell. -/
  name : Text
  /-- What the shell, or the function that runs, was given. -/
  arguments : List Text
  /-- The letters of the options that are on. -/
  options : List Char
  /-- The exit code of the last command. -/
  status : Nat
  /-- The exit code of the last command whose output stood in a word. -/
  outputStatus : Nat
  channels : List (Nat × Channel)
  /-- The channel of each open stream. -/
  streams : List (Nat × Nat)
  flow : Flow
  /-- What is done on a signal, or in the end. -/
  traps : List (Text × Text)
  /-- The signals that came and were not answered yet. -/
  signals : List Text
  /-- A failure is no reason to stop, since it is asked for. -/
  isTested : Bool
  /-- How many loops are around the command that runs. -/
  loops : Nat
  /-- How many functions and scripts are around the command that runs. -/
  depth : Nat
  /-- What variables were before the functions that run made them their own, the innermost function first. -/
  saved : List (List (Text × Option Binding))
  /-- The commands that ran in the background, the last one first: their numbers and exit codes. -/
  jobs : List (Nat × Nat)
  /-- How many letters of the argument in question were read as options. -/
  optionPosition : Nat
  /-- The number of the process of the shell. -/
  process : Nat

/-- What a program makes of its arguments. -/
abbrev Program := List Text → Session → Session

/-- What runs commands. -/
structure Interpreter where
  /-- Runs a command. -/
  run : Command → Session → Session
  /-- Runs a script. -/
  interpret : Text → Session → Session
  /-- Runs a program, which the first text names, with the others as its arguments. -/
  launch : List Text → Session → Session

namespace Session

def firstProcess : Nat := 100

/-- The directories in which programs are looked for. -/
def searchPath : Text := "/usr/local/sbin:/usr/local/bin:/usr/sbin:/usr/bin:/sbin:/bin".toList

def pathOf (place : Place) : Text :=
  if place.isEmpty then ['/'] else place.reverse.flatMap fun name => '/' :: name.toPlain

/-- The variables of a shell that starts with some exported ones. -/
def startBindings (tree : FileTree) (exported : List (Text × Text)) : List (Text × Binding) :=
  let own : List (Text × Text) := [("IFS".toList, [' ', '\t', '\n']), ("OPTIND".toList, ['1']),
    ("PS1".toList, ['$', ' ']), ("PS2".toList, ['>', ' ']), ("PS4".toList, ['+', ' ']),
    ("PPID".toList, Text.ofNat (firstProcess - 1))]
  let exported := exported.filter fun (name, _) => !own.any (·.1 == name)
  let current := pathOf tree.workingPlace
  let known := exported.map fun (name, value) => (name, (⟨some value, true, false⟩ : Binding))
  let known := if known.any (·.1 == "PATH".toList) then known
    else ("PATH".toList, ⟨some searchPath, true, false⟩) :: known
  ("PWD".toList, ⟨some current, true, false⟩) ::
    (own.map fun (name, value) => (name, (⟨some value, false, false⟩ : Binding))) ++
    known.filter (·.1 != "PWD".toList)

/-- A session in front of its first command. -/
def start (exported : List (Text × Text)) (tree : FileTree) : Session where
  tree
  bindings := startBindings tree exported
  functions := []
  name := ['s', 'h']
  arguments := []
  options := []
  status := 0
  outputStatus := 0
  channels := [(0, .nowhere), (1, .collected []), (2, .nowhere)]
  streams := [(0, 0), (1, 1), (2, 2)]
  flow := .running
  traps := []
  signals := []
  isTested := false
  loops := 0
  depth := 0
  saved := []
  jobs := []
  optionPosition := 0
  process := firstProcess

/-- The next command runs. -/
def isRunning (session : Session) : Bool := session.flow == .running

/-- The last command ended with an exit code. -/
def withStatus (session : Session) (status : Nat) : Session := { session with status }

/-- The shell ends with an exit code, of which one byte counts. -/
def exit (session : Session) (code : Nat) : Session := { session with status := code % 256, flow := .exited }

def kill (session : Session) (signal : Nat) : Session := { session with flow := .killed signal }

def hasOption (session : Session) (letter : Char) : Bool := session.options.contains letter

/-! ## Streams -/

def channelNumber? (session : Session) (stream : Nat) : Option Nat := session.streams.lookup stream

/-- The channel of a stream; one that is closed leads nowhere. -/
def channel (session : Session) (stream : Nat) : Channel :=
  ((session.channelNumber? stream).bind fun number => session.channels.lookup number).getD .nowhere

def setChannel (session : Session) (number : Nat) (channel : Channel) : Session :=
  { session with channels := (number, channel) :: session.channels.filter fun entry => entry.1 != number }

def freeChannel (session : Session) : Nat :=
  session.channels.foldl (fun free entry => max free (entry.1 + 1)) 0

def connect (session : Session) (stream number : Nat) : Session :=
  { session with streams := (stream, number) :: session.streams.filter fun entry => entry.1 != stream }

/-- A stream leads nowhere any more. -/
def close (session : Session) (stream : Nat) : Session :=
  { session with streams := session.streams.filter fun entry => entry.1 != stream }

def openStream (session : Session) (stream : Nat) (channel : Channel) : Session :=
  let number := session.freeChannel
  (session.setChannel number channel).connect stream number

/-- The streams of another session; the channels of no stream are forgotten. -/
def withStreamsOf (session outer : Session) : Session :=
  let kept := outer.channels.map (·.1)
  { session with
    streams := outer.streams
    channels := session.channels.filter fun entry => kept.contains entry.1 }

/-- Bytes with others in them from a position on; zeros stand where there were none. -/
def overwritten (before : Bytes) (position : Nat) (content : Bytes) : Bytes :=
  before.take position ++ List.replicate (position - before.length) 0 ++ content ++
    before.drop (position + content.length)

def writeTo (session : Session) (number : Nat) (t : Text) : Session :=
  match session.channels.lookup number with
  | some (.collected pieces) => session.setChannel number (.collected (t :: pieces))
  | some (.file place position isAppending) =>
    match session.tree.node? place with
    | some (.file before) =>
      let content := Bytes.ofPlain t
      if isAppending || position = before.length then
        let session := session.setChannel number (.file place (before.length + content.length) isAppending)
        { session with tree := session.tree.set place (.file (before ++ content)) }
      else
        let session := session.setChannel number (.file place (position + content.length) isAppending)
        { session with tree := session.tree.set place (.file (overwritten before position content)) }
    | _ => session
  | _ => session

def write (session : Session) (stream : Nat) (t : Text) : Session :=
  match session.channelNumber? stream with
  | some number => if t.isEmpty then session else session.writeTo number t
  | none => session

def print (session : Session) (t : Text) : Session := session.write 1 t

def printLine (session : Session) (t : Text) : Session := session.print (t ++ ['\n'])

/-- A program complains on a line of its own, and has failed. -/
def complain (session : Session) (program : String) (complaint : Text) (status : Nat) : Session :=
  (session.write 2 (program.toList ++ ':' :: ' ' :: (complaint ++ ['\n']))).withStatus status

def complainAlone (session : Session) (complaint : Text) (status : Nat) : Session :=
  (session.write 2 (session.name ++ ": 1: ".toList ++ complaint ++ ['\n'])).withStatus status

def fail (session : Session) (complaint : Text) : Session :=
  { session.complainAlone complaint 2 with flow := .failed }

/-- What can still be read from a stream; a directory cannot be read. -/
def rest (session : Session) (stream : Nat) : Except OsError Text :=
  match session.channel stream with
  | .source rest _ => .ok rest
  | .file place position isAppending =>
    match session.tree.node? place with
    | some (.file content) => .ok (Bytes.toPlain (content.drop (if isAppending then 0 else position)))
    | _ => .ok []
  | .directory => .error .isDirectory
  | .collected _ | .nowhere => .ok []

def withRest (session : Session) (stream : Nat) (rest : Text) : Session :=
  match session.channelNumber? stream, session.channel stream with
  | some number, .source _ turnsBack => session.setChannel number (.source rest turnsBack)
  | some number, .file place _ isAppending =>
    match session.tree.node? place with
    | some (.file content) => session.setChannel number (.file place (content.length - rest.length) isAppending)
    | _ => session
  | _, _ => session

/-- Everything that can still be read from the input is read. -/
def takeInput (session : Session) : Except OsError Text × Session := (session.rest 0, session.withRest 0 [])

def turnsBack (session : Session) (stream : Nat) : Bool :=
  match session.channel stream with
  | .source _ turnsBack => turnsBack
  | .file _ _ _ => true
  | _ => false

def collected (session : Session) (number : Nat) : Text :=
  match session.channels.lookup number with
  | some (.collected pieces) => pieces.reverse.flatten
  | _ => []

/-- What is printed is caught instead. -/
def capture (session : Session) (body : Session → Session) : Text × Session :=
  let number := session.freeChannel
  let after := body (session.openStream 1 (.collected []))
  (after.collected number, after.withStreamsOf session)

/-! ## Variables -/

def binding? (session : Session) (name : Text) : Option Binding := session.bindings.lookup name

/-- A variable becomes another one, or is no more. -/
def setBinding (session : Session) (name : Text) (binding : Option Binding) : Session :=
  let others := session.bindings.filter fun entry => entry.1 != name
  { session with
    bindings := match binding with
      | some binding => (name, binding) :: others
      | none => others }

/-- A variable gets a value; the shell is left if the variable is fixed. -/
def assign (session : Session) (name value : Text) : Session :=
  match session.binding? name with
  | some binding =>
    if binding.isFixed then session.fail (name ++ ": is read only".toList)
    else
      let session := if name = "OPTIND".toList then { session with optionPosition := 0 } else session
      session.setBinding name (some { binding with
        value := some value, isExported := binding.isExported || session.hasOption 'a' })
  | none => session.setBinding name (some ⟨some value, session.hasOption 'a', false⟩)

/-- A variable gets a value that programs are given, too. -/
def assignExported (session : Session) (name value : Text) : Session :=
  let session := session.assign name value
  match session.binding? name with
  | some binding => session.setBinding name (some { binding with isExported := true })
  | none => session

def textOf? (session : Session) (name : Text) : Option Text := (session.binding? name).bind (·.value)

def value? (session : Session) (name : Text) : Option Text :=
  match name with
  | ['?'] => some (Text.ofNat session.status)
  | ['$'] => some (Text.ofNat session.process)
  | ['#'] => some (Text.ofNat session.arguments.length)
  | ['-'] => some ("efIimnsxvuVCEabqlp".toList.filter session.hasOption)
  | ['!'] => session.jobs.head?.map fun job => Text.ofNat job.1
  | ['0'] => some session.name
  | c :: _ =>
    if c.isDigit then session.arguments[name.foldl (fun n c => n * 10 + (c.toNat - '0'.toNat)) 0 - 1]?
    else session.textOf? name
  | [] => none

/-- The characters that part fields. -/
def separators (session : Session) : Text := (session.textOf? "IFS".toList).getD [' ', '\t', '\n']

/-- In which of the lists of variables, over which a shell spreads them, a name stands. -/
def listNumber (name : Text) : Nat := name.foldl (fun n c => n + c.toNat) (16 * (name.head?.getD '\x00').toNat) % 39

/-- The variables that programs are given, in the order in which a shell hands them over. -/
def environment (session : Session) : List (Text × Text) :=
  (session.bindings.filterMap fun (name, binding) =>
    if binding.isExported then binding.value.map fun value => (name, value) else none).mergeSort fun a b =>
      listNumber a.1 ≤ listNumber b.1

/-! ## Sessions in a session -/

def isOver (session : Session) : Bool :=
  match session.flow with
  | .exited | .failed | .killed _ => true
  | _ => false

/--
A session in which variables, the working directory, streams and traps are kept, and an exit ends only the inner part. A
signal goes to the whole shell.
-/
def enclose (session : Session) (body : Session → Session) : Session :=
  let inner := body { session with traps := session.traps.filter fun entry => entry.2.isEmpty, signals := [] }
  let inner := inner.withStreamsOf session
  { session with
    tree := { inner.tree with workingPlace := session.tree.workingPlace }
    channels := inner.channels
    status := inner.status
    flow := match inner.flow with
      | .killed signal => .killed signal
      | _ => session.flow }

/-- The number that stands for the end by a signal. -/
def signalStatus (signal : Nat) : Nat := 128 + signal

/-- What a shell of another process does to a session; the body starts with the shell. -/
def spawn (session : Session) (body : Session → Session) : Session :=
  let fresh := start session.environment session.tree
  let inner := body { fresh with
    channels := session.channels
    streams := session.streams
    traps := session.traps.filter fun entry => entry.2.isEmpty
    depth := session.depth + 1
    process := session.process + 1 }
  let inner := inner.withStreamsOf session
  { session with
    tree := { inner.tree with workingPlace := session.tree.workingPlace }
    channels := inner.channels
    status := match inner.flow with
      | .killed signal => signalStatus signal
      | _ => inner.status }

/-! ## Files -/

def streamOfPath? (path : Text) : Option Nat :=
  match String.ofList path with
  | "/dev/stdin" => some 0
  | "/dev/stdout" => some 1
  | "/dev/stderr" => some 2
  | _ =>
    match Text.afterPrefix? "/dev/fd/".toList path with
    | some [c] => if c.isDigit then some (c.toNat - '0'.toNat) else none
    | _ => none

def find (session : Session) (path : Text) : Except OsError Node := session.tree.find path.ofPlain

def hasDirectory (session : Session) (path : Text) : Bool := session.tree.leadsToDirectory path.ofPlain

def inputChannel (session : Session) (path : Text) : Except OsError Channel := do
  match ← session.find path with
  | .file content => return .source (Bytes.toPlain content) true
  | .directory => return .directory
  | .device => return .nowhere

def readFile (session : Session) (path : Text) : Except OsError Text :=
  match streamOfPath? path with
  | some stream => session.rest stream
  | none => do
    match ← session.find path with
    | .file content => return Bytes.toPlain content
    | .directory => throw .isDirectory
    | .device => return []

/-- The place of a file that is to be written, and the session with the file there. -/
def outputPlace (session : Session) (path : Text) (isEmptied : Bool) : Except OsError (Option Place × Session) := do
  let place ← session.tree.followOutput path.ofPlain
  match session.tree.node? place, isEmptied with
  | some .device, _ => return (none, session)
  | some (.file (_ :: _)), true | none, _ =>
    return (some place, { session with tree := session.tree.set place (.file []) })
  | _, _ => return (some place, session)

def openOutput (session : Session) (stream : Nat) (path : Text) (isAppending : Bool) : Except OsError Session :=
  match (streamOfPath? path).bind session.channelNumber? with
  | some number => .ok (session.connect stream number)
  | none => do
    let (place, session) ← session.outputPlace path !isAppending
    return session.openStream stream (match place with
      | some place => .file place 0 isAppending
      | none => .nowhere)

def writeFile (session : Session) (path t : Text) (isAppending : Bool) : Except OsError Session :=
  match (streamOfPath? path).bind session.channelNumber? with
  | some number => .ok (session.writeTo number t)
  | none => do
    let (place, session) ← session.outputPlace path !isAppending
    match place.map fun place => (place, session.tree.node? place) with
    | some (place, some (.file before)) =>
      return { session with tree := session.tree.set place (.file (before ++ Bytes.ofPlain t)) }
    | _ => return session

end Session

end LogDiagram.Shell
