import LogDiagram.Shell.Programs
import LogDiagram.Shell.Reader
import LogDiagram.Shell.Simple

/-!
# Running scripts

What commands do to a session, and the machine that runs command lines as scripts.

* `Command.run` runs a command, and `interpretFrom` a script; `fuel` bounds how deep commands stand in commands and how
  often loops go round;
* `machine` is a machine whose programs are those of this library.
-/

namespace LogDiagram.Shell

namespace Session

/-- A failure that nobody asks for is the end of the shell if it is told so. -/
def stopIfFailed (session : Session) : Session :=
  if session.isRunning && session.status != 0 && session.hasOption 'e' && !session.isTested then
    { session with flow := .exited }
  else session

/-- Something whose failure is asked for. -/
def tested (session : Session) (body : Session → Session) : Session :=
  { body { session with isTested := true } with isTested := session.isTested }

/-- The session after a round of a loop, and whether the loop goes on. -/
def afterRound (session : Session) : Session × Bool :=
  match session.flow with
  | .running => (session, true)
  | .leaving (n + 2) => ({ session with flow := .leaving (n + 1) }, false)
  | .leaving _ => ({ session with flow := .running }, false)
  | .continuing (n + 2) => ({ session with flow := .continuing (n + 1) }, false)
  | .continuing _ => ({ session with flow := .running }, true)
  | _ => (session, false)

/-- Something that stands in one more loop. -/
def inLoop (session : Session) (body : Session → Session) : Session :=
  { body { session with loops := session.loops + 1 } with loops := session.loops }

/-- The first of some branches that fits a text is run. -/
def runBranches (interpreter : Interpreter) (subject : Text) :
    List (List Word × Command) → Session → Session
  | [], session => session.withStatus 0
  | (patterns, body) :: rest, session =>
    let (isFound, session) := patterns.foldl (fun (isFound, session) word =>
      if isFound || !session.isRunning then (isFound, session)
      else
        let (field, session) := session.pattern interpreter word
        ((Glob.ofField field).fits subject, session)) (false, session)
    if !session.isRunning then session
    else if isFound then interpreter.run body session
    else runBranches interpreter subject rest session

/-- Commands of which each reads what the one before prints; each runs in a shell of its own. -/
def runPipe (interpreter : Interpreter) : List Command → (input : Option Text) → Session → Session
  | [], _, session => session
  | stage :: rest, input, session =>
    let run (session : Session) : Session :=
      session.enclose fun session =>
        let session := match input with
          | some input => session.openStream 0 (.source input false)
          | none => session
        (interpreter.run stage session).finish interpreter
    match rest with
    | [] => run session
    | rest =>
      let (printed, session) := session.capture run
      if session.isRunning then runPipe interpreter rest (some printed) session else session

/-- Runs a command in the background: it has ended when the shell goes on. -/
def runBehind (interpreter : Interpreter) (body : Command) (session : Session) : Session :=
  let after := session.enclose fun session =>
    (interpreter.run body { session.openStream 0 .nowhere with isTested := false }).finish interpreter
  let number := firstProcess * 10 + session.jobs.length
  if after.isRunning then { after with status := 0, jobs := (number, after.status) :: after.jobs } else after

end Session

mutual

/-- Runs a command. -/
def Command.run (fuel : Nat) (command : Command) (session : Session) : Session :=
  match fuel with
  | 0 => session.kill 11
  | fuel + 1 =>
    let interpreter : Interpreter := ⟨Command.run fuel, interpretFrom fuel true, launchIn fuel⟩
    let run := Command.run fuel
    if !session.isRunning || session.hasOption 'n' then session
    else
      let after :=
        match command with
        | .simple assignments words redirections =>
          (session.runSimple interpreter assignments words redirections).stopIfFailed
        | .redirected body redirections =>
          match session.redirected interpreter redirections (run body) with
          | .ok session | .error session => session
        | .sequence first second => run second (run first session)
        | .background body => session.runBehind interpreter body
        | .both first second =>
          let session := session.tested (run first)
          if session.isRunning && session.status == 0 then run second session else session
        | .either first second =>
          let session := session.tested (run first)
          if session.isRunning && session.status != 0 then run second session else session
        | .negated body =>
          let session := session.tested (run body)
          if session.isRunning then session.withStatus (if session.status = 0 then 1 else 0) else session
        | .pipe stages => (session.runPipe interpreter stages none).stopIfFailed
        | .enclosed body =>
          (session.enclose fun session => (run body session).finish interpreter).stopIfFailed
        | .branch condition yes no =>
          let session := session.tested (run condition)
          if !session.isRunning then session
          else if session.status = 0 then run yes session
          else run no (session.withStatus 0)
        | .each name words body =>
          let (fields, session) := session.fields interpreter words
          if !session.isRunning then session
          else (session.withStatus 0).inLoop (runEach fuel name body fields)
        | .loop untilSuccess condition body =>
          session.inLoop (runLoop fuel untilSuccess condition body 0)
        | .select subject branches =>
          let (field, session) := session.pattern interpreter subject
          if session.isRunning then session.runBranches interpreter field.text branches else session
        | .define name body =>
          { session with
            status := 0
            functions := (name, body) :: session.functions.filter fun entry => entry.1 != name }
      after.answerSignals interpreter

def runEach (fuel : Nat) (name : Text) (body : Command) (texts : List Text) (session : Session) : Session :=
  match fuel with
  | 0 => session.kill 11
  | fuel + 1 =>
    match texts with
    | [] => session
    | t :: rest =>
      let session := session.assign name t
      if !session.isRunning then session
      else
        match (Command.run fuel body session).afterRound with
        | (session, true) => runEach fuel name body rest session
        | (session, false) => session

/-- Runs a command as long as a condition succeeds, or fails; `status` is the exit code of the last round. -/
def runLoop (fuel : Nat) (untilSuccess : Bool) (condition body : Command) (status : Nat) (session : Session) :
    Session :=
  match fuel with
  | 0 => session.kill 11
  | fuel + 1 =>
    let tested := session.tested (Command.run fuel condition)
    match tested.isRunning, tested.afterRound with
    | false, (session, true) => runLoop fuel untilSuccess condition body status session
    | false, (session, false) => if session.isRunning then session.withStatus status else session
    | true, (session, _) =>
      if (session.status == 0) == untilSuccess then session.withStatus status
      else
        match (Command.run fuel body session).afterRound with
        | (session, true) => runLoop fuel untilSuccess condition body session.status session
        | (session, false) => session

/-- Runs a script line by line; one without any command succeeds. -/
def interpretFrom (fuel : Nat) (isStart : Bool) (script : Text) (session : Session) : Session :=
  match fuel with
  | 0 => session.kill 11
  | fuel + 1 =>
    match Script.readLine script with
    | .finish => if isStart then session.withStatus 0 else session
    | .broken => session.fail "Syntax error".toList
    | .commands command rest =>
      let session := Command.run fuel command session
      if session.isRunning then interpretFrom fuel false rest session else session

/-- Starts a program, which the first text names. -/
def launchIn (fuel : Nat) (words : List Text) (session : Session) : Session :=
  match fuel with
  | 0 => session.kill 11
  | fuel + 1 => launch utility? ⟨Command.run fuel, interpretFrom fuel true, launchIn fuel⟩ words session

end

/-- More rounds and depth than scripts have. -/
def runFuel : Nat := 1000000

def interpreter : Interpreter := ⟨Command.run runFuel, interpretFrom runFuel true, launchIn runFuel⟩

/-! ## The machine -/

/-- How many bytes a text may have that a program is given. -/
def argumentLimit : Nat := 128 * 1024

/-- Why texts cannot be given to a program. -/
def refusedArguments? (arguments : List Text) : Option OsError :=
  if arguments.any fun t => t.contains '\x00' then some .nulInCommand
  else if arguments.any fun t => t.utf8Size ≥ argumentLimit then some .commandTooLong
  else none

def sessionIn (bindings : List (Text × Text)) (tree : FileTree) : Session :=
  Session.start (bindings.map fun (name, value) => (name.toPlain, value.toPlain)) tree.openLinks

def runOf (tree : FileTree) (session : Session) : CommandRun where
  tree := { session.tree.closeLinks with workingPlace := tree.workingPlace }
  ending := match session.flow with
    | .killed _ => .killed
    | _ => .exited session.status
  printed := Bytes.ofPlain (session.collected 1)

/-- Runs a command line. One that looks like an option is none. -/
def runLine (bindings : List (Text × Text)) (line : Text) (tree : FileTree) : Except OsError CommandRun :=
  match refusedArguments? [line] with
  | some cause => .error cause
  | none =>
    let isOption := line.head? = some '-' || line.head? = some '+'
    let session := sessionIn bindings tree
    .ok (runOf tree (if isOption then session.exit 2
      else (interpreter.interpret line.toPlain session).finish interpreter))

/-- Runs a program with arguments, without a script around it. -/
def runProgram (bindings : List (Text × Text)) (name : Text) (arguments : List Text) (tree : FileTree) :
    Except OsError CommandRun :=
  match refusedArguments? (name :: arguments) with
  | some cause => .error cause
  | none =>
    (launch? utility? interpreter ((name :: arguments).map Text.toPlain) (sessionIn bindings tree)).map (runOf tree)

/-- The machine with the programs of this library and the given variables. -/
def machine (bindings : List (Text × Text)) : Machine := ⟨runLine bindings, runProgram bindings⟩

end LogDiagram.Shell
