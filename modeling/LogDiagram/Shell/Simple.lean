import LogDiagram.Shell.Launch
import LogDiagram.Shell.Redirect

/-!
# Simple commands

What a command without others in it does: it gives values to variables, calls a function, runs a command of the shell
or starts a program.

* `Session.runSimple` runs a simple command.
-/

namespace LogDiagram.Shell.Session

/-! ## Assignments -/

/-- Gives variables their values. -/
def assignAll (interpreter : Interpreter) (assignments : List (Text × Word)) (session : Session) : Session :=
  assignments.foldl (fun session (name, word) =>
    if !session.isRunning then session
    else
      let (value, session) := session.text interpreter word
      if session.isRunning then session.assign name value else session) session

/-- Variables are made to be given to programs. -/
def exportAll (assignments : List (Text × Word)) (session : Session) : Session :=
  assignments.foldl (fun session (name, _) =>
    session.setBinding name ((session.binding? name).map fun binding => { binding with isExported := true })) session

/-- Variables are what they were in another session. -/
def restoreBindings (session outer : Session) (names : List Text) : Session :=
  names.foldl (fun session name => session.setBinding name (outer.binding? name)) session

/-- A session in which variables have values for a while. -/
def withAssignments (interpreter : Interpreter) (assignments : List (Text × Word)) (session : Session)
    (body : Session → Session) : Session :=
  if assignments.isEmpty then body session
  else
    let inner := exportAll assignments (assignAll interpreter assignments session)
    if inner.isRunning then (body inner).restoreBindings session (assignments.map (·.1)) else inner

/-! ## Functions and programs -/

/-- How deep functions may stand in functions. -/
def depthLimit : Nat := 1000

def runFunction (interpreter : Interpreter) (body : Command) (arguments : List Text) (session : Session) : Session :=
  if session.depth ≥ depthLimit then
    session.fail ("Maximum function recursion depth (".toList ++ Text.ofNat depthLimit ++ ") reached".toList)
  else
    let inner := { session with
      arguments, loops := 0, depth := session.depth + 1, saved := [] :: session.saved, optionPosition := 0 }
    let after := interpreter.run body inner
    let own := after.saved.head?.getD []
    let after := own.foldl (fun session (name, binding) => session.setBinding name binding) after
    { after with
      arguments := session.arguments
      loops := session.loops
      depth := session.depth
      saved := session.saved
      optionPosition := session.optionPosition
      flow := if after.flow = .returning then .running else after.flow }

def runFile (interpreter : Interpreter) (arguments : List Text) (session : Session) : Session :=
  match if arguments.head? = some ['-', '-'] then arguments.tail else arguments with
  | [] => session.withStatus 0
  | name :: _ =>
    let paths := if name.contains '/' then [name]
      else session.searchDirectories.map fun directory => directory ++ '/' :: name
    match paths.findSome? fun path => (session.readFile path).toOption with
    | some script =>
      let after := interpreter.interpret script { session with isTested := false, depth := session.depth + 1 }
      { after with
        isTested := session.isTested
        depth := session.depth
        flow := if after.flow = .returning then .running else after.flow }
    | none =>
      session.fail (if name.contains '/' then ".: cannot open ".toList ++ name ++ ": No such file".toList
        else ".: ".toList ++ name ++ ": not found".toList)

def tellMeaning (isShort : Bool) (session : Session) (name : Text) : Session :=
  let say (meaning : Text) : Session := session.printLine (if isShort then name else name ++ meaning)
  if reservedWords.any fun word => word.toList == name then say " is a shell keyword".toList
  else if session.functions.any fun entry => entry.1 == name then say " is a shell function".toList
  else if isSpecialName name then say " is a special shell builtin".toList
  else if isBuiltinName name then say " is a shell builtin".toList
  else
    match session.pathOf? name with
    | some path => if isShort then session.printLine path else say (" is ".toList ++ path)
    | none =>
      if isShort then session.withStatus 127
      else (session.printLine (name ++ ": not found".toList)).withStatus 127

/-- Runs a command of the shell or a program, or complains that there is none. -/
def runNamed (interpreter : Interpreter) (name : Text) (arguments : List Text) (session : Session) : Session :=
  match String.ofList name, programOf? plainBuiltins name with
  | _, some program => program arguments session
  | "eval", _ =>
    if session.depth ≥ depthLimit then session.fail "eval: too deep".toList
    else
      let after := interpreter.interpret (Text.joined [' '] arguments) { session with depth := session.depth + 1 }
      { after with depth := session.depth }
  | ".", _ => session.runFile interpreter arguments
  | "type", _ => arguments.foldl (tellMeaning false) (session.withStatus 0)
  | _, _ => interpreter.launch (name :: arguments) session

/-- A command of the shell that is not special does not end the shell if it is used wrongly. -/
def forgiven (session : Session) : Session :=
  if session.flow = .failed then { session with flow := .running } else session

/-- What `command` is asked: to tell what a name means, shortly or at length, or to run it. -/
def runCommand (interpreter : Interpreter) : (fuel : Nat) → List Text → Session → Session
  | 0, _, session => session
  | fuel + 1, arguments, session =>
    match arguments with
    | [] => session.withStatus 0
    | ['-', 'v'] :: names => (names.take 1).foldl (tellMeaning true) (session.withStatus 0)
    | ['-', 'V'] :: names => (names.take 1).foldl (tellMeaning false) (session.withStatus 0)
    | ['-', 'p'] :: rest | ['-', '-'] :: rest => runCommand interpreter fuel rest session
    | name :: rest =>
      if name = "command".toList then runCommand interpreter fuel rest session
      else (session.runNamed interpreter name rest).forgiven

/-- Runs a program in the place of the shell. -/
def replaceBy (interpreter : Interpreter) (words : List Text) (session : Session) : Session :=
  match if words.head? = some ['-', '-'] then words.tail else words with
  | [] => session.withStatus 0
  | name :: arguments =>
    match session.search name with
    | .refused cause =>
      let (reason, status) := launchFailure cause
      (session.complainAlone ("exec: ".toList ++ name ++ ':' :: ' ' :: reason) status).exit status
    | _ =>
      let after := interpreter.launch (name :: arguments) { session with traps := [] }
      if after.isOver then after else after.exit after.status

/-- What is written of a command when commands are traced. -/
def trace (session : Session) (assignments : List (Text × Word)) (fields : List Text) : Session :=
  if session.hasOption 'x' then
    let shown := assignments.map fun (name, _) => name ++ '=' :: (session.textOf? name).getD []
    session.write 2 ((session.textOf? "PS4".toList).getD [] ++ Text.joined [' '] (shown ++ fields) ++ ['\n'])
  else session

/-- The fields of the words of a simple command; what follows some commands is parted only as an assignment is. -/
def commandFields (interpreter : Interpreter) (words : List Word) (session : Session) : List Text × Session :=
  let isDeclaring := ((words.head?.bind Word.bare?).any fun name =>
    ["export", "readonly", "local"].any fun known => known.toList == name)
  if isDeclaring then
    words.foldl (fun (done, session) word =>
      match word.assignment? [] with
      | some (name, value) =>
        let (value, session) := session.text interpreter value
        (done ++ [name ++ '=' :: value], session)
      | none =>
        let (more, session) := session.fields interpreter [word]
        (done ++ more, session)) (([] : List Text), session)
  else session.fields interpreter words

/-- Runs a simple command. Assignments in front of a program hold for this program only. -/
def runSimple (interpreter : Interpreter) (assignments : List (Text × Word)) (words : List Word)
    (redirections : List Redirection) (session : Session) : Session :=
  let (fields, session) := commandFields interpreter words { session with outputStatus := 0 }
  let whole (result : Except Session Session) : Session :=
    match result with
    | .ok session | .error session => session
  if !session.isRunning then session
  else
    match fields with
    | [] =>
      whole (session.redirected interpreter redirections fun session =>
        let session := assignAll interpreter assignments session
        let session := session.trace assignments []
        if session.isRunning then session.withStatus session.outputStatus else session)
    | name :: arguments =>
      let function := if isSpecialName name then none else session.functions.lookup name
      match function with
      | some body =>
        whole (session.redirected interpreter redirections fun session =>
          withAssignments interpreter assignments session fun session =>
            (session.trace assignments fields).runFunction interpreter body arguments)
      | none =>
        if name = "exec".toList then
          match redirections.foldlM (redirect interpreter) session with
          | .ok session =>
            let session := exportAll assignments (assignAll interpreter assignments session)
            if session.isRunning then (session.trace assignments fields).replaceBy interpreter arguments else session
          | .error failed => { failed with flow := .failed }
        else if isSpecialName name then
          match session.redirected interpreter redirections fun session =>
              let session := assignAll interpreter assignments session
              if session.isRunning then (session.trace assignments fields).runNamed interpreter name arguments
              else session with
          | .ok session => session
          | .error failed => { failed with flow := .failed }
        else
          whole (session.redirected interpreter redirections fun session =>
            withAssignments interpreter assignments session fun session =>
              let session := session.trace assignments fields
              if name = "command".toList then
                session.runCommand interpreter (arguments.length + 1) arguments
              else if (programOf? plainBuiltins name).isSome then
                (session.runNamed interpreter name arguments).forgiven
              else session.runNamed interpreter name arguments)

end LogDiagram.Shell.Session
