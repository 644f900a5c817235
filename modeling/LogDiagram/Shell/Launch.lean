import LogDiagram.Shell.Builtin
import LogDiagram.Shell.System

/-!
# Starting programs

How the name of a program becomes a run of it: programs of the system are those of this library, and a file that may be
run is a script, of a shell or of the program that its first line names.

* `launch` starts a program in a session;
* `runShell` is the shell as a program.
-/

namespace LogDiagram.Shell

/-- A program that may run others. -/
abbrev Utility := Interpreter → Program

/-- The program that runs a script, and its arguments in front of the path of the script. -/
def scriptRunner (content : Text) : List Text :=
  match content with
  | '#' :: '!' :: rest =>
    let line := behindBlanks (rest.takeWhile (· != '\n'))
    let (runner, argument) := line.span fun c => c != ' ' && c != '\t'
    let argument := (behindBlanks (behindBlanks argument).reverse).reverse
    if argument.isEmpty then [runner] else [runner, argument]
  | _ => ["/bin/sh".toList]

/-- Why a program could not be started, and the exit code for that. -/
def launchFailure (cause : OsError) : Text × Nat :=
  match cause with
  | .notFound | .notDirectory => ("not found".toList, 127)
  | .nameTooLong | .tooManyLinks => (cause.description, 127)
  | _ => (cause.description, 126)

/-- Starts a program that a name leads to; `fuel` bounds scripts that are run by scripts. -/
def launchFound (utility? : Text → Option Utility) (interpreter : Interpreter) (arguments : List Text) :
    (fuel : Nat) → Found → Session → Except OsError Session
  | _, .system name _, session =>
    match utility? name with
    | some utility => .ok (utility interpreter arguments session)
    | none => .error .notFound
  | _, .refused cause, _ => .error cause
  | 0, .file _, _ => .error .tooManyLinks
  | fuel + 1, .file path, session => do
    match scriptRunner (← session.readFile path) with
    | [] => throw .notFound
    | runner :: front =>
      launchFound utility? interpreter (front ++ path :: arguments) fuel (session.lookUp runner) session

/-- Starts a program, which the first text names. -/
def launch? (utility? : Text → Option Utility) (interpreter : Interpreter) (words : List Text) (session : Session) :
    Except OsError Session :=
  match words with
  | [] => .ok session
  | name :: arguments => launchFound utility? interpreter arguments 4 (session.search name) session

/-- Starts a program, which the first text names, or complains that it cannot be started. -/
def launch (utility? : Text → Option Utility) (interpreter : Interpreter) (words : List Text) (session : Session) :
    Session :=
  match launch? utility? interpreter words session with
  | .ok after => after
  | .error cause =>
    let (reason, status) := launchFailure cause
    session.complainAlone (words.head?.getD [] ++ ':' :: ' ' :: reason) status

/-! ## The shell as a program -/

/-- Runs a script in a shell of its own: one that is given, one in a file, or the input. -/
def runShell : Utility := fun interpreter arguments session =>
  let refuse (complaint : Text) : Session := session.complain "sh" ("0: ".toList ++ complaint) 2
  let run (options : ShellOptions) (name : Text) (arguments : List Text) (script : Text) (session : Session) :
      Session :=
    session.spawn fun session =>
      (interpreter.interpret script { session with name, arguments, options := options.letters }).finish interpreter
  match ShellOptions.ofArguments true [] arguments with
  | .error complaint => refuse complaint
  | .ok options =>
    if options.hasScript then
      match options.rest with
      | [] => refuse "-c requires an argument".toList
      | script :: rest => run options (rest.head?.getD ['s', 'h']) rest.tail script session
    else
      match options.rest with
      | path :: rest =>
        if options.letters.contains 's' then
          let (input, session) := session.takeInput
          run options ['s', 'h'] (path :: rest) (input.toOption.getD []) session
        else
          match session.readFile path with
          | .ok script => run options path rest script session
          | .error _ => refuse ("cannot open ".toList ++ path ++ ": No such file".toList)
      | [] =>
        let (input, session) := session.takeInput
        run options ['s', 'h'] [] (input.toOption.getD []) session

end LogDiagram.Shell
