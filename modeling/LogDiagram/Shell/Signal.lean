import LogDiagram.Shell.Session

/-!
# Signals

What can be sent to a process, and what a shell does when something comes. A shell may trap a signal: it runs commands
instead of ending.

* `Session.receive` is a session to which a signal was sent;
* `Session.answerSignals` runs the commands for the signals that came, and `Session.finish` those for the end.
-/

namespace LogDiagram.Shell

/-- The signals that end a process, with their numbers. -/
def deadlySignals : List (String × Nat) :=
  [("HUP", 1), ("INT", 2), ("QUIT", 3), ("ILL", 4), ("TRAP", 5), ("ABRT", 6), ("BUS", 7), ("FPE", 8), ("KILL", 9),
    ("USR1", 10), ("SEGV", 11), ("USR2", 12), ("PIPE", 13), ("ALRM", 14), ("TERM", 15), ("STKFLT", 16), ("XCPU", 24),
    ("XFSZ", 25), ("VTALRM", 26), ("PROF", 27), ("POLL", 29), ("PWR", 30), ("SYS", 31)]

/-- The signals that do not end a process, with their numbers. -/
def harmlessSignals : List (String × Nat) :=
  [("CHLD", 17), ("CONT", 18), ("STOP", 19), ("TSTP", 20), ("TTIN", 21), ("TTOU", 22), ("URG", 23), ("WINCH", 28)]

def signals : List (String × Nat) := deadlySignals ++ harmlessSignals

def endName : Text := "EXIT".toList

/-- The signal that a name or a number stands for. -/
def signal? (t : Text) : Option (Text × Nat) :=
  let name := t.map Char.toUpper
  let name := (Text.afterPrefix? "SIG".toList name).getD name
  (signals.find? fun (known, n) => known.toList == name || Text.ofNat n == t).map fun (known, n) => (known.toList, n)

/-- The name under which something is trapped. -/
def trapName? (t : Text) : Option Text :=
  if t = ['0'] ∨ t = endName then some endName else (signal? t).map (·.1)

namespace Session

def trap? (session : Session) (name : Text) : Option Text := session.traps.lookup name

def receive (session : Session) (name : Text) (number : Nat) : Session :=
  let isMortal := deadlySignals.any fun entry => entry.2 == number
  match if number = 9 then none else session.trap? name with
  | some [] => session
  | some _ => { session with signals := session.signals ++ [name] }
  | none => if isMortal then { session with flow := .killed number } else session

/-- Commands run in between: the last exit code is as before. -/
def interrupt (session : Session) (interpreter : Interpreter) (commands : Text) : Session :=
  let after := interpreter.interpret commands session
  if after.isRunning then after.withStatus session.status else after

/-- The commands for the signals that came are run. -/
def answerSignals (session : Session) (interpreter : Interpreter) : Session :=
  if session.signals.isEmpty || !session.isRunning then session
  else
    session.signals.foldl (fun session name =>
      if session.isRunning then session.interrupt interpreter ((session.trap? name).getD []) else session)
      { session with signals := [] }

/-- The commands for the end are run, and the session is over. -/
def finish (session : Session) (interpreter : Interpreter) : Session :=
  match session.flow with
  | .killed _ => session
  | _ =>
    let session := { session with flow := .running, isTested := false }
    match session.trap? endName with
    | none | some [] => { session with flow := .exited }
    | some commands =>
      let traps := session.traps.filter fun entry => entry.1 != endName
      let after := { session with traps }.interrupt interpreter commands
      if after.isOver then after else { after with flow := .exited }

end Session

end LogDiagram.Shell
