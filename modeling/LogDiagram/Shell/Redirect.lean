import LogDiagram.Shell.Arguments
import LogDiagram.Shell.Expansion

/-!
# Redirections

A redirection leads a stream of a command to a file, to where another stream leads, or to a text in the script.

* `Session.redirect` follows one redirection;
* `Session.redirected` runs something with redirections, which are undone afterwards.
-/

namespace LogDiagram.Shell.Session

/-- Why a file cannot be opened. -/
def reasonOf (cause : OsError) (whatIsMissing : String) : Text :=
  match cause with
  | .notFound | .notDirectory => whatIsMissing.toList
  | _ => cause.description

/-- One redirection; a session that cannot follow it is the error. -/
def redirect (interpreter : Interpreter) (session : Session) (r : Redirection) : Except Session Session :=
  let (target, session) := session.text interpreter r.target
  let refuse (act : String) (reason : Text) : Except Session Session :=
    .error (session.complainAlone (act.toList ++ target ++ ':' :: ' ' :: reason) 2)
  let output (isAppending : Bool) : Except Session Session :=
    match session.openOutput r.stream target isAppending with
    | .ok session => .ok session
    | .error cause => refuse "cannot create " (reasonOf cause "Directory nonexistent")
  if !session.isRunning then .error session
  else
    match r.kind with
    | .document => .ok (session.openStream r.stream (.source target true))
    | .input =>
      match (streamOfPath? target).bind session.channelNumber? with
      | some number => .ok (session.connect r.stream number)
      | none =>
        match session.inputChannel target with
        | .ok channel => .ok (session.openStream r.stream channel)
        | .error cause => refuse "cannot open " (reasonOf cause "No such file")
    | .output isForced =>
      match session.hasOption 'C' && !isForced, session.find target with
      | true, .ok (.file _) => refuse "cannot create " "File exists".toList
      | _, _ => output false
    | .append => output true
    | .inputOutput =>
      match session.outputPlace target false with
      | .ok (some place, session) => .ok (session.openStream r.stream (.file place 0 false))
      | .ok (none, session) => .ok (session.openStream r.stream .nowhere)
      | .error cause => refuse "cannot create " (reasonOf cause "Directory nonexistent")
    | .duplicate =>
      if target = ['-'] then .ok (session.close r.stream)
      else
        match digitsValue? target with
        | none => .error (session.fail "Syntax error: Bad fd number".toList)
        | some stream =>
          match session.channelNumber? stream with
          | some number => .ok (session.connect r.stream number)
          | none => refuse "" "Bad file descriptor".toList

/-- A stream leads where it leads in another session. -/
def restoreStream (outer session : Session) (stream : Nat) : Session :=
  match outer.channelNumber? stream with
  | some number => session.connect stream number
  | none => session.close stream

/-- Some streams are as in another session; the channels that no stream leads to are forgotten if they are new. -/
def restoreStreams (session outer : Session) (streams : List Nat) : Session :=
  let session := streams.foldl (restoreStream outer) session
  let isUsed (number : Nat) : Bool :=
    (outer.channels.any fun entry => entry.1 == number) || session.streams.any fun entry => entry.2 == number
  { session with channels := session.channels.filter fun entry => isUsed entry.1 }

/-- A session with redirections in it, which are undone afterwards; a failure is the error. -/
def redirected (interpreter : Interpreter) (session : Session) (redirections : List Redirection)
    (body : Session → Session) : Except Session Session :=
  if redirections.isEmpty then .ok (body session)
  else
    let streams := redirections.map (·.stream)
    match redirections.foldlM (redirect interpreter) session with
    | .ok inner => .ok ((body inner).restoreStreams session streams)
    | .error failed => .error (failed.restoreStreams session streams)

end LogDiagram.Shell.Session
