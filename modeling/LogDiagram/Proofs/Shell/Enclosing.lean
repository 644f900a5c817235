import LogDiagram.Proofs.Lists.Lookup
import LogDiagram.Shell.Run

/-!
# What a command leaves of a shell

`Session.Keeps` says what a shell finds again behind a command: its variables and functions, its arguments and options, its
working directory, where its streams lead and what it traps. Commands in shells of their own keep all of that, whatever
stands in them, and so does what is put together from such commands (`Command.Apart.keeps`). The redirections of a command
are undone behind it, whatever the command did with its streams (`Session.channelNumber?_redirected`).
-/

namespace LogDiagram.Shell

variable {session after : Session} {interpreter : Interpreter} {body : Session → Session} {fuel : Nat}

namespace Session

/-- Nothing is changed but files, what the channels hold, exit codes, commands in the background and how it goes on. -/
def Keeps (session after : Session) : Prop :=
  { session with
    tree := { after.tree with workingPlace := session.tree.workingPlace }
    channels := after.channels
    status := after.status
    outputStatus := after.outputStatus
    jobs := after.jobs
    flow := after.flow } = after

namespace Keeps

theorem refl (session : Session) : session.Keeps session := rfl

theorem trans {first second third : Session} (h : first.Keeps second) (h' : second.Keeps third) : first.Keeps third := by
  unfold Keeps at *
  rw [← h', ← h]

theorem bindings (h : session.Keeps after) : after.bindings = session.bindings := by rw [← h]

theorem functions (h : session.Keeps after) : after.functions = session.functions := by rw [← h]

theorem workingPlace (h : session.Keeps after) : after.tree.workingPlace = session.tree.workingPlace := by rw [← h]

theorem streams (h : session.Keeps after) : after.streams = session.streams := by rw [← h]

theorem signals (h : session.Keeps after) : after.signals = session.signals := by rw [← h]

theorem withStatus (h : session.Keeps after) (status : Nat) : session.Keeps (after.withStatus status) := by
  unfold Keeps at *
  rw [← h]
  rfl

theorem withFlow (h : session.Keeps after) (flow : Flow) : session.Keeps { after with flow } := by
  unfold Keeps at *
  rw [← h]

end Keeps

theorem kill_keeps (session : Session) (signal : Nat) : session.Keeps (session.kill signal) := rfl

theorem stopIfFailed_keeps (session : Session) : session.Keeps session.stopIfFailed := by
  unfold stopIfFailed
  split
  · exact .withFlow (.refl session) _
  · exact .refl session

theorem answerSignals_of_none (h : session.signals = []) (interpreter : Interpreter) :
    session.answerSignals interpreter = session := by
  rw [answerSignals, h]
  rfl

/-- A shell in a shell keeps the outer one. -/
theorem enclose_keeps (session : Session) (body : Session → Session) : session.Keeps (session.enclose body) := rfl

/-- What is printed is caught without leaving a trace in the streams. -/
theorem capture_keeps (hbody : ∀ session : Session, session.Keeps (body session)) (session : Session) :
    session.Keeps (session.capture body).2 := by
  have h := hbody (session.openStream 1 (.collected []))
  unfold Keeps at *
  show _ = (body (session.openStream 1 (.collected []))).withStreamsOf session
  rw [← h]
  rfl

/-- A command whose output stands in a word keeps the shell. -/
theorem outputOf_keeps (interpreter : Interpreter) (command : Command) (session : Session) :
    session.Keeps (Expansion.outputOf interpreter command session).2 := by
  have h : session.Keeps (session.capture fun session => session.enclose fun session =>
      (interpreter.run command { session with isTested := false }).finish interpreter).2 :=
    capture_keeps (fun session => enclose_keeps session _) session
  unfold Keeps at *
  simp only [Expansion.outputOf]
  rw [← h]

/-- Each stage of a pipeline runs in a shell of its own. -/
theorem runPipe_keeps (interpreter : Interpreter) (stages : List Command) : ∀ (input : Option Text) (session : Session),
    session.Keeps (runPipe interpreter stages input session) := by
  induction stages with
  | nil => exact fun _ session => .refl session
  | cons stage rest ih =>
    intro input session
    cases rest with
    | nil => exact enclose_keeps session _
    | cons next rest =>
      obtain ⟨inner, hpipe⟩ : ∃ inner, runPipe interpreter (stage :: next :: rest) input session =
          let printed := session.capture fun session => session.enclose inner
          if printed.2.isRunning then runPipe interpreter (next :: rest) (some printed.1) printed.2 else printed.2 :=
        ⟨_, rfl⟩
      have hstage := capture_keeps (fun session => enclose_keeps session inner) session
      rw [hpipe]
      dsimp only
      split
      · exact hstage.trans (ih _ _)
      · exact hstage

theorem runBehind_keeps (interpreter : Interpreter) (command : Command) (session : Session) :
    session.Keeps (session.runBehind interpreter command) := by
  simp only [runBehind]
  split <;> rfl

/-- Something whose failure is asked for leaves no trace of that. -/
theorem tested_keeps (hbody : ∀ session : Session, session.signals = [] → session.Keeps (body session))
    (hsignals : session.signals = []) : session.Keeps (session.tested body) := by
  have h := hbody { session with isTested := true } hsignals
  unfold Keeps tested at *
  rw [← h]

/-- One more loop around a command leaves no trace, either. -/
theorem inLoop_keeps (hbody : ∀ session : Session, session.signals = [] → session.Keeps (body session))
    (hsignals : session.signals = []) : session.Keeps (session.inLoop body) := by
  have h := hbody { session with loops := session.loops + 1 } hsignals
  unfold Keeps inLoop at *
  rw [← h]

theorem afterRound_keeps (session : Session) : session.Keeps session.afterRound.1 := by
  unfold afterRound
  split <;> rfl

end Session

/-! ## Commands in shells of their own -/

/-- A command that is put together from commands in shells of their own. -/
inductive Command.Apart : Command → Prop
  | enclosed (body : Command) : Apart (.enclosed body)
  | pipe (stages : List Command) : Apart (.pipe stages)
  | background (body : Command) : Apart (.background body)
  | sequence {first second : Command} : Apart first → Apart second → Apart (.sequence first second)
  | both {first second : Command} : Apart first → Apart second → Apart (.both first second)
  | either {first second : Command} : Apart first → Apart second → Apart (.either first second)
  | negated {body : Command} : Apart body → Apart (.negated body)
  | branch {condition yes no : Command} : Apart condition → Apart yes → Apart no → Apart (.branch condition yes no)
  | loop {condition body : Command} (untilSuccess : Bool) :
      Apart condition → Apart body → Apart (.loop untilSuccess condition body)

/-- A command keeps every shell that has no signal to answer. -/
def Command.Keeps (command : Command) : Prop :=
  ∀ (fuel : Nat) (session : Session), session.signals = [] → session.Keeps (command.run fuel session)

/-- A command keeps a shell if what it does before signals are answered does. -/
theorem Command.keeps_of_step {command : Command} (hstep : ∀ fuel {session : Session}, session.signals = [] →
    ∃ after : Session, session.Keeps after ∧
      command.run (fuel + 1) session = if !session.isRunning || session.hasOption 'n' then session
        else after.answerSignals ⟨Command.run fuel, interpretFrom fuel true, launchIn fuel⟩) : command.Keeps := by
  intro fuel session hsignals
  cases fuel with
  | zero => exact session.kill_keeps 11
  | succ fuel =>
    obtain ⟨after, hafter, hrun⟩ := hstep fuel hsignals
    rw [hrun]
    split
    · exact .refl session
    · rw [after.answerSignals_of_none (hafter.signals.trans hsignals)]
      exact hafter

namespace Command

variable {first second condition yes no command : Command}

theorem keeps_enclosed (body : Command) : (enclosed body).Keeps := by
  refine keeps_of_step fun fuel session hsignals => ⟨_, ?_, rfl⟩
  exact (Session.enclose_keeps session _).trans (Session.stopIfFailed_keeps _)

theorem keeps_pipe (stages : List Command) : (pipe stages).Keeps := by
  refine keeps_of_step fun fuel session hsignals => ⟨_, ?_, rfl⟩
  exact (Session.runPipe_keeps _ stages none session).trans (Session.stopIfFailed_keeps _)

theorem keeps_background (body : Command) : (background body).Keeps :=
  keeps_of_step fun _ session _ => ⟨_, Session.runBehind_keeps _ body session, rfl⟩

theorem Keeps.sequence (hfirst : first.Keeps) (hsecond : second.Keeps) : (sequence first second).Keeps := by
  refine keeps_of_step fun fuel session hsignals => ⟨_, ?_, rfl⟩
  have hkept := hfirst fuel session hsignals
  exact hkept.trans (hsecond fuel _ (hkept.signals.trans hsignals))

/-- Behind a command whose failure is asked for, one of two ways is taken. -/
theorem Keeps.tested_then (hfirst : first.Keeps) {fuel : Nat} (hsignals : session.signals = [])
    (next : Session → Session) (hnext : ∀ session : Session, session.signals = [] → session.Keeps (next session)) :
    session.Keeps (next (session.tested (Command.run fuel first))) := by
  have hkept := Session.tested_keeps (hfirst fuel) hsignals
  exact hkept.trans (hnext _ (hkept.signals.trans hsignals))

theorem Keeps.both (hfirst : first.Keeps) (hsecond : second.Keeps) : (both first second).Keeps := by
  refine keeps_of_step fun fuel session hsignals => ⟨_, hfirst.tested_then hsignals (fun session =>
    if session.isRunning && session.status == 0 then Command.run fuel second session else session) ?_, rfl⟩
  intro session hsignals
  split
  · exact hsecond fuel session hsignals
  · exact .refl session

theorem Keeps.either (hfirst : first.Keeps) (hsecond : second.Keeps) : (either first second).Keeps := by
  refine keeps_of_step fun fuel session hsignals => ⟨_, hfirst.tested_then hsignals (fun session =>
    if session.isRunning && session.status != 0 then Command.run fuel second session else session) ?_, rfl⟩
  intro session hsignals
  split
  · exact hsecond fuel session hsignals
  · exact .refl session

theorem Keeps.negated (hcommand : command.Keeps) : (negated command).Keeps := by
  refine keeps_of_step fun fuel session hsignals => ⟨_, hcommand.tested_then hsignals (fun session =>
    if session.isRunning then session.withStatus (if session.status = 0 then 1 else 0) else session) ?_, rfl⟩
  intro session hsignals
  split
  · exact .withStatus (.refl session) _
  · exact .refl session

theorem Keeps.branch (hcondition : condition.Keeps) (hyes : yes.Keeps) (hno : no.Keeps) :
    (branch condition yes no).Keeps := by
  refine keeps_of_step fun fuel session hsignals => ⟨_, hcondition.tested_then hsignals (fun session =>
    if !session.isRunning then session
    else if session.status = 0 then Command.run fuel yes session
    else Command.run fuel no (session.withStatus 0)) ?_, rfl⟩
  intro session hsignals
  split
  · exact .refl session
  · split
    · exact hyes fuel session hsignals
    · exact (Session.Keeps.withStatus (.refl session) 0).trans (hno fuel _ hsignals)

/-- What one round of a loop keeps, all its rounds keep. -/
theorem runLoop_keeps (hcondition : condition.Keeps) (hbody : command.Keeps) (untilSuccess : Bool) :
    ∀ (fuel status : Nat) (session : Session), session.signals = [] →
      session.Keeps (runLoop fuel untilSuccess condition command status session)
  | 0, _, session, _ => session.kill_keeps 11
  | fuel + 1, status, session, hsignals => by
    have htested := Session.tested_keeps (hcondition fuel) hsignals
    have hround := htested.trans (Session.afterRound_keeps _)
    rw [runLoop]
    rcases hafter : (session.tested (Command.run fuel condition)).afterRound with ⟨after, goesOn⟩
    rw [hafter] at hround
    have hnone : after.signals = [] := hround.signals.trans hsignals
    cases (session.tested (Command.run fuel condition)).isRunning with
    | false =>
      cases goesOn with
      | true => exact hround.trans (runLoop_keeps hcondition hbody untilSuccess fuel status after hnone)
      | false =>
        dsimp only
        split
        · exact hround.withStatus status
        · exact hround
    | true =>
      dsimp only
      split
      · exact hround.withStatus status
      · have hnext := hround.trans ((hbody fuel after hnone).trans (Session.afterRound_keeps _))
        rcases hlast : (Command.run fuel command after).afterRound with ⟨last, goesOn⟩
        rw [hlast] at hnext
        cases goesOn with
        | true =>
          have hnone : last.signals = [] := hnext.signals.trans hsignals
          exact hnext.trans (runLoop_keeps hcondition hbody untilSuccess fuel last.status last hnone)
        | false => exact hnext

theorem Keeps.loop (hcondition : condition.Keeps) (hbody : command.Keeps) (untilSuccess : Bool) :
    (loop untilSuccess condition command).Keeps :=
  keeps_of_step fun fuel _ hsignals => ⟨_, Session.inLoop_keeps (fun session hsignals =>
    runLoop_keeps hcondition hbody untilSuccess fuel 0 session hsignals) hsignals, rfl⟩

/-- **Commands that are put together from commands in shells of their own keep the shell.** -/
theorem Apart.keeps (h : command.Apart) : command.Keeps := by
  induction h with
  | enclosed body => exact keeps_enclosed body
  | pipe stages => exact keeps_pipe stages
  | background body => exact keeps_background body
  | sequence _ _ ihFirst ihSecond => exact ihFirst.sequence ihSecond
  | both _ _ ihFirst ihSecond => exact ihFirst.both ihSecond
  | either _ _ ihFirst ihSecond => exact ihFirst.either ihSecond
  | negated _ ih => exact ih.negated
  | branch _ _ _ ihCondition ihYes ihNo => exact ihCondition.branch ihYes ihNo
  | loop untilSuccess _ _ ihCondition ihBody => exact ihCondition.loop ihBody untilSuccess

end Command

/-! ## Streams of a command -/

namespace Session

theorem channelNumber?_connect (session : Session) (stream number other : Nat) :
    (session.connect stream number).channelNumber? other =
      if other = stream then some number else session.channelNumber? other := by
  unfold connect channelNumber?
  by_cases h : other = stream
  · simp [h]
  · rw [if_neg h, List.lookup_cons, beq_eq_false_iff_ne.mpr h]
    exact lookup_filter_ne session.streams h

theorem channelNumber?_close (session : Session) (stream other : Nat) :
    (session.close stream).channelNumber? other = if other = stream then none else session.channelNumber? other := by
  unfold close channelNumber?
  by_cases h : other = stream
  · rw [if_pos h, h]
    exact lookup_filter_ne_self session.streams
  · rw [if_neg h]
    exact lookup_filter_ne session.streams h

theorem channelNumber?_restoreStream (outer session : Session) (stream other : Nat) :
    (restoreStream outer session stream).channelNumber? other =
      if other = stream then outer.channelNumber? other else session.channelNumber? other := by
  unfold restoreStream
  cases hstream : outer.channelNumber? stream with
  | none =>
    rw [channelNumber?_close]
    split
    · rename_i h
      rw [h, hstream]
    · rfl
  | some number =>
    rw [channelNumber?_connect]
    split
    · rename_i h
      rw [h, hstream]
    · rfl

/-- The streams with the given numbers lead where they lead in the other session, and all others where they did. -/
theorem channelNumber?_restoreStreams (session outer : Session) (streams : List Nat) (stream : Nat) :
    (session.restoreStreams outer streams).channelNumber? stream =
      if stream ∈ streams then outer.channelNumber? stream else session.channelNumber? stream := by
  show (streams.foldl (restoreStream outer) session).channelNumber? stream = _
  induction streams generalizing session with
  | nil => simp
  | cons first rest ih =>
    rw [List.foldl_cons, ih, channelNumber?_restoreStream]
    by_cases hrest : stream ∈ rest <;> by_cases hfirst : stream = first <;> simp [hrest, hfirst]

/-- **The redirections of a command are undone behind it, whatever the command did and whether they could be followed.** -/
theorem channelNumber?_redirected {redirections : List Redirection} {r : Redirection} (hr : r ∈ redirections)
    (h : session.redirected interpreter redirections body = .ok after ∨
      session.redirected interpreter redirections body = .error after) :
    after.channelNumber? r.stream = session.channelNumber? r.stream := by
  have hne : redirections.isEmpty = false := by
    cases redirections with
    | nil => cases hr
    | cons _ _ => rfl
  obtain ⟨inner, rfl⟩ : ∃ inner : Session, after = inner.restoreStreams session (redirections.map (·.stream)) := by
    unfold redirected at h
    rw [hne] at h
    dsimp only at h
    cases hredirect : redirections.foldlM (redirect interpreter) session with
    | ok inner =>
      exact ⟨body inner, by simpa [hredirect, eq_comm] using h⟩
    | error failed =>
      exact ⟨failed, by simpa [hredirect, eq_comm] using h⟩
  rw [channelNumber?_restoreStreams, if_pos (List.mem_map_of_mem hr)]

end Session

end LogDiagram.Shell
