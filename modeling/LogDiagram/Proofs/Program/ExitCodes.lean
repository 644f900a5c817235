import LogDiagram.Program
import LogDiagram.Proofs.Command.Chains
import LogDiagram.Proofs.Job.Steps

/-!
# Exit codes

The program passes on how the commands of its job ended. It exits with zero for jobs that succeed, and for no others.

* `Failure.exitByte_pos_and_lt`: no failure exits with zero;
* `exitByte_of_fails`: a command that fails decides the exit code;
* `Job.Executes`: what comes of the commands of a job, and of the picture, which is drawn after all of them succeeded
  (`Job.executes_execute`);
* `Program.exitByte_of_commands`: what the program exits with, from its commands on.
-/

namespace LogDiagram

variable {machine : Machine} {faults : Faults} {tree written left : FileTree} {label : Text} {printed : Bytes}
  {answer : Except OsError CommandRun} {error : CommandError}

/-! ## Failures -/

/-- A failure is seen as one byte that is not that of success. -/
theorem Failure.exitByte_pos_and_lt (failure : Failure) : 0 < failure.exitByte ∧ failure.exitByte < 256 := by
  rw [exitByte]
  split <;> omega

/-- The exit code of a program that passes on how a command ended: its code if that is a byte. -/
def exitByteAfter : Except OsError CommandRun → Nat
  | .ok ⟨_, .exited code, _⟩ => if code < 256 then code else 1
  | .ok ⟨_, .killed, _⟩ => 1
  | .error _ => 1

theorem exitByte_of_fails (h : Fails label tree answer left printed error) :
    (Failure.command error).exitByte = exitByteAfter answer := by
  cases h with
  | start cause => rfl
  | killed => rfl
  | exited _ code _ hcode =>
    rw [exitByteAfter, Failure.exitByte, Failure.exitCode, Int.toNat_natCast]
    exact if_congr (by omega) rfl rfl

namespace Job

variable {job : Job} {draft : Draft}

/-! ## The commands of a job -/

/-- The command lines of a job. -/
def Draft.commands (draft : Draft) : List Text := draft.plan.config.execute.map draft.plan.parts.expand

/-- What the program that draws the picture of a job is told. -/
def Draft.pictureArguments (draft : Draft) (jar : Path) : List Text :=
  Machine.pictureArguments jar draft.plan.documentFile draft.product.document.lines.length

/--
What comes of the commands of a job. One of them fails, and is what the job reports; or they all exit with zero, and only
then the picture is drawn, if a program for it is known.
-/
inductive Executes (job : Job) (machine : Machine) (draft : Draft) (written : FileTree) : JobRun → Prop
  | stopped {before after : List Text} {line : Text} {last left : FileTree} {printed more : Bytes} {error : CommandError} :
    draft.commands = before ++ line :: after → machine.AllSucceed before written last printed →
      Fails line last (machine.shell line last) left more error →
        Executes job machine draft written ⟨left, printed ++ more, .error (.command error)⟩
  | withoutPicture {last : FileTree} {printed : Bytes} :
    machine.AllSucceed draft.commands written last printed → job.plantumlJar = none →
      Executes job machine draft written ⟨last, printed, .ok (summary draft draft.commands.length false)⟩
  | drawn {jar : Path} {last left : FileTree} {printed more : Bytes} :
    machine.AllSucceed draft.commands written last printed → job.plantumlJar = some jar →
      machine.launch job.java (draft.pictureArguments jar) last = .ok ⟨left, .exited 0, more⟩ →
        Executes job machine draft written ⟨left, printed ++ more, .ok (summary draft draft.commands.length true)⟩
  | notDrawn {jar : Path} {last left : FileTree} {printed more : Bytes} {error : CommandError} :
    machine.AllSucceed draft.commands written last printed → job.plantumlJar = some jar →
      Fails (Text.joined [' '] (job.java :: draft.pictureArguments jar)) last
        (machine.launch job.java (draft.pictureArguments jar) last) left more error →
          Executes job machine draft written ⟨left, printed ++ more, .error (.command error)⟩

/-- What is left by a picture that is drawn after the commands. -/
theorem executes_of_allSucceed {last : FileTree} (hall : machine.AllSucceed draft.commands written last printed) :
    job.Executes machine draft written (job.execute machine draft written) := by
  have hrun := (Machine.Runs.all hall).runAll_eq
  rw [Draft.commands] at hrun
  cases hjar : job.plantumlJar with
  | none =>
    have hexecute : job.execute machine draft written =
        ⟨last, printed ++ [], .ok (summary draft draft.commands.length false)⟩ := by
      simp only [execute, hrun, drawPicture, hjar]
      rfl
    rw [hexecute, List.append_nil]
    exact .withoutPicture hall hjar
  | some jar =>
    have hpicture : job.drawPicture machine draft last =
        let run := finished (Text.joined [' '] (job.java :: draft.pictureArguments jar)) last
          (machine.launch job.java (draft.pictureArguments jar) last)
        ⟨run.tree, run.printed, run.result.map fun _ => true⟩ := by
      simp only [drawPicture, hjar]
      rfl
    rcases succeeds_or_fails (Text.joined [' '] (job.java :: draft.pictureArguments jar)) last
        (machine.launch job.java (draft.pictureArguments jar) last) with
      ⟨left, more, hlaunch⟩ | ⟨left, more, error, hfails⟩
    · rw [hlaunch] at hpicture
      simp only [execute, hrun, hpicture, finished, Except.map]
      exact .drawn hall hjar hlaunch
    · rw [hfails.finished_eq] at hpicture
      simp only [execute, hrun, hpicture, Except.map]
      exact .notDrawn hall hjar hfails

theorem executes_execute (job : Job) (machine : Machine) (draft : Draft) (written : FileTree) :
    job.Executes machine draft written (job.execute machine draft written) := by
  have hruns := Machine.runAll_eq_iff.1 (Eq.refl (machine.runAll draft.commands written))
  generalize hrun : machine.runAll draft.commands written = run at hruns
  cases hruns with
  | all hall => exact executes_of_allSucceed hall
  | stopped hcommands hbefore hfails =>
    rw [Draft.commands] at hrun
    simp only [execute, hrun]
    exact .stopped hcommands hbefore hfails

/-- Once its files are written, a job with commands does what they do. -/
theorem executes_run (hwrite : job.write faults tree = (written, .ok draft)) (hno : job.noExecute = false) :
    job.Executes machine draft written (job.run machine faults tree) := by
  have hrun : job.run machine faults tree = job.execute machine draft written := by
    simp only [run, hwrite, hno, Bool.false_eq_true, if_false]
  rw [hrun]
  exact executes_execute job machine draft written

end Job

namespace Program

open CommandLine (Options Request)

variable {environment : Environment} {arguments : List Text} {options : Options} {settings : Settings}
  {warnings : List Text}

/-! ## The program -/

/-- The program ends as the job that it is asked for. -/
theorem run_of_draw (hrequest : Request.ofArguments arguments = .ok (.draw options))
    (hsettings : Settings.load tree (options.settings.getD (defaultSettingsFile environment)) options.settings.isSome =
      .ok (settings, warnings)) :
    let run := (jobOf options settings).run environment.machine .none (openLog settings tree)
    let ended := Program.run environment arguments tree
    ended.tree = run.tree ∧
      ended.outcome = match run.result with
        | .ok _ => .done
        | .error failure => .failed failure := by
  intro run ended
  have hended : ended = draw environment options tree := by
    simp only [ended, Program.run, hrequest]
  rw [hended, draw]
  simp only [hsettings]
  cases run.result with
  | ok summary => simp only [run, and_self]
  | error failure => simp only [run, and_self]

/--
Commands run in order up to the first one that does not exit with zero, whatever the machine makes of them; their number
is told exactly if they all exit with zero. A job reports the first command that fails, and draws its picture after all
of them succeeded. The program exits with the code of the command that failed, or with one if a signal ended it; no
failure exits with zero, and a job that succeeds does.
-/
theorem exitByte_of_commands (environment : Environment) (arguments : List Text) (tree : FileTree) :
    (∀ lines start run, environment.machine.runAll lines start = run ↔ environment.machine.Runs lines start run) ∧
      (∀ lines start count, (environment.machine.runAll lines start).result = .ok count ↔
        count = lines.length ∧ ∃ last printed, environment.machine.AllSucceed lines start last printed) ∧
      (∀ (job : Job) (faults : Faults) (start written : FileTree) (draft : Job.Draft),
        job.write faults start = (written, .ok draft) → job.noExecute = false →
          job.Executes environment.machine draft written (job.run environment.machine faults start)) ∧
      (∀ label start answer left printed error, Fails label start answer left printed error →
        (Failure.command error).exitByte = exitByteAfter answer) ∧
      (∀ failure : Failure, 0 < failure.exitByte ∧ failure.exitByte < 256) ∧
      ∀ options settings warnings, Request.ofArguments arguments = .ok (.draw options) →
        Settings.load tree (options.settings.getD (defaultSettingsFile environment)) options.settings.isSome =
          .ok (settings, warnings) →
        let run := (jobOf options settings).run environment.machine .none (openLog settings tree)
        let ended := Program.run environment arguments tree
        ended.tree = run.tree ∧
          (∀ summary, run.result = .ok summary → ended.outcome.exitByte = 0) ∧
          ∀ failure, run.result = .error failure →
            ended.outcome = .failed failure ∧ ended.outcome.exitByte = failure.exitByte := by
  refine ⟨fun lines start run => Machine.runAll_eq_iff, fun lines start count => Machine.result_runAll_eq_ok_iff,
    fun job faults start written draft hwrite hno => Job.executes_run hwrite hno,
    fun label start answer left printed error hfails => exitByte_of_fails hfails, Failure.exitByte_pos_and_lt,
    fun options settings warnings hrequest hsettings => ?_⟩
  obtain ⟨htree, houtcome⟩ := run_of_draw hrequest hsettings
  refine ⟨htree, fun summary hresult => ?_, fun failure hresult => ?_⟩
  · rw [houtcome, hresult]
    rfl
  · rw [houtcome, hresult]
    exact ⟨rfl, rfl⟩

/-- The second of three commands exits with three: so does the program, and the third one does not run. -/
theorem exitByte_of_commands_exits_with_three :
    let config := ["\x7b\"translations\":[", "\x7b\"patterns\":[\"h\"],", "\"print\":\"P\"\x7d],",
      "\"translation_file\":\"o\",", "\"execute\":[\"m\",\"f\",\"n\"]", "\x7d"]
    let tree := Job.smallTree ["h"] config
    let shell := fun (line : Text) (tree : FileTree) =>
      if line = ['f'] then .ok ⟨tree, .exited 3, []⟩ else .ok ⟨tree.set [line] (.file []), .exited 0, []⟩
    let environment : Environment := ⟨['s'], { Job.idle with shell }⟩
    let arguments := ["-f", "x", "-c", "c"].map String.toList
    let options : Options := ⟨['x'], some ['c'], none, ⟨[], []⟩, none, false⟩
    let ended := Program.run environment arguments tree
    Request.ofArguments arguments = .ok (.draw options) ∧
      Settings.load tree (defaultSettingsFile environment) false = .ok (.default, []) ∧
      (∃ written draft, (jobOf options .default).write .none tree = (written, .ok draft) ∧
        (jobOf options .default).noExecute = false ∧
        (jobOf options .default).Executes environment.machine draft written
          ((jobOf options .default).run environment.machine .none tree)) ∧
      Fails ['f'] tree (shell ['f'] tree) tree [] (.failed ['f'] (some 3)) ∧ ended.outcome.exitByte = 3 ∧
      ended.tree.node ['m'] = .ok (.file []) ∧ ended.tree.node ['n'] = .error .notFound := by
  intro config tree shell environment arguments options ended
  have hrequest : Request.ofArguments arguments = .ok (.draw options) := by decide +kernel
  have hsettings : Settings.load tree (defaultSettingsFile environment) false = .ok (.default, []) := by decide +kernel
  have hfails : Fails ['f'] tree (shell ['f'] tree) tree [] (.failed ['f'] (some 3)) := .exited tree 3 [] (by decide)
  have hresult : ((jobOf options .default).run environment.machine .none tree).result =
      .error (.command (.failed ['f'] (some 3))) := by
    decide +kernel
  obtain ⟨-, -, hexecutes, hcode, -, hended⟩ := exitByte_of_commands environment arguments tree
  obtain ⟨-, -, hfailed⟩ := hended options .default [] hrequest hsettings
  refine ⟨hrequest, hsettings, ?_, hfails, ?_, by decide +kernel, by decide +kernel⟩
  · have hwritten : ((jobOf options .default).write .none tree).2.toOption.isSome := by decide +kernel
    obtain ⟨draft, hdraft⟩ := exists_eq_ok_of_isSome hwritten
    cases hwrite : (jobOf options .default).write .none tree with
    | mk written result =>
      rw [hwrite] at hdraft
      obtain rfl := hdraft
      exact ⟨written, draft, rfl, rfl, hexecutes _ _ _ _ _ hwrite rfl⟩
  · rw [(hfailed _ hresult).2, hcode _ _ _ _ _ _ hfails]
    rfl

end Program

end LogDiagram
