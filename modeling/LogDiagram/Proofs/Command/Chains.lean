import LogDiagram.Command.Machine

/-!
# Chains of commands

Commands run one after the other, each over the tree that the one before leaves. The first one that does not exit with
zero ends the chain.

* `Fails`: a command that cannot be started, exits with another code, or is ended by a signal, and what is said of it;
* `Machine.AllSucceed`: commands that all exit with zero, with the tree and the printed bytes they leave together;
* `Machine.Runs`: what a chain leaves, told by its commands up to the first one that fails;
* `Machine.runAll_eq_iff`: chains leave exactly this.
-/

namespace LogDiagram

variable {machine : Machine} {label line : Text} {lines before after : List Text} {tree next last left : FileTree}
  {printed out more : Bytes} {answer : Except OsError CommandRun} {error : CommandError} {run : ChainRun Nat} {count : Nat}

/-! ## One command -/

/-- What is left by a command that fails, and what is said of it. One that cannot be started leaves the tree as it was. -/
inductive Fails (label : Text) (tree : FileTree) :
    Except OsError CommandRun → (left : FileTree) → (printed : Bytes) → CommandError → Prop
  | start (cause : OsError) : Fails label tree (.error cause) tree [] (.start label cause)
  | exited (left : FileTree) (code : Nat) (printed : Bytes) :
    code ≠ 0 → Fails label tree (.ok ⟨left, .exited code, printed⟩) left printed (.failed label (some code))
  | killed (left : FileTree) (printed : Bytes) :
    Fails label tree (.ok ⟨left, .killed, printed⟩) left printed (.failed label none)

/-- A command exits with zero or fails. -/
theorem succeeds_or_fails (label : Text) (tree : FileTree) (answer : Except OsError CommandRun) :
    (∃ next printed, answer = .ok ⟨next, .exited 0, printed⟩) ∨
      ∃ left printed error, Fails label tree answer left printed error := by
  rcases answer with cause | ⟨left, code | _, printed⟩
  · exact .inr ⟨_, _, _, .start cause⟩
  · cases code with
    | zero => exact .inl ⟨left, printed, rfl⟩
    | succ code => exact .inr ⟨_, _, _, .exited left _ printed (Nat.succ_ne_zero code)⟩
  · exact .inr ⟨_, _, _, .killed left printed⟩

theorem Fails.finished_eq (h : Fails label tree answer left printed error) :
    finished label tree answer = ⟨left, printed, .error error⟩ := by
  cases h with
  | start cause => rfl
  | exited _ code _ hcode =>
    cases code with
    | zero => exact absurd rfl hcode
    | succ code => rfl
  | killed => rfl

namespace Machine

/-! ## Chains -/

/-- Each command exits with zero over the tree that the one before leaves. -/
inductive AllSucceed (machine : Machine) : List Text → FileTree → (last : FileTree) → (printed : Bytes) → Prop
  | nil (tree : FileTree) : AllSucceed machine [] tree tree []
  | cons {line : Text} {lines : List Text} {tree next last : FileTree} {printed more : Bytes} :
    machine.shell line tree = .ok ⟨next, .exited 0, printed⟩ → AllSucceed machine lines next last more →
      AllSucceed machine (line :: lines) tree last (printed ++ more)

/--
What a chain leaves. All its commands exit with zero, and are counted; or the commands before one of them do, it fails, and
nothing comes of those after it.
-/
inductive Runs (machine : Machine) (lines : List Text) (tree : FileTree) : ChainRun Nat → Prop
  | all {last : FileTree} {printed : Bytes} :
    machine.AllSucceed lines tree last printed → Runs machine lines tree ⟨last, printed, .ok lines.length⟩
  | stopped {before after : List Text} {line : Text} {last left : FileTree} {printed more : Bytes} {error : CommandError} :
    lines = before ++ line :: after → machine.AllSucceed before tree last printed →
      Fails line last (machine.shell line last) left more error →
        Runs machine lines tree ⟨left, printed ++ more, .error error⟩

/-- Commands that all exit with zero are run, and the chain goes on behind them. -/
theorem runFrom_append (h : machine.AllSucceed before tree last printed) :
    machine.runFrom tree out count (before ++ after) =
      machine.runFrom last (out ++ printed) (count + before.length) after := by
  induction h generalizing out count with
  | nil tree => rw [List.nil_append, List.append_nil, List.length_nil, Nat.add_zero]
  | cons hline _ ih =>
    rw [List.cons_append, runFrom, Machine.run, hline]
    simp only [finished]
    rw [ih, List.append_assoc, List.length_cons, Nat.add_assoc, Nat.add_comm 1]

/-- A command that fails ends the chain. -/
theorem runFrom_of_fails (h : Fails line tree (machine.shell line tree) left more error) :
    machine.runFrom tree out count (line :: after) = ⟨left, out ++ more, .error error⟩ := by
  simp only [runFrom, Machine.run, h.finished_eq]

theorem Runs.runAll_eq (h : machine.Runs lines tree run) : machine.runAll lines tree = run := by
  cases h with
  | @all last printed hall =>
    have hrun : machine.runFrom tree [] 0 (lines ++ []) = machine.runFrom last ([] ++ printed) (0 + lines.length) [] :=
      runFrom_append hall
    rw [List.append_nil, List.nil_append, Nat.zero_add] at hrun
    exact hrun
  | stopped hlines hbefore hfails => rw [runAll, hlines, runFrom_append hbefore, runFrom_of_fails hfails, List.nil_append]

/-- A command that exits with zero goes before the chain behind it. -/
theorem Runs.cons (hline : machine.shell line tree = .ok ⟨next, .exited 0, printed⟩) (h : machine.Runs lines next run) :
    ∃ run', machine.Runs (line :: lines) tree run' := by
  cases h with
  | all hall => exact ⟨_, .all (.cons hline hall)⟩
  | stopped hlines hbefore hfails => exact ⟨_, .stopped (by rw [hlines, List.cons_append]) (.cons hline hbefore) hfails⟩

theorem exists_runs (machine : Machine) (lines : List Text) (tree : FileTree) : ∃ run, machine.Runs lines tree run := by
  induction lines generalizing tree with
  | nil => exact ⟨_, .all (.nil tree)⟩
  | cons line lines ih =>
    rcases succeeds_or_fails line tree (machine.shell line tree) with ⟨next, printed, hline⟩ | ⟨left, printed, error, hfails⟩
    · obtain ⟨run, hrun⟩ := ih next
      exact hrun.cons hline
    · exact ⟨_, .stopped (List.nil_append (line :: lines)).symm (.nil tree) hfails⟩

/-- A chain runs its commands up to the first one that fails. -/
theorem runAll_eq_iff : machine.runAll lines tree = run ↔ machine.Runs lines tree run := by
  constructor
  · rintro rfl
    obtain ⟨run, hrun⟩ := machine.exists_runs lines tree
    rw [hrun.runAll_eq]
    exact hrun
  · exact Runs.runAll_eq

/-- A chain that tells a number tells that of all its commands, and they all exit with zero. -/
theorem result_runAll_eq_ok_iff :
    (machine.runAll lines tree).result = .ok count ↔
      count = lines.length ∧ ∃ last printed, machine.AllSucceed lines tree last printed := by
  constructor
  · intro h
    have hruns := runAll_eq_iff.1 (Eq.refl (machine.runAll lines tree))
    generalize machine.runAll lines tree = run at h hruns
    cases hruns with
    | all hall => exact ⟨(Except.ok.inj h).symm, _, _, hall⟩
    | stopped => cases h
  · rintro ⟨rfl, last, printed, hall⟩
    rw [(Runs.all hall).runAll_eq]

end Machine

end LogDiagram
