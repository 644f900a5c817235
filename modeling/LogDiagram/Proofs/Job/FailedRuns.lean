import LogDiagram.Proofs.Job.Reruns
import LogDiagram.Proofs.Storage.Failing

/-!
# Jobs that fail

A job fails at its plan, at one of the steps that write its files, or at a command. What it leaves depends on the step.

* `FailsAt`: a job fails at a step, all steps before it succeed (`run_eq_error`);
* `Left`: what a job that fails before its document may change at a place (`left_of_failsAt`): it leaves directories on
  the way of the copy and the whole copy, and takes away what stood beside the log;
* `failed_run`: a job that fails, step by step. Where the way of the copy turns back, directories may be made at the place
  of the document, and a copy that was there before may be replaced (`failed_run_replaces_copy`).
-/

namespace LogDiagram.Job

variable {job : Job} {machine : Machine} {faults : Faults} {tree tree' : FileTree} {plan : Plan} {failure : Failure}
  {place : Place}

/-! ## Where a job fails -/

/-- The steps of a job before its commands. -/
inductive Stage where
  | plan
  | keepCopy
  | readLog
  | replaceLog
  | writeDocument
  deriving DecidableEq, Repr

/-- A job fails at a step, and leaves a tree. -/
inductive FailsAt (job : Job) (faults : Faults) (tree : FileTree) : Stage → FileTree → Failure → Prop
  | plan {error : ConfigError} : job.plan tree = .error error → FailsAt job faults tree .plan tree (.config error)
  | keepCopy {plan : Plan} {left : FileTree} {error : OutputError} : job.plan tree = .ok plan →
    job.keepCopy faults plan tree = (left, some error) → FailsAt job faults tree .keepCopy left (.output error)
  | readLog {plan : Plan} {kept : FileTree} {cause : OsError} : job.plan tree = .ok plan →
    job.keepCopy faults plan tree = (kept, none) → Job.readLog kept job.log = .error cause →
    FailsAt job faults tree .readLog kept (.log job.log "read log".toList cause)
  | replaceLog {plan : Plan} {kept left : FileTree} {log : List Text} {error : OutputError} :
    job.plan tree = .ok plan → job.keepCopy faults plan tree = (kept, none) → Job.readLog kept job.log = .ok log →
    job.replaceLog faults plan (plan.config.product plan.rules log).trimmed kept = (left, some error) →
    FailsAt job faults tree .replaceLog left (.output error)
  | writeDocument {plan : Plan} {kept replaced left : FileTree} {log : List Text} {error : OutputError} :
    job.plan tree = .ok plan → job.keepCopy faults plan tree = (kept, none) → Job.readLog kept job.log = .ok log →
    job.replaceLog faults plan (plan.config.product plan.rules log).trimmed kept = (replaced, none) →
    replaced.writeOutput faults plan.documentFile
      (Bytes.ofText (plan.config.product plan.rules log).document.text) = (left, some error) →
    FailsAt job faults tree .writeDocument left (.output error)

/-- The failures of a step: only directories are made both for a copy and for a document. -/
def Stage.isNamedBy : Stage → Failure → Bool
  | .plan, .config _ => true
  | .keepCopy, .output (.createDirectory _ _) | .keepCopy, .output (.backup _ _ _) => true
  | .readLog, .log _ _ _ => true
  | .replaceLog, .output (.replace _ _) => true
  | .writeDocument, .output (.createDirectory _ _) | .writeDocument, .output (.write _ _) => true
  | _, _ => false

/-- A failure names the step. -/
theorem FailsAt.isNamedBy {stage : Stage} (h : FailsAt job faults tree stage tree' failure) :
    stage.isNamedBy failure = true := by
  cases h with
  | plan => rfl
  | readLog => rfl
  | @keepCopy plan left error hplan hkeep =>
    cases hcopy : plan.backupFile with
    | none =>
      rw [keepCopy_of_none hcopy] at hkeep
      cases hkeep
    | some copy =>
      rw [keepCopy_of_some hcopy] at hkeep
      rcases FileTree.backup_eq_some hkeep with ⟨directory, cause, rfl⟩ | ⟨cause, rfl⟩
      · rfl
      · rfl
  | @replaceLog plan kept left log error hplan hkeep hlog hreplace =>
    cases hcopy : plan.backupFile with
    | none =>
      rw [replaceLog_of_none hcopy] at hreplace
      cases hreplace
    | some copy =>
      rw [replaceLog_of_some hcopy] at hreplace
      obtain ⟨cause, rfl⟩ := FileTree.replaceContent_eq_some hreplace
      rfl
  | writeDocument _ _ _ _ hwrite =>
    rcases FileTree.writeOutput_eq_some hwrite with ⟨directory, cause, rfl⟩ | ⟨cause, rfl⟩
    · rfl
    · rfl

/-- Only a plan fails for the configuration, and it changes nothing. -/
theorem FailsAt.tree_eq {stage : Stage} {error : ConfigError}
    (h : FailsAt job faults tree stage tree' (.config error)) : tree' = tree := by
  cases h
  rfl

/-- No step before the commands fails for a command. -/
theorem FailsAt.ne_command {stage : Stage} {error : CommandError} (h : FailsAt job faults tree stage tree' failure) :
    failure ≠ .command error := by
  cases h <;> simp

theorem write_eq_error (h : job.write faults tree = (tree', .error failure)) :
    ∃ stage, FailsAt job faults tree stage tree' failure := by
  rw [write] at h
  split at h
  · next error hplan =>
    obtain ⟨rfl, hfailure⟩ := Prod.mk.inj h
    obtain rfl := Except.error.inj hfailure
    exact ⟨.plan, .plan hplan⟩
  next plan hplan =>
  split at h
  · next left error hkept =>
    obtain ⟨rfl, hfailure⟩ := Prod.mk.inj h
    obtain rfl := Except.error.inj hfailure
    exact ⟨.keepCopy, .keepCopy hplan hkept⟩
  next kept hkept =>
  split at h
  · next cause hlog =>
    obtain ⟨rfl, hfailure⟩ := Prod.mk.inj h
    obtain rfl := Except.error.inj hfailure
    exact ⟨.readLog, .readLog hplan hkept hlog⟩
  next log hlog =>
  simp only at h
  split at h
  · next left error hreplaced =>
    obtain ⟨rfl, hfailure⟩ := Prod.mk.inj h
    obtain rfl := Except.error.inj hfailure
    exact ⟨.replaceLog, .replaceLog hplan hkept hlog hreplaced⟩
  next replaced hreplaced =>
  split at h
  · next left error hwritten =>
    obtain ⟨rfl, hfailure⟩ := Prod.mk.inj h
    obtain rfl := Except.error.inj hfailure
    exact ⟨.writeDocument, .writeDocument hplan hkept hlog hreplaced hwritten⟩
  · cases (Prod.mk.inj h).2

/-- Commands that fail are what the failure is about. -/
theorem execute_eq_error {draft : Draft} (h : (job.execute machine draft tree).result = .error failure) :
    ∃ error, failure = .command error := by
  rw [execute] at h
  split at h
  · exact ⟨_, (Except.error.inj h).symm⟩
  · split at h
    · exact ⟨_, (Except.error.inj h).symm⟩
    · cases h

/-- A job that fails does so at a step, or when its files are written and its commands run. -/
theorem run_eq_error (h : (job.run machine faults tree).result = .error failure) :
    (∃ stage, FailsAt job faults tree stage (job.run machine faults tree).tree failure) ∨
      ∃ error written draft, failure = .command error ∧ job.write faults tree = (written, .ok draft) ∧
        job.run machine faults tree = job.execute machine draft written := by
  cases hwrite : job.write faults tree with
  | mk written result =>
    cases result with
    | error failure' =>
      left
      have hrun : job.run machine faults tree = ⟨written, [], .error failure'⟩ := by simp only [run, hwrite]
      rw [hrun] at h ⊢
      obtain rfl := Except.error.inj h
      exact write_eq_error hwrite
    | ok draft =>
      right
      have hrun : job.run machine faults tree =
          if job.noExecute then ⟨written, [], .ok (summary draft 0 false)⟩ else job.execute machine draft written := by
        simp only [run, hwrite]
      cases hno : job.noExecute with
      | true =>
        rw [hrun, hno, if_pos rfl] at h
        cases h
      | false =>
        rw [hno, if_neg Bool.false_ne_true] at hrun
        rw [hrun] at h
        obtain ⟨error, rfl⟩ := execute_eq_error h
        exact ⟨error, written, draft, rfl, rfl, hrun⟩

/-! ## What it leaves -/

/-- The files that a job writes have different places, and none lies under another one. -/
def WritesApart (job : Job) (plan : Plan) (tree : FileTree) : Prop :=
  ((job.writtenPaths plan).map tree.target).Pairwise fun place other => ¬place <:+ other ∧ ¬other <:+ place

instance : Decidable (job.WritesApart plan tree) := inferInstanceAs (Decidable (List.Pairwise _ _))

theorem WritesApart.writesDifferent (h : job.WritesApart plan tree) : job.WritesDifferent plan tree := by
  refine List.Pairwise.imp ?_ h
  rintro place _ hapart rfl
  exact hapart.1 (List.suffix_refl place)

/-- What a job that fails before its document leaves at a place. -/
inductive Left (job : Job) (plan : Plan) (tree tree' : FileTree) (place : Place) : Prop
  | same : tree'.node? place = tree.node? place → Left job plan tree tree' place
  /-- A new directory on the way of a copy that was not there. -/
  | newDirectory (copy : Path) : copy ∈ plan.backupFile → tree.contains copy = false → place ∈ tree.way copy →
    tree.node? place = none → tree'.node? place = some .directory → Left job plan tree tree' place
  /-- A copy that was not there, with all bytes of the log. -/
  | newCopy (copy : Path) (content : Bytes) : copy ∈ plan.backupFile → tree.contains copy = false →
    place = tree.target copy → tree.node? (tree.target job.log) = some (.file content) →
    tree'.node? place = some (.file content) → Left job plan tree tree' place
  /-- Something beside the log that is not there any more. -/
  | removed : place = tree.target job.log.trimPath → tree.node? place ≠ some .directory → tree'.node? place = none →
    Left job plan tree tree' place

theorem Left.trans_same {kept : FileTree} (h : Left job plan tree kept place)
    (hsame : tree'.node? place = kept.node? place) : Left job plan tree tree' place := by
  cases h with
  | same heq => exact .same (hsame.trans heq)
  | newDirectory copy hmem hthere hway hfree hnew => exact .newDirectory copy hmem hthere hway hfree (hsame.trans hnew)
  | newCopy copy content hmem hthere hplace hlog hnew =>
    exact .newCopy copy content hmem hthere hplace hlog (hsame.trans hnew)
  | removed hbeside hfile hgone => exact .removed hbeside hfile (hsame.trans hgone)

/-- Whether the copy of the log is kept or not, only the copy and directories on its way are made. -/
theorem left_of_keepCopy {error? : Option OutputError} (hapart : job.WritesApart plan tree)
    (h : job.keepCopy .none plan tree = (tree', error?)) (place : Place) : Left job plan tree tree' place := by
  cases hcopy : plan.backupFile with
  | none =>
    rw [keepCopy_of_none hcopy] at h
    rw [← (Prod.mk.inj h).1]
    exact .same rfl
  | some copy =>
    rw [keepCopy_of_some hcopy] at h
    cases hthere : tree.contains copy with
    | true =>
      rw [FileTree.backup, if_pos hthere] at h
      rw [← (Prod.mk.inj h).1]
      exact .same rfl
    | false =>
      rcases FileTree.backed_backup (hapart.writesDifferent.copy_ne hcopy).1 h place with hsame | ⟨hway, hfree, hnew⟩ |
        ⟨content, hplace, hlog, hnew⟩
      · exact .same hsame
      · exact .newDirectory copy hcopy hthere hway hfree hnew
      · exact .newCopy copy content hcopy hthere hplace hlog hnew

/-- If the log cannot be replaced, then only what stood beside it may be gone. -/
theorem left_of_replaceLog {kept : FileTree} {lines : List Text} {error : OutputError}
    (hapart : job.WritesApart plan tree) (hkeep : job.keepCopy .none plan tree = (kept, none))
    (h : job.replaceLog .none plan lines kept = (tree', some error)) (place : Place) :
    Left job plan tree tree' place := by
  have hkept := left_of_keepCopy hapart hkeep place
  cases hcopy : plan.backupFile with
  | none =>
    rw [replaceLog_of_none hcopy] at h
    cases h
  | some copy =>
    rw [replaceLog_of_some hcopy] at h
    have hplaces := FileTree.node?_replaceContent_of_eq_some h place
    rw [(keepsDirectories_keepCopy hkeep).target] at hplaces
    rcases hplaces with hsame | ⟨hbeside, hfile, hgone⟩
    · exact hkept.trans_same hsame
    · rcases hkept with hkept | ⟨_, _, _, _, _, hnew⟩ | ⟨_, _, hmem, _, hplace, _, _⟩ | ⟨-, hfile', -⟩
      · exact .removed hbeside (by rw [← hkept]; exact hfile) hgone
      · exact absurd hnew hfile
      · exact absurd (hplace.symm.trans hbeside) (hapart.writesDifferent.copy_ne hmem).2.1
      · exact .removed hbeside hfile' hgone

theorem left_of_failsAt {stage : Stage} (hapart : job.WritesApart plan tree) (hplan : job.plan tree = .ok plan)
    (h : FailsAt job .none tree stage tree' failure) (hstage : stage ∈ [.keepCopy, .readLog, .replaceLog])
    (place : Place) : Left job plan tree tree' place := by
  cases h with
  | plan => simp at hstage
  | keepCopy hplan' hkeep =>
    obtain rfl := Except.ok.inj (hplan.symm.trans hplan')
    exact left_of_keepCopy hapart hkeep place
  | readLog hplan' hkeep =>
    obtain rfl := Except.ok.inj (hplan.symm.trans hplan')
    exact left_of_keepCopy hapart hkeep place
  | replaceLog hplan' hkeep _ hreplace =>
    obtain rfl := Except.ok.inj (hplan.symm.trans hplan')
    exact left_of_replaceLog hapart hkeep hreplace place
  | writeDocument => simp at hstage

/-- What a job that fails before its document leaves of its files, and at all places. -/
structure LeftAlone (job : Job) (plan : Plan) (tree tree' : FileTree) : Prop where
  log : tree'.contentAt? (tree.target job.log) = tree.contentAt? (tree.target job.log)
  /-- A copy to which the path leads already stays. -/
  copy : ∀ copy ∈ plan.backupFile, tree.contains copy = true →
    tree'.node? (tree.target copy) = tree.node? (tree.target copy)
  /-- At the place of the document nothing changes, unless the way of a new copy makes a directory there. -/
  document : tree'.node? (tree.target plan.documentFile) = tree.node? (tree.target plan.documentFile) ∨
    tree.node? (tree.target plan.documentFile) = none ∧
      tree'.node? (tree.target plan.documentFile) = some .directory ∧
      ∃ copy ∈ plan.backupFile, tree.contains copy = false ∧ tree.target plan.documentFile ∈ tree.way copy
  /-- No file is new beside the log. -/
  beside : ∀ content, tree'.node? (tree.target job.log.trimPath) = some (.file content) →
    tree.node? (tree.target job.log.trimPath) = some (.file content)
  places : ∀ place, Left job plan tree tree' place

theorem leftAlone_of_left (hapart : job.WritesApart plan tree) (h : ∀ place, Left job plan tree tree' place) :
    LeftAlone job plan tree tree' := by
  constructor
  case log =>
    rcases h (tree.target job.log) with hsame | ⟨_, _, _, _, hfree, hnew⟩ | ⟨_, _, hmem, _, hplace, -, -⟩ |
      ⟨hplace, -, -⟩
    · exact FileTree.contentAt?_congr hsame
    · rw [FileTree.contentAt?, FileTree.contentAt?, hfree, hnew]
    · exact absurd hplace.symm (hapart.writesDifferent.copy_ne hmem).1
    · exact absurd hplace.symm (FileTree.target_trimPath_ne tree job.log)
  case copy =>
    intro copy hcopy hthere
    have hnew : ∀ other ∈ plan.backupFile, tree.contains other = false → False := by
      intro other hother hfree
      rw [Option.mem_unique hother hcopy, hthere] at hfree
      cases hfree
    rcases h (tree.target copy) with hsame | ⟨other, hmem, hfree, _, _, _⟩ | ⟨other, _, hmem, hfree, _, _, _⟩ |
      ⟨hplace, -, -⟩
    · exact hsame
    · exact (hnew other hmem hfree).elim
    · exact (hnew other hmem hfree).elim
    · exact absurd hplace (hapart.writesDifferent.copy_ne hcopy).2.1
  case document =>
    rcases h (tree.target plan.documentFile) with hsame | ⟨copy, hmem, hthere, hway, hfree, hnew⟩ |
      ⟨copy, _, hmem, _, hplace, -, -⟩ | ⟨hplace, -, -⟩
    · exact .inl hsame
    · exact .inr ⟨hfree, hnew, copy, hmem, hthere, hway⟩
    · exact absurd hplace.symm (hapart.writesDifferent.copy_ne hmem).2.2
    · exact absurd hplace.symm hapart.writesDifferent.document_ne.2
  case beside =>
    intro content hfile
    rcases h (tree.target job.log.trimPath) with hsame | ⟨_, _, _, _, _, hnew⟩ | ⟨_, _, hmem, _, hplace, -, -⟩ |
      ⟨-, -, hgone⟩
    · rw [← hsame, hfile]
    · rw [hfile] at hnew
      cases hnew
    · exact absurd hplace.symm (hapart.writesDifferent.copy_ne hmem).2.1
    · rw [hfile] at hgone
      cases hgone
  case places => exact h

/-! ## Failed runs -/

/-- A job whose copy has a place of its own draws the lines that its log had before. -/
theorem exists_product_of_write {written : FileTree} {draft : Draft}
    (hapart : ∀ plan ∈ (job.plan tree).toOption, job.WritesApart plan tree)
    (h : job.write faults tree = (written, .ok draft)) :
    job.plan tree = .ok draft.plan ∧
      (∃ content, tree.contentAt? (tree.target job.log) = some content ∧
        draft.product = draft.plan.config.product draft.plan.rules (Text.lines (Bytes.toTextLossy content))) ∧
      written.read draft.plan.documentFile = .ok
        (if written.HasDevice draft.plan.documentFile then [] else Bytes.ofText draft.product.document.text) := by
  obtain ⟨kept, replaced, log, hsteps⟩ := write_eq_ok h
  have hown : ¬job.CopiesOntoLog draft.plan.backupFile tree := by
    rintro ⟨copy, hcopy, -, hsame⟩
    exact ((hapart draft.plan (mem_toOption_plan.2 hsteps.plan)).writesDifferent.copy_ne hcopy).1 hsame
  obtain ⟨content, hcontent, hlog⟩ := hsteps.log_eq
  rw [if_neg hown] at hlog
  have hproduct := hsteps.product
  rw [hlog] at hproduct
  exact ⟨hsteps.plan, ⟨content, hcontent, hproduct⟩, FileTree.read_writeOutput hsteps.writeOutput⟩

/--
A job whose files have places of their own, on a storage without failures of its own. If it fails at its configuration,
nothing changes. If it fails at its copy, at reading its log or at replacing it, the log has the bytes that it had, a copy
that was there and the place of the document stay as they are, no file is new beside the log, and only directories on the
way of the copy and the whole copy are new; but the way of a copy may lead through the place of the document. If a command
fails, then the commands started from a tree in which the document of the log could be read, unless it went to a device.
There are no other failures, and each names its step.
-/
theorem failed_run (hapart : ∀ plan ∈ (job.plan tree).toOption, job.WritesApart plan tree)
    (h : (job.run machine .none tree).result = .error failure) :
    let left := (job.run machine .none tree).tree
    (∀ error, failure = .config error → left = tree) ∧
      (∀ stage plan, job.FailsAt .none tree stage left failure → stage ∈ [.keepCopy, .readLog, .replaceLog] →
        job.plan tree = .ok plan → LeftAlone job plan tree left) ∧
      (∀ error, failure = .command error → ∃ written draft content,
        job.write .none tree = (written, .ok draft) ∧
          job.run machine .none tree = job.execute machine draft written ∧
          tree.contentAt? (tree.target job.log) = some content ∧
          draft.product = draft.plan.config.product draft.plan.rules (Text.lines (Bytes.toTextLossy content)) ∧
          written.read draft.plan.documentFile = .ok
            (if written.HasDevice draft.plan.documentFile then [] else Bytes.ofText draft.product.document.text)) ∧
      ((∃ stage : Stage, job.FailsAt .none tree stage left failure ∧ stage.isNamedBy failure = true) ∨
        ∃ error, failure = .command error) := by
  intro left
  have hcases := run_eq_error h
  refine ⟨?_, ?_, ?_, ?_⟩
  · rintro error rfl
    rcases hcases with ⟨stage, hstage⟩ | ⟨_, _, _, hcommand, -, -⟩
    · exact hstage.tree_eq
    · cases hcommand
  · intro stage plan hfails hstage hplan
    have hplaces := hapart plan (mem_toOption_plan.2 hplan)
    exact leftAlone_of_left hplaces fun place => left_of_failsAt hplaces hplan hfails hstage place
  · rintro error rfl
    rcases hcases with ⟨stage, hstage⟩ | ⟨_, written, draft, -, hwrite, hrun⟩
    · exact absurd rfl hstage.ne_command
    · obtain ⟨-, ⟨content, hcontent, hproduct⟩, hread⟩ := exists_product_of_write hapart hwrite
      exact ⟨written, draft, content, hwrite, hrun, hcontent, hproduct, hread⟩
  · rcases hcases with ⟨stage, hstage⟩ | ⟨error, _, _, hcommand, -, -⟩
    · exact .inl ⟨stage, hstage, hstage.isNamedBy⟩
    · exact .inr ⟨error, hcommand⟩

/-- A log beside which a directory stands cannot be replaced: its copy is all that is new. -/
theorem failed_run_beside_directory :
    let config := ["\x7b\"translations\":[", "\x7b\"patterns\":[\"h\"],", "\"print\":\"P\"\x7d],",
      "\"translation_file\":\"o\",", "\"backup_file\":\"d/k\"", "\x7d"]
    let tree := (smallTree ["h"] config).set ["x.trim.log".toList] .directory
    let run := small.run idle .none tree
    (∀ plan ∈ (small.plan tree).toOption, small.WritesApart plan tree) ∧
      run.result = .error (.output (.replace ['x'] .isDirectory)) ∧
      (∃ plan, small.plan tree = .ok plan ∧ LeftAlone small plan tree run.tree) ∧
      run.tree.node ['x'] = .ok (.file (bytesOf ["h"])) ∧ run.tree.node "d/k".toList = .ok (.file (bytesOf ["h"])) := by
  intro config tree run
  have hapart : ∀ plan ∈ (small.plan tree).toOption, small.WritesApart plan tree := by decide +kernel
  have hresult : run.result = .error (.output (.replace ['x'] .isDirectory)) := by decide +kernel
  obtain ⟨-, halone, -, hstage⟩ := failed_run hapart hresult
  obtain ⟨plan, hplan⟩ : ∃ plan, small.plan tree = .ok plan := exists_eq_ok_of_isSome (by decide +kernel)
  refine ⟨hapart, hresult, ⟨plan, hplan, ?_⟩, by decide +kernel, by decide +kernel⟩
  rcases hstage with ⟨stage, hfails, hnamed⟩ | ⟨error, hcommand⟩
  · exact halone stage plan hfails (by cases stage <;> simp_all [Stage.isNamedBy]) hplan
  · cases hcommand

/--
The way of the copy turns back: a directory is made at the place of the document, and the copy that stood where the way
ends is replaced, although the job fails.
-/
theorem failed_run_replaces_copy :
    let config := ["\x7b\"translations\":[", "\x7b\"patterns\":[\"h\"],", "\"print\":\"P\"\x7d],",
      "\"translation_file\":\"t\",", "\"backup_file\":\"t/../k\"", "\x7d"]
    let tree := ((smallTree ["h"] config).set ["x.trim.log".toList] .directory).set [['k']] (.file (bytesOf ["first"]))
    let run := small.run idle .none tree
    (∀ plan ∈ (small.plan tree).toOption, small.WritesApart plan tree) ∧
      run.result = .error (.output (.replace ['x'] .isDirectory)) ∧
      tree.node ['t'] = .error .notFound ∧ run.tree.node ['t'] = .ok .directory ∧
      tree.node ['k'] = .ok (.file (bytesOf ["first"])) ∧ run.tree.node ['k'] = .ok (.file (bytesOf ["h"])) := by
  decide +kernel

end LogDiagram.Job
