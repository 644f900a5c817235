import LogDiagram.Job.Basic
import LogDiagram.Proofs.Config.Checked
import LogDiagram.Proofs.Storage.Copies

/-!
# The steps of a job that succeeds

A job that succeeds went through all its steps. Each statement takes one of its functions apart; later proofs use them
and look at none of these functions again.

* `ReadsConfig`: the definition and the text of the table that a job reads;
* `plan_eq_ok`, `write_eq_ok`, `run_eq_ok`: the steps of a plan, of the written files and of the whole job;
* `Steps.log_eq`: the lines of the log are those that it had before, unless it was copied onto itself.
-/

namespace LogDiagram.Job

variable {job : Job} {machine : Machine} {faults : Faults} {tree tree' : FileTree} {plan : Plan} {draft : Draft}
  {config : Config} {summary : JobSummary}

/-! ## The configuration -/

/-- The text of a file as it is read. -/
def HasText (tree : FileTree) (path : Path) (t : Text) : Prop :=
  ∃ content, tree.read path = .ok content ∧ t = Bytes.toTextLossy content

/-- The definition in the configuration file of a job, and the text of the table of rules that it names. -/
structure ReadsConfig (job : Job) (tree : FileTree) (definition : ConfigDefinition) (table : Option Text) : Prop where
  configText : ∃ t, HasText tree job.config t ∧ ConfigDefinition.ofJson t = .ok definition
  tableText : match tablePath? job.config definition with
    | none => table = none
    | some path => ∃ t, HasText tree path t ∧ table = some t

theorem HasText.unique {path : Path} {t t' : Text} (h : HasText tree path t) (h' : HasText tree path t') : t' = t := by
  obtain ⟨content, hread, rfl⟩ := h
  obtain ⟨content', hread', rfl⟩ := h'
  rw [hread, Except.ok.injEq] at hread'
  rw [hread']

/-- A job reads one definition and one table. -/
theorem ReadsConfig.unique {d d' : ConfigDefinition} {table table' : Option Text} (h : ReadsConfig job tree d table)
    (h' : ReadsConfig job tree d' table') : d' = d ∧ table' = table := by
  obtain ⟨⟨t, ht, hd⟩, htable⟩ := h
  obtain ⟨⟨t', ht', hd'⟩, htable'⟩ := h'
  rw [ht.unique ht', hd, Except.ok.injEq] at hd'
  subst hd'
  refine ⟨rfl, ?_⟩
  cases hpath : tablePath? job.config d with
  | none =>
    rw [hpath] at htable htable'
    rw [htable', htable]
  | some path =>
    rw [hpath] at htable htable'
    obtain ⟨text, htext, rfl⟩ := htable
    obtain ⟨text', htext', rfl⟩ := htable'
    rw [htext.unique htext']

/-- A definition that names no table is all that a job reads. -/
theorem readsConfig_of_read {d : ConfigDefinition} (content : Bytes) (hread : tree.read job.config = .ok content)
    (hd : ConfigDefinition.ofJson (Bytes.toTextLossy content) = .ok d) (hpath : tablePath? job.config d = none) :
    ReadsConfig job tree d none :=
  ⟨⟨_, ⟨content, hread, rfl⟩, hd⟩, by rw [hpath]⟩

theorem readConfigFile_eq_ok {path : Path} {t : Text} (h : readConfigFile tree path = .ok t) : HasText tree path t := by
  rw [readConfigFile] at h
  split at h
  · cases h
  · next content hread =>
    simp only at h
    split at h
    · cases h
    · exact ⟨content, hread, (Except.ok.inj h).symm⟩

/-- The rules of a table: none if the definition names no table, else those in its text. -/
theorem loadTable_eq_ok {path : Path} {d : ConfigDefinition} {tableRules : Option (List (Text × RuleDefinition))}
    (h : loadTable tree path d = .ok tableRules) :
    match tablePath? path d with
    | none => tableRules = none
    | some tablePath => ∃ t rules, HasText tree tablePath t ∧ rulesOfCsv? tablePath t = some rules ∧
        tableRules = some rules := by
  rw [loadTable] at h
  cases hpath : tablePath? path d with
  | none =>
    rw [hpath] at h
    exact (Except.ok.inj h).symm
  | some tablePath =>
    rw [hpath] at h
    obtain ⟨t, ht, h⟩ := bind_eq_ok_iff.1 h
    cases hrules : rulesOfCsv? tablePath t with
    | none => rw [hrules] at h; cases h
    | some rules =>
      rw [hrules] at h
      exact ⟨t, rules, readConfigFile_eq_ok ht, hrules, (Except.ok.inj h).symm⟩

theorem loadConfig_eq_ok {path : Path} (h : loadConfig tree path = .ok config) :
    ∃ t d tableRules, HasText tree path t ∧ ConfigDefinition.ofJson t = .ok d ∧
      loadTable tree path d = .ok tableRules ∧ Config.ofDefinition d tableRules = .ok config := by
  obtain ⟨t, ht, h⟩ := bind_eq_ok_iff.1 h
  obtain ⟨d, hd, h⟩ := bind_eq_ok_iff.1 h
  obtain ⟨tableRules, htable, h⟩ := bind_eq_ok_iff.1 h
  exact ⟨t, d, tableRules, readConfigFile_eq_ok ht, mapError_eq_ok_iff.1 hd, htable, mapError_eq_ok_iff.1 h⟩

/-- The parts of a plan. -/
theorem plan_eq_ok (h : job.plan tree = .ok plan) :
    loadConfig tree job.config = .ok plan.config ∧ plan.config.ruleSet job.selection = .ok plan.rules ∧
      plan.parts = job.log.parts ∧ plan.documentFile = job.log.parts.expand plan.config.documentFile ∧
      plan.backupFile = plan.config.backupFile.map job.log.parts.expand := by
  obtain ⟨config, hconfig, h⟩ := bind_eq_ok_iff.1 h
  obtain ⟨rules, hrules, h⟩ := bind_eq_ok_iff.1 h
  obtain rfl := Except.ok.inj h
  exact ⟨hconfig, mapError_eq_ok_iff.1 hrules, rfl, rfl, rfl⟩

/-! ## The written files -/

theorem keepCopy_of_none (h : plan.backupFile = none) : job.keepCopy faults plan tree = (tree, none) := by
  simp only [keepCopy, h]

theorem keepCopy_of_some {copy : Path} (h : plan.backupFile = some copy) :
    job.keepCopy faults plan tree = tree.backup faults job.log copy := by
  simp only [keepCopy, h]

theorem replaceLog_of_none {lines : List Text} (h : plan.backupFile = none) :
    job.replaceLog faults plan lines tree = (tree, none) := by
  simp only [replaceLog, h]

theorem replaceLog_of_some {lines : List Text} {copy : Path} (h : plan.backupFile = some copy) :
    job.replaceLog faults plan lines tree =
      tree.replaceContent faults job.log (Bytes.ofText (Text.ofLines lines)) := by
  simp only [replaceLog, h]

/-- All steps of a job up to its commands. -/
structure Steps (job : Job) (faults : Faults) (tree : FileTree) (draft : Draft) (kept replaced tree' : FileTree)
    (log : List Text) : Prop where
  plan : job.plan tree = .ok draft.plan
  keepCopy : job.keepCopy faults draft.plan tree = (kept, none)
  readLog : readLog kept job.log = .ok log
  product : draft.product = draft.plan.config.product draft.plan.rules log
  replaceLog : job.replaceLog faults draft.plan draft.product.trimmed kept = (replaced, none)
  writeOutput :
    replaced.writeOutput faults draft.plan.documentFile (Bytes.ofText draft.product.document.text) = (tree', none)

theorem write_eq_ok (h : job.write faults tree = (tree', .ok draft)) :
    ∃ kept replaced log, Steps job faults tree draft kept replaced tree' log := by
  rw [write] at h
  split at h
  · cases (Prod.mk.inj h).2
  · next plan hplan =>
    split at h
    · cases (Prod.mk.inj h).2
    · next kept hkept =>
      split at h
      · cases (Prod.mk.inj h).2
      · next log hlog =>
        simp only at h
        split at h
        · cases (Prod.mk.inj h).2
        · next replaced hreplaced =>
          split at h
          · cases (Prod.mk.inj h).2
          · next written hwritten =>
            obtain ⟨rfl, hdraft⟩ := Prod.mk.inj h
            obtain rfl := Except.ok.inj hdraft
            exact ⟨kept, replaced, log, hplan, hkept, hlog, rfl, hreplaced, hwritten⟩

/-- A job that succeeds wrote a draft, of which its summary speaks; without commands it leaves the tree as written. -/
theorem run_eq_ok (h : (job.run machine faults tree).result = .ok summary) :
    ∃ written draft commandsRun isDrawn, job.write faults tree = (written, .ok draft) ∧
      summary = Job.summary draft commandsRun isDrawn ∧
      (job.noExecute = true → (job.run machine faults tree).tree = written) := by
  rw [run] at h ⊢
  split at h
  · cases h
  · next written draft hwrite =>
    cases hno : job.noExecute with
    | true =>
      rw [hno, if_pos rfl] at h
      exact ⟨written, draft, 0, false, hwrite, (Except.ok.inj h).symm, fun _ => by rw [if_pos rfl]⟩
    | false =>
      rw [hno, if_neg Bool.false_ne_true, execute] at h
      split at h
      · cases h
      · next count _ =>
        split at h
        · cases h
        · next isDrawn _ => exact ⟨written, draft, count, isDrawn, hwrite, (Except.ok.inj h).symm, nofun⟩

/-- Without commands a run leaves the tree as it was written. -/
theorem run_tree (hno : job.noExecute = true) : (job.run machine faults tree).tree = (job.write faults tree).1 := by
  rw [run]
  split
  · next hwrite => rw [hwrite]
  · next hwrite => rw [hwrite, hno, if_pos rfl]

/-- Without commands a job that succeeds tells of its draft only. -/
theorem run_eq_ok_of_noExecute (hno : job.noExecute = true) (h : (job.run machine faults tree).result = .ok summary) :
    ∃ draft, job.write faults tree = ((job.run machine faults tree).tree, .ok draft) ∧
      summary = Job.summary draft 0 false := by
  rw [Job.run] at h ⊢
  split at h
  · cases h
  · next written draft hwrite =>
    rw [hno, if_pos rfl] at h
    refine ⟨draft, ?_, (Except.ok.inj h).symm⟩
    simp only [hno, if_true, hwrite]

/-! ## The log -/

/-- The copy of the log is made onto the log itself. -/
def CopiesOntoLog (job : Job) (backupFile : Option Path) (tree : FileTree) : Prop :=
  ∃ copy ∈ backupFile, tree.CopiesOntoItself job.log copy

instance (backupFile : Option Path) : Decidable (job.CopiesOntoLog backupFile tree) :=
  inferInstanceAs (Decidable (∃ copy ∈ backupFile, tree.CopiesOntoItself job.log copy))

theorem keepsDirectories_keepCopy (h : job.keepCopy faults plan tree = (tree', none)) :
    FileTree.KeepsDirectories tree tree' := by
  rw [keepCopy] at h
  split at h
  · obtain ⟨rfl, -⟩ := Prod.mk.inj h
    exact (FileTree.Grows.refl _).keepsDirectories
  · exact FileTree.keepsDirectories_backup h

/-- When its copy is kept, a log has the bytes that it had before, unless it was copied onto itself. -/
theorem contentAt?_keepCopy (h : job.keepCopy faults plan tree = (tree', none)) :
    tree'.contentAt? (tree.target job.log) =
      if job.CopiesOntoLog plan.backupFile tree then some [] else tree.contentAt? (tree.target job.log) := by
  rw [keepCopy] at h
  split at h
  · next hnone =>
    obtain ⟨rfl, -⟩ := Prod.mk.inj h
    rw [hnone, if_neg fun ⟨_, hcopy, _⟩ => nomatch hcopy]
  · next copy hcopy =>
    rw [hcopy, FileTree.contentAt?_backup h]
    by_cases hself : tree.CopiesOntoItself job.log copy
    · rw [if_pos hself, if_pos ⟨copy, rfl, hself⟩]
    · rw [if_neg hself, if_neg]
      rintro ⟨_, heq, hcopies⟩
      obtain rfl := Option.some.inj heq
      exact hself hcopies

/-- A log that was copied onto itself was a file before. -/
theorem exists_contentAt?_of_copiesOntoLog (h : job.keepCopy faults plan tree = (tree', none))
    (hself : job.CopiesOntoLog plan.backupFile tree) : ∃ log, tree.contentAt? (tree.target job.log) = some log := by
  obtain ⟨copy, hcopy, hself⟩ := hself
  rw [keepCopy, hcopy] at h
  exact FileTree.exists_contentAt?_of_copiesOntoItself h hself

theorem readLog_eq_ok {log : List Text} (h : readLog tree job.log = .ok log) :
    ∃ content, tree.contentAt? (tree.target job.log) = some content ∧ log = Text.lines (Bytes.toTextLossy content) := by
  rw [readLog] at h
  cases hread : tree.read job.log with
  | error cause => rw [hread] at h; cases h
  | ok content =>
    rw [hread] at h
    exact ⟨content, FileTree.read_eq_ok hread, (Except.ok.inj h).symm⟩

/-- A job reads the lines that its log had before, or none if it copied the log onto itself. -/
theorem Steps.log_eq {kept replaced : FileTree} {log : List Text}
    (h : Steps job faults tree draft kept replaced tree' log) :
    ∃ content, tree.contentAt? (tree.target job.log) = some content ∧
      log = Text.lines (Bytes.toTextLossy
        (if job.CopiesOntoLog draft.plan.backupFile tree then [] else content)) := by
  obtain ⟨content, hcontent, rfl⟩ := readLog_eq_ok h.readLog
  rw [(keepsDirectories_keepCopy h.keepCopy).target, contentAt?_keepCopy h.keepCopy] at hcontent
  by_cases hself : job.CopiesOntoLog draft.plan.backupFile tree
  · obtain ⟨original, horiginal⟩ := exists_contentAt?_of_copiesOntoLog h.keepCopy hself
    rw [if_pos hself, Option.some.injEq] at hcontent
    exact ⟨original, horiginal, by rw [if_pos hself, hcontent]⟩
  · rw [if_neg hself] at hcontent
    exact ⟨content, hcontent, by rw [if_neg hself]⟩

/-! ## A small job -/

/-- A machine whose commands do nothing. -/
def idle : Machine := ⟨fun _ tree => .ok ⟨tree, .exited 0, []⟩, fun _ _ tree => .ok ⟨tree, .exited 0, []⟩⟩

/-- A job for the log `x` by the configuration `c`, without commands. -/
def small : Job := ⟨['x'], ['c'], ⟨[], []⟩, none, "java".toList, true⟩

/-- The bytes of lines. -/
def bytesOf (lines : List String) : Bytes := Bytes.ofText (Text.ofLines (lines.map String.toList))

/-- A log `x` and a configuration `c` in the root. -/
def smallTree (log config : List String) : FileTree :=
  ((FileTree.withDevice []).set [['x']] (.file (bytesOf log))).set [['c']] (.file (bytesOf config))

end LogDiagram.Job
