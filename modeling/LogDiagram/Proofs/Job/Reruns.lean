import LogDiagram.Proofs.Bytes.Utf8
import LogDiagram.Proofs.Drawing.Replacements
import LogDiagram.Proofs.Job.Safekeeping
import LogDiagram.Proofs.Storage.Rewriting
import LogDiagram.Proofs.Text.Lines

/-!
# Jobs that are done again

A job that keeps a copy of its log replaces the log by its own lines, and is done again over them.

* `Config.product_trimmed`: lines that settle give the same diagram and the same lines again;
* `Settled`: what a job has left once it succeeded (`settled_of_steps`). Another run changes nothing of it
  (`Settled.run`), unless a directory stands where the new content of the log is gathered: then it fails
  (`Settled.run_of_directory`);
* `reruns_of_run`: what all later runs do. They fail exactly if the path of the document leads through the file beside the
  log, of which the first run made a directory (`reruns_fail`).
-/

namespace LogDiagram

namespace Config

variable {config : Config} {rules : RuleSet} {log : List Text} {line : Text}

/-! ## Lines that settle -/

/-- A line stays as it is when it is written to the log: it is not deleted, no more replaced, and read back. -/
def Settles (config : Config) (rules : RuleSet) (line : Text) : Prop :=
  rules.substitute line = line ∧ (∀ d ∈ config.deletions, d.isFor line = false) ∧ Text.IsLine line

instance : Decidable (config.Settles rules line) := inferInstanceAs (Decidable (_ ∧ (∀ d ∈ _, _) ∧ _))

/-- What is written for the lines that are not deleted stays as it is. -/
def LogSettles (config : Config) (rules : RuleSet) (log : List Text) : Prop :=
  ∀ line ∈ log, (∀ d ∈ config.deletions, d.isFor line = false) → config.Settles rules (rules.substitute line)

instance : Decidable (config.LogSettles rules log) :=
  inferInstanceAs (Decidable (∀ line ∈ _, (∀ d ∈ _, _) → config.Settles _ _))

theorem settles_of_mem_trimmed (h : config.LogSettles rules log) (hmem : line ∈ (config.product rules log).trimmed) :
    config.Settles rules line := by
  obtain ⟨raw, hraw, rfl⟩ := List.mem_map.1 hmem
  obtain ⟨hlog, hkept⟩ := List.mem_filter.1 hraw
  apply h raw hlog
  simpa using hkept

/-- The lines of a log that was replaced are read back. -/
theorem lines_trimmed (h : config.LogSettles rules log) :
    Text.lines (Bytes.toTextLossy (Bytes.ofText (Text.ofLines (config.product rules log).trimmed))) =
      (config.product rules log).trimmed := by
  rw [Bytes.toTextLossy_ofText, Text.lines_ofLines fun line hmem => (settles_of_mem_trimmed h hmem).2.2]

/-- Lines that settle give the same diagram and the same lines again, and none of them is deleted. -/
theorem product_trimmed (h : config.LogSettles rules log) :
    config.product rules (config.product rules log).trimmed = { config.product rules log with deleted := 0 } := by
  let kept := (LineDeletion.deleteFrom config.deletions log).1
  have hsettles : ∀ raw ∈ kept, config.Settles rules (rules.substitute raw) := fun raw hmem =>
    settles_of_mem_trimmed h (List.mem_map.2 ⟨raw, hmem, rfl⟩)
  have hdelete : LineDeletion.deleteFrom config.deletions (kept.map rules.substitute) = (kept.map rules.substitute, 0) := by
    have hfilter : ((kept.map rules.substitute).filter fun line => !config.deletions.any fun d => d.isFor line) =
        kept.map rules.substitute := by
      rw [List.filter_eq_self]
      intro line hmem
      obtain ⟨raw, hraw, rfl⟩ := List.mem_map.1 hmem
      simpa using (hsettles raw hraw).2.1
    rw [LineDeletion.deleteFrom, hfilter, Nat.sub_self]
  have hsubstitute : (kept.map rules.substitute).map rules.substitute = kept.map rules.substitute := by
    rw [List.map_map]
    exact List.map_congr_left fun raw hmem => (hsettles raw hmem).1
  have hdraw : rules.draw (kept.map rules.substitute) = rules.draw kept :=
    RuleSet.draw_map_substitute fun raw hmem => (hsettles raw hmem).1
  show config.product rules (kept.map rules.substitute) = _
  simp only [product, hdelete, hsubstitute, hdraw]
  rfl

end Config

namespace Job

variable {job : Job} {machine : Machine} {faults : Faults} {tree tree' kept replaced : FileTree} {plan : Plan} {draft : Draft}
  {original : Bytes} {log : List Text} {places : List Place} {summary : JobSummary} {copy : Path}

/-! ## The files of a job -/

/-- The table of rules that the configuration of a job names. -/
def tableFile? (job : Job) (tree : FileTree) : Option Path := do
  let t ← (readConfigFile tree job.config).toOption
  let d ← (ConfigDefinition.ofJson t).toOption
  tablePath? job.config d

/-- The files that a job writes: its log, by way of the file beside it, its document, and the copy of the log. -/
def writtenPaths (job : Job) (plan : Plan) : List Path :=
  [job.log, job.log.trimPath, plan.documentFile] ++ plan.backupFile.toList

/-- The files that a job writes have different places. -/
def WritesDifferent (job : Job) (plan : Plan) (tree : FileTree) : Prop := ((job.writtenPaths plan).map tree.target).Nodup

instance : Decidable (job.WritesDifferent plan tree) := inferInstanceAs (Decidable (List.Nodup _))

theorem WritesDifferent.document_ne (h : job.WritesDifferent plan tree) :
    tree.target job.log ≠ tree.target plan.documentFile ∧
      tree.target job.log.trimPath ≠ tree.target plan.documentFile := by
  rw [WritesDifferent, writtenPaths] at h
  constructor <;> exact fun heq => by simp [heq] at h

/-- The copy stands neither at the log, nor beside it, nor at the document. -/
theorem WritesDifferent.copy_ne (h : job.WritesDifferent plan tree) (hcopy : copy ∈ plan.backupFile) :
    tree.target copy ≠ tree.target job.log ∧ tree.target copy ≠ tree.target job.log.trimPath ∧
      tree.target copy ≠ tree.target plan.documentFile := by
  rw [WritesDifferent, writtenPaths, Option.mem_def.1 hcopy] at h
  refine ⟨?_, ?_, ?_⟩ <;> exact fun heq => by simp [heq] at h

/-- The files in which a job is configured. -/
def configPaths (job : Job) (tree : FileTree) : List Path := job.config :: (job.tableFile? tree).toList

/-- The files of a job have different places, and none lies under another one. -/
def PathsApart (job : Job) (plan : Plan) (tree : FileTree) : Prop :=
  ((job.writtenPaths plan ++ job.configPaths tree).map tree.target).Pairwise fun place other =>
    ¬place <:+ other ∧ ¬other <:+ place

instance : Decidable (job.PathsApart plan tree) := inferInstanceAs (Decidable (List.Pairwise _ _))

/-- The written files of a job are different ones, and it is configured in none of them. -/
theorem PathsApart.writesDifferent (h : job.PathsApart plan tree) :
    job.WritesDifferent plan tree ∧
      ∀ path ∈ job.configPaths tree, tree.target path ∉ (job.writtenPaths plan).map tree.target := by
  have hnodup : ((job.writtenPaths plan ++ job.configPaths tree).map tree.target).Nodup := by
    refine List.Pairwise.imp ?_ h
    rintro place _ hapart rfl
    exact hapart.1 (List.suffix_refl place)
  rw [List.map_append, List.nodup_append] at hnodup
  obtain ⟨hwritten, -, hconfig⟩ := hnodup
  exact ⟨hwritten, fun path hpath hmem => hconfig _ hmem _ (List.mem_map_of_mem hpath) rfl⟩

theorem readConfigFile_of_keepsOutside {path : Path} {t : Text} (h : FileTree.KeepsOutside places tree tree')
    (hout : tree.target path ∉ places) (ht : readConfigFile tree path = .ok t) : readConfigFile tree' path = .ok t := by
  obtain ⟨content, hread, -⟩ := readConfigFile_eq_ok ht
  rw [readConfigFile, hread] at ht
  rw [readConfigFile, h.read hout hread]
  exact ht

/-- The plan of a job is the same as long as its configuration and its table stay as they are. -/
theorem plan_of_keepsOutside (h : FileTree.KeepsOutside places tree tree')
    (hout : ∀ path ∈ job.configPaths tree, tree.target path ∉ places) (hplan : job.plan tree = .ok plan) :
    job.plan tree' = .ok plan := by
  have hconfig : tree.target job.config ∉ places := hout _ List.mem_cons_self
  obtain ⟨config, hload, hrest⟩ := bind_eq_ok_iff.1 hplan
  obtain ⟨t, ht, hload⟩ := bind_eq_ok_iff.1 hload
  obtain ⟨d, hd, hload⟩ := bind_eq_ok_iff.1 hload
  obtain ⟨tableRules, hrules, hload⟩ := bind_eq_ok_iff.1 hload
  have hrules' : loadTable tree' job.config d = .ok tableRules := by
    rw [loadTable] at hrules ⊢
    cases hpath : tablePath? job.config d with
    | none =>
      rw [hpath] at hrules
      exact hrules
    | some tablePath =>
      rw [hpath] at hrules
      obtain ⟨text, htext, hrules⟩ := bind_eq_ok_iff.1 hrules
      have hmem : job.tableFile? tree = some tablePath := by
        simp only [tableFile?, ht, Except.toOption, Option.bind_eq_bind, Option.bind_some, mapError_eq_ok_iff.1 hd, hpath]
      have htable : tree.target tablePath ∉ places := hout _ (by simp [configPaths, hmem])
      exact bind_eq_ok_iff.2 ⟨text, readConfigFile_of_keepsOutside h htable htext, hrules⟩
  refine bind_eq_ok_iff.2 ⟨config, bind_eq_ok_iff.2 ⟨t, readConfigFile_of_keepsOutside h hconfig ht, ?_⟩, hrest⟩
  exact bind_eq_ok_iff.2 ⟨d, hd, bind_eq_ok_iff.2 ⟨tableRules, hrules', hload⟩⟩

/-! ## A job that has settled -/

/-- What a job has left once it succeeded: a copy of the log, the log with its new lines, and the document. -/
structure Settled (job : Job) (draft : Draft) (original : Bytes) (tree : FileTree) : Prop where
  plan : job.plan tree = .ok draft.plan
  copy : ∃ copy ∈ draft.plan.backupFile, tree.node copy = .ok (.file original)
  log : tree.HoldsReplaced job.log (Bytes.ofText (Text.ofLines draft.product.trimmed))
  document : tree.HoldsOutput draft.plan.documentFile (Bytes.ofText draft.product.document.text)
  lines : Text.lines (Bytes.toTextLossy (Bytes.ofText (Text.ofLines draft.product.trimmed))) = draft.product.trimmed
  product : draft.plan.config.product draft.plan.rules draft.product.trimmed = { draft.product with deleted := 0 }

/-- A job has settled in all trees with the same files. -/
theorem Settled.sameFiles (h : Settled job draft original tree) (hsame : FileTree.SameFiles tree tree') :
    Settled job draft original tree' := by
  have hkeeps : FileTree.KeepsOutside [] tree tree' := hsame.keepsOutside
  obtain ⟨copy, hcopy, hnode⟩ := h.copy
  constructor
  case plan => exact plan_of_keepsOutside hkeeps (fun _ _ => List.not_mem_nil) h.plan
  case copy => exact ⟨copy, hcopy, hkeeps.node List.not_mem_nil hnode⟩
  case log => exact h.log.keepsOutside hkeeps List.not_mem_nil
  case document => exact h.document.keepsOutside hkeeps List.not_mem_nil
  case lines => exact h.lines
  case product => exact h.product

/-- The copy that is there already stays, and the lines that were written are read. -/
theorem Settled.keepCopy_readLog (h : Settled job draft original tree) :
    job.keepCopy .none draft.plan tree = (tree, none) ∧ readLog tree job.log = .ok draft.product.trimmed := by
  obtain ⟨copy, hcopy, hnode⟩ := h.copy
  constructor
  · have hcontains : tree.contains copy = true := by rw [FileTree.contains, hnode]; rfl
    rw [keepCopy_of_some hcopy, FileTree.backup, if_pos hcontains]
  · rw [readLog, FileTree.read, h.log.node]
    exact congrArg Except.ok h.lines

/-- Done again, a settled job succeeds, deletes no line and changes nothing, if nothing stands beside its log. -/
theorem Settled.write (h : Settled job draft original tree)
    (hfree : tree.node? (tree.target job.log.trimPath) = none) :
    ∃ tree', job.write .none tree = (tree', .ok ⟨draft.plan, { draft.product with deleted := 0 }⟩) ∧
      FileTree.SameFiles tree tree' := by
  obtain ⟨hkept, hlog⟩ := h.keepCopy_readLog
  obtain ⟨copy, hcopy, -⟩ := h.copy
  obtain ⟨replaced, hreplaced, hsame⟩ := h.log.replaceContent hfree
  have hdocument := h.document.keepsOutside hsame.keepsOutside List.not_mem_nil
  obtain ⟨tree', hwritten, hsame'⟩ := hdocument.writeOutput
  refine ⟨tree', ?_, hsame.trans hsame'⟩
  simp only [Job.write, h.plan, hkept, hlog, h.product, replaceLog_of_some hcopy, hreplaced, hwritten]

/-- With a directory beside its log a settled job fails, and changes nothing. -/
theorem Settled.write_of_directory (h : Settled job draft original tree)
    (hdir : tree.node? (tree.target job.log.trimPath) = some .directory) :
    job.write .none tree = (tree, .error (.output (.replace job.log .isDirectory))) := by
  obtain ⟨hkept, hlog⟩ := h.keepCopy_readLog
  obtain ⟨copy, hcopy, -⟩ := h.copy
  simp only [Job.write, h.plan, hkept, hlog, h.product, replaceLog_of_some hcopy,
    h.log.replaceContent_of_directory hdir]

/-! ## The first run -/

/-- The log that a job copies is a file. -/
theorem node_log_of_backup (h : tree.backup faults job.log copy = (tree', none)) (hfree : tree.contains copy = false)
    (hlog : tree.read job.log = .ok original) : tree.node job.log = .ok (.file original) := by
  obtain ⟨node, hnode, hread⟩ := bind_eq_ok_iff.1 hlog
  rcases FileTree.backup_eq_none h with ⟨htaken, -⟩ | ⟨-, grown, hgrows, hcopied⟩
  · rw [hfree] at htaken
    cases htaken
  obtain ⟨content, -, -, hcontent, -⟩ := FileTree.copy_eq_none hcopied
  have hfile := hgrows.node?_of_ne hcontent (by simp)
  rw [hgrows.keepsDirectories.target, (FileTree.node_eq_ok hnode).2, Option.some.injEq] at hfile
  rw [hnode, hfile]
  rw [hfile] at hread
  rw [Except.ok.inj hread]

/-- A job changes nothing outside of its written files. -/
theorem Steps.keepsOutside (h : Steps job faults tree draft kept replaced tree' log)
    (hcopy : draft.plan.backupFile = some copy) :
    FileTree.KeepsOutside ((job.writtenPaths draft.plan).map tree.target) tree tree' := by
  have hkept := h.keepCopy
  rw [keepCopy_of_some hcopy] at hkept
  have hkeeps := FileTree.keepsOutside_backup hkept
  have hafter := keepsOutside_replaceLog_writeOutput h.replaceLog h.writeOutput
  rw [(h.target _).1, (h.target _).1, (h.target _).1] at hafter
  have hpaths : (job.writtenPaths draft.plan).map tree.target = [tree.target job.log, tree.target job.log.trimPath,
      tree.target draft.plan.documentFile, tree.target copy] := by rw [writtenPaths, hcopy]; rfl
  rw [hpaths]
  exact (hkeeps.mono (by simp)).trans (hafter.mono (by simp))

/-- A job that succeeded over lines that settle has settled, if its files have places of their own. -/
theorem settled_of_steps (h : Steps job faults tree draft kept replaced tree' log)
    (hcopy : draft.plan.backupFile = some copy) (hlog : tree.read job.log = .ok original)
    (hfree : tree.contains copy = false) (hapart : job.PathsApart draft.plan tree)
    (hdevice : ¬tree.HasDevice copy) (hbeside : ¬tree.HasDevice job.log.trimPath)
    (hsettles : draft.plan.config.LogSettles draft.plan.rules (Text.lines (Bytes.toTextLossy original))) :
    Settled job draft original tree' := by
  obtain ⟨hdifferent, hconfig⟩ := hapart.writesDifferent
  obtain ⟨hcopylog, hcopybeside, hcopydocument⟩ := hdifferent.copy_ne hcopy
  have hkeep := h.keepCopy
  have hreplace := h.replaceLog
  rw [keepCopy_of_some hcopy] at hkeep
  rw [replaceLog_of_some hcopy] at hreplace
  have hnode := node_log_of_backup hkeep hfree hlog
  have hwrite := FileTree.keepsOutside_writeOutput h.writeOutput
  -- the lines that the job read are those of the original
  have hread : kept.node job.log = .ok (.file original) :=
    (FileTree.keepsOutside_backup hkeep).node (by simpa using hcopylog.symm) hnode
  have hlines : log = Text.lines (Bytes.toTextLossy original) := by
    have hlines := h.readLog
    rw [readLog, FileTree.read, hread] at hlines
    exact (Except.ok.inj hlines).symm
  have hproduct := h.product
  rw [hlines] at hproduct
  constructor
  case plan => exact plan_of_keepsOutside (h.keepsOutside hcopy) hconfig h.plan
  case copy =>
    refine ⟨copy, hcopy, node_copy hkeep (keepsOutside_replaceLog_writeOutput h.replaceLog h.writeOutput) hnode hfree
      hdevice ?_⟩
    simpa using ⟨hcopylog, hcopybeside, hcopydocument⟩
  case log =>
    have hkeptbeside : ¬kept.HasDevice job.log.trimPath := by
      intro hdev
      rw [FileTree.HasDevice, (h.target _).1] at hdev
      exact hbeside (FileTree.node?_of_backup hkeep hcopybeside.symm hdev (by simp))
    refine (FileTree.holdsReplaced_of_replaceContent hreplace hkeptbeside).keepsOutside hwrite ?_
    rw [(h.target _).2.1, (h.target _).2.1]
    simpa using hdifferent.document_ne.1
  case document => exact FileTree.holdsOutput_of_writeOutput h.writeOutput
  case lines =>
    rw [hproduct]
    exact Config.lines_trimmed hsettles
  case product =>
    rw [hproduct]
    exact Config.product_trimmed hsettles

/-- After a job nothing stands beside its log, unless the way of the document makes a directory there. -/
theorem node?_beside_of_steps (h : Steps job faults tree draft kept replaced tree' log)
    (hcopy : draft.plan.backupFile = some copy)
    (hne : tree.target job.log.trimPath ≠ tree.target draft.plan.documentFile) :
    tree'.node? (tree.target job.log.trimPath) =
      if tree.target job.log.trimPath ∈ tree.way draft.plan.documentFile then some .directory else none := by
  have hreplace := h.replaceLog
  rw [replaceLog_of_some hcopy] at hreplace
  have hway : replaced.way draft.plan.documentFile = tree.way draft.plan.documentFile :=
    FileTree.way_congr ((keepsOutside_replaceLog h.replaceLog).keepsDirectories.workingPlace.trans
      (keepsDirectories_keepCopy h.keepCopy).workingPlace) _
  have hfree : replaced.node? (tree.target job.log.trimPath) = none := by
    rw [FileTree.node?_replaceContent hreplace, (h.target _).1, (h.target _).1,
      if_neg (FileTree.target_trimPath_ne tree job.log), if_pos rfl]
  split
  · next hin =>
    refine FileTree.node?_writeOutput_of_mem h.writeOutput (by rw [hway]; exact hin) ?_
    rw [(h.target _).2.1]
    exact hne
  · next hout => rw [FileTree.node?_writeOutput_of_not_mem h.writeOutput (by rw [hway]; exact hout), hfree]

/-! ## Later runs -/

/-- The trees to which runs of a job lead, one after the other, on a storage without failures of its own. -/
inductive Reruns (job : Job) (tree : FileTree) : FileTree → Prop where
  | start : Reruns job tree tree
  | again (machine : Machine) {tree' : FileTree} :
    Reruns job tree tree' → Reruns job tree (job.run machine .none tree').tree

theorem Settled.run (h : Settled job draft original tree) (hno : job.noExecute = true)
    (hfree : tree.node? (tree.target job.log.trimPath) = none) :
    (job.run machine .none tree).result = .ok { Job.summary draft 0 false with deleted := 0 } ∧
      FileTree.SameFiles tree (job.run machine .none tree).tree := by
  obtain ⟨tree', hwrite, hsame⟩ := h.write hfree
  rw [Job.run, hwrite]
  simp only [hno, if_true]
  exact ⟨rfl, hsame⟩

theorem Settled.run_of_directory (h : Settled job draft original tree)
    (hdir : tree.node? (tree.target job.log.trimPath) = some .directory) :
    (job.run machine .none tree).result = .error (.output (.replace job.log .isDirectory)) ∧
      (job.run machine .none tree).tree = tree := by
  rw [Job.run, h.write_of_directory hdir]
  exact ⟨rfl, rfl⟩

/-- Runs of a settled job change nothing, whether they succeed or fail. -/
theorem Settled.reruns (h : Settled job draft original tree) (hno : job.noExecute = true)
    (hbeside : tree.node? (tree.target job.log.trimPath) ∈ [some .directory, none]) (hruns : Reruns job tree tree') :
    FileTree.SameFiles tree tree' := by
  induction hruns with
  | start => exact .refl tree
  | @again machine between _ ih =>
    have hsettled := h.sameFiles ih
    have hkeeps : FileTree.KeepsOutside [] tree between := ih.keepsOutside
    rw [← ih.node?, ← hkeeps.keepsDirectories.target, List.mem_cons, List.mem_singleton] at hbeside
    rcases hbeside with hdir | hfree
    · rw [(hsettled.run_of_directory hdir).2]
      exact ih
    · exact ih.trans (hsettled.run hno hfree).2

/--
All later runs of a settled job give the same answer. It depends on what stood beside the log when the job had settled:
a directory, made on the way of the document, or nothing.
-/
theorem Settled.later {isThrough : Prop} [Decidable isThrough] (h : Settled job draft original tree)
    (hno : job.noExecute = true)
    (hbeside : tree.node? (tree.target job.log.trimPath) = if isThrough then some .directory else none)
    (hruns : Reruns job tree tree') :
    Settled job draft original tree' ∧ FileTree.SameFiles tree tree' ∧
      ∀ machine : Machine, (job.run machine .none tree').result =
        if isThrough then .error (.output (.replace job.log .isDirectory))
        else .ok { Job.summary draft 0 false with deleted := 0 } := by
  have hsame : FileTree.SameFiles tree tree' := by
    refine h.reruns hno ?_ hruns
    rw [hbeside]
    split <;> simp
  have hsettled := h.sameFiles hsame
  have hkeeps : FileTree.KeepsOutside [] tree tree' := hsame.keepsOutside
  rw [← hsame.node?, ← hkeeps.keepsDirectories.target] at hbeside
  refine ⟨hsettled, hsame, fun machine => ?_⟩
  split
  · next hin => exact (hsettled.run_of_directory (hbeside.trans (if_pos hin))).1
  · next hout => exact (hsettled.run hno (hbeside.trans (if_neg hout))).1

/--
A job without commands that succeeds, makes a copy of its log and writes lines that settle, to places of their own and
not to a device, is stable. The copy has the bytes of the original, after each later run, too, and no later run changes
a file. If the way of the document does not lead through the place beside the log, all later runs succeed, delete no
line, and tell what the first run told; if it does, a directory stands there since the first run, and all later runs
fail.
-/
theorem reruns_of_run (hno : job.noExecute = true) (h : (job.run machine faults tree).result = .ok summary)
    (hplan : job.plan tree = .ok plan) (hcopy : plan.backupFile = some copy) (hlog : tree.read job.log = .ok original)
    (hfree : tree.contains copy = false) (hapart : job.PathsApart plan tree)
    (hsettles : plan.config.LogSettles plan.rules (Text.lines (Bytes.toTextLossy original)))
    (hdevice : ¬tree.HasDevice copy) (hbeside : ¬tree.HasDevice job.log.trimPath) :
    let first := (job.run machine faults tree).tree
    ∀ tree', Reruns job first tree' →
      tree'.node copy = .ok (.file original) ∧ FileTree.SameFiles first tree' ∧
        ∀ machine' : Machine,
          (job.run machine' .none tree').result =
            if tree.target job.log.trimPath ∈ tree.way plan.documentFile then
              .error (.output (.replace job.log .isDirectory))
            else .ok { summary with deleted := 0 } := by
  intro first tree' hruns
  obtain ⟨draft, hwrite, rfl⟩ := run_eq_ok_of_noExecute hno h
  obtain ⟨kept, replaced, log, hsteps⟩ := write_eq_ok hwrite
  obtain rfl : plan = draft.plan := Except.ok.inj (hplan.symm.trans hsteps.plan)
  have hsettled : Settled job draft original first :=
    settled_of_steps hsteps hcopy hlog hfree hapart hdevice hbeside hsettles
  have hstate : first.node? (first.target job.log.trimPath) =
      if tree.target job.log.trimPath ∈ tree.way draft.plan.documentFile then some .directory else none := by
    rw [show first.target job.log.trimPath = tree.target job.log.trimPath from (hsteps.target _).2.2]
    exact node?_beside_of_steps hsteps hcopy hapart.writesDifferent.1.document_ne.2
  obtain ⟨hsettled', hsame, hlater⟩ := hsettled.later hno hstate hruns
  obtain ⟨copy', hcopy', hnode⟩ := hsettled'.copy
  obtain rfl := Option.mem_unique hcopy' hcopy
  exact ⟨hnode, hsame, hlater⟩

/-- A log with bytes that are no text, a carriage return and an empty line, done three times. -/
theorem reruns_of_run_three_times :
    let config := ["\x7b\"translations\":[", "\x7b\"patterns\":[\"h\"],", "\"print\":\"P\"\x7d],",
      "\"delete_lines\":[\"a\"],", "\"replace_words\":\x7b\"z\":\"h\"\x7d,", "\"translation_file\":\"o\",",
      "\"backup_file\":\"b\"", "\x7d"]
    let original : Bytes := [0x7A, 0x0D, 0x0A, 0x61, 0x0A, 0xFF, 0x0A, 0x0A]
    let first := small.run idle .none ((smallTree [] config).set [['x']] (.file original))
    let second := small.run idle .none first.tree
    let third := small.run idle .none second.tree
    let summary : JobSummary := ⟨['o'], some ['b'], ⟨3, 0, 2, 0, 0⟩, 1, 1, 0, false⟩
    first.result = .ok summary ∧ first.tree.read ['x'] = .ok (bytesOf ["h", "\uFFFD", ""]) ∧
      second.result = .ok { summary with deleted := 0 } ∧ third.result = .ok { summary with deleted := 0 } ∧
      third.tree.node ['b'] = .ok (.file original) ∧ FileTree.SameFiles first.tree third.tree := by
  intro config original first second third summary
  let tree := (smallTree [] config).set [['x']] (.file original)
  have hfirst : first.result = .ok summary := by decide +kernel
  have hplans : ∀ plan ∈ (small.plan tree).toOption, plan.backupFile = some ['b'] ∧ small.PathsApart plan tree ∧
      plan.config.LogSettles plan.rules (Text.lines (Bytes.toTextLossy original)) ∧
      tree.target small.log.trimPath ∉ tree.way plan.documentFile := by decide +kernel
  obtain ⟨plan, hplan⟩ : ∃ plan, small.plan tree = .ok plan := by
    obtain ⟨draft, hwrite, -⟩ := run_eq_ok_of_noExecute rfl hfirst
    obtain ⟨kept, replaced, log, hsteps⟩ := write_eq_ok hwrite
    exact ⟨draft.plan, hsteps.plan⟩
  obtain ⟨hcopy, hapart, hsettles, hway⟩ := hplans plan (mem_toOption_plan.2 hplan)
  have hall := reruns_of_run rfl hfirst hplan hcopy (by decide +kernel) (by decide +kernel) hapart hsettles
    (by decide +kernel) (by decide +kernel)
  have hthird : Reruns small first.tree third.tree := .again idle (.again idle .start)
  obtain ⟨hnode, hsame, -⟩ := hall third.tree hthird
  refine ⟨hfirst, by decide +kernel, ((hall _ .start).2.2 idle).trans (if_neg hway), ?_, hnode, hsame⟩
  exact ((hall _ (.again idle .start)).2.2 idle).trans (if_neg hway)

/-- The document stands beside the log, but its way leads through the file with the new content: the second run fails. -/
theorem reruns_fail :
    let config := ["\x7b\"translations\":[", "\x7b\"patterns\":[\"h\"],", "\"print\":\"P\"\x7d],",
      "\"translation_file\":\"t/../x.trim.log/../o\",", "\"backup_file\":\"b\"", "\x7d"]
    let tree := smallTree ["h"] config
    let first := small.run idle .none tree
    let second := small.run idle .none first.tree
    (∀ plan ∈ (small.plan tree).toOption, plan.backupFile = some ['b'] ∧ small.PathsApart plan tree ∧
        plan.config.LogSettles plan.rules (Text.lines (Bytes.toTextLossy (bytesOf ["h"])))) ∧
      tree.read small.log = .ok (bytesOf ["h"]) ∧ tree.contains ['b'] = false ∧ first.result.toOption.isSome ∧
      second.result = .error (.output (.replace ['x'] .isDirectory)) := by
  decide +kernel

end Job

end LogDiagram
