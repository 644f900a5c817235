import LogDiagram.Proofs.Job.Safekeeping
import LogDiagram.Proofs.Storage.BrokenCopies

/-!
# Copies that are trusted

A job replaces its log if it finds anything at the path of the copy. A backup that failed may have left something there.

* `ReplacesUnkept`: a job goes on to replace its log although the path of the copy does not lead to the bytes of the log;
* `failed_copy_trusted`: what a failed backup leaves, and what every later job does with it. It makes the whole copy or
  fails if nothing was left, and replaces the log without a copy if anything else was
  (`failed_copy_trusted_loses_log`).
-/

namespace LogDiagram.Job

variable {job next : Job} {faults faults' : Faults} {tree left kept : FileTree} {plan plan' : Plan} {copy : Path}
  {content : Bytes} {error : OutputError}

/-- A job goes on to replace its log, while the path of the copy does not lead to the given bytes. -/
def ReplacesUnkept (job : Job) (faults : Faults) (tree : FileTree) (content : Bytes) : Prop :=
  ∃ plan kept, job.plan tree = .ok plan ∧ job.keepCopy faults plan tree = (kept, none) ∧
    (∃ log, readLog kept job.log = .ok log) ∧ ∃ copy ∈ plan.backupFile, kept.node copy ≠ .ok (.file content)

theorem keepCopy_of_contains (hcopy : copy ∈ plan.backupFile) (hthere : tree.contains copy = true) :
    job.keepCopy faults plan tree = (tree, none) := by
  rw [keepCopy_of_some hcopy, FileTree.backup, if_pos hthere]

/-- Where the path of the copy leads nowhere, a copy that is kept is a whole one. -/
theorem node_keepCopy (hcopy : copy ∈ plan.backupFile) (hfree : tree.contains copy = false)
    (hlog : tree.node job.log = .ok (.file content)) (hown : tree.target copy ≠ tree.target job.log)
    (hdevice : ¬tree.HasDevice copy) (h : job.keepCopy faults plan tree = (kept, none)) :
    kept.node copy = .ok (.file content) := by
  rw [keepCopy_of_some hcopy] at h
  exact FileTree.node_backup h hfree hown hdevice hlog

/-- What a job replaces over: whatever the path of the copy led to at the start, if it led anywhere. -/
theorem replacesUnkept_iff (hplan : job.plan tree = .ok plan) (hcopy : copy ∈ plan.backupFile)
    (hlog : tree.node job.log = .ok (.file content)) (hown : tree.target copy ≠ tree.target job.log)
    (hdevice : ¬tree.HasDevice copy) :
    job.ReplacesUnkept faults tree content ↔ tree.contains copy = true ∧ tree.node copy ≠ .ok (.file content) := by
  constructor
  · rintro ⟨plan', kept, hplan', hkeep, -, copy', hcopy', hne⟩
    obtain rfl := Except.ok.inj (hplan.symm.trans hplan')
    obtain rfl := Option.mem_unique hcopy hcopy'
    cases hthere : tree.contains copy with
    | false => exact absurd (node_keepCopy hcopy hthere hlog hown hdevice hkeep) hne
    | true =>
      rw [keepCopy_of_contains hcopy hthere] at hkeep
      exact ⟨rfl, (Prod.mk.inj hkeep).1 ▸ hne⟩
  · rintro ⟨hthere, hne⟩
    have hread : ∃ log, readLog tree job.log = .ok log := by
      rw [readLog, FileTree.read, hlog]
      exact ⟨_, rfl⟩
    exact ⟨plan, tree, hplan, keepCopy_of_contains hcopy hthere, hread, copy, hcopy, hne⟩

/-- A job that finds something at the path of the copy, and succeeds, has replaced the log over what it found. -/
theorem replaceLog_of_contains {after : FileTree} {draft : Draft} (hplan : job.plan tree = .ok plan)
    (hcopy : copy ∈ plan.backupFile) (hthere : tree.contains copy = true)
    (h : job.write faults tree = (after, .ok draft)) :
    ∃ replaced, job.replaceLog faults plan draft.product.trimmed tree = (replaced, none) ∧
      replaced.node job.log = .ok (if tree.HasDevice job.log.trimPath then .device
        else .file (Bytes.ofText (Text.ofLines draft.product.trimmed))) := by
  obtain ⟨kept, replaced, log, hsteps⟩ := write_eq_ok h
  obtain rfl : draft.plan = plan := Except.ok.inj (hsteps.plan.symm.trans hplan)
  have hkeep := hsteps.keepCopy
  rw [keepCopy_of_contains hcopy hthere] at hkeep
  obtain ⟨rfl, -⟩ := Prod.mk.inj hkeep
  have hreplace := hsteps.replaceLog
  refine ⟨replaced, hreplace, ?_⟩
  rw [replaceLog_of_some hcopy] at hreplace
  exact FileTree.node_replaceContent hreplace

/--
The backup of a log fails, where its path led nowhere. Then nothing is found at the path, or a directory or what stood at
its place before, or the first bytes of the log on a storage that failed. Every later job that keeps a copy of this log at
this path makes the whole copy or fails, if nothing was found. If anything was, it makes no copy, and a job that succeeds
has replaced the log: it does so without a whole copy exactly if something else than all bytes of the log was found.
-/
theorem failed_copy_trusted (hcopy : copy ∈ plan.backupFile) (hlog : tree.node job.log = .ok (.file content))
    (hown : tree.target copy ≠ tree.target job.log) (hdevice : ¬tree.HasDevice copy)
    (h : job.keepCopy faults plan tree = (left, some error)) :
    FileTree.Remains faults tree copy content left ∧ left.node job.log = .ok (.file content) ∧
      ∀ (next : Job) (plan' : Plan) (faults' : Faults), next.log = job.log → next.plan left = .ok plan' →
        copy ∈ plan'.backupFile →
        (left.contains copy = false →
          (∃ broken error', next.write faults' left = (broken, .error (.output error'))) ∨
            ∃ kept, next.keepCopy faults' plan' left = (kept, none) ∧ kept.node copy = .ok (.file content)) ∧
        (left.contains copy = true →
          next.keepCopy faults' plan' left = (left, none) ∧
            ∀ after draft, next.write faults' left = (after, .ok draft) →
              ∃ replaced, next.replaceLog faults' plan' draft.product.trimmed left = (replaced, none) ∧
                replaced.node next.log = .ok (if left.HasDevice next.log.trimPath then .device
                  else .file (Bytes.ofText (Text.ofLines draft.product.trimmed)))) ∧
        (next.ReplacesUnkept faults' left content ↔
          left.contains copy = true ∧ left.node copy ≠ .ok (.file content)) := by
  rw [keepCopy_of_some hcopy] at h
  have hkeeps := FileTree.keepsOutside_backup h
  have htarget := hkeeps.keepsDirectories.target
  have hremains := FileTree.remains_of_backup_eq_some hown hlog h
  have hlogleft : left.node job.log = .ok (.file content) := hkeeps.node (by simpa using hown.symm) hlog
  have hdeviceleft : ¬left.HasDevice copy := fun hthere => hdevice ((FileTree.hasDevice_backup_iff h).1 hthere)
  refine ⟨hremains, hlogleft, fun next plan' faults' hsame hplan' hcopy' => ?_⟩
  have hlognext : left.node next.log = .ok (.file content) := hsame ▸ hlogleft
  have hownnext : left.target copy ≠ left.target next.log := by
    rw [hsame, htarget, htarget]
    exact hown
  refine ⟨fun hfree => ?_, fun hthere => ⟨keepCopy_of_contains hcopy' hthere, fun after draft hwrite =>
    replaceLog_of_contains hplan' hcopy' hthere hwrite⟩,
    replacesUnkept_iff hplan' hcopy' hlognext hownnext hdeviceleft⟩
  cases hkeep : next.keepCopy faults' plan' left with
  | mk kept error? =>
    cases error? with
    | none => exact .inr ⟨kept, rfl, node_keepCopy hcopy' hfree hlognext hownnext hdeviceleft hkeep⟩
    | some error' => exact .inl ⟨kept, error', by simp only [write, hplan', hkeep]⟩

/-- A copy of which one byte is written on a full storage stays, and is what the next run replaces the log over. -/
theorem failed_copy_trusted_on_full_storage :
    let config := ["\x7b\"translations\":[", "\x7b\"patterns\":[\"h\"],", "\"print\":\"P\"\x7d],",
      "\"delete_lines\":[\"a\"],", "\"translation_file\":\"o\",", "\"backup_file\":\"k\"", "\x7d"]
    let full : Faults := { Faults.none with copy := some (1, .other "No space left on device".toList) }
    let tree := smallTree ["a", "h"] config
    ∃ plan left error, small.plan tree = .ok plan ∧ ['k'] ∈ plan.backupFile ∧
      tree.node small.log = .ok (.file (bytesOf ["a", "h"])) ∧ tree.target ['k'] ≠ tree.target small.log ∧
      ¬tree.HasDevice ['k'] ∧ small.keepCopy full plan tree = (left, some error) ∧
      FileTree.Remains full tree ['k'] (bytesOf ["a", "h"]) left ∧
      small.ReplacesUnkept .none left (bytesOf ["a", "h"]) := by
  intro config full tree
  obtain ⟨plan, hplan⟩ : ∃ plan, small.plan tree = .ok plan := exists_eq_ok_of_isSome (by decide +kernel)
  have hfacts : ∀ plan ∈ (small.plan tree).toOption, plan.backupFile = some ['k'] ∧
      (small.keepCopy full plan tree).2.isSome ∧
      (small.plan (small.keepCopy full plan tree).1).toOption = some plan ∧
      (small.keepCopy full plan tree).1.contains ['k'] = true ∧
      (small.keepCopy full plan tree).1.node ['k'] ≠ .ok (.file (bytesOf ["a", "h"])) := by
    decide +kernel
  obtain ⟨hcopy, herror, hagain, hthere, hne⟩ := hfacts plan (mem_toOption_plan.2 hplan)
  obtain ⟨error, herror⟩ := Option.isSome_iff_exists.1 herror
  have hlog : tree.node small.log = .ok (.file (bytesOf ["a", "h"])) := by decide +kernel
  have hown : tree.target ['k'] ≠ tree.target small.log := by decide +kernel
  have hdevice : ¬tree.HasDevice ['k'] := by decide +kernel
  have hkeep : small.keepCopy full plan tree = ((small.keepCopy full plan tree).1, some error) := Prod.ext rfl herror
  obtain ⟨hremains, -, hnext⟩ := failed_copy_trusted hcopy hlog hown hdevice hkeep
  refine ⟨plan, _, error, hplan, hcopy, hlog, hown, hdevice, hkeep, hremains, ?_⟩
  exact (hnext small plan .none rfl (mem_toOption_plan.1 hagain) hcopy).2.2.2 ⟨hthere, hne⟩

/--
Two backups that fail, and are trusted by the next run: the storage fails when one byte of the copy is written; and the
way of the copy turns back to a directory that is made for it. Both times the next run succeeds and the log is gone.
-/
theorem failed_copy_trusted_loses_log :
    let config := fun copy => ["\x7b\"translations\":[", "\x7b\"patterns\":[\"h\"],", "\"print\":\"P\"\x7d],",
      "\"delete_lines\":[\"a\"],", "\"translation_file\":\"o\",", "\"backup_file\":\"" ++ copy ++ "\"", "\x7d"]
    let full : Faults := { Faults.none with copy := some (1, .other "No space left on device".toList) }
    ∀ broken ∈ [("k", full, Node.file [0x61]), ("b/../b", .none, .directory)],
      let copy := broken.1.toList
      let tree := smallTree ["a", "h"] (config broken.1)
      let first := small.run idle broken.2.1 tree
      let second := small.run idle .none first.tree
      tree.contains copy = false ∧ tree.node small.log = .ok (.file (bytesOf ["a", "h"])) ∧
        first.result.toOption = none ∧ first.tree.node copy = .ok broken.2.2 ∧
        second.result.toOption.isSome ∧ second.tree.node copy = .ok broken.2.2 ∧
        second.tree.node small.log = .ok (.file (bytesOf ["h"])) := by
  decide +kernel

end LogDiagram.Job
