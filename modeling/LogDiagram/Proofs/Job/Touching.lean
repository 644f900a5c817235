import LogDiagram.Proofs.Job.Reruns
import LogDiagram.Proofs.Storage.Replacement

/-!
# What a job touches

A job without commands writes its document and, if it keeps a copy of its log, the copy, the log and the file beside the
log. It makes the directories above the document and above the copy, as their paths are written, and nothing else.

* `touchedPlaces`: the places that a job may change; that of a copy only if its path leads nowhere;
* `touchesOnly_write`: a job changes nothing else, wherever it fails;
* `touched_places`: the same for a whole run, with what stays of a copy and of a log without one. What stood at the place of
  a copy is replaced if the path does not lead there yet (`touched_places_replaces_copy`).
-/

namespace LogDiagram.Job

open FileTree (TouchesOnly)

variable {job : Job} {machine : Machine} {faults : Faults} {tree tree' kept replaced : FileTree} {plan : Plan}
  {copy : Path} {content : Bytes} {lines : List Text} {error? : Option OutputError}

/-- The places of the document, and of the log, beside it and of its copy if one is kept and was not found before. -/
def touchedPlaces (job : Job) (plan : Plan) (tree : FileTree) : List Place :=
  tree.target plan.documentFile ::
    match plan.backupFile with
    | none => []
    | some copy =>
      tree.target job.log :: tree.target job.log.trimPath ::
        if tree.contains copy then [] else [tree.target copy]

/-- The paths of the files above which a job makes directories. -/
def Plan.outputPaths (plan : Plan) : List Path := plan.documentFile :: plan.backupFile.toList

theorem touchedPlaces_of_some (hcopy : plan.backupFile = some copy) :
    job.touchedPlaces plan tree = tree.target plan.documentFile :: tree.target job.log :: tree.target job.log.trimPath ::
      if tree.contains copy then [] else [tree.target copy] := by
  rw [touchedPlaces, hcopy]

theorem Plan.outputPaths_of_some (hcopy : plan.backupFile = some copy) : plan.outputPaths = [plan.documentFile, copy] := by
  rw [outputPaths, hcopy, Option.toList_some]

/-! ## The steps -/

theorem touchesOnly_keepCopy (h : job.keepCopy faults plan tree = (tree', error?)) :
    TouchesOnly (job.touchedPlaces plan tree) plan.outputPaths tree tree' := by
  cases hcopy : plan.backupFile with
  | none =>
    rw [keepCopy_of_none hcopy] at h
    exact (Prod.mk.inj h).1 ▸ .refl _ _ tree
  | some copy =>
    rw [keepCopy_of_some hcopy] at h
    cases hthere : tree.contains copy with
    | true =>
      rw [FileTree.backup, if_pos hthere] at h
      exact (Prod.mk.inj h).1 ▸ .refl _ _ tree
    | false =>
      rw [touchedPlaces_of_some hcopy, Plan.outputPaths_of_some hcopy, hthere]
      exact (FileTree.touchesOnly_backup h).mono (by simp) (by simp)

/-- The log is replaced over a tree with the same directories as at the start. -/
theorem touchesOnly_replaceLog (hkeeps : FileTree.KeepsDirectories tree kept)
    (h : job.replaceLog faults plan lines kept = (replaced, error?)) :
    TouchesOnly (job.touchedPlaces plan tree) plan.outputPaths kept replaced := by
  cases hcopy : plan.backupFile with
  | none =>
    rw [replaceLog_of_none hcopy] at h
    exact (Prod.mk.inj h).1 ▸ .refl _ _ kept
  | some copy =>
    rw [replaceLog_of_some hcopy] at h
    have htouches := FileTree.touchesOnly_replaceContent h
    rw [hkeeps.target, hkeeps.target] at htouches
    rw [touchedPlaces_of_some hcopy]
    exact htouches.mono (by simp) (List.nil_subset _)

theorem touchesOnly_document (hkeeps : FileTree.KeepsDirectories tree replaced)
    (h : replaced.writeOutput faults plan.documentFile content = (tree', error?)) :
    TouchesOnly (job.touchedPlaces plan tree) plan.outputPaths replaced tree' := by
  have htouches := FileTree.touchesOnly_writeOutput h
  rw [hkeeps.target] at htouches
  exact htouches.mono (by simp [touchedPlaces]) (by simp [Plan.outputPaths])

/-! ## Whole jobs -/

theorem touchesOnly_write (hplan : job.plan tree = .ok plan) :
    TouchesOnly (job.touchedPlaces plan tree) plan.outputPaths tree (job.write faults tree).1 := by
  simp only [write, hplan]
  split
  · next hkeep => exact touchesOnly_keepCopy hkeep
  next kept hkeep =>
  have hkept := touchesOnly_keepCopy hkeep
  split
  · exact hkept
  split
  · next hreplace => exact hkept.trans (touchesOnly_replaceLog hkept.keepsDirectories hreplace)
  next replaced hreplace =>
  have hreplaced := hkept.trans (touchesOnly_replaceLog hkept.keepsDirectories hreplace)
  split
  · next hwrite => exact hreplaced.trans (touchesOnly_document hreplaced.keepsDirectories hwrite)
  · next hwrite => exact hreplaced.trans (touchesOnly_document hreplaced.keepsDirectories hwrite)

/-- A log that is not there is not read, and nothing is written for it. -/
theorem write_of_no_log (hplan : job.plan tree = .ok plan) (hcopy : plan.backupFile = none)
    (hlog : tree.node? (tree.target job.log) = none) : (job.write faults tree).1 = tree := by
  have hread : ∃ cause, readLog tree job.log = .error cause := by
    cases hlines : readLog tree job.log with
    | error cause => exact ⟨cause, rfl⟩
    | ok lines =>
      obtain ⟨content, hcontent, -⟩ := readLog_eq_ok hlines
      rw [FileTree.contentAt?, hlog] at hcontent
      cases hcontent
  obtain ⟨cause, hread⟩ := hread
  simp only [write, hplan, keepCopy_of_none hcopy, hread]

/-- Without a copy the place of the log stays as it is, if the document has another one. -/
theorem node?_log_of_write (hplan : job.plan tree = .ok plan) (hcopy : plan.backupFile = none)
    (hdocument : tree.target job.log ≠ tree.target plan.documentFile) :
    (job.write faults tree).1.node? (tree.target job.log) = tree.node? (tree.target job.log) := by
  cases hlog : tree.node? (tree.target job.log) with
  | none => rw [write_of_no_log hplan hcopy hlog, hlog]
  | some stored =>
    refine (touchesOnly_write hplan).node?_of_some ?_ hlog
    simp only [touchedPlaces, hcopy]
    simpa using hdocument

/-- A copy to which the path leads already stays. -/
theorem node_copy_of_contains (hplan : job.plan tree = .ok plan) (hcopy : plan.backupFile = some copy)
    (hdifferent : job.WritesDifferent plan tree) (hthere : tree.contains copy = true) :
    (job.write faults tree).1.node copy = tree.node copy := by
  obtain ⟨stored, hnode⟩ := FileTree.contains_iff.1 hthere
  obtain ⟨hlog, hbeside, hdocument⟩ := hdifferent.copy_ne hcopy
  rw [hnode]
  refine (touchesOnly_write hplan).keepsOutside.node ?_ hnode
  rw [touchedPlaces_of_some hcopy, if_pos hthere]
  simpa using ⟨hdocument, hlog, hbeside⟩

/-- Where the path of the copy led nowhere, a job that succeeds leaves the bytes of its log. -/
theorem node_copy_of_not_contains {draft : Draft} (hplan : job.plan tree = .ok plan)
    (hcopy : plan.backupFile = some copy) (hdifferent : job.WritesDifferent plan tree)
    (hthere : tree.contains copy = false) (hlog : tree.node job.log = .ok (.file content))
    (hdevice : ¬tree.HasDevice copy) (h : (job.write faults tree).2 = .ok draft) :
    (job.write faults tree).1.node copy = .ok (.file content) := by
  obtain ⟨kept, replaced, log, hsteps⟩ := write_eq_ok (Prod.ext rfl h)
  obtain rfl : draft.plan = plan := Except.ok.inj (hsteps.plan.symm.trans hplan)
  have hkeep := hsteps.keepCopy
  rw [keepCopy_of_some hcopy] at hkeep
  exact node_copy hkeep (keepsOutside_replaceLog_writeOutput hsteps.replaceLog hsteps.writeOutput) hlog hthere hdevice
    (by simpa using hdifferent.copy_ne hcopy)

/--
A job without commands, whether it succeeds or fails, and wherever the storage fails. A job without a plan changes nothing.
Any other job changes the places of its document and, if it keeps a copy of its log, of the log, beside the log and of a
copy to which the path does not lead yet; apart from these only directories are new, above the paths of the document and of
the copy as they are written. If all these places are different, then a log of which no copy is kept stays, and so does a
copy to which the path leads; but if the path does not lead there, a job that succeeds replaces whatever stood at its
place.
-/
theorem touched_places (job : Job) (machine : Machine) (faults : Faults) (tree : FileTree)
    (hno : job.noExecute = true) :
    let run := job.run machine faults tree
    (∀ error, job.plan tree = .error error → run.tree = tree) ∧
      ∀ plan, job.plan tree = .ok plan →
        TouchesOnly (job.touchedPlaces plan tree) plan.outputPaths tree run.tree ∧
          (job.WritesDifferent plan tree →
            (plan.backupFile = none → run.tree.node? (tree.target job.log) = tree.node? (tree.target job.log)) ∧
            ∀ copy ∈ plan.backupFile,
              (tree.contains copy = true → run.tree.node copy = tree.node copy) ∧
              (tree.contains copy = false → ¬tree.HasDevice copy → ∀ content summary,
                tree.node job.log = .ok (.file content) → run.result = .ok summary →
                  run.tree.node copy = .ok (.file content))) := by
  intro run
  have hrun : run.tree = (job.write faults tree).1 := run_tree hno
  rw [hrun]
  refine ⟨fun error hplan => by simp only [write, hplan], fun plan hplan => ⟨touchesOnly_write hplan,
    fun hdifferent => ⟨fun hcopy => node?_log_of_write hplan hcopy hdifferent.document_ne.1, fun copy hcopy =>
      ⟨node_copy_of_contains hplan hcopy hdifferent, fun hthere hdevice content summary hlog hresult => ?_⟩⟩⟩⟩
  obtain ⟨draft, hdraft, -⟩ := run_eq_ok_of_noExecute hno hresult
  exact node_copy_of_not_contains hplan hcopy hdifferent hthere hlog hdevice (congrArg Prod.snd hdraft)

/-- A job that makes directories for its document, and finds a copy of its log, changes the log and what is beside it. -/
theorem touched_places_beside_copy :
    let config := ["\x7b\"translations\":[", "\x7b\"patterns\":[\"h\"],", "\"print\":\"P\"\x7d],",
      "\"translation_file\":\"d/e/o\",", "\"backup_file\":\"k\"", "\x7d"]
    let tree := (smallTree ["h"] config).set [['k']] (.file (bytesOf ["first"]))
    let run := small.run idle .none tree
    small.noExecute = true ∧ run.result.toOption.isSome ∧
      (∃ plan, small.plan tree = .ok plan ∧ small.WritesDifferent plan tree ∧
        TouchesOnly (small.touchedPlaces plan tree) plan.outputPaths tree run.tree) ∧
      run.tree.node ['k'] = .ok (.file (bytesOf ["first"])) ∧ run.tree.node "d/e/o".toList = .ok (.file (bytesOf ["P"])) := by
  intro config tree run
  have hfacts : ∀ plan ∈ (small.plan tree).toOption, small.WritesDifferent plan tree ∧ plan.backupFile = some ['k'] := by
    decide +kernel
  obtain ⟨plan, hplan⟩ : ∃ plan, small.plan tree = .ok plan := exists_eq_ok_of_isSome (by decide +kernel)
  obtain ⟨hdifferent, hcopy⟩ := hfacts plan (mem_toOption_plan.2 hplan)
  obtain ⟨-, htouched⟩ := touched_places small idle .none tree rfl
  obtain ⟨htouches, hkept⟩ := htouched plan hplan
  have hthere : tree.contains ['k'] = true := by decide +kernel
  have hfirst : tree.node ['k'] = .ok (.file (bytesOf ["first"])) := by decide +kernel
  have hsame := ((hkept hdifferent).2 ['k'] hcopy).1 hthere
  exact ⟨rfl, by decide +kernel, ⟨plan, hplan, hdifferent, htouches⟩, hsame.trans hfirst, by decide +kernel⟩

/--
A copy that stands at its place since an earlier run is replaced, although all files have different places: its path leads
over a directory that is made for it only now.
-/
theorem touched_places_replaces_copy :
    let config := ["\x7b\"translations\":[", "\x7b\"patterns\":[\"h\"],", "\"print\":\"P\"\x7d],",
      "\"translation_file\":\"o\",", "\"backup_file\":\"b/../k\"", "\x7d"]
    let tree := (smallTree ["h"] config).set [['k']] (.file (bytesOf ["first"]))
    let run := small.run idle .none tree
    (∀ plan ∈ (small.plan tree).toOption, small.WritesDifferent plan tree ∧ plan.backupFile = some "b/../k".toList) ∧
      run.result.toOption.isSome ∧ tree.target "b/../k".toList = tree.target ['k'] ∧
      tree.node ['k'] = .ok (.file (bytesOf ["first"])) ∧ run.tree.node ['k'] = .ok (.file (bytesOf ["h"])) := by
  decide +kernel

end LogDiagram.Job
