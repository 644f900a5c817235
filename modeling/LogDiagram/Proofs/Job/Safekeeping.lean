import LogDiagram.Proofs.Job.Steps
import LogDiagram.Proofs.Storage.Changes

/-!
# What becomes of the original log

A job copies its log, replaces it by way of the file beside it, and writes its document. The paths of the copy and of
the document are configured, and may lead to one place, to the log or to the file beside it.

* `Plan.Endangers`: the plans whose copy or document gets in the way of the original;
* `KeepsOriginal`: the bytes of the log are found at its path or at that of the copy;
* `Steps.node?_eq_file`: each file that a job leaves is its document, the new content of its log, or was there when the
  copy was kept;
* `original_kept`: under every other plan the original is kept, wherever the job fails; under these plans a job that
  succeeds loses it, unless it wrote the very same bytes (`original_lost`).
-/

namespace LogDiagram.Job

variable {job : Job} {machine : Machine} {faults : Faults} {tree tree' kept replaced : FileTree} {plan : Plan} {draft : Draft}
  {content : Bytes} {log : List Text} {place : Place}

/--
The copy of the log is made onto the log, beside it where its new content is gathered, where the document is written, or
onto a device; or no copy is made, and the document is written over the log.
-/
def Plan.Endangers (plan : Plan) (log : Path) (tree : FileTree) : Prop :=
  plan.backupFile = none ∧ tree.target plan.documentFile = tree.target log ∨
    ∃ copy ∈ plan.backupFile,
      tree.target copy ∈ [tree.target log, tree.target log.trimPath, tree.target plan.documentFile] ∨ tree.HasDevice copy

instance : Decidable (plan.Endangers job.log tree) := inferInstanceAs (Decidable (_ ∨ _))

/-- A job whose plan endangers the original. -/
def EndangersOriginal (job : Job) (tree : FileTree) : Prop :=
  ∃ plan ∈ (job.plan tree).toOption, plan.Endangers job.log tree

instance : Decidable (job.EndangersOriginal tree) := inferInstanceAs (Decidable (∃ plan ∈ _, _))

/-- The given bytes are found at the path of the log or at that of its copy. -/
def KeepsOriginal (job : Job) (tree : FileTree) (content : Bytes) (tree' : FileTree) : Prop :=
  tree'.node job.log = .ok (.file content) ∨
    ∃ plan ∈ (job.plan tree).toOption, ∃ copy ∈ plan.backupFile, tree'.node copy = .ok (.file content)

instance : Decidable (job.KeepsOriginal tree content tree') := inferInstanceAs (Decidable (_ ∨ ∃ plan ∈ _, _))

/-! ## The trees between the steps -/

theorem keepsOutside_replaceLog {lines : List Text} (h : job.replaceLog faults plan lines tree = (tree', none)) :
    FileTree.KeepsOutside [tree.target job.log.trimPath, tree.target job.log] tree tree' := by
  cases hcopy : plan.backupFile with
  | none =>
    rw [replaceLog_of_none hcopy] at h
    obtain ⟨rfl, -⟩ := Prod.mk.inj h
    exact .refl _ tree
  | some copy =>
    rw [replaceLog_of_some hcopy] at h
    exact FileTree.keepsOutside_replaceContent h

/-- Once its copy is kept, a job changes the places of the log, beside it and of the document, also when it fails. -/
theorem keepsOutside_replaceLog_writeOutput {lines : List Text} {error? : Option OutputError}
    (hreplace : job.replaceLog faults plan lines kept = (replaced, none))
    (hwrite : replaced.writeOutput faults plan.documentFile content = (tree', error?)) :
    FileTree.KeepsOutside [kept.target job.log, kept.target job.log.trimPath, kept.target plan.documentFile] kept tree' := by
  have hreplaced := keepsOutside_replaceLog hreplace
  have hwritten := FileTree.keepsOutside_writeOutput hwrite
  rw [hreplaced.keepsDirectories.target] at hwritten
  exact (hreplaced.mono (by simp)).trans (hwritten.mono (by simp))

/-- A copy out of the way of the job has the bytes of the log once it is made, and in the end. -/
theorem node_copy {copy : Path} (hkept : tree.backup faults job.log copy = (kept, none))
    (hkeeps : FileTree.KeepsOutside [kept.target job.log, kept.target job.log.trimPath, kept.target plan.documentFile]
      kept tree')
    (hlog : tree.node job.log = .ok (.file content)) (hfree : tree.contains copy = false)
    (hdevice : ¬tree.HasDevice copy)
    (hway : tree.target copy ∉ [tree.target job.log, tree.target job.log.trimPath, tree.target plan.documentFile]) :
    tree'.node copy = .ok (.file content) := by
  have htarget := (FileTree.keepsOutside_backup hkept).keepsDirectories.target
  have hnotlog : tree.target copy ≠ tree.target job.log := fun heq => hway (heq ▸ List.mem_cons_self)
  refine hkeeps.node ?_ (FileTree.node_backup hkept hfree hnotlog hdevice hlog)
  rw [htarget, htarget, htarget, htarget]
  exact hway

/-! ## The original -/

/-- A job that keeps no copy changes nothing but the place of its document. -/
theorem keepsOutside_write_of_none (hplan : job.plan tree = .ok plan) (hcopy : plan.backupFile = none) :
    FileTree.KeepsOutside [tree.target plan.documentFile] tree (job.write faults tree).1 := by
  simp only [write, hplan, keepCopy_of_none hcopy]
  split
  · exact .refl _ tree
  · simp only [replaceLog_of_none hcopy]
    split
    · next hwrite => exact FileTree.keepsOutside_writeOutput hwrite
    · next hwrite => exact FileTree.keepsOutside_writeOutput hwrite

/-- A plan that does not endanger the original has it kept, wherever the job fails. -/
theorem keepsOriginal_write (hplan : job.plan tree = .ok plan) (hlog : tree.node job.log = .ok (.file content))
    (hfree : ∀ copy ∈ plan.backupFile, tree.contains copy = false) (hsafe : ¬plan.Endangers job.log tree) :
    (job.write faults tree).1.node job.log = .ok (.file content) ∨
      ∃ copy ∈ plan.backupFile, (job.write faults tree).1.node copy = .ok (.file content) := by
  cases hcopy : plan.backupFile with
  | none =>
    have hdocument : tree.target job.log ≠ tree.target plan.documentFile := fun heq => hsafe (.inl ⟨hcopy, heq.symm⟩)
    exact .inl ((keepsOutside_write_of_none hplan hcopy).node (by simpa using hdocument) hlog)
  | some copy =>
    have hdevice : ¬tree.HasDevice copy := fun hdev => hsafe (.inr ⟨copy, hcopy, .inr hdev⟩)
    have hway : tree.target copy ∉ [tree.target job.log, tree.target job.log.trimPath, tree.target plan.documentFile] :=
      fun hin => hsafe (.inr ⟨copy, hcopy, .inl hin⟩)
    have hnotcopy : tree.target job.log ∉ [tree.target copy] := fun hin => hway (by simp [List.mem_singleton.1 hin])
    simp only [write, hplan, keepCopy_of_some hcopy]
    split
    · next hfailed => exact .inl ((FileTree.keepsOutside_backup hfailed).node hnotcopy hlog)
    next kept hkept =>
    have hlogkept : kept.node job.log = .ok (.file content) := (FileTree.keepsOutside_backup hkept).node hnotcopy hlog
    split
    · exact .inl hlogkept
    split
    · next hfailed =>
      rw [replaceLog_of_some hcopy] at hfailed
      have hbeside : kept.target job.log ∉ [kept.target job.log.trimPath] := by
        simpa using Ne.symm (FileTree.target_trimPath_ne kept job.log)
      exact .inl ((FileTree.keepsOutside_replaceContent_of_eq_some hfailed).node hbeside hlogkept)
    next replaced hreplaced =>
    split
    · next hwrite =>
      exact .inr ⟨copy, rfl, node_copy hkept (keepsOutside_replaceLog_writeOutput hreplaced hwrite) hlog
        (hfree copy hcopy) hdevice hway⟩
    · next hwrite =>
      exact .inr ⟨copy, rfl, node_copy hkept (keepsOutside_replaceLog_writeOutput hreplaced hwrite) hlog
        (hfree copy hcopy) hdevice hway⟩

/-! ## A plan that gets in the way -/

/-- All steps of a job follow its paths to the same places. -/
theorem Steps.target (h : Steps job faults tree draft kept replaced tree' log) (path : Path) :
    kept.target path = tree.target path ∧ replaced.target path = tree.target path ∧
      tree'.target path = tree.target path := by
  have hkept := (keepsDirectories_keepCopy h.keepCopy).target path
  have hreplaced := (keepsOutside_replaceLog h.replaceLog).keepsDirectories.target path
  have hwritten := (FileTree.keepsOutside_writeOutput h.writeOutput).keepsDirectories.target path
  exact ⟨hkept, hreplaced.trans hkept, hwritten.trans (hreplaced.trans hkept)⟩

/--
A file that a job leaves is its document or the new content of its log; if not, it was there when the copy was kept, and
stands neither at the place of the document nor, if a copy is kept, at the log or beside it.
-/
theorem Steps.node?_eq_file (h : Steps job faults tree draft kept replaced tree' log)
    (hnode : tree'.node? place = some (.file content)) :
    content = Bytes.ofText draft.product.document.text ∨ content = Bytes.ofText (Text.ofLines draft.product.trimmed) ∨
      place ≠ tree.target draft.plan.documentFile ∧ kept.node? place = some (.file content) ∧
        (draft.plan.backupFile ≠ none → place ∉ [tree.target job.log, tree.target job.log.trimPath]) := by
  obtain ⟨-, hdocument, -⟩ := h.target draft.plan.documentFile
  obtain ⟨hlog, -, -⟩ := h.target job.log
  obtain ⟨hbeside, -, -⟩ := h.target job.log.trimPath
  rcases FileTree.node?_of_writeOutput h.writeOutput hnode with ⟨-, hcontent⟩ | ⟨hplace, hreplaced⟩
  · exact .inl hcontent
  rw [hdocument] at hplace
  have hreplace := h.replaceLog
  cases hcopy : draft.plan.backupFile with
  | none =>
    rw [replaceLog_of_none hcopy] at hreplace
    obtain ⟨rfl, -⟩ := Prod.mk.inj hreplace
    exact .inr (.inr ⟨hplace, hreplaced, fun hsome => absurd rfl hsome⟩)
  | some copy =>
  rw [replaceLog_of_some hcopy] at hreplace
  rw [FileTree.node?_replaceContent hreplace, hlog, hbeside] at hreplaced
  split at hreplaced
  · right; left
    rw [Option.some.injEq] at hreplaced
    split at hreplaced
    · cases hreplaced
    · exact (Node.file.inj hreplaced).symm
  · next hlogplace =>
    split at hreplaced
    · cases hreplaced
    · next hbesideplace => exact .inr (.inr ⟨hplace, hreplaced, fun _ => by simp [hlogplace, hbesideplace]⟩)

/-- A job that succeeds by a plan that endangers the original leaves only what it wrote itself. -/
theorem Steps.eq_written_of_endangers (h : Steps job faults tree draft kept replaced tree' log)
    (hdanger : draft.plan.Endangers job.log tree)
    (hfound : tree'.node job.log = .ok (.file content) ∨
      ∃ copy ∈ draft.plan.backupFile, tree'.node copy = .ok (.file content)) :
    content = Bytes.ofText draft.product.document.text ∨
      content = Bytes.ofText (Text.ofLines draft.product.trimmed) := by
  rcases hfound with hfound | ⟨copy, hcopy, hfound⟩
  · have hnode := (FileTree.node_eq_ok hfound).2
    rw [(h.target job.log).2.2] at hnode
    rcases h.node?_eq_file hnode with hcontent | hcontent | ⟨hdocument, -, hplaces⟩
    · exact .inl hcontent
    · exact .inr hcontent
    · rcases hdanger with ⟨-, hsame⟩ | ⟨copy, hcopy, -⟩
      · exact absurd hsame.symm hdocument
      · exact absurd List.mem_cons_self (hplaces (by rw [Option.mem_def.1 hcopy]; simp))
  · have hnode := (FileTree.node_eq_ok hfound).2
    rw [(h.target copy).2.2] at hnode
    rcases h.node?_eq_file hnode with hcontent | hcontent | ⟨hdocument, hkept, hplaces⟩
    · exact .inl hcontent
    · exact .inr hcontent
    · have hout := hplaces (by rw [Option.mem_def.1 hcopy]; simp)
      rcases hdanger with ⟨hnone, -⟩ | ⟨copy', hcopy', hway⟩
      · rw [Option.mem_def.1 hcopy] at hnone
        cases hnone
      obtain rfl := Option.mem_unique hcopy hcopy'
      rcases hway with hin | hdevice
      · simp only [List.mem_cons, List.not_mem_nil, or_false] at hin hout
        rcases hin with hin | hin | hin
        · exact absurd (.inl hin) hout
        · exact absurd (.inr hin) hout
        · exact absurd hin hdocument
      · have hkeep := h.keepCopy
        rw [keepCopy_of_some hcopy] at hkeep
        have hdevice := (FileTree.hasDevice_backup_iff hkeep).2 hdevice
        rw [FileTree.HasDevice, (h.target copy).1, hkept] at hdevice
        cases hdevice

theorem mem_toOption_plan : plan ∈ (job.plan tree).toOption ↔ job.plan tree = .ok plan := by
  cases job.plan tree <;> simp [Except.toOption]

/--
A log of which no copy is there yet is kept by a job without commands, be it at its own path or at that of the copy,
whether the job succeeds or fails, and wherever the storage fails, unless the plan endangers the original. A job that
succeeds by a plan that endangers it loses the original, unless the same bytes were written by the job itself.
-/
theorem original_kept (hno : job.noExecute = true) (hlog : tree.node job.log = .ok (.file content))
    (hfree : ∀ plan ∈ (job.plan tree).toOption, ∀ copy ∈ plan.backupFile, tree.contains copy = false) :
    (¬job.EndangersOriginal tree → job.KeepsOriginal tree content (job.run machine faults tree).tree) ∧
      ∀ draft, (job.write faults tree).2 = .ok draft → job.EndangersOriginal tree →
        job.KeepsOriginal tree content (job.run machine faults tree).tree →
          content = Bytes.ofText draft.product.document.text ∨
            content = Bytes.ofText (Text.ofLines draft.product.trimmed) := by
  rw [run_tree hno]
  constructor
  · intro hsafe
    cases hplan : job.plan tree with
    | error error =>
      left
      rw [write, hplan]
      exact hlog
    | ok plan =>
      have hmem : plan ∈ (job.plan tree).toOption := mem_toOption_plan.2 hplan
      rcases keepsOriginal_write hplan hlog (hfree plan hmem) fun hdanger => hsafe ⟨plan, hmem, hdanger⟩ with
        hkept | ⟨copy, hcopy, hkept⟩
      · exact .inl hkept
      · exact .inr ⟨plan, hmem, copy, hcopy, hkept⟩
  · rintro draft hdraft ⟨plan, hplan, hdanger⟩ hfound
    obtain ⟨kept, replaced, log, hsteps⟩ := write_eq_ok (Prod.ext rfl hdraft)
    have hunique : ∀ plan ∈ (job.plan tree).toOption, plan = draft.plan := fun plan hmem =>
      Option.mem_unique hmem (mem_toOption_plan.2 hsteps.plan)
    rw [hunique plan hplan] at hdanger
    refine hsteps.eq_written_of_endangers hdanger ?_
    rcases hfound with hfound | ⟨plan', hplan', hfound⟩
    · exact .inl hfound
    · rw [hunique plan' hplan'] at hfound
      exact .inr hfound

/-- A copy beside the log outlives a job that succeeds, and one whose storage is full while the log is replaced. -/
theorem original_kept_of_full_storage :
    let config := ["\x7b\"translations\":[", "\x7b\"patterns\":[\"h\"],", "\"print\":\"P\"\x7d],",
      "\"delete_lines\":[\"a\"],", "\"translation_file\":\"o\",", "\"backup_file\":\"b\"", "\x7d"]
    let tree := smallTree ["a", "h"] config
    let full : Faults := { Faults.none with write := some (1, .other "No space left on device".toList) }
    tree.node small.log = .ok (.file (bytesOf ["a", "h"])) ∧ ¬small.EndangersOriginal tree ∧
      (small.run idle .none tree).result.toOption.isSome ∧ (small.run idle full tree).result.toOption = none ∧
      ∀ faults ∈ [.none, full], small.KeepsOriginal tree (bytesOf ["a", "h"]) (small.run idle faults tree).tree := by
  intro config tree full
  have hlog : tree.node small.log = .ok (.file (bytesOf ["a", "h"])) := by decide +kernel
  have hfree : ∀ plan ∈ (small.plan tree).toOption, ∀ copy ∈ plan.backupFile, tree.contains copy = false := by
    decide +kernel
  have hsafe : ¬small.EndangersOriginal tree := by decide +kernel
  refine ⟨hlog, hsafe, by decide +kernel, by decide +kernel, fun faults _ => ?_⟩
  exact (original_kept rfl hlog hfree).1 hsafe

/--
Four plans that endanger the original, and lose it: with the copy beside the log where its new content is gathered, at
the place of the document, and on a way that leads to the log itself once it is there; and with a document over the log.
-/
theorem original_lost :
    let config := fun paths => ["\x7b\"translations\":[", "\x7b\"patterns\":[\"h\"],", "\"print\":\"P\"\x7d],",
      "\"delete_lines\":[\"a\"],", paths, "\x7d"]
    ∀ paths ∈ ["\"translation_file\":\"o\",\"backup_file\":\"x.trim.log\"",
        "\"translation_file\":\"o\",\"backup_file\":\"o\"",
        "\"translation_file\":\"o\",\"backup_file\":\"b/../x\"", "\"translation_file\":\"x\""],
      let tree := smallTree ["a", "h"] (config paths)
      let run := small.run idle .none tree
      tree.node small.log = .ok (.file (bytesOf ["a", "h"])) ∧
        (∀ plan ∈ (small.plan tree).toOption, ∀ copy ∈ plan.backupFile, tree.contains copy = false) ∧
        run.result.toOption.isSome ∧ ¬small.KeepsOriginal tree (bytesOf ["a", "h"]) run.tree := by
  decide +kernel

end LogDiagram.Job
