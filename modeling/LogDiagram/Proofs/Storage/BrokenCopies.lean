import LogDiagram.Proofs.Storage.Failing

/-!
# Copies that break off

The backup of a log fails because the directory around the copy cannot be made, because the copy cannot be opened, or
because the storage fails when some bytes of it are written. Nothing takes back what was done until then.

* `not_contains_of_makeParent`: where the directory around a path cannot be made, the path leads nowhere afterwards;
* `Remains`: what a backup that failed leaves at the path of its copy (`remains_of_backup_eq_some`).
-/

namespace LogDiagram.FileTree

variable {tree tree' left : FileTree} {path log copy source : Path} {content : Bytes} {faults : Faults}

/-! ## Directories that cannot be made -/

/-- A directory that cannot be made is not there. -/
theorem node_ne_of_makeDirectoryUnlessThere {cause : OsError} (h : tree.makeDirectoryUnlessThere path = .error cause) :
    tree.node path ≠ .ok .directory := by
  intro hnode
  obtain ⟨hlocate, hdirectory⟩ := node_eq_ok hnode
  have hmake : tree.makeDirectory path = .error .exists := by
    rw [makeDirectory, hlocate]
    simp only [bind, Except.bind, hdirectory, Option.isSome_some, Bool.or_true, if_true]
    rfl
  have hthere : tree.hasDirectory path = true := by rw [hasDirectory, hnode]; rfl
  simp only [makeDirectoryUnlessThere, hmake, hthere, and_self, if_true] at h
  cases h

/-- A chain of directories that breaks off does not reach its innermost one, if it does not when it breaks off above. -/
theorem node_ne_of_makeChain_cons {above : List Path} {cause : OsError}
    (habove : ∀ left cause, tree.makeChain above = (left, some cause) → left.node path ≠ .ok .directory)
    (h : tree.makeChain (path :: above) = (left, some cause)) : left.node path ≠ .ok .directory := by
  rw [makeChain] at h
  split at h
  · cases h
  · split at h
    · next hchain => exact (Prod.mk.inj h).1 ▸ habove _ _ hchain
    · split at h
      · cases h
      · next hmake => exact (Prod.mk.inj h).1 ▸ node_ne_of_makeDirectoryUnlessThere hmake
  · next hmake => exact (Prod.mk.inj h).1 ▸ node_ne_of_makeDirectoryUnlessThere hmake

theorem node_ne_of_makeChain {cause : OsError} (fuel : Nat)
    (h : tree.makeChain (path :: ancestors fuel path) = (left, some cause)) : left.node path ≠ .ok .directory := by
  induction fuel generalizing path left cause with
  | zero => exact node_ne_of_makeChain_cons (fun _ _ hnone => by cases hnone) h
  | succ fuel ih =>
    refine node_ne_of_makeChain_cons (fun broken cause hchain hnode => ?_) h
    -- when the chain breaks off above, the directory around is not there
    rw [ancestors] at hchain
    split at hchain
    · cases hchain
    · cases hchain
    next parent hne hparent =>
    split at hchain
    · cases hchain
    exact ih hchain (node_parent (node_eq_ok hnode).1 hparent hne)

theorem not_contains_of_makeParent {error : OutputError} (h : tree.makeParent path = (left, some error)) :
    left.contains path = false := by
  rw [makeParent] at h
  split at h
  · cases h
  · cases h
  next parent hne hparent =>
  split at h
  · cases h
  split at h
  · next hmade =>
    rw [Bool.eq_false_iff]
    intro hthere
    obtain ⟨stored, hnode⟩ := contains_iff.1 hthere
    rw [← (Prod.mk.inj h).1] at hnode
    exact node_ne_of_makeChain _ hmade (node_parent (node_eq_ok hnode).1 hparent hne)
  · cases h

/-! ## What remains -/

/-- What is found at the path of a copy, where nothing was found before, when the backup of its log has failed. -/
inductive Remains (faults : Faults) (tree : FileTree) (copy : Path) (content : Bytes) (left : FileTree) : Prop
  | nothing : left.contains copy = false → Remains faults tree copy content left
  /-- A directory, or what stood at the place before: the path leads there now that the directories on it are made. -/
  | blocked (stored : Node) : left.node copy = .ok stored →
    stored = .directory ∨ tree.node? (tree.target copy) = some stored → Remains faults tree copy content left
  /-- The first bytes of the log; the storage failed when they were written. -/
  | brokenOff (size : Nat) (cause : OsError) : faults.copy = some (size, cause) →
    left.node copy = .ok (if tree.HasDevice copy then .device else .file (content.take size)) →
    Remains faults tree copy content left

theorem remains_of_backup_eq_some {error : OutputError} (hne : tree.target copy ≠ tree.target log)
    (hlog : tree.node log = .ok (.file content)) (h : tree.backup faults log copy = (left, some error)) :
    Remains faults tree copy content left := by
  have hgrows := grows_makeParent tree copy
  rw [backup] at h
  split at h
  · cases h
  split at h
  · next hmade =>
    rw [← (Prod.mk.inj h).1]
    exact .nothing (not_contains_of_makeParent hmade)
  next grown hmade =>
  rw [hmade] at hgrows
  have htarget := hgrows.keepsDirectories.target
  split at h
  · next hcopy =>
    rw [← (Prod.mk.inj h).1]
    rcases copy_eq_some (by rw [htarget, htarget]; exact hne) hcopy with ⟨rfl, -⟩ |
      ⟨size, original, hfault, horiginal, -, hnode⟩
    · -- the copy was not opened: the path leads to what the grown tree has there
      cases hthere : FileTree.contains _ copy with
      | false => exact .nothing hthere
      | true =>
        obtain ⟨stored, hnode⟩ := contains_iff.1 hthere
        have hstored := (node_eq_ok hnode).2
        rw [htarget] at hstored
        refine .blocked stored hnode ?_
        rcases hgrows.node? (tree.target copy) with hsame | ⟨-, hnew⟩
        · exact .inr (hsame ▸ hstored)
        · exact .inl (Option.some.inj (hstored.symm.trans hnew))
    · have hread : grown.node log = .ok (.file content) := hgrows.keepsOutside.node List.not_mem_nil hlog
      rw [hread, Except.ok.injEq, Node.file.injEq] at horiginal
      simp only [hgrows.hasDevice_iff, ← horiginal] at hnode
      exact .brokenOff size _ hfault hnode
  · cases h

end LogDiagram.FileTree
