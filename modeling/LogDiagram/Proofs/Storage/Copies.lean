import LogDiagram.Storage.Output
import LogDiagram.Proofs.Storage.Places

/-!
# Copies and written files

What the writing steps of a job leave of the files that were there before.

* `grows_makeParent`: making the directory around a path adds directories and nothing else;
* `contentAt?_backup`: after a copy the log still has its bytes, unless it was copied onto itself
  (`FileTree.CopiesOntoItself`): then it is empty;
* `read_writeOutput`: a document that was written is read back; only of a device nothing is.
-/

namespace LogDiagram.FileTree

variable {tree tree' : FileTree} {path log copy : Path} {faults : Faults} {content : Bytes}

theorem grows_makeParent (tree : FileTree) (path : Path) : Grows tree (tree.makeParent path).1 := by
  rw [makeParent]
  split
  · exact Grows.refl tree
  · exact Grows.refl tree
  · next parent _ _ =>
    split
    · exact Grows.refl tree
    · have hgrows := grows_makeChain tree (parent :: ancestors parent.length parent)
      rw [makeDirectories]
      split
      · next hchain => rw [hchain] at hgrows; exact hgrows
      · next hchain => rw [hchain] at hgrows; exact hgrows

/-- A write that does not break off is a write. -/
theorem writeUntil_eq_none {fault : Option (Nat × OsError)} (h : tree.writeUntil fault path content = (tree', none)) :
    tree.write path content = .ok tree' := by
  rw [writeUntil] at h
  split at h
  · cases (Prod.mk.inj h).2
  · next written hwrite =>
    obtain ⟨rfl, hfault⟩ := Prod.mk.inj h
    obtain rfl := Option.map_eq_none_iff.1 hfault
    exact hwrite

/-- A log is copied onto itself: nothing stood at the path of the copy, and yet it leads to the log's own place. -/
def CopiesOntoItself (tree : FileTree) (log copy : Path) : Prop :=
  tree.contains copy = false ∧ tree.target copy = tree.target log

instance : Decidable (tree.CopiesOntoItself log copy) := inferInstanceAs (Decidable (_ ∧ _))

/-- What a copy that succeeds leaves. -/
theorem copy_eq_none {source : Path} (h : tree.copy faults source path = (tree', none)) :
    ∃ original opened written, tree.node? (tree.target source) = some (.file original) ∧
      tree.write path [] = .ok opened ∧ opened.readRegular source = .ok written ∧
      opened.write path written = .ok tree' := by
  rw [FileTree.copy] at h
  split at h
  · cases h
  · next original horiginal =>
    split at h
    · cases h
    · next opened hopened =>
      split at h
      · cases h
      · next written hwritten =>
        exact ⟨original, opened, written, readRegular_eq_ok horiginal, hopened, hwritten, writeUntil_eq_none h⟩

/-- A log that is copied to another place keeps its bytes; copied onto itself it loses them. -/
theorem contentAt?_copy {source : Path} (h : tree.copy faults source path = (tree', none)) :
    tree'.contentAt? (tree.target source) =
      if tree.target path = tree.target source then some [] else tree.contentAt? (tree.target source) := by
  obtain ⟨original, opened, written, horiginal, hopened, hwritten, hcopied⟩ := copy_eq_none h
  have hkeeps := keepsDirectories_write hopened
  have hnode := node?_write_target hcopied
  rw [hkeeps.target] at hnode
  split
  · next hsame =>
    have hempty := node?_write_target hopened
    have hread := readRegular_eq_ok hwritten
    rw [hsame, horiginal, if_neg (by simp)] at hempty
    rw [hkeeps.target, hempty, Option.some.injEq, Node.file.injEq] at hread
    rw [hsame, hempty, if_neg (by simp), ← hread] at hnode
    rw [contentAt?, hnode]
  · next hne =>
    have hother : tree.target source ≠ tree.target path := fun heq => hne heq.symm
    rw [contentAt?_congr (node?_write_of_ne hcopied (by rw [hkeeps.target]; exact hother)),
      contentAt?_congr (node?_write_of_ne hopened hother)]

theorem keepsDirectories_copy {source : Path} (h : tree.copy faults source path = (tree', none)) :
    KeepsDirectories tree tree' := by
  obtain ⟨original, opened, written, -, hopened, -, hcopied⟩ := copy_eq_none h
  exact (keepsDirectories_write hopened).trans (keepsDirectories_write hcopied)

/-- The backup of a log succeeds if something stands at its path already, or if a copy is made there. -/
theorem backup_eq_none (h : tree.backup faults log copy = (tree', none)) :
    tree.contains copy = true ∧ tree' = tree ∨
      tree.contains copy = false ∧ ∃ grown, Grows tree grown ∧ grown.copy faults log copy = (tree', none) := by
  rw [backup] at h
  cases hc : tree.contains copy with
  | true =>
    rw [hc, if_pos rfl] at h
    exact .inl ⟨rfl, (Prod.mk.inj h).1.symm⟩
  | false =>
    rw [hc, if_neg Bool.false_ne_true] at h
    have hgrows := grows_makeParent tree copy
    split at h
    · cases h
    · next grown hparent =>
      rw [hparent] at hgrows
      split at h
      · cases h
      · next copied hcopy =>
        obtain ⟨rfl, -⟩ := Prod.mk.inj h
        exact .inr ⟨rfl, grown, hgrows, hcopy⟩

theorem keepsDirectories_backup (h : tree.backup faults log copy = (tree', none)) : KeepsDirectories tree tree' := by
  rcases backup_eq_none h with ⟨-, rfl⟩ | ⟨-, grown, hgrows, hcopy⟩
  · exact (Grows.refl _).keepsDirectories
  · exact hgrows.keepsDirectories.trans (keepsDirectories_copy hcopy)

/-- A log that was copied onto itself had bytes. -/
theorem exists_contentAt?_of_copiesOntoItself (h : tree.backup faults log copy = (tree', none))
    (hself : tree.CopiesOntoItself log copy) : ∃ original, tree.contentAt? (tree.target log) = some original := by
  rcases backup_eq_none h with ⟨hc, -⟩ | ⟨-, grown, hgrows, hcopy⟩
  · rw [hself.1] at hc
    cases hc
  · obtain ⟨original, -, -, horiginal, -⟩ := copy_eq_none hcopy
    rw [hgrows.keepsDirectories.target] at horiginal
    exact ⟨original, by rw [contentAt?, hgrows.node?_of_ne horiginal (by simp)]⟩

/-- After its backup a log has the bytes that it had before, unless it was copied onto itself: then it has none. -/
theorem contentAt?_backup (h : tree.backup faults log copy = (tree', none)) :
    tree'.contentAt? (tree.target log) =
      if tree.CopiesOntoItself log copy then some [] else tree.contentAt? (tree.target log) := by
  rcases backup_eq_none h with ⟨hc, rfl⟩ | ⟨hc, grown, hgrows, hcopy⟩
  · rw [if_neg fun hself => by rw [hself.1] at hc; cases hc]
  · have hcontent := contentAt?_copy hcopy
    obtain ⟨original, -, -, horiginal, -⟩ := copy_eq_none hcopy
    rw [hgrows.keepsDirectories.target, hgrows.keepsDirectories.target] at hcontent
    rw [hgrows.keepsDirectories.target] at horiginal
    have hsame : grown.contentAt? (tree.target log) = tree.contentAt? (tree.target log) := by
      rw [contentAt?, contentAt?, horiginal, hgrows.node?_of_ne horiginal (by simp)]
    rw [hcontent, hsame]
    by_cases hself : tree.target copy = tree.target log
    · rw [if_pos hself, if_pos ⟨hc, hself⟩]
    · rw [if_neg hself, if_neg fun hcopies => hself hcopies.2]

/-- The steps of a document that is written. -/
theorem writeOutput_eq_none (h : tree.writeOutput faults path content = (tree', none)) :
    ∃ grown, tree.makeParent path = (grown, none) ∧ grown.write path content = .ok tree' := by
  rw [writeOutput] at h
  split at h
  · cases (Prod.mk.inj h).2
  · next grown hparent =>
    split at h
    · cases (Prod.mk.inj h).2
    · next hwrite =>
      obtain ⟨rfl, -⟩ := Prod.mk.inj h
      exact ⟨grown, hparent, writeUntil_eq_none hwrite⟩

/-- A document that was written is read back; only of a device nothing is. -/
theorem read_writeOutput (h : tree.writeOutput faults path content = (tree', none)) :
    tree'.read path = .ok (if tree'.HasDevice path then [] else content) := by
  obtain ⟨grown, -, hwrite⟩ := writeOutput_eq_none h
  exact read_of_write hwrite

end LogDiagram.FileTree
