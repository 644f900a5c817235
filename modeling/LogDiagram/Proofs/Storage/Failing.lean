import LogDiagram.Proofs.Storage.Rewriting

/-!
# What failing steps leave

Each statement says what a step leaves at each place of the tree, whether it succeeds or fails. A storage may fail when
some bytes of a copy are written; on one without failures of its own a step fails only for what stands in its way.

* `copy_eq_some`: what a copy that fails leaves, on every storage;
* `Backed`: what the backup of a log may change at a place, on a storage without failures (`backed_backup`). A directory is
  made on the way of the copy, or the whole copy is made;
* `sameFiles_of_replaceContent_eq_some`, `node?_replaceContent_of_eq_some`: a replacement that fails, on every storage,
  changes at most the place beside the log, where it leaves no new file.
-/

namespace LogDiagram.FileTree

variable {tree tree' : FileTree} {path log copy source : Path} {place : Place} {content : Bytes}
  {faults : Faults}

/-! ## Single operations -/

/-- What is copied is a file. -/
theorem readRegular_eq_ok_iff : tree.readRegular path = .ok content ↔ tree.node path = .ok (.file content) := by
  rw [readRegular, bind_eq_ok_iff]
  constructor
  · rintro ⟨node, hnode, h⟩
    cases node with
    | file stored => rw [hnode, Except.ok.inj h]
    | directory => cases h
    | device => cases h
  · exact fun hnode => ⟨.file content, hnode, rfl⟩

/-- Where a file was written, another content can be written. -/
theorem exists_write_of_write (h : tree.write path content = .ok tree') (new : Bytes) :
    ∃ tree'', tree'.write path new = .ok tree'' := by
  obtain ⟨hlocate, hdots, hslash, -, -⟩ := write_eq_ok_iff.1 h
  have hkeeps := keepsDirectories_write h
  have hfile : tree'.node? (tree'.target path) ≠ some .directory := by
    rw [hkeeps.target, node?_write_target h]
    split <;> simp
  have hwalk : tree'.locate path = .ok (tree'.target path) := by
    rw [hkeeps.target]
    exact hkeeps.locate hlocate
  exact ⟨_, write_eq_ok_iff.2 ⟨hwalk, hdots, hslash, hfile, rfl⟩⟩

/-- A file that was written can be removed. -/
theorem remove_of_write (h : tree.write path content = .ok tree') :
    tree'.remove path = .ok (tree'.erase (tree.target path)) := by
  obtain ⟨hlocate, hdots, hslash, -, -⟩ := write_eq_ok_iff.1 h
  have hwalk := (keepsDirectories_write h).locate hlocate
  have hnode := node?_write_target h
  rw [remove, hwalk]
  simp only [bind, Except.bind, hdots, hnode, hslash]
  by_cases hdevice : tree.node? (tree.target path) = some .device
  · rw [if_pos hdevice]
    rfl
  · rw [if_neg hdevice]
    rfl

/-- The directory around a path is made of new directories on the way of the path. -/
theorem node?_makeParent_cases (tree : FileTree) (path : Path) (place : Place) :
    (tree.makeParent path).1.node? place = tree.node? place ∨
      place ∈ tree.way path ∧ tree.node? place = none ∧
        (tree.makeParent path).1.node? place = some .directory := by
  by_cases hway : place ∈ tree.way path
  · rcases (grows_makeParent tree path).node? place with hsame | ⟨hfree, hnew⟩
    · exact .inl hsame
    · exact .inr ⟨hway, hfree, hnew⟩
  · exact .inl (node?_makeParent hway)

/-! ## What a failure says -/

theorem makeParent_eq_some {error : OutputError} (h : tree.makeParent path = (tree', some error)) :
    ∃ directory cause, error = .createDirectory directory cause := by
  rw [makeParent] at h
  split at h
  · cases h
  · cases h
  next parent _ _ =>
  split at h
  · cases h
  split at h
  · next made cause _ => exact ⟨parent, cause, (Option.some.inj (Prod.mk.inj h).2).symm⟩
  · cases h

/-- A backup fails for the directory of the copy or for the copy. -/
theorem backup_eq_some {error : OutputError} (h : tree.backup faults log copy = (tree', some error)) :
    (∃ directory cause, error = .createDirectory directory cause) ∨ ∃ cause, error = .backup log copy cause := by
  rw [backup] at h
  split at h
  · cases h
  split at h
  · next hmade =>
    obtain ⟨rfl, herror⟩ := Prod.mk.inj h
    obtain rfl := Option.some.inj herror
    exact .inl (makeParent_eq_some hmade)
  split at h
  · next cause _ => exact .inr ⟨cause, (Option.some.inj (Prod.mk.inj h).2).symm⟩
  · cases h

theorem replaceContent_eq_some {error : OutputError}
    (h : tree.replaceContent faults path content = (tree', some error)) : ∃ cause, error = .replace path cause := by
  rw [replaceContent] at h
  split at h
  · cases h
  · next cause _ => exact ⟨cause, (Option.some.inj (Prod.mk.inj h).2).symm⟩

/-- A document fails for its directory or for itself. -/
theorem writeOutput_eq_some {error : OutputError} (h : tree.writeOutput faults path content = (tree', some error)) :
    (∃ directory cause, error = .createDirectory directory cause) ∨ ∃ cause, error = .write path cause := by
  rw [writeOutput] at h
  split at h
  · next hmade =>
    obtain ⟨rfl, herror⟩ := Prod.mk.inj h
    obtain rfl := Option.some.inj herror
    exact .inl (makeParent_eq_some hmade)
  split at h
  · next cause _ => exact .inr ⟨cause, (Option.some.inj (Prod.mk.inj h).2).symm⟩
  · cases h

/-! ## Copies -/

/-- A copy to another place fails before it is opened, or when the storage fails: then it has the first bytes. -/
theorem copy_eq_some {cause : OsError} (hne : tree.target path ≠ tree.target source)
    (h : tree.copy faults source path = (tree', some cause)) :
    tree' = tree ∧ (tree.readRegular source = .error cause ∨ tree.write path [] = .error cause) ∨
      ∃ size original, faults.copy = some (size, cause) ∧ tree.node source = .ok (.file original) ∧
        KeepsOutside [tree.target path] tree tree' ∧
        tree'.node path = .ok (if tree.HasDevice path then .device else .file (original.take size)) := by
  have hkeeps : KeepsOutside [tree.target path] tree tree' := by
    obtain rfl : (tree.copy faults source path).1 = tree' := by rw [h]
    exact touchesOnly_copy.keepsOutside
  rw [FileTree.copy] at h
  split at h
  · next hread =>
    obtain ⟨hleft, hcause⟩ := Prod.mk.inj h
    exact .inl ⟨hleft.symm, .inl (hread.trans (congrArg Except.error (Option.some.inj hcause)))⟩
  next original horiginal =>
  have hnode := readRegular_eq_ok_iff.1 horiginal
  split at h
  · next hopen =>
    obtain ⟨hleft, hcause⟩ := Prod.mk.inj h
    exact .inl ⟨hleft.symm, .inr (hopen.trans (congrArg Except.error (Option.some.inj hcause)))⟩
  next opened hopened =>
  -- once the copy is opened, only the storage can fail
  have hsource : opened.readRegular source = .ok original :=
    readRegular_eq_ok_iff.2 ((keepsOutside_write hopened).node (by simpa using hne.symm) hnode)
  obtain ⟨copied, hcopied⟩ := exists_write_of_write hopened (writtenUntil faults.copy original)
  simp only [hsource, writeUntil, hcopied] at h
  obtain ⟨rfl, hmapped⟩ := Prod.mk.inj h
  obtain ⟨⟨size, cause'⟩, hfault, rfl⟩ := Option.map_eq_some_iff.1 hmapped
  refine .inr ⟨size, original, hfault, hnode, hkeeps, ?_⟩
  rw [node_of_write hcopied, hfault]
  simp only [hasDevice_write_iff hopened, writtenUntil]

/-- A copy to another place fails before it writes anything. -/
theorem eq_of_copy_eq_some {cause : OsError} (hne : tree.target path ≠ tree.target source)
    (h : tree.copy .none source path = (tree', some cause)) : tree' = tree := by
  rcases copy_eq_some hne h with ⟨hsame, -⟩ | ⟨size, original, hfault, -⟩
  · exact hsame
  · cases hfault

/-- A copy that succeeds has all bytes of its source; a device keeps nothing of it. -/
theorem node?_copy (hne : tree.target path ≠ tree.target source) (h : tree.copy .none source path = (tree', none)) :
    ∃ original, tree.node? (tree.target source) = some (.file original) ∧
      tree'.node? (tree.target path) = some (if tree.HasDevice path then .device else .file original) ∧
      ∀ place, place ≠ tree.target path → tree'.node? place = tree.node? place := by
  obtain ⟨original, opened, written, horiginal, hopened, hwritten, hcopied⟩ := copy_eq_none h
  have htarget := (keepsDirectories_write hopened).target
  have hopen := node?_write_target hopened
  have hother : ∀ place, place ≠ tree.target path → opened.node? place = tree.node? place :=
    fun place hplace => node?_write_of_ne hopened hplace
  have hsame : written = original := by
    have hread := readRegular_eq_ok hwritten
    rw [htarget, hother _ hne.symm, horiginal] at hread
    simpa using hread.symm
  have hcopy := node?_write_target hcopied
  rw [htarget, hopen, hsame] at hcopy
  refine ⟨original, horiginal, ?_, fun place hplace => ?_⟩
  · rw [hcopy]
    by_cases hdevice : tree.node? (tree.target path) = some .device
    · simp [HasDevice, hdevice]
    · simp [HasDevice, hdevice]
  · rw [node?_write_of_ne hcopied (by rw [htarget]; exact hplace), hother place hplace]

/-! ## Backups -/

/-- What the backup of a log leaves at a place. -/
inductive Backed (tree : FileTree) (log copy : Path) (tree' : FileTree) (place : Place) : Prop
  | same : tree'.node? place = tree.node? place → Backed tree log copy tree' place
  /-- A directory on the way of the copy, where nothing was. -/
  | newDirectory : place ∈ tree.way copy → tree.node? place = none → tree'.node? place = some .directory →
    Backed tree log copy tree' place
  /-- All bytes of the log. -/
  | newCopy (content : Bytes) : place = tree.target copy → tree.node? (tree.target log) = some (.file content) →
    tree'.node? place = some (.file content) → Backed tree log copy tree' place

theorem backed_makeParent (tree : FileTree) (log copy : Path) (place : Place) :
    Backed tree log copy (tree.makeParent copy).1 place := by
  rcases node?_makeParent_cases tree copy place with hsame | ⟨hway, hfree, hnew⟩
  · exact .same hsame
  · exact .newDirectory hway hfree hnew

/-- Whether it succeeds or fails, a backup makes directories on the way of the copy, and the whole copy or nothing. -/
theorem backed_backup {error? : Option OutputError} (hne : tree.target copy ≠ tree.target log)
    (h : tree.backup .none log copy = (tree', error?)) (place : Place) : Backed tree log copy tree' place := by
  have hparent := backed_makeParent tree log copy
  have hgrows := grows_makeParent tree copy
  rw [backup] at h
  split at h
  · obtain ⟨rfl, -⟩ := Prod.mk.inj h
    exact .same rfl
  split at h
  · next hmade =>
    obtain ⟨rfl, -⟩ := Prod.mk.inj h
    rw [hmade] at hparent
    exact hparent place
  next grown hmade =>
  rw [hmade] at hparent hgrows
  have htarget := hgrows.keepsDirectories.target
  have hne' : grown.target copy ≠ grown.target log := by
    rw [htarget, htarget]
    exact hne
  split at h
  · next left cause hcopy =>
    obtain ⟨rfl, -⟩ := Prod.mk.inj h
    rw [eq_of_copy_eq_some hne' hcopy]
    exact hparent place
  · next copied hcopy =>
    obtain ⟨rfl, -⟩ := Prod.mk.inj h
    obtain ⟨original, horiginal, hcopied, hother⟩ := node?_copy hne' hcopy
    rw [htarget] at horiginal hcopied hother
    have hlog : tree.node? (tree.target log) = some (.file original) := hgrows.node?_of_ne horiginal (by simp)
    by_cases hplace : place = tree.target copy
    · rw [← hplace] at hcopied
      by_cases hdevice : grown.HasDevice copy
      · rw [if_pos hdevice] at hcopied
        rw [HasDevice, htarget, ← hplace] at hdevice
        exact .same (hcopied.trans (hgrows.node?_of_ne hdevice (by simp)).symm)
      · rw [if_neg hdevice] at hcopied
        exact .newCopy original hplace hlog hcopied
    · have hkept := hother place hplace
      rcases hparent place with hsame | ⟨hway, hfree, hnew⟩ | ⟨content, hcopyplace, -, -⟩
      · exact .same (hkept.trans hsame)
      · exact .newDirectory hway hfree (hkept.trans hnew)
      · exact absurd hcopyplace hplace

/-! ## Replacements -/

/--
After a replacement that fails nothing has changed, or what stands beside the path is removed, be it that it was there
before or that it was written.
-/
theorem sameFiles_of_replaceContent_eq_some {error : OutputError}
    (h : tree.replaceContent faults path content = (tree', some error)) :
    tree' = tree ∧ (∃ cause, tree.remove path.trimPath = .error cause) ∨
      tree.locate path.trimPath = .ok (tree.target path.trimPath) ∧
        tree.node? (tree.target path.trimPath) ≠ some .directory ∧
        SameFiles (tree.erase (tree.target path.trimPath)) tree' := by
  rw [FileTree.replaceContent] at h
  split at h
  · cases h
  next failed cause hthrough =>
  obtain ⟨hleft, -⟩ := Prod.mk.inj h
  rcases replaceThrough_eq_some hthrough with rfl | ⟨written, hwrite⟩
  · -- the file beside the path was not written, but one may have been there
    cases hremove : failed.remove path.trimPath with
    | error cause =>
      rw [hremove] at hleft
      exact .inl ⟨hleft.symm, cause, rfl⟩
    | ok removed =>
      rw [hremove] at hleft
      obtain ⟨hlocate, hfile, rfl⟩ := remove_eq_ok hremove
      rw [← hleft]
      exact .inr ⟨hlocate, hfile, .refl _⟩
  · rw [remove_of_write hwrite] at hleft
    obtain ⟨hlocate, hfile, -, -⟩ := write_eq_ok hwrite
    refine .inr ⟨hlocate, hfile, ?_⟩
    rw [← hleft]
    have hattributes : failed.attributes = tree.attributes := write_attributes hwrite
    refine ⟨(keepsDirectories_write hwrite).workingPlace, hattributes, fun place => ?_⟩
    show (failed.erase _).node? place = (tree.erase _).node? place
    by_cases hplace : place = tree.target path.trimPath
    · rw [hplace, node?_erase_self (ne_root_of_node?_ne hfile), node?_erase_self (ne_root_of_node?_ne hfile)]
    · rw [node?_erase_of_ne hplace, node?_erase_of_ne hplace, node?_write_of_ne hwrite hplace]

/-- What was written beside a log is gone when its replacement has failed. -/
theorem node?_replaceContent_of_eq_some {error : OutputError}
    (h : tree.replaceContent faults path content = (tree', some error)) (place : Place) :
    tree'.node? place = tree.node? place ∨
      place = tree.target path.trimPath ∧ tree.node? place ≠ some .directory ∧ tree'.node? place = none := by
  rcases sameFiles_of_replaceContent_eq_some h with ⟨rfl, -⟩ | ⟨-, hfile, hsame⟩
  · exact .inl rfl
  rw [hsame.node?]
  by_cases hplace : place = tree.target path.trimPath
  · rw [hplace]
    exact .inr ⟨rfl, hfile, node?_erase_self (ne_root_of_node?_ne hfile)⟩
  · exact .inl (node?_erase_of_ne hplace)

end LogDiagram.FileTree
