import LogDiagram.Proofs.Storage.Changes
import LogDiagram.Proofs.Storage.Ways

/-!
# Writing the same again

A document or a log that was written is as it was after it is written once more.

* `SameFiles`: two trees have the same files and directories, in whatever order these are listed;
* `HoldsOutput`: what a document leaves (`holdsOutput_of_writeOutput`), and what it needs to be written again without any
  change (`HoldsOutput.writeOutput`);
* `HoldsReplaced`: what the replacement of a log leaves (`holdsReplaced_of_replaceContent`). It can be made again if
  nothing stands beside the log (`HoldsReplaced.replaceContent`), but not if a directory does
  (`HoldsReplaced.replaceContent_of_directory`).
-/

namespace LogDiagram

namespace Path

/-- A name with the ending of the file beside a log does not stand for a directory. -/
theorem endsInDots_trimPath (path : Path) : path.trimPath.endsInDots = false := by
  obtain ⟨front, last, -, hnames⟩ := names_trimPath path
  have hlength : (last ++ ".trim.log".toList).length = last.length + 9 := by rw [List.length_append]; rfl
  rw [endsInDots, hnames, List.getLast?_concat]
  simp only [isDots, Bool.or_eq_false_iff, beq_eq_false_iff_ne]
  constructor
  · intro hdot
    rw [hdot] at hlength
    simp at hlength
  · intro hdots
    rw [hdots] at hlength
    simp at hlength

theorem hasEndSlash_trimPath (path : Path) : path.trimPath.hasEndSlash = false := by
  have hlast : path.trimPath.getLast? = some 'g' :=
    List.getLast?_append_of_ne_nil path (by decide : ".trim.log".toList ≠ [])
  rw [hasEndSlash, hlast]
  decide

end Path

namespace FileTree

variable {tree tree' tree'' : FileTree} {path : Path} {faults : Faults} {content : Bytes} {places : List Place}

/-- The same files and directories, in whatever order they are listed. -/
structure SameFiles (tree tree' : FileTree) : Prop where
  workingPlace : tree'.workingPlace = tree.workingPlace
  attributes : tree'.attributes = tree.attributes
  node? : ∀ place, tree'.node? place = tree.node? place

theorem SameFiles.refl (tree : FileTree) : SameFiles tree tree := ⟨rfl, rfl, fun _ => rfl⟩

theorem SameFiles.trans (h : SameFiles tree tree') (h' : SameFiles tree' tree'') : SameFiles tree tree'' :=
  ⟨h'.workingPlace.trans h.workingPlace, h'.attributes.trans h.attributes,
    fun place => (h'.node? place).trans (h.node? place)⟩

theorem SameFiles.keepsOutside (h : SameFiles tree tree') : KeepsOutside places tree tree' :=
  ⟨⟨h.workingPlace, fun place hdir => by rw [h.node?, hdir]⟩, fun place node _ hnode => by rw [h.node?, hnode]⟩

/-- A write that leaves the content that was there leaves the same files. -/
theorem sameFiles_set {place : Place} {stored : Node} (h : tree.node? place = some stored) (hne : place ≠ []) :
    SameFiles tree (tree.set place stored) := by
  refine ⟨rfl, rfl, fun other => ?_⟩
  by_cases hother : other = place
  · rw [hother, node?_set_self hne, h]
  · rw [node?_set_of_ne hother]

theorem write_attributes (h : tree.write path content = .ok tree') : tree'.attributes = tree.attributes := by
  obtain ⟨-, -, -, rfl⟩ := write_eq_ok h
  split <;> rfl

theorem rename_attributes {source : Path} (h : tree.rename source path = .ok tree') :
    tree'.attributes = tree.attributes := by
  obtain ⟨-, -, -, -, -, moved, -, -, rfl⟩ := rename_eq_ok_iff.1 h
  rfl

/-! ## Documents -/

/-- A document stands at its path, or a device that kept nothing of it. -/
structure HoldsOutput (tree : FileTree) (path : Path) (content : Bytes) : Prop where
  locate : tree.locate path = .ok (tree.target path)
  endsInDots : path.endsInDots = false
  hasEndSlash : path.hasEndSlash = false
  node? : ∃ stored ∈ [Node.file content, .device], tree.node? (tree.target path) = some stored

theorem HoldsOutput.keepsOutside (h : tree.HoldsOutput path content) (hkeeps : KeepsOutside places tree tree')
    (hout : tree.target path ∉ places) : tree'.HoldsOutput path content := by
  obtain ⟨stored, hstored, hnode⟩ := h.node?
  have htarget := hkeeps.keepsDirectories.target path
  refine ⟨?_, h.endsInDots, h.hasEndSlash, stored, hstored, ?_⟩
  · rw [htarget]
    exact hkeeps.keepsDirectories.locate h.locate
  · rw [htarget]
    exact hkeeps.node? _ _ hout hnode

theorem holdsOutput_of_writeOutput (h : tree.writeOutput faults path content = (tree', none)) :
    tree'.HoldsOutput path content := by
  obtain ⟨grown, -, hwrite⟩ := writeOutput_eq_none h
  have hkeeps := keepsDirectories_write hwrite
  obtain ⟨hlocate, hdots, hslash, -, -⟩ := write_eq_ok_iff.1 hwrite
  have hnode := node?_write_target hwrite
  rw [← hkeeps.target] at hnode
  refine ⟨?_, hdots, hslash, _, ?_, hnode⟩
  · rw [hkeeps.target]
    exact hkeeps.locate hlocate
  · split <;> simp

/-- A document that is written changes nothing beside its way. -/
theorem node?_writeOutput_of_not_mem {place : Place} (h : tree.writeOutput faults path content = (tree', none))
    (hout : place ∉ tree.way path) : tree'.node? place = tree.node? place := by
  obtain ⟨grown, hparent, hwrite⟩ := writeOutput_eq_none h
  have hgrown := node?_makeParent hout
  have htarget := (grows_makeParent tree path).keepsDirectories.target path
  rw [hparent] at hgrown htarget
  have hne : place ≠ grown.target path := by
    rw [htarget]
    rintro rfl
    exact hout target_mem_way_self
  exact (node?_write_of_ne hwrite hne).trans hgrown

/-- On the way of a document that was written stand directories, whether they are needed or not. -/
theorem node?_writeOutput_of_mem {place : Place} (h : tree.writeOutput faults path content = (tree', none))
    (hin : place ∈ tree.way path) (hne : place ≠ tree.target path) : tree'.node? place = some .directory := by
  have hkeeps := (keepsOutside_writeOutput h).keepsDirectories
  rw [← way_congr hkeeps.workingPlace] at hin
  rcases directory_of_mem_way (holdsOutput_of_writeOutput h).locate hin with heq | hdir
  · rw [hkeeps.target] at heq
    exact absurd heq hne
  · exact hdir

/-- A path that leads somewhere needs no new directories to be written. -/
theorem writeOutput_of_write (h : tree.write path content = .ok tree') :
    tree.writeOutput .none path content = (tree', none) := by
  rw [FileTree.writeOutput, makeParent_of_locate (write_eq_ok h).1]
  simp only [writeUntil, writtenUntil, Faults.none, h, Option.map_none]

/-- In the place of a file a document is written, if the storage allows it. -/
theorem exists_writeOutput {stored : Bytes} (hnode : tree.node path = .ok (.file stored))
    (hdots : path.endsInDots = false) (content : Bytes) :
    ∃ tree', tree.writeOutput .none path content = (tree', none) ∧ tree'.node path = .ok (.file content) := by
  obtain ⟨hlocate, hfile, hslash⟩ := node_eq_ok_iff.1 hnode
  have hslash : path.hasEndSlash = false := by simpa using hslash
  obtain ⟨written, hwrite⟩ : ∃ written, tree.write path content = .ok written :=
    ⟨_, write_eq_ok_iff.2 ⟨hlocate, hdots, hslash, by simp [hfile], rfl⟩⟩
  have hkeeps := keepsDirectories_write hwrite
  have hwritten := node?_write_target hwrite
  rw [hfile, if_neg (by simp), ← hkeeps.target] at hwritten
  have hto := hkeeps.locate hlocate
  rw [← hkeeps.target] at hto
  exact ⟨written, writeOutput_of_write hwrite, node_eq_ok_iff.2 ⟨hto, hwritten, .inr hslash⟩⟩

/-- A document that was written is written again, and nothing changes. -/
theorem HoldsOutput.writeOutput (h : tree.HoldsOutput path content) :
    ∃ tree', tree.writeOutput .none path content = (tree', none) ∧ SameFiles tree tree' := by
  obtain ⟨stored, hstored, hnode⟩ := h.node?
  simp only [List.mem_cons, List.not_mem_nil, or_false] at hstored
  have hdir : tree.node? (tree.target path) ≠ some .directory := by
    rcases hstored with rfl | rfl <;> rw [hnode] <;> exact nofun
  have hwrite : tree.write path content = .ok (if tree.node? (tree.target path) = some .device then tree
      else tree.set (tree.target path) (.file content)) :=
    write_eq_ok_iff.2 ⟨h.locate, h.endsInDots, h.hasEndSlash, hdir, rfl⟩
  refine ⟨_, writeOutput_of_write hwrite, ?_⟩
  split
  · exact .refl tree
  · next hdevice =>
    rcases hstored with rfl | rfl
    · exact sameFiles_set hnode (ne_root_of_node?_ne hdir)
    · exact absurd hnode hdevice

/-! ## Logs -/

/-- The new content of a log stands at its path, and the way to the place beside it is free. -/
structure HoldsReplaced (tree : FileTree) (path : Path) (content : Bytes) : Prop where
  node : tree.node path = .ok (.file content)
  endsInDots : path.endsInDots = false
  scratch : tree.locate path.trimPath = .ok (tree.target path.trimPath)

theorem HoldsReplaced.keepsOutside (h : tree.HoldsReplaced path content) (hkeeps : KeepsOutside places tree tree')
    (hout : tree.target path ∉ places) : tree'.HoldsReplaced path content := by
  refine ⟨hkeeps.node hout h.node, h.endsInDots, ?_⟩
  rw [hkeeps.keepsDirectories.target]
  exact hkeeps.keepsDirectories.locate h.scratch

/-- The path of a replacement that succeeds leads to the new content, or to the device that stood beside it. -/
theorem node_replaceContent (h : tree.replaceContent faults path content = (tree', none)) :
    tree'.node path = .ok (if tree.HasDevice path.trimPath then .device else .file content) := by
  have hkeeps := (keepsOutside_replaceContent h).keepsDirectories
  have hnode := node?_replaceContent h (tree.target path)
  rw [if_pos rfl] at hnode
  obtain ⟨written, hwrite, hrename⟩ := replaceContent_eq_none h
  obtain ⟨-, hlocate, -, hslash, -⟩ := rename_eq_ok_iff.1 hrename
  have hto := (keepsOutside_rename hrename).keepsDirectories.locate hlocate
  rw [(keepsDirectories_write hwrite).target] at hto
  rw [node_eq_ok_iff, hkeeps.target]
  exact ⟨hto, hnode, .inr hslash⟩

theorem holdsReplaced_of_replaceContent (h : tree.replaceContent faults path content = (tree', none))
    (hdevice : ¬tree.HasDevice path.trimPath) : tree'.HoldsReplaced path content := by
  have hkeeps := (keepsOutside_replaceContent h).keepsDirectories
  obtain ⟨written, hwrite, hrename⟩ := replaceContent_eq_none h
  obtain ⟨-, -, hdots, -⟩ := rename_eq_ok_iff.1 hrename
  refine ⟨by rw [node_replaceContent h, if_neg hdevice], hdots, ?_⟩
  rw [hkeeps.target]
  exact hkeeps.locate (write_eq_ok hwrite).1

/-- A file is replaced if the storage allows it and nothing stands beside it. -/
theorem exists_replaceContent {stored : Bytes} (hnode : tree.node path = .ok (.file stored))
    (hdots : path.endsInDots = false) (hlocate : tree.locate path.trimPath = .ok (tree.target path.trimPath))
    (hfree : tree.node? (tree.target path.trimPath) = none) (content : Bytes) :
    ∃ tree', tree.replaceContent .none path content = (tree', none) ∧ tree'.node path = .ok (.file content) := by
  have hdir : tree.node? (tree.target path.trimPath) ≠ some .directory := by simp [hfree]
  have hdevice : ¬tree.HasDevice path.trimPath := by simp [HasDevice, hfree]
  obtain ⟨written, hwrite⟩ : ∃ written, tree.write path.trimPath content = .ok written :=
    ⟨_, write_eq_ok_iff.2 ⟨hlocate, path.endsInDots_trimPath, path.hasEndSlash_trimPath, hdir, rfl⟩⟩
  have hkeeps := keepsDirectories_write hwrite
  have hscratch : written.node? (written.target path.trimPath) = some (.file content) := by
    rw [hkeeps.target, node?_write_target hwrite]
    exact congrArg some (if_neg hdevice)
  obtain ⟨hpath, hfile, hslash⟩ := node_eq_ok_iff.1 hnode
  have hto := hkeeps.locate hpath
  rw [← hkeeps.target] at hto
  have hbeside := hkeeps.locate hlocate
  rw [← hkeeps.target] at hbeside
  have hwritten : written.node? (written.target path) ≠ some .directory := by
    rw [hkeeps.target, node?_write_of_ne hwrite (Ne.symm (target_trimPath_ne tree path)), hfile]
    simp
  obtain ⟨renamed, hrename⟩ : ∃ renamed, written.rename path.trimPath path = .ok renamed :=
    ⟨_, rename_eq_ok_iff.2 ⟨hbeside, hto, hdots, by simpa using hslash, hwritten, _, hscratch, by simp, rfl⟩⟩
  have hreplaced : tree.replaceContent .none path content = (renamed, none) := by
    simp only [FileTree.replaceContent, replaceThrough, writeUntil, writtenUntil, Faults.none, Option.map_none, hwrite,
      hrename]
  exact ⟨renamed, hreplaced, by rw [node_replaceContent hreplaced, if_neg hdevice]⟩

/-- A log that was replaced is replaced again, and nothing changes, if nothing stands beside it. -/
theorem HoldsReplaced.replaceContent (h : tree.HoldsReplaced path content)
    (hfree : tree.node? (tree.target path.trimPath) = none) :
    ∃ tree', tree.replaceContent .none path content = (tree', none) ∧ SameFiles tree tree' := by
  have hdevice : ¬tree.HasDevice path.trimPath := by simp [HasDevice, hfree]
  obtain ⟨renamed, hreplaced, -⟩ := exists_replaceContent h.node h.endsInDots h.scratch hfree content
  obtain ⟨written, hwrite, hrename⟩ := replaceContent_eq_none hreplaced
  refine ⟨renamed, hreplaced, ?_, ?_, fun place => ?_⟩
  · exact (keepsOutside_replaceContent hreplaced).keepsDirectories.workingPlace
  · rw [rename_attributes hrename, write_attributes hwrite]
  · rw [node?_replaceContent hreplaced, if_neg hdevice]
    split
    · next hplace => rw [hplace, (node_eq_ok h.node).2]
    · split
      · next hplace => rw [hplace, hfree]
      · rfl

/-- A log beside which a directory stands cannot be replaced again. -/
theorem HoldsReplaced.replaceContent_of_directory (h : tree.HoldsReplaced path content)
    (hdir : tree.node? (tree.target path.trimPath) = some .directory) (new : Bytes) :
    tree.replaceContent .none path new = (tree, some (.replace path .isDirectory)) := by
  have hwrite : tree.write path.trimPath new = .error .isDirectory := by
    rw [write, locateOutput, h.scratch]
    simp only [bind, Except.bind, path.endsInDots_trimPath, path.hasEndSlash_trimPath, hdir]
    rfl
  have hremove : tree.remove path.trimPath = .error .isDirectory := by
    rw [remove, h.scratch]
    simp only [bind, Except.bind, path.endsInDots_trimPath, hdir]
    rfl
  simp only [FileTree.replaceContent, replaceThrough, writeUntil, writtenUntil, Faults.none, hwrite, hremove]
  rfl

end FileTree

end LogDiagram
