import LogDiagram.Proofs.Storage.Failing

/-!
# All or nothing

The content of a file is replaced as a whole or not at all: the new content is gathered in a file beside it, which takes
its place in the end. The storage may refuse to create that file, fail when any number of bytes is written to it, or
refuse to put it in place; a failure takes the gathered bytes away again.

* `KeepsDirectories.locate_of_trimPath`: where the file beside a path is reached, the path is followed alike in all trees
  with these directories;
* `node_of_replaceContent_eq_some`: after a failure the path leads to what it led to before, or fails as it did;
* `node_trimPath_of_replaceContent_eq_some`: no file is left beside it, and a directory stays;
* `replaceContent_all_or_nothing`: success and failure side by side, with all other places.
-/

namespace LogDiagram.FileTree

variable {tree tree' : FileTree} {path : Path} {place : Place} {stored : Node} {content : Bytes} {faults : Faults}
  {error : OutputError}

/-! ## Paths beside a file -/

theorem node_congr (hlocate : tree'.locate path = tree.locate path)
    (hnode : tree'.node? (tree.target path) = tree.node? (tree.target path)) : tree'.node path = tree.node path := by
  rw [FileTree.node, FileTree.node, hlocate]
  cases hto : tree.locate path with
  | error cause => rfl
  | ok place =>
    obtain rfl := locate_eq_target hto
    simp only [bind, Except.bind, hnode]

/-- Up to the last name the way to the file beside a path is the way of the path. -/
theorem KeepsDirectories.locate_of_trimPath (h : KeepsDirectories tree tree')
    (hbeside : tree.locate path.trimPath = .ok place) : tree'.locate path = tree.locate path := by
  obtain ⟨front, last, hpath, htrim⟩ := Path.names_trimPath path
  have hwalk := (locate_eq_ok_iff.1 hbeside).2.2.2
  rw [htrim, start_trimPath] at hwalk
  obtain ⟨hfront, hdirectory⟩ := directory_of_foldlM_step (List.cons_ne_nil _ _) hwalk
  have hstart : tree'.start path = tree.start path := by rw [start, start, h.workingPlace]
  have hnames : path.names.foldlM tree'.step (tree'.start path) = path.names.foldlM tree.step (tree.start path) := by
    rw [hstart]
    rcases hpath with hpath | ⟨hpath, -⟩
    · rw [hpath, List.foldlM_append, List.foldlM_append, hfront, h.foldlM hfront]
      simp only [bind, Except.bind, List.foldlM_cons, List.foldlM_nil, FileTree.step, hdirectory,
        h.directory _ hdirectory]
    · rw [hpath, hfront, h.foldlM hfront]
  rw [FileTree.locate, FileTree.locate, hnames]

/-- What cannot be removed beside a path, and is there, is a directory. -/
theorem eq_directory_of_remove_trimPath {cause : OsError} (hremove : tree.remove path.trimPath = .error cause)
    (hnode : tree.node path.trimPath = .ok stored) : stored = .directory := by
  obtain ⟨hlocate, hstored⟩ := node_eq_ok hnode
  rw [remove, hlocate] at hremove
  simp only [bind, Except.bind, path.endsInDots_trimPath, hstored, path.hasEndSlash_trimPath] at hremove
  cases stored with
  | directory => rfl
  | file content => cases hremove
  | device => cases hremove

/-! ## After a failure -/

theorem keepsDirectories_replaceContent_of_eq_some
    (h : tree.replaceContent faults path content = (tree', some error)) : KeepsDirectories tree tree' :=
  (keepsOutside_replaceContent_of_eq_some h).keepsDirectories

/-- The path leads to what it led to before, or fails as it did. -/
theorem node_of_replaceContent_eq_some (h : tree.replaceContent faults path content = (tree', some error)) :
    tree'.node path = tree.node path ∧ tree'.node? (tree.target path) = tree.node? (tree.target path) := by
  have hnode : tree'.node? (tree.target path) = tree.node? (tree.target path) := by
    rcases node?_replaceContent_of_eq_some h (tree.target path) with hsame | ⟨hbeside, -, -⟩
    · exact hsame
    · exact absurd hbeside.symm (target_trimPath_ne tree path)
  refine ⟨?_, hnode⟩
  rcases sameFiles_of_replaceContent_eq_some h with ⟨rfl, -⟩ | ⟨hbeside, -, -⟩
  · rfl
  · exact node_congr ((keepsDirectories_replaceContent_of_eq_some h).locate_of_trimPath hbeside) hnode

/-- Beside the path stands nothing but the directory that was there. -/
theorem node_trimPath_of_replaceContent_eq_some (h : tree.replaceContent faults path content = (tree', some error))
    (stored : Node) :
    tree'.node path.trimPath = .ok stored ↔ stored = .directory ∧ tree.node path.trimPath = .ok .directory := by
  rcases sameFiles_of_replaceContent_eq_some h with ⟨rfl, cause, hremove⟩ | ⟨-, hfile, hsame⟩
  · constructor
    · intro hnode
      obtain rfl := eq_directory_of_remove_trimPath hremove hnode
      exact ⟨rfl, hnode⟩
    · rintro ⟨rfl, hnode⟩
      exact hnode
  · have hgone : tree'.node? (tree'.target path.trimPath) = none := by
      rw [(keepsDirectories_replaceContent_of_eq_some h).target, hsame.node?,
        node?_erase_self (ne_root_of_node?_ne hfile)]
    constructor
    · intro hnode
      rw [(node_eq_ok hnode).2] at hgone
      cases hgone
    · rintro ⟨-, hnode⟩
      exact absurd (node_eq_ok hnode).2 hfile

theorem attributes_replaceContent_of_eq_some (h : tree.replaceContent faults path content = (tree', some error)) :
    tree'.attributes = tree.attributes := by
  rcases sameFiles_of_replaceContent_eq_some h with ⟨rfl, -⟩ | ⟨-, -, hsame⟩
  · rfl
  · exact hsame.attributes

/-! ## After success -/

/-- Nothing is left beside the path. -/
theorem node_trimPath_replaceContent (h : tree.replaceContent faults path content = (tree', none)) :
    tree'.node path.trimPath = .error .notFound := by
  have hkeeps := (keepsOutside_replaceContent h).keepsDirectories
  have hgone := node?_replaceContent h (tree.target path.trimPath)
  rw [if_neg (target_trimPath_ne tree path), if_pos rfl] at hgone
  obtain ⟨written, hwrite, -⟩ := replaceContent_eq_none h
  rw [FileTree.node, hkeeps.locate (write_eq_ok hwrite).1]
  simp only [bind, Except.bind, hgone]
  rfl

theorem attributes_replaceContent (h : tree.replaceContent faults path content = (tree', none)) :
    tree'.attributes = tree.attributes := by
  obtain ⟨written, hwrite, hrename⟩ := replaceContent_eq_none h
  rw [rename_attributes hrename, write_attributes hwrite]

/-! ## Both -/

/-- A replacement changes the places of the path and of the file beside it, and makes no directory. -/
theorem touchesOnly_replaceContent {error? : Option OutputError}
    (h : tree.replaceContent faults path content = (tree', error?)) :
    TouchesOnly [tree.target path, tree.target path.trimPath] [] tree tree' := by
  cases error? with
  | none =>
    refine ⟨(keepsOutside_replaceContent h).keepsDirectories, fun place hout => .inl ?_⟩
    simp only [List.mem_cons, List.not_mem_nil, or_false, not_or] at hout
    rw [node?_replaceContent h, if_neg hout.1, if_neg hout.2]
  | some error =>
    refine ⟨keepsDirectories_replaceContent_of_eq_some h, fun place hout => .inl ?_⟩
    rcases node?_replaceContent_of_eq_some h place with hsame | ⟨hplace, -, -⟩
    · exact hsame
    · exact absurd (by simp [hplace]) hout

/-- The device of a system does not stand beside a path. -/
theorem target_trimPath_ne_devicePlace (tree : FileTree) (path : Path) :
    tree.target path.trimPath ≠ devicePlace := by
  obtain ⟨front, last, -, hnames⟩ := Path.names_trimPath path
  have hlength : (last ++ ".trim.log".toList).length = last.length + 9 := by rw [List.length_append]; rfl
  rw [target, hnames, List.foldl_append, List.foldl_cons, List.foldl_nil, stepTo, if_neg, if_neg]
  · intro heq
    rw [(List.cons.inj heq).1] at hlength
    simp at hlength
  · exact fun hup => by rw [hup] at hlength; simp at hlength
  · exact fun hdot => by rw [hdot] at hlength; simp at hlength

/--
A replacement, whatever the storage refuses and however many bytes are written before it fails. If it succeeds, the path
leads to the given lines, each with a line feed behind it, and nothing is left beside it. If it fails, it says so of this
path, the path leads to what it led to before, and beside it stands nothing but a directory that was there. No other place
changes. (A device beside the path would be put in its place; the device of a system does not stand there.)
-/
theorem replaceContent_all_or_nothing (faults : Faults) (tree : FileTree) (path : Path) (lines : List Text) :
    let content := Bytes.ofText (lines.flatMap fun line => line ++ ['\n'])
    let left := (tree.replaceContent faults path content).1
    (match (tree.replaceContent faults path content).2 with
      | none =>
        left.node path = .ok (if tree.HasDevice path.trimPath then .device else .file content) ∧
          left.node path.trimPath = .error .notFound
      | some error =>
        (∃ cause, error = .replace path cause) ∧ left.node path = tree.node path ∧
          left.node? (tree.target path) = tree.node? (tree.target path) ∧
          ∀ stored, left.node path.trimPath = .ok stored ↔
            stored = .directory ∧ tree.node path.trimPath = .ok .directory) ∧
      (∀ place, place ≠ tree.target path → place ≠ tree.target path.trimPath →
        left.node? place = tree.node? place) ∧
      left.workingPlace = tree.workingPlace ∧ left.attributes = tree.attributes ∧
      tree.target path.trimPath ∉ [tree.target path, devicePlace] := by
  intro content left
  have hapart : tree.target path.trimPath ∉ [tree.target path, devicePlace] := by
    simpa using ⟨target_trimPath_ne tree path, target_trimPath_ne_devicePlace tree path⟩
  cases hresult : tree.replaceContent faults path content with
  | mk after error? =>
    have hleft : left = after := congrArg Prod.fst hresult
    rw [hleft]
    have htouches := touchesOnly_replaceContent hresult
    have hother : ∀ place, place ≠ tree.target path → place ≠ tree.target path.trimPath →
        after.node? place = tree.node? place := by
      intro place hpath hbeside
      rcases htouches.node? place (by simp [hpath, hbeside]) with hsame | ⟨-, -, path', hmem, -⟩
      · exact hsame
      · exact absurd hmem List.not_mem_nil
    have hworking := htouches.keepsDirectories.workingPlace
    cases error? with
    | none =>
      exact ⟨⟨node_replaceContent hresult, node_trimPath_replaceContent hresult⟩, hother, hworking,
        attributes_replaceContent hresult, hapart⟩
    | some error =>
      obtain ⟨hnode, hplace⟩ := node_of_replaceContent_eq_some hresult
      exact ⟨⟨replaceContent_eq_some hresult, hnode, hplace, node_trimPath_of_replaceContent_eq_some hresult⟩, hother,
        hworking, attributes_replaceContent_of_eq_some hresult, hapart⟩

/-- A storage that is full after two bytes: the log stays, and an older file beside it is gone. -/
example :
    let beside := ['x'] ++ ".trim.log".toList
    let tree := ((FileTree.withDevice []).set [['x']] (.file [1])).set [beside] (.file [2])
    let full := { Faults.none with write := some (2, .other "No space left on device".toList) }
    let left := (tree.replaceContent full ['x'] [3, 4, 5]).1
    left.node ['x'] = .ok (.file [1]) ∧ left.node beside = .error .notFound := by
  decide +kernel

end LogDiagram.FileTree
