import LogDiagram.Storage.FileTree
import LogDiagram.Proofs.Lists.Lookup

/-!
# Places and what stands there

A tree is seen through `FileTree.node?`, which says what stands at a place. Without links, a path leads to one place
whatever the tree holds: `FileTree.target`. A tree only decides whether the way is free.

* `locate_eq_target`, `KeepsDirectories.locate`: a path that leads somewhere leads to its target, also in every tree
  that keeps the directories;
* `FileTree.Grows`: new directories are all that one tree has more than another one;
* `write_eq_ok_iff`, `read_of_write`: what a write does, and that it can be read back.
-/

namespace LogDiagram.FileTree

variable {tree tree' tree'' : FileTree} {path : Path} {place other : Place} {node : Node}

/-! ## What stands at a place -/

theorem ne_root_of_node?_ne (h : tree.node? place ≠ some .directory) : place ≠ [] := by
  rintro rfl
  exact h rfl

theorem node?_erase_of_ne (h : other ≠ place) : (tree.erase place).node? other = tree.node? other := by
  simp only [node?, erase, lookup_filter_ne tree.entries h]

theorem node?_erase_self (h : place ≠ []) : (tree.erase place).node? place = none := by
  simp [node?, erase, lookup_filter_ne_self, h]

theorem node?_set_of_ne (h : other ≠ place) : (tree.set place node).node? other = tree.node? other := by
  have herase : (tree.erase place).node? other = tree.node? other := node?_erase_of_ne h
  rw [← herase]
  simp only [node?, set, List.lookup_cons, beq_eq_false_iff_ne.2 h]

theorem node?_set_self (h : place ≠ []) : (tree.set place node).node? place = some node := by
  simp [node?, set, h]

/-! ## Where paths lead -/

/-- From a place to the one that a name leads to, if the place is a directory. -/
def stepTo (place : Place) (name : Text) : Place :=
  if name = ['.'] then place else if name = ['.', '.'] then place.tail else name :: place

/-- The place to which a path leads if every place on the way is a directory. -/
def target (tree : FileTree) (path : Path) : Place := path.names.foldl stepTo (tree.start path)

theorem step_eq_ok {name : Text} (h : tree.step place name = .ok other) :
    tree.node? place = some .directory ∧ other = stepTo place name := by
  rw [step] at h
  split at h
  · next hdir =>
    refine ⟨hdir, ?_⟩
    rw [stepTo]
    split at h
    · next hdot => simp only [Except.ok.injEq] at h; rw [if_pos hdot, h]
    · next hdot =>
      rw [if_neg hdot]
      split at h
      · next hup => simp only [Except.ok.injEq] at h; rw [if_pos hup, h]
      · next hup =>
        rw [if_neg hup]
        split at h
        · cases h
        · simp only [Except.ok.injEq] at h; rw [h]
  · cases h
  · cases h
  · cases h

theorem foldlM_step_eq_ok {names : List Text} (h : names.foldlM tree.step place = .ok other) :
    other = names.foldl stepTo place := by
  induction names generalizing place with
  | nil => exact (Except.ok.inj h).symm
  | cons name names ih =>
    rw [List.foldlM_cons] at h
    cases hstep : tree.step place name with
    | error cause => rw [hstep] at h; cases h
    | ok next =>
      rw [hstep] at h
      rw [List.foldl_cons, ← (step_eq_ok hstep).2]
      exact ih h

/-- A path that leads somewhere is well formed, and each of its names leads on. -/
theorem locate_eq_ok_iff :
    tree.locate path = .ok place ↔
      ¬path.isEmpty ∧ ¬path.contains '\x00' ∧ ¬path.utf8Size > Path.sizeLimit ∧
        path.names.foldlM tree.step (tree.start path) = .ok place := by
  rw [locate]
  by_cases hempty : path.isEmpty
  · rw [if_pos hempty]
    exact ⟨nofun, fun hc => absurd hempty hc.1⟩
  rw [if_neg hempty]
  by_cases hnul : path.contains '\x00'
  · rw [if_pos hnul]
    exact ⟨nofun, fun hc => absurd hnul hc.2.1⟩
  rw [if_neg hnul]
  by_cases hsize : path.utf8Size > Path.sizeLimit
  · rw [if_pos hsize]
    exact ⟨nofun, fun hc => absurd hsize hc.2.2.1⟩
  rw [if_neg hsize]
  exact ⟨fun hl => ⟨hempty, hnul, hsize, hl⟩, fun hc => hc.2.2.2⟩

/-- A path that leads somewhere leads to its target. -/
theorem locate_eq_target (h : tree.locate path = .ok place) : place = tree.target path :=
  foldlM_step_eq_ok (locate_eq_ok_iff.1 h).2.2.2

/-! ## Trees that keep directories -/

/-- Every directory of a tree is one in the other tree, and both follow paths from the same place. -/
structure KeepsDirectories (tree tree' : FileTree) : Prop where
  workingPlace : tree'.workingPlace = tree.workingPlace
  directory : ∀ place, tree.node? place = some .directory → tree'.node? place = some .directory

theorem KeepsDirectories.trans (h : KeepsDirectories tree tree') (h' : KeepsDirectories tree' tree'') :
    KeepsDirectories tree tree'' :=
  ⟨h'.workingPlace.trans h.workingPlace, fun place hdir => h'.directory place (h.directory place hdir)⟩

theorem KeepsDirectories.target (h : KeepsDirectories tree tree') (path : Path) :
    tree'.target path = tree.target path := by
  simp only [FileTree.target, start, h.workingPlace]

theorem KeepsDirectories.step {name : Text} (h : KeepsDirectories tree tree') (hs : tree.step place name = .ok other) :
    tree'.step place name = .ok other := by
  have hdir := (step_eq_ok hs).1
  rw [FileTree.step, hdir] at hs
  rw [FileTree.step, h.directory place hdir]
  exact hs

theorem KeepsDirectories.foldlM {names : List Text} (h : KeepsDirectories tree tree')
    (hs : names.foldlM tree.step place = .ok other) : names.foldlM tree'.step place = .ok other := by
  induction names generalizing place with
  | nil => exact hs
  | cons name names ih =>
    rw [List.foldlM_cons] at hs ⊢
    cases hstep : tree.step place name with
    | error cause => rw [hstep] at hs; cases hs
    | ok next =>
      rw [hstep] at hs
      rw [h.step hstep]
      exact ih hs

/-- A path leads to the same place in every tree that keeps the directories. -/
theorem KeepsDirectories.locate (h : KeepsDirectories tree tree') (hl : tree.locate path = .ok place) :
    tree'.locate path = .ok place := by
  rw [locate_eq_ok_iff] at hl ⊢
  obtain ⟨hne, hnul, hsize, hnames⟩ := hl
  refine ⟨hne, hnul, hsize, ?_⟩
  rw [start, h.workingPlace]
  exact h.foldlM hnames

theorem keepsDirectories_set (h : tree.node? place ≠ some .directory) :
    KeepsDirectories tree (tree.set place node) := by
  refine ⟨rfl, fun other hdir => ?_⟩
  rw [node?_set_of_ne]
  · exact hdir
  · rintro rfl
    exact h hdir

/-! ## Trees that only gain directories -/

/-- A tree has what the other one has, and where that has nothing it may have a directory. -/
structure Grows (tree tree' : FileTree) : Prop where
  workingPlace : tree'.workingPlace = tree.workingPlace
  node? : ∀ place, tree'.node? place = tree.node? place ∨
    tree.node? place = none ∧ tree'.node? place = some .directory

theorem Grows.refl (tree : FileTree) : Grows tree tree := ⟨rfl, fun _ => .inl rfl⟩

theorem Grows.trans (h : Grows tree tree') (h' : Grows tree' tree'') : Grows tree tree'' := by
  refine ⟨h'.workingPlace.trans h.workingPlace, fun place => ?_⟩
  rcases h.node? place with hn | ⟨hn, hd⟩
  · rw [← hn]; exact h'.node? place
  · rcases h'.node? place with hn' | ⟨hn', -⟩
    · exact .inr ⟨hn, hn'.trans hd⟩
    · rw [hd] at hn'; cases hn'

theorem Grows.keepsDirectories (h : Grows tree tree') : KeepsDirectories tree tree' := by
  refine ⟨h.workingPlace, fun place hdir => ?_⟩
  rcases h.node? place with hn | ⟨hn, hd⟩
  · rw [hn, hdir]
  · exact hd

/-- Whatever is not a directory was there before. -/
theorem Grows.node?_of_ne (h : Grows tree tree') (hn : tree'.node? place = some node) (hne : node ≠ .directory) :
    tree.node? place = some node := by
  rcases h.node? place with heq | ⟨-, hd⟩
  · rw [← heq, hn]
  · rw [hn, Option.some.injEq] at hd
    exact absurd hd hne

/-- A directory is made where nothing stands. -/
theorem makeDirectory_eq_ok (h : tree.makeDirectory path = .ok tree') :
    tree.node? (tree.target path) = none ∧ tree' = tree.set (tree.target path) .directory := by
  rw [makeDirectory] at h
  cases hl : tree.locate path with
  | error cause => rw [hl] at h; cases h
  | ok place =>
    obtain rfl := locate_eq_target hl
    rw [hl] at h
    simp only [bind, Except.bind] at h
    split at h
    · cases h
    · next hfree =>
      obtain rfl := Except.ok.inj h
      simp only [Bool.or_eq_true, not_or, Bool.not_eq_true, Option.isSome_eq_false_iff, Option.isNone_iff_eq_none]
        at hfree
      exact ⟨hfree.2, rfl⟩

theorem grows_makeDirectory (h : tree.makeDirectory path = .ok tree') : Grows tree tree' := by
  obtain ⟨hfree, rfl⟩ := makeDirectory_eq_ok h
  refine ⟨rfl, fun other => ?_⟩
  by_cases hp : other = tree.target path
  · subst hp
    have hne : tree.node? (tree.target path) ≠ some .directory := by rw [hfree]; exact nofun
    exact .inr ⟨hfree, node?_set_self (ne_root_of_node?_ne hne)⟩
  · exact .inl (node?_set_of_ne hp)

theorem grows_makeDirectoryUnlessThere (h : tree.makeDirectoryUnlessThere path = .ok tree') : Grows tree tree' := by
  rw [makeDirectoryUnlessThere] at h
  split at h
  · next hmade =>
    obtain rfl := Except.ok.inj h
    exact grows_makeDirectory hmade
  · split at h
    · obtain rfl := Except.ok.inj h
      exact Grows.refl _
    · cases h

/-- However far a chain of directories is made, the tree only gains directories. -/
theorem grows_makeChain (tree : FileTree) (paths : List Path) : Grows tree (tree.makeChain paths).1 := by
  induction paths generalizing tree with
  | nil => exact Grows.refl tree
  | cons path above ih =>
    rw [makeChain]
    split
    · next hmade => exact grows_makeDirectoryUnlessThere hmade
    · split
      · next hchain => have := ih tree; rw [hchain] at this; exact this
      · next grown hchain =>
        have hgrown := ih tree
        rw [hchain] at hgrown
        split
        · next hmade => exact hgrown.trans (grows_makeDirectoryUnlessThere hmade)
        · exact hgrown
    · exact Grows.refl tree

/-! ## Reading and writing -/

/-- The bytes that are read at a place. -/
def contentAt? (tree : FileTree) (place : Place) : Option Bytes :=
  match tree.node? place with
  | some (.file content) => some content
  | some .device => some []
  | some .directory | none => none

theorem contentAt?_congr (h : tree'.node? place = tree.node? place) :
    tree'.contentAt? place = tree.contentAt? place := by
  rw [contentAt?, contentAt?, h]

theorem node_eq_ok (h : tree.node path = .ok node) :
    tree.locate path = .ok (tree.target path) ∧ tree.node? (tree.target path) = some node := by
  rw [FileTree.node] at h
  cases hl : tree.locate path with
  | error cause => rw [hl] at h; cases h
  | ok place =>
    obtain rfl := locate_eq_target hl
    rw [hl] at h
    refine ⟨rfl, ?_⟩
    simp only [bind, Except.bind] at h
    split at h
    · cases h
    · next hn => rw [hn, ← Except.ok.inj h]
    · next hn =>
      split at h
      · cases h
      · rw [hn, ← Except.ok.inj h]

/-- A path leads to something exactly if its way is free and its target is taken; an end slash asks for a directory. -/
theorem node_eq_ok_iff :
    tree.node path = .ok node ↔ tree.locate path = .ok (tree.target path) ∧ tree.node? (tree.target path) = some node ∧
      (node = .directory ∨ path.hasEndSlash = false) := by
  constructor
  · intro h
    obtain ⟨hlocate, hnode⟩ := node_eq_ok h
    refine ⟨hlocate, hnode, ?_⟩
    by_cases hdir : node = .directory
    · exact .inl hdir
    · right
      rw [FileTree.node, hlocate] at h
      simp only [bind, Except.bind, hnode] at h
      cases hslash : path.hasEndSlash with
      | false => rfl
      | true => cases node <;> simp_all [throw, throwThe, MonadExceptOf.throw]
  · rintro ⟨hlocate, hnode, hend⟩
    rw [FileTree.node, hlocate]
    simp only [bind, Except.bind, hnode]
    rcases hend with rfl | hslash
    · rfl
    · cases node <;> simp [hslash] <;> rfl

theorem contains_iff : tree.contains path = true ↔ ∃ stored, tree.node path = .ok stored := by
  rw [contains]
  cases tree.node path with
  | error cause => exact ⟨nofun, nofun⟩
  | ok stored => exact ⟨fun _ => ⟨stored, rfl⟩, fun _ => rfl⟩

theorem read_eq_ok {content : Bytes} (h : tree.read path = .ok content) :
    tree.contentAt? (tree.target path) = some content := by
  rw [read] at h
  cases hn : tree.node path with
  | error cause => rw [hn] at h; cases h
  | ok node =>
    rw [hn] at h
    rw [contentAt?, (node_eq_ok hn).2]
    cases node with
    | file stored => exact congrArg some (Except.ok.inj h)
    | directory => cases h
    | device => exact congrArg some (Except.ok.inj h)

theorem readRegular_eq_ok {content : Bytes} (h : tree.readRegular path = .ok content) :
    tree.node? (tree.target path) = some (.file content) := by
  rw [readRegular] at h
  cases hn : tree.node path with
  | error cause => rw [hn] at h; cases h
  | ok node =>
    rw [hn] at h
    rw [(node_eq_ok hn).2]
    cases node with
    | file stored => rw [Except.ok.inj h]
    | directory => cases h
    | device => cases h

/-- What a write needs and does: it sets the target of its path to a file; but a device stays as it is. -/
theorem write_eq_ok_iff {content : Bytes} :
    tree.write path content = .ok tree' ↔
      tree.locate path = .ok (tree.target path) ∧ path.endsInDots = false ∧ path.hasEndSlash = false ∧
        tree.node? (tree.target path) ≠ some .directory ∧
        tree' = if tree.node? (tree.target path) = some .device then tree
          else tree.set (tree.target path) (.file content) := by
  rw [write, locateOutput]
  constructor
  · intro h
    cases hl : tree.locate path with
    | error cause => rw [hl] at h; cases h
    | ok place =>
      obtain rfl := locate_eq_target hl
      rw [hl] at h
      simp only [bind, Except.bind] at h
      split at h
      · cases h
      · next hfree =>
        simp only [Bool.or_eq_true, not_or, Bool.not_eq_true, beq_eq_false_iff_ne] at hfree
        exact ⟨rfl, hfree.1.1, hfree.1.2, hfree.2, (Except.ok.inj h).symm⟩
  · rintro ⟨hl, hdots, hslash, hdir, rfl⟩
    have hfree : (tree.node? (tree.target path) == some .directory) = false := by simpa using hdir
    rw [hl]
    simp only [bind, Except.bind, hdots, hslash, hfree, Bool.or_false, Bool.false_eq_true, if_false]
    rfl

/-- A write sets the target of its path, where no directory stands, to a file; but a device stays as it is. -/
theorem write_eq_ok {content : Bytes} (h : tree.write path content = .ok tree') :
    tree.locate path = .ok (tree.target path) ∧ tree.node? (tree.target path) ≠ some .directory ∧
      path.hasEndSlash = false ∧
      tree' = if tree.node? (tree.target path) = some .device then tree
        else tree.set (tree.target path) (.file content) := by
  obtain ⟨hl, -, hslash, hdir, hleft⟩ := write_eq_ok_iff.1 h
  exact ⟨hl, hdir, hslash, hleft⟩

theorem keepsDirectories_write {content : Bytes} (h : tree.write path content = .ok tree') :
    KeepsDirectories tree tree' := by
  obtain ⟨-, hdir, -, rfl⟩ := write_eq_ok h
  split
  · exact (Grows.refl tree).keepsDirectories
  · exact keepsDirectories_set hdir

/-- A write changes nothing at other places. -/
theorem node?_write_of_ne {content : Bytes} (h : tree.write path content = .ok tree') (hne : place ≠ tree.target path) :
    tree'.node? place = tree.node? place := by
  obtain ⟨-, -, -, rfl⟩ := write_eq_ok h
  split
  · rfl
  · exact node?_set_of_ne hne

/-- At its target a write leaves its content, or the device that stood there. -/
theorem node?_write_target {content : Bytes} (h : tree.write path content = .ok tree') :
    tree'.node? (tree.target path) =
      some (if tree.node? (tree.target path) = some .device then .device else .file content) := by
  obtain ⟨-, hdir, -, rfl⟩ := write_eq_ok h
  split
  · next hdev => exact hdev
  · exact node?_set_self (ne_root_of_node?_ne hdir)

/-- A device stands where a path leads. -/
def HasDevice (tree : FileTree) (path : Path) : Prop := tree.node? (tree.target path) = some .device

instance : Decidable (tree.HasDevice path) := inferInstanceAs (Decidable (_ = _))

theorem Grows.hasDevice_iff (h : Grows tree tree') : tree'.HasDevice path ↔ tree.HasDevice path := by
  rw [HasDevice, HasDevice, h.keepsDirectories.target]
  rcases h.node? (tree.target path) with hsame | ⟨hfree, hnew⟩
  · rw [hsame]
  · rw [hfree, hnew]
    simp

/-- The path of a write leads to what was written, or to the device that stood there. -/
theorem node_of_write {content : Bytes} (h : tree.write path content = .ok tree') :
    tree'.node path = .ok (if tree.HasDevice path then .device else .file content) := by
  have hkeeps := keepsDirectories_write h
  obtain ⟨hl, -, hslash, -⟩ := write_eq_ok h
  rw [node_eq_ok_iff, hkeeps.target]
  exact ⟨hkeeps.locate hl, node?_write_target h, .inr hslash⟩

/-- What was written is read back; only of a device nothing is. -/
theorem read_of_write {content : Bytes} (h : tree.write path content = .ok tree') :
    tree'.read path = .ok (if tree'.HasDevice path then [] else content) := by
  have hnode := node_of_write h
  have hstands := (node_eq_ok hnode).2
  by_cases hdev : tree.HasDevice path
  · rw [if_pos hdev] at hnode hstands
    have hdev' : tree'.HasDevice path := hstands
    rw [if_pos hdev', read, hnode]
    rfl
  · rw [if_neg hdev] at hnode hstands
    rw [if_neg (by rw [HasDevice, hstands]; exact nofun), read, hnode]
    rfl

end LogDiagram.FileTree
