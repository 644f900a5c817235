import LogDiagram.Proofs.Path.Names
import LogDiagram.Proofs.Results
import LogDiagram.Proofs.Storage.Copies

/-!
# The way of a path

A path leads from place to place, and `FileTree.way` has all of them. A path that leads somewhere passes directories only
(`directory_of_mem_way`), the directory around it among them (`node_parent`). Where the directory around a path is
made, directories are made on its way and nowhere else (`node?_makeParent`): also under names from which the path turns
back in the end.
-/

namespace LogDiagram

namespace FileTree

variable {tree tree' : FileTree} {path parent above : Path} {place : Place}

/-- The places that a path leads through, with the one where it starts and the one where it ends. -/
def way (tree : FileTree) (path : Path) : List Place :=
  path.names.inits.map fun names => names.foldl stepTo (tree.start path)

theorem way_congr (h : tree'.workingPlace = tree.workingPlace) (path : Path) : tree'.way path = tree.way path := by
  simp only [way, start, h]

/-- A path that starts like another one leads to a place on the way of that one. -/
theorem target_mem_way (hnames : above.names <+: path.names) (habsolute : above.isAbsolute = path.isAbsolute) :
    tree.target above ∈ tree.way path :=
  List.mem_map.2 ⟨above.names, (List.mem_inits _ _).2 hnames, by rw [target, start, start, habsolute]⟩

theorem target_mem_way_self : tree.target path ∈ tree.way path := target_mem_way (List.prefix_refl _) rfl

/-! ## Directories on the way -/

/-- A walk that leads on stands on a directory before. -/
theorem directory_of_foldlM_step {names rest : List Text} {start : Place} (hrest : rest ≠ [])
    (h : (names ++ rest).foldlM tree.step start = .ok place) :
    names.foldlM tree.step start = .ok (names.foldl stepTo start) ∧
      tree.node? (names.foldl stepTo start) = some .directory := by
  rw [List.foldlM_append] at h
  obtain ⟨between, hbetween, h⟩ := bind_eq_ok_iff.1 h
  obtain rfl := foldlM_step_eq_ok hbetween
  cases rest with
  | nil => exact absurd rfl hrest
  | cons name rest =>
    rw [List.foldlM_cons] at h
    obtain ⟨next, hnext, -⟩ := bind_eq_ok_iff.1 h
    exact ⟨hbetween, (step_eq_ok hnext).1⟩

/-- On the way of a path that leads somewhere, all places before the last are directories. -/
theorem directory_of_mem_way (h : tree.locate path = .ok (tree.target path)) (hmem : place ∈ tree.way path) :
    place = tree.target path ∨ tree.node? place = some .directory := by
  obtain ⟨names, hnames, rfl⟩ := List.mem_map.1 hmem
  obtain ⟨rest, hrest⟩ := (List.mem_inits _ _).1 hnames
  have hwalk := (locate_eq_ok_iff.1 h).2.2.2
  by_cases hend : rest = []
  · rw [hend, List.append_nil] at hrest
    exact .inl (by rw [target, hrest])
  · rw [← hrest] at hwalk
    exact .inr (directory_of_foldlM_step hend hwalk).2

/-- Around the place of a path that leads somewhere stands a directory. -/
theorem node_parent (h : tree.locate path = .ok (tree.target path)) (hparent : path.parent? = some parent)
    (hne : parent ≠ []) : tree.node parent = .ok .directory := by
  obtain ⟨-, hnul, hsize, hwalk⟩ := locate_eq_ok_iff.1 h
  obtain ⟨rest, hrest, hnames⟩ := Path.names_parent? hparent
  obtain ⟨behind, hpath⟩ := Path.prefix_of_parent? hparent
  have hstart : tree.start parent = tree.start path := by rw [start, start, Path.isAbsolute_parent? hparent]
  rw [hnames] at hwalk
  obtain ⟨hto, hdirectory⟩ := directory_of_foldlM_step hrest hwalk
  rw [← hstart] at hto hdirectory
  have hlocate : tree.locate parent = .ok (tree.target parent) := by
    refine locate_eq_ok_iff.2 ⟨by simpa using hne, ?_, ?_, hto⟩
    · rw [← hpath] at hnul
      simp only [List.contains_eq_mem, List.mem_append, decide_eq_true_iff, not_or] at hnul ⊢
      exact hnul.1
    · have hsum := Text.utf8Size_append parent behind
      rw [hpath] at hsum
      omega
  rw [node, hlocate]
  simp only [bind, Except.bind, target, hdirectory]
  rfl

theorem contains_parent (h : tree.locate path = .ok (tree.target path)) (hparent : path.parent? = some parent)
    (hne : parent ≠ []) : tree.contains parent = true :=
  contains_iff.2 ⟨_, node_parent h hparent hne⟩

/-! ## New directories -/

theorem node?_makeDirectoryUnlessThere (h : tree.makeDirectoryUnlessThere path = .ok tree')
    (hne : place ≠ tree.target path) : tree'.node? place = tree.node? place := by
  rw [makeDirectoryUnlessThere] at h
  split at h
  · next hmade =>
    obtain rfl := Except.ok.inj h
    rw [(makeDirectory_eq_ok hmade).2, node?_set_of_ne hne]
  · split at h
    · rw [Except.ok.inj h]
    · cases h

/-- A chain of directories is made at the places of its paths only. -/
theorem node?_makeChain {paths : List Path} (h : ∀ path ∈ paths, place ≠ tree.target path) :
    (tree.makeChain paths).1.node? place = tree.node? place := by
  induction paths generalizing tree with
  | nil => rfl
  | cons path above ih =>
    obtain ⟨hpath, habove⟩ := List.forall_mem_cons.1 h
    rw [makeChain]
    split
    · next hmade => exact node?_makeDirectoryUnlessThere hmade hpath
    · have hgrown := ih habove
      have htarget := (grows_makeChain tree above).keepsDirectories.target path
      split
      · next hchain => rw [hchain] at hgrown; exact hgrown
      · next grown hchain =>
        rw [hchain] at hgrown htarget
        split
        · next hmade => exact (node?_makeDirectoryUnlessThere hmade (by rw [htarget]; exact hpath)).trans hgrown
        · exact hgrown
    · rfl

/-- To write to a path, the directories above it are made and nothing else. -/
theorem node?_makeParent_of_ne (h : ∀ above, Path.IsAncestor above path → place ≠ tree.target above) :
    (tree.makeParent path).1.node? place = tree.node? place := by
  rw [makeParent]
  split
  · rfl
  · rfl
  · next parent _ hparent =>
    split
    · rfl
    · have hchain : (tree.makeChain (parent :: ancestors parent.length parent)).1.node? place = tree.node? place := by
        refine node?_makeChain fun above hmem => h above ?_
        rcases List.mem_cons.1 hmem with rfl | hmem
        · exact .parent hparent
        · exact .around hparent (Path.isAncestor_of_mem_ancestors parent.length parent above hmem)
      rw [makeDirectories]
      split
      · next hmade => rw [hmade] at hchain; exact hchain
      · next hmade => rw [hmade] at hchain; exact hchain

/-- They lie on the way of the path. -/
theorem node?_makeParent (h : place ∉ tree.way path) : (tree.makeParent path).1.node? place = tree.node? place :=
  node?_makeParent_of_ne fun _ habove heq => h (heq ▸ target_mem_way habove.names_prefix.1 habove.names_prefix.2)

/-- Nothing is made around a path that leads somewhere. -/
theorem makeParent_of_locate (h : tree.locate path = .ok (tree.target path)) : tree.makeParent path = (tree, none) := by
  rw [makeParent]
  split
  · rfl
  · rfl
  · next parent hne hparent => rw [if_pos (contains_parent h hparent hne)]

end FileTree

end LogDiagram
