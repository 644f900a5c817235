import LogDiagram.Proofs.Storage.Ways

/-!
# What writing leaves alone

Each operation that writes names the places that it may change. Whether it succeeds or fails, all directories stay, and
so does whatever stands at other places.

* `KeepsOutside`: a tree has what the other one has, outside of some places;
* `TouchesOnly`: a tree is the other one, outside of some places, but for new directories above some paths;
* `touchesOnly_writeOutput`, `touchesOnly_backup`, `keepsOutside_replaceContent`: the places of a document, of a copy
  and of a log whose content is replaced;
* `node_backup`: a copy that succeeds has the bytes of its log, unless it was made onto the log or onto a device;
* `node?_replaceContent`: what a replacement that succeeds leaves.
-/

namespace LogDiagram.FileTree

variable {tree tree' tree'' : FileTree} {path log copy : Path} {place : Place} {places places' : List Place}
  {paths paths' : List Path} {stored : Node} {faults : Faults} {content : Bytes}

/-! ## Changes at some places only -/

/-- All directories stay, and so does everything that stands outside of some places. -/
structure KeepsOutside (places : List Place) (tree tree' : FileTree) : Prop where
  keepsDirectories : KeepsDirectories tree tree'
  node? : ∀ place node, place ∉ places → tree.node? place = some node → tree'.node? place = some node

theorem Grows.keepsOutside (h : Grows tree tree') : KeepsOutside places tree tree' := by
  refine ⟨h.keepsDirectories, fun place node _ hnode => ?_⟩
  rcases h.node? place with heq | ⟨hnone, -⟩
  · rw [heq, hnode]
  · rw [hnone] at hnode
    cases hnode

theorem KeepsOutside.refl (places : List Place) (tree : FileTree) : KeepsOutside places tree tree :=
  (Grows.refl tree).keepsOutside

theorem KeepsOutside.mono (h : KeepsOutside places tree tree') (hsub : places ⊆ places') :
    KeepsOutside places' tree tree' :=
  ⟨h.keepsDirectories, fun place node hout => h.node? place node fun hin => hout (hsub hin)⟩

theorem KeepsOutside.trans (h : KeepsOutside places tree tree') (h' : KeepsOutside places tree' tree'') :
    KeepsOutside places tree tree'' :=
  ⟨h.keepsDirectories.trans h'.keepsDirectories,
    fun place node hout hnode => h'.node? place node hout (h.node? place node hout hnode)⟩

/-- A path that leads to something outside of the places leads to it still. -/
theorem KeepsOutside.node (h : KeepsOutside places tree tree') (hout : tree.target path ∉ places)
    (hnode : tree.node path = .ok stored) : tree'.node path = .ok stored := by
  rw [node_eq_ok_iff] at hnode ⊢
  obtain ⟨hlocate, hnode, hend⟩ := hnode
  rw [h.keepsDirectories.target]
  exact ⟨h.keepsDirectories.locate hlocate, h.node? _ _ hout hnode, hend⟩

/-- A file outside of the places is read as before. -/
theorem KeepsOutside.read (h : KeepsOutside places tree tree') (hout : tree.target path ∉ places)
    (hread : tree.read path = .ok content) : tree'.read path = .ok content := by
  obtain ⟨node, hnode, hcontent⟩ := bind_eq_ok_iff.1 hread
  exact bind_eq_ok_iff.2 ⟨node, h.node hout hnode, hcontent⟩

/--
Outside of some places a tree is the other one, but for new directories where nothing stood, above some paths as these are
written.
-/
structure TouchesOnly (places : List Place) (paths : List Path) (tree tree' : FileTree) : Prop where
  keepsDirectories : KeepsDirectories tree tree'
  node? : ∀ place, place ∉ places → tree'.node? place = tree.node? place ∨
    tree.node? place = none ∧ tree'.node? place = some .directory ∧
      ∃ path ∈ paths, ∃ above, Path.IsAncestor above path ∧ place = tree.target above

theorem TouchesOnly.refl (places : List Place) (paths : List Path) (tree : FileTree) :
    TouchesOnly places paths tree tree :=
  ⟨(Grows.refl tree).keepsDirectories, fun _ _ => .inl rfl⟩

theorem TouchesOnly.mono (h : TouchesOnly places paths tree tree') (hplaces : places ⊆ places') (hpaths : paths ⊆ paths') :
    TouchesOnly places' paths' tree tree' := by
  refine ⟨h.keepsDirectories, fun place hout => ?_⟩
  rcases h.node? place fun hin => hout (hplaces hin) with hsame | ⟨hfree, hnew, path, hpath, habove⟩
  · exact .inl hsame
  · exact .inr ⟨hfree, hnew, path, hpaths hpath, habove⟩

theorem TouchesOnly.trans (h : TouchesOnly places paths tree tree') (h' : TouchesOnly places paths tree' tree'') :
    TouchesOnly places paths tree tree'' := by
  refine ⟨h.keepsDirectories.trans h'.keepsDirectories, fun place hout => ?_⟩
  rcases h.node? place hout with hsame | ⟨hfree, hnew, habove⟩
  · rcases h'.node? place hout with hsame' | ⟨hfree', hnew', path, hpath, above, habove, hplace⟩
    · exact .inl (hsame'.trans hsame)
    · rw [h.keepsDirectories.target] at hplace
      exact .inr ⟨hsame ▸ hfree', hnew', path, hpath, above, habove, hplace⟩
  · -- a new directory stays
    exact .inr ⟨hfree, h'.keepsDirectories.directory place hnew, habove⟩

theorem TouchesOnly.keepsOutside (h : TouchesOnly places paths tree tree') : KeepsOutside places tree tree' := by
  refine ⟨h.keepsDirectories, fun place node hout hnode => ?_⟩
  rcases h.node? place hout with hsame | ⟨hfree, -⟩
  · rw [hsame, hnode]
  · rw [hfree] at hnode
    cases hnode

/-- Where something stands already, and outside of the places, nothing changes. -/
theorem TouchesOnly.node?_of_some (h : TouchesOnly places paths tree tree') (hout : place ∉ places)
    (hnode : tree.node? place = some stored) : tree'.node? place = some stored :=
  h.keepsOutside.node? place stored hout hnode

/-! ## Single operations -/

theorem keepsOutside_set (h : tree.node? place ≠ some .directory) : KeepsOutside [place] tree (tree.set place stored) := by
  refine ⟨keepsDirectories_set h, fun other node hout hnode => ?_⟩
  rw [node?_set_of_ne (by simpa using hout), hnode]

theorem keepsOutside_erase (h : tree.node? place ≠ some .directory) : KeepsOutside [place] tree (tree.erase place) := by
  have hkept : ∀ other node, other ∉ [place] → tree.node? other = some node → (tree.erase place).node? other = some node :=
    fun other node hout hnode => by rw [node?_erase_of_ne (by simpa using hout), hnode]
  refine ⟨⟨rfl, fun other hdir => hkept other _ ?_ hdir⟩, hkept⟩
  rintro hin
  rw [List.mem_singleton.1 hin] at hdir
  exact h hdir

theorem touchesOnly_write (h : tree.write path content = .ok tree') :
    TouchesOnly [tree.target path] [] tree tree' :=
  ⟨keepsDirectories_write h, fun _ hout => .inl (node?_write_of_ne h (by simpa using hout))⟩

theorem keepsOutside_write (h : tree.write path content = .ok tree') : KeepsOutside [tree.target path] tree tree' :=
  (touchesOnly_write h).keepsOutside

theorem touchesOnly_writeUntil {fault : Option (Nat × OsError)} :
    TouchesOnly [tree.target path] [] tree (tree.writeUntil fault path content).1 := by
  rw [writeUntil]
  split
  · exact .refl _ _ tree
  · next hwrite => exact touchesOnly_write hwrite

/-- The directories above a path are new, if anything is. -/
theorem touchesOnly_makeParent (tree : FileTree) (path : Path) :
    TouchesOnly [] [path] tree (tree.makeParent path).1 := by
  have hgrows := grows_makeParent tree path
  refine ⟨hgrows.keepsDirectories, fun place _ => ?_⟩
  by_cases habove : ∃ above, Path.IsAncestor above path ∧ place = tree.target above
  · rcases hgrows.node? place with hsame | ⟨hfree, hnew⟩
    · exact .inl hsame
    · exact .inr ⟨hfree, hnew, path, List.mem_singleton_self path, habove⟩
  · exact .inl (node?_makeParent_of_ne fun above hancestor hplace => habove ⟨above, hancestor, hplace⟩)

/-- A file is removed from its place. -/
theorem remove_eq_ok (h : tree.remove path = .ok tree') :
    tree.locate path = .ok (tree.target path) ∧ tree.node? (tree.target path) ≠ some .directory ∧
      tree' = tree.erase (tree.target path) := by
  obtain ⟨place, hlocate, h⟩ := bind_eq_ok_iff.1 h
  obtain rfl := locate_eq_target hlocate
  cases hdots : path.endsInDots with
  | true => rw [hdots] at h; cases h
  | false =>
    simp only [hdots, Bool.false_eq_true, if_false] at h
    split at h
    · cases h
    · cases h
    · next removed hdir hremoved =>
      split at h
      · cases h
      · exact ⟨hlocate, by rw [hremoved]; simpa using hdir, (Except.ok.inj h).symm⟩

theorem keepsOutside_remove (h : tree.remove path = .ok tree') : KeepsOutside [tree.target path] tree tree' := by
  obtain ⟨-, hdir, rfl⟩ := remove_eq_ok h
  exact keepsOutside_erase hdir

/-- What a renaming needs and does: a file at one place is put at another one, where no directory may stand. -/
theorem rename_eq_ok_iff {source : Path} :
    tree.rename source path = .ok tree' ↔
      tree.locate source = .ok (tree.target source) ∧ tree.locate path = .ok (tree.target path) ∧
        path.endsInDots = false ∧ path.hasEndSlash = false ∧ tree.node? (tree.target path) ≠ some .directory ∧
        ∃ moved, tree.node? (tree.target source) = some moved ∧ moved ≠ .directory ∧
          tree' = (tree.erase (tree.target source)).set (tree.target path) moved := by
  constructor
  · intro h
    obtain ⟨sourcePlace, hsource, h⟩ := bind_eq_ok_iff.1 h
    obtain ⟨targetPlace, htarget, h⟩ := bind_eq_ok_iff.1 h
    obtain rfl := locate_eq_target hsource
    obtain rfl := locate_eq_target htarget
    cases hdots : path.endsInDots with
    | true => rw [hdots] at h; cases h
    | false =>
      simp only [hdots, Bool.false_eq_true, if_false] at h
      split at h
      · cases h
      · cases h
      · next moved hdir hmoved =>
        cases hslash : path.hasEndSlash with
        | true => rw [hslash] at h; cases h
        | false =>
          simp only [hslash, Bool.false_eq_true, if_false] at h
          split at h
          · cases h
          · next hfree =>
            exact ⟨hsource, htarget, rfl, rfl, by simpa using hfree, moved, hmoved, hdir,
              (Except.ok.inj h).symm⟩
  · rintro ⟨hsource, htarget, hdots, hslash, hfree, moved, hmoved, hdir, rfl⟩
    refine bind_eq_ok_iff.2 ⟨_, hsource, bind_eq_ok_iff.2 ⟨_, htarget, ?_⟩⟩
    have hnot : (tree.node? (tree.target path) == some Node.directory) = false := by simpa using hfree
    simp only [hdots, hmoved, hslash, hnot, Bool.false_eq_true, if_false]
    cases moved with
    | directory => exact absurd rfl hdir
    | file content => rfl
    | device => rfl

theorem keepsOutside_rename {source : Path} (h : tree.rename source path = .ok tree') :
    KeepsOutside [tree.target source, tree.target path] tree tree' := by
  obtain ⟨-, -, -, -, hfree, moved, hmoved, hdir, rfl⟩ := rename_eq_ok_iff.1 h
  have hsource : tree.node? (tree.target source) ≠ some .directory := by rw [hmoved]; simpa using hdir
  have herase : KeepsOutside [tree.target source] tree (tree.erase (tree.target source)) := keepsOutside_erase hsource
  have hset : KeepsOutside [tree.target path] (tree.erase (tree.target source))
      ((tree.erase (tree.target source)).set (tree.target path) moved) := by
    apply keepsOutside_set
    by_cases hsame : tree.target path = tree.target source
    · rw [hsame, node?_erase_self (ne_root_of_node?_ne hsource)]
      exact nofun
    · rw [node?_erase_of_ne hsame]
      exact hfree
  exact (herase.mono (by simp)).trans (hset.mono (by simp))

/-! ## The files of a job -/

/-- A document changes its own place only, and makes the directories above it. -/
theorem touchesOnly_writeOutput {error? : Option OutputError}
    (h : tree.writeOutput faults path content = (tree', error?)) :
    TouchesOnly [tree.target path] [path] tree tree' := by
  obtain rfl : (tree.writeOutput faults path content).1 = tree' := by rw [h]
  have hparent := touchesOnly_makeParent tree path
  rw [writeOutput]
  split
  · next hmade => rw [hmade] at hparent; exact hparent.mono (List.nil_subset _) (List.Subset.refl _)
  · next grown hmade =>
    rw [hmade] at hparent
    have hwrite : TouchesOnly [grown.target path] [] grown (grown.writeUntil faults.document path content).1 :=
      touchesOnly_writeUntil
    rw [hparent.keepsDirectories.target] at hwrite
    have hboth := (hparent.mono (List.nil_subset _) (List.Subset.refl _)).trans
      (hwrite.mono (List.Subset.refl _) (List.nil_subset _))
    split
    · next hw => rw [hw] at hboth; exact hboth
    · next hw => rw [hw] at hboth; exact hboth

theorem keepsOutside_writeOutput {error? : Option OutputError}
    (h : tree.writeOutput faults path content = (tree', error?)) : KeepsOutside [tree.target path] tree tree' :=
  (touchesOnly_writeOutput h).keepsOutside

/-- A file that is found after a document was written is the document, or stood at its place before. -/
theorem node?_of_writeOutput (h : tree.writeOutput faults path content = (tree', none)) {found : Bytes}
    (hnode : tree'.node? place = some (.file found)) :
    place = tree.target path ∧ found = content ∨ place ≠ tree.target path ∧ tree.node? place = some (.file found) := by
  obtain ⟨grown, hparent, hwrite⟩ := writeOutput_eq_none h
  have hgrows := grows_makeParent tree path
  rw [hparent] at hgrows
  have htarget := hgrows.keepsDirectories.target path
  by_cases hplace : place = tree.target path
  · left
    have hleft := node?_write_target hwrite
    rw [htarget, ← hplace, hnode, Option.some.injEq] at hleft
    refine ⟨hplace, ?_⟩
    split at hleft
    · cases hleft
    · exact Node.file.inj hleft
  · right
    rw [node?_write_of_ne hwrite (by rw [htarget]; exact hplace)] at hnode
    exact ⟨hplace, hgrows.node?_of_ne hnode (by simp)⟩

theorem touchesOnly_copy {source : Path} :
    TouchesOnly [tree.target path] [] tree (tree.copy faults source path).1 := by
  rw [FileTree.copy]
  split
  · exact .refl _ _ tree
  · split
    · exact .refl _ _ tree
    · next opened hopened =>
      have hopen := touchesOnly_write hopened
      split
      · exact hopen
      · next written _ =>
        have hwrite : TouchesOnly [opened.target path] [] opened (opened.writeUntil faults.copy path written).1 :=
          touchesOnly_writeUntil
        rw [hopen.keepsDirectories.target] at hwrite
        exact hopen.trans hwrite

/-- A backup changes the place of the copy only, and makes the directories above it. -/
theorem touchesOnly_backup {error? : Option OutputError} (h : tree.backup faults log copy = (tree', error?)) :
    TouchesOnly [tree.target copy] [copy] tree tree' := by
  obtain rfl : (tree.backup faults log copy).1 = tree' := by rw [h]
  have hparent := touchesOnly_makeParent tree copy
  rw [backup]
  split
  · exact .refl _ _ tree
  · split
    · next hmade => rw [hmade] at hparent; exact hparent.mono (List.nil_subset _) (List.Subset.refl _)
    · next grown hmade =>
      rw [hmade] at hparent
      have hcopy : TouchesOnly [grown.target copy] [] grown (grown.copy faults log copy).1 := touchesOnly_copy
      rw [hparent.keepsDirectories.target] at hcopy
      have hboth := (hparent.mono (List.nil_subset _) (List.Subset.refl _)).trans
        (hcopy.mono (List.Subset.refl _) (List.nil_subset _))
      split
      · next hc => rw [hc] at hboth; exact hboth
      · next hc => rw [hc] at hboth; exact hboth

theorem keepsOutside_backup {error? : Option OutputError} (h : tree.backup faults log copy = (tree', error?)) :
    KeepsOutside [tree.target copy] tree tree' :=
  (touchesOnly_backup h).keepsOutside

/-- The steps of a replacement that succeeds. -/
theorem replaceContent_eq_none (h : tree.replaceContent faults path content = (tree', none)) :
    ∃ written, tree.write path.trimPath content = .ok written ∧ written.rename path.trimPath path = .ok tree' := by
  rw [replaceContent, replaceThrough] at h
  split at h
  · next hthrough =>
    obtain ⟨rfl, -⟩ := Prod.mk.inj h
    split at hthrough
    · cases (Prod.mk.inj hthrough).2
    · split at hthrough
      · cases (Prod.mk.inj hthrough).2
      · next written hwrite =>
        split at hthrough
        · cases (Prod.mk.inj hthrough).2
        · split at hthrough
          · next hrename =>
            rw [(Prod.mk.inj hthrough).1] at hrename
            exact ⟨written, writeUntil_eq_none hwrite, hrename⟩
          · cases (Prod.mk.inj hthrough).2
  · cases (Prod.mk.inj h).2

/-- A replacement that fails before the new content takes its place has at most written the file beside the path. -/
theorem replaceThrough_eq_some {scratch : Path} {cause : OsError}
    (h : tree.replaceThrough faults scratch path content = (tree', some cause)) :
    tree' = tree ∨ ∃ written, tree.write scratch written = .ok tree' := by
  rw [replaceThrough] at h
  split at h
  · exact .inl (Prod.mk.inj h).1.symm
  have hwrite : ∀ {left : FileTree} {cause? : Option OsError},
      tree.writeUntil faults.write scratch content = (left, cause?) →
        left = tree ∨ ∃ written, tree.write scratch written = .ok left := by
    intro left cause? hleft
    rw [writeUntil] at hleft
    split at hleft
    · exact .inl (Prod.mk.inj hleft).1.symm
    · next hwritten => exact .inr ⟨_, (Prod.mk.inj hleft).1 ▸ hwritten⟩
  split at h
  · next hleft => exact (Prod.mk.inj h).1 ▸ hwrite hleft
  · next hleft =>
    split at h
    · exact (Prod.mk.inj h).1 ▸ hwrite hleft
    · split at h
      · cases (Prod.mk.inj h).2
      · exact (Prod.mk.inj h).1 ▸ hwrite hleft

theorem keepsOutside_replaceThrough_of_eq_some {scratch : Path} {cause : OsError}
    (h : tree.replaceThrough faults scratch path content = (tree', some cause)) :
    KeepsOutside [tree.target scratch] tree tree' := by
  rcases replaceThrough_eq_some h with rfl | ⟨written, hwrite⟩
  · exact .refl _ tree'
  · exact keepsOutside_write hwrite

/-- A replacement that fails leaves the file as it was, and everything else but what stands beside it. -/
theorem keepsOutside_replaceContent_of_eq_some {error : OutputError}
    (h : tree.replaceContent faults path content = (tree', some error)) :
    KeepsOutside [tree.target path.trimPath] tree tree' := by
  rw [replaceContent] at h
  split at h
  · cases (Prod.mk.inj h).2
  · next failed cause hthrough =>
    have hfailed := keepsOutside_replaceThrough_of_eq_some hthrough
    obtain ⟨rfl, -⟩ := Prod.mk.inj h
    cases hremove : failed.remove path.trimPath with
    | error cause => exact hfailed
    | ok removed =>
      have hremoved := keepsOutside_remove hremove
      rw [hfailed.keepsDirectories.target] at hremoved
      exact hfailed.trans hremoved

/-- A copy of a log that is made at another place, and not on a device, has the bytes of the log. -/
theorem node_backup (h : tree.backup faults log copy = (tree', none)) (hfree : tree.contains copy = false)
    (hne : tree.target copy ≠ tree.target log) (hdevice : ¬tree.HasDevice copy)
    (hlog : tree.node log = .ok (.file content)) : tree'.node copy = .ok (.file content) := by
  rcases backup_eq_none h with ⟨htaken, -⟩ | ⟨-, grown, hgrows, hcopy⟩
  · rw [hfree] at htaken
    cases htaken
  obtain ⟨original, opened, written, horiginal, hopened, hwritten, hcopied⟩ := copy_eq_none hcopy
  have htarget := hgrows.keepsDirectories.target
  have hopen := keepsDirectories_write hopened
  have hsource : grown.node? (grown.target log) = some (.file content) := by
    have hstood := hgrows.node?_of_ne horiginal (by simp)
    rw [htarget, (node_eq_ok hlog).2] at hstood
    rw [horiginal, ← hstood]
  have hread : opened.node? (grown.target log) = some (.file written) := by
    rw [← hopen.target]
    exact readRegular_eq_ok hwritten
  have hsame : written = content := by
    rw [node?_write_of_ne hopened (by rw [htarget, htarget]; exact hne.symm), hsource] at hread
    simpa using hread.symm
  have hstays : opened.node? (opened.target copy) ≠ some .device := by
    rw [hopen.target, node?_write_target hopened, Ne, Option.some.injEq]
    split
    · next hdev => exact absurd (hgrows.node?_of_ne hdev (by simp)) (by rw [htarget]; exact hdevice)
    · exact nofun
  have hkeeps := keepsDirectories_write hcopied
  obtain ⟨hlocate, -, hslash, -⟩ := write_eq_ok hcopied
  have hnode := node?_write_target hcopied
  rw [if_neg hstays, hsame] at hnode
  exact node_eq_ok_iff.2 ⟨by rw [hkeeps.target]; exact hkeeps.locate hlocate, by rw [hkeeps.target]; exact hnode,
    .inr hslash⟩

/-- What is found at another place than that of the copy, and is no directory, stood there before. -/
theorem node?_of_backup (h : tree.backup faults log copy = (tree', none)) (hne : place ≠ tree.target copy)
    (hnode : tree'.node? place = some stored) (hdir : stored ≠ .directory) : tree.node? place = some stored := by
  rcases backup_eq_none h with ⟨-, rfl⟩ | ⟨-, grown, hgrows, hcopy⟩
  · exact hnode
  obtain ⟨-, opened, written, -, hopened, -, hcopied⟩ := copy_eq_none hcopy
  have hgrown := hgrows.keepsDirectories.target copy
  have hopen := (keepsDirectories_write hopened).target copy
  rw [node?_write_of_ne hcopied (by rw [hopen, hgrown]; exact hne),
    node?_write_of_ne hopened (by rw [hgrown]; exact hne)] at hnode
  exact hgrows.node?_of_ne hnode hdir

/-- A write neither makes nor takes away a device. -/
theorem hasDevice_write_iff (h : tree.write path content = .ok tree') :
    tree'.HasDevice path ↔ tree.HasDevice path := by
  rw [HasDevice, (keepsDirectories_write h).target, node?_write_target h, Option.some.injEq, HasDevice]
  split
  · next hdevice => exact iff_of_true rfl hdevice
  · next hdevice => exact iff_of_false (by simp) hdevice

theorem hasDevice_writeUntil_iff {fault : Option (Nat × OsError)} :
    (tree.writeUntil fault path content).1.HasDevice path ↔ tree.HasDevice path := by
  rw [writeUntil]
  split
  · exact Iff.rfl
  · next hwrite => exact hasDevice_write_iff hwrite

theorem hasDevice_copy_iff {source : Path} :
    (tree.copy faults source path).1.HasDevice path ↔ tree.HasDevice path := by
  rw [FileTree.copy]
  split
  · exact Iff.rfl
  split
  · exact Iff.rfl
  next hopened =>
  split
  · exact hasDevice_write_iff hopened
  · exact hasDevice_writeUntil_iff.trans (hasDevice_write_iff hopened)

/-- A backup neither makes nor takes away a device at the place of the copy. -/
theorem hasDevice_backup_iff {error? : Option OutputError} (h : tree.backup faults log copy = (tree', error?)) :
    tree'.HasDevice copy ↔ tree.HasDevice copy := by
  obtain rfl : (tree.backup faults log copy).1 = tree' := by rw [h]
  have hgrows := grows_makeParent tree copy
  rw [backup]
  split
  · exact Iff.rfl
  split
  · next hparent => rw [hparent] at hgrows; exact hgrows.hasDevice_iff
  · next grown hparent =>
    rw [hparent] at hgrows
    have hcopy : (grown.copy faults log copy).1.HasDevice copy ↔ grown.HasDevice copy := hasDevice_copy_iff
    split
    · next hc => rw [hc] at hcopy; exact hcopy.trans hgrows.hasDevice_iff
    · next hc => rw [hc] at hcopy; exact hcopy.trans hgrows.hasDevice_iff

theorem start_trimPath (tree : FileTree) (path : Path) : tree.start path.trimPath = tree.start path := by
  rw [start, start, Path.trimPath]
  cases path with
  | nil => rfl
  | cons c path => simp only [Path.isAbsolute_eq, List.cons_append, List.head?_cons]

/-- The file beside a path stands at a place of its own. -/
theorem target_trimPath_ne (tree : FileTree) (path : Path) : tree.target path.trimPath ≠ tree.target path := by
  obtain ⟨front, last, hpath, hnames⟩ := Path.names_trimPath path
  have hlength : (last ++ ".trim.log".toList).length = last.length + 9 := by rw [List.length_append]; rfl
  have hname : stepTo (front.foldl stepTo (tree.start path)) (last ++ ".trim.log".toList) =
      (last ++ ".trim.log".toList) :: front.foldl stepTo (tree.start path) := by
    rw [stepTo, if_neg, if_neg]
    · exact fun hup => by rw [hup] at hlength; simp at hlength
    · exact fun hdot => by rw [hdot] at hlength; simp at hlength
  rw [target, target, start_trimPath, hnames, List.foldl_append, List.foldl_cons, List.foldl_nil, hname]
  rcases hpath with hpath | ⟨hpath, -⟩
  · rw [hpath, List.foldl_append, List.foldl_cons, List.foldl_nil, stepTo]
    split
    · exact List.cons_ne_self _ _
    · split
      · exact fun heq => by
          have := congrArg List.length heq
          rw [List.length_cons, List.length_tail] at this
          omega
      · exact fun heq => by
          rw [(List.cons.inj heq).1] at hlength
          omega
  · rw [hpath]
    exact List.cons_ne_self _ _

/-- What a replacement that succeeds leaves at each place. -/
theorem node?_replaceContent (h : tree.replaceContent faults path content = (tree', none)) (place : Place) :
    tree'.node? place =
      if place = tree.target path then some (if tree.HasDevice path.trimPath then .device else .file content)
      else if place = tree.target path.trimPath then none else tree.node? place := by
  obtain ⟨written, hwrite, hrename⟩ := replaceContent_eq_none h
  have htarget := (keepsDirectories_write hwrite).target
  obtain ⟨-, -, -, -, hfree, moved, hmoved, hdir, rfl⟩ := rename_eq_ok_iff.1 hrename
  rw [htarget] at hmoved hfree
  rw [htarget, htarget]
  have hscratch := node?_write_target hwrite
  rw [hmoved, Option.some.injEq] at hscratch
  have hleft : (if tree.HasDevice path.trimPath then Node.device else .file content) = moved := hscratch.symm
  rw [hleft]
  have hne := target_trimPath_ne tree path
  split
  · next hplace => rw [hplace, node?_set_self (ne_root_of_node?_ne hfree)]
  · next hplace =>
    rw [node?_set_of_ne hplace]
    split
    · next hbeside =>
      have hfile : written.node? (tree.target path.trimPath) ≠ some .directory := by
        rw [hmoved]
        simpa using hdir
      rw [hbeside, node?_erase_self (ne_root_of_node?_ne hfile)]
    · next hbeside => rw [node?_erase_of_ne hbeside, node?_write_of_ne hwrite hbeside]

/-- A replacement that succeeds changes the places of the file and of the one beside it. -/
theorem keepsOutside_replaceContent (h : tree.replaceContent faults path content = (tree', none)) :
    KeepsOutside [tree.target path.trimPath, tree.target path] tree tree' := by
  obtain ⟨written, hwrite, hrename⟩ := replaceContent_eq_none h
  have hwritten := keepsOutside_write hwrite
  have hrenamed := keepsOutside_rename hrename
  rw [hwritten.keepsDirectories.target, hwritten.keepsDirectories.target] at hrenamed
  exact (hwritten.mono (by simp)).trans hrenamed

end LogDiagram.FileTree
