import LogDiagram.Proofs.Path.Names
import LogDiagram.Proofs.Storage.Places

/-!
# Components and where they lead

Empty pieces and dots in the middle do not count: a path leads where its components lead.

* `FileTree.target_eq_foldl_components`: paths with the same components and the same start lead to the same place;
* `Path.components_of_split?`: the components of the directory around, and the last one;
* `Path.components_append_name`, `Path.split?_append_name`: what a slash and a name behind a path add to it.
-/

namespace LogDiagram

namespace Path

theorem isComponent_eq_false_iff {name : Text} {i : Nat} :
    isComponent (name, i) = false ↔ name = [] ∨ name = ['.'] ∧ i ≠ 0 := by
  rw [isComponent.eq_def]
  split <;> simp_all

/-! ## Following components -/

/-- Whatever is no component of a list of pieces leads nowhere else. -/
theorem foldl_stepTo_components (pieces : List (Text × Nat)) (place : Place) :
    ((pieces.filter isComponent).map (·.1)).foldl FileTree.stepTo place =
      ((pieces.map (·.1)).filter fun name => !name.isEmpty).foldl FileTree.stepTo place := by
  induction pieces generalizing place with
  | nil => rfl
  | cons piece pieces ih =>
    obtain ⟨name, i⟩ := piece
    cases hcomponent : isComponent (name, i) with
    | true =>
      have hname : (!name.isEmpty) = true := by simpa using ne_nil_of_isComponent hcomponent
      rw [List.filter_cons_of_pos hcomponent, List.map_cons, List.map_cons, List.filter_cons, if_pos hname,
        List.foldl_cons, List.foldl_cons, ih]
    | false =>
      rw [List.filter_cons_of_neg (by simp [hcomponent]), List.map_cons, ih]
      rcases isComponent_eq_false_iff.1 hcomponent with rfl | ⟨rfl, -⟩
      · rfl
      · rfl

end Path

/-- A path leads where its components lead. -/
theorem FileTree.target_eq_foldl_components (tree : FileTree) (path : Path) :
    tree.target path = path.components.foldl stepTo (tree.start path) := by
  rw [target, Path.names, Path.splitAtChar_eq_map_pieces, ← Path.foldl_stepTo_components]
  rfl

namespace Path

variable {path parent directory : Path} {name last : Text}

/-! ## The directory around, and the last component -/

/-- The pieces of the path of first pieces are those. -/
theorem pieces_upTo {kept others : List (Text × Nat)} (h : path.pieces = kept ++ others) (hne : kept ≠ []) :
    (path.upTo kept.reverse).pieces = kept := by
  obtain ⟨first, rest, hpath, hkept, -⟩ := List.zipIdx_eq_append_iff.1 h
  have hfirst : kept.map (·.1) = first := by rw [hkept, List.zipIdx_map_fst]
  have hslash : ∀ piece ∈ first, '/' ∉ piece := fun piece hmem =>
    Text.not_mem_of_mem_splitAtChar (hpath ▸ List.mem_append_left rest hmem)
  have hfirstNe : first ≠ [] := by
    rw [← hfirst]
    simpa using hne
  rw [upTo_reverse path hne, hfirst, pieces, Text.splitAtChar_joined hslash hfirstNe, hkept]

theorem components_upTo {kept others : List (Text × Nat)} (h : path.pieces = kept ++ others) :
    (path.upTo kept.reverse).components = (kept.filter isComponent).map (·.1) := by
  by_cases hne : kept = []
  · subst hne
    rw [List.reverse_nil, upTo]
    split <;> rfl
  · rw [components, pieces_upTo h hne]

/-- The components of a path are those of the directory around and the last one. -/
theorem components_of_split? (h : path.split? = some (parent, last)) :
    path.components = parent.components ++ [last] := by
  obtain ⟨kept, between, behind, i, hpieces, hno, hlast, -, rfl⟩ := split?_eq_some h
  have hbetween : between.filter isComponent = [] :=
    List.filter_eq_nil_iff.2 fun piece hmem => by simp [hno piece (List.mem_append_left _ hmem)]
  have hbehind : behind.filter isComponent = [] :=
    List.filter_eq_nil_iff.2 fun piece hmem => by simp [hno piece (List.mem_append_right _ hmem)]
  rw [components_upTo hpieces, components, hpieces, List.filter_append, List.filter_append, hbetween,
    List.filter_cons_of_pos hlast, hbehind, List.map_append]
  rfl

/-- The last component is one of the pieces between slashes. -/
theorem mem_splitAtChar_of_split? (h : path.split? = some (parent, last)) : last ∈ Text.splitAtChar '/' path := by
  obtain ⟨kept, between, behind, i, hpieces, -, -, -, -⟩ := split?_eq_some h
  rw [splitAtChar_eq_map_pieces, hpieces]
  simp

/-- A name that is not that of a directory itself or of the one around. -/
structure IsName (name : Text) : Prop where
  noSlash : '/' ∉ name
  ne_nil : name ≠ []
  notDots : isDots name = false

theorem IsName.ne_dot (h : IsName name) : name ≠ ['.'] := by
  rintro rfl
  exact absurd h.notDots (by decide)

theorem IsName.stepTo (h : IsName name) (place : Place) : FileTree.stepTo place name = name :: place := by
  have hdots := h.notDots
  rw [isDots, Bool.or_eq_false_iff, beq_eq_false_iff_ne, beq_eq_false_iff_ne] at hdots
  rw [FileTree.stepTo, if_neg hdots.1, if_neg hdots.2]

/-- A name with an ending that is more than dots is a name. -/
theorem IsName.append (h : IsName name) {ending : Text} (hslash : '/' ∉ ending) (hdots : ∃ c ∈ ending, c ≠ '.') :
    IsName (name ++ ending) where
  noSlash hmem := (List.mem_append.1 hmem).elim h.noSlash hslash
  ne_nil := List.append_ne_nil_of_left_ne_nil h.ne_nil ending
  notDots := by
    obtain ⟨c, hmem, hc⟩ := hdots
    have hmem : c ∈ name ++ ending := List.mem_append_right name hmem
    rw [isDots, Bool.or_eq_false_iff, beq_eq_false_iff_ne, beq_eq_false_iff_ne]
    constructor <;> intro heq <;> simp [heq, hc] at hmem

/-- A last component that is no dots is a name, and the file name of the path. -/
theorem fileName?_eq_some_iff :
    path.fileName? = some name ↔ ∃ parent, path.split? = some (parent, name) ∧ IsName name := by
  constructor
  · intro h
    rw [fileName?] at h
    split at h
    case h_4 parent last hdot hup hsplit =>
      obtain rfl := Option.some.inj h
      obtain ⟨kept, between, behind, i, -, -, hlast, -, -⟩ := split?_eq_some hsplit
      refine ⟨parent, hsplit, Text.not_mem_of_mem_splitAtChar (mem_splitAtChar_of_split? hsplit),
        ne_nil_of_isComponent hlast, ?_⟩
      simpa [isDots] using ⟨hdot, hup⟩
    all_goals cases h
  · rintro ⟨parent, hsplit, hname⟩
    rw [fileName?, hsplit]
    split
    case h_1 heq =>
      cases heq
      exact absurd rfl hname.ne_dot
    case h_2 heq =>
      cases heq
      exact absurd hname.notDots (by decide)
    case h_3 heq => cases heq
    case h_4 heq => rw [(Prod.mk.inj (Option.some.inj heq)).2]

/-! ## A name behind a directory -/

/-- The path is the root, or ends with a component. -/
def IsTidy (path : Path) : Prop := path = ['/'] ∨ ∃ piece ∈ path.pieces.getLast?, isComponent piece = true

/-- A directory around is written without anything behind its last component. -/
theorem isTidy_of_split? (h : path.split? = some (parent, last)) (hne : parent ≠ []) : parent.IsTidy := by
  obtain ⟨kept, between, behind, i, hpieces, -, -, hkept, rfl⟩ := split?_eq_some h
  by_cases hnil : kept = []
  · subst hnil
    left
    rw [List.reverse_nil, upTo] at hne ⊢
    by_cases habsolute : path.isAbsolute = true
    · rw [if_pos habsolute]
    · rw [if_neg habsolute] at hne
      exact absurd rfl hne
  · right
    rw [pieces_upTo hpieces hnil]
    exact ⟨kept.getLast hnil, List.getLast?_eq_some_getLast hnil, hkept _ (List.getLast?_eq_some_getLast hnil)⟩

theorem pieces_append_name (directory : Path) (hslash : '/' ∉ name) :
    (directory ++ '/' :: name).pieces = directory.pieces ++ [(name, directory.pieces.length)] := by
  rw [pieces, pieces, Text.splitAtChar_eq_splitOn, Text.splitAtChar_eq_splitOn, List.splitOn_append_cons_self,
    List.splitOn_eq_singleton hslash, List.zipIdx_append]
  simp

theorem IsName.isComponent (h : IsName name) (i : Nat) : Path.isComponent (name, i) = true := by
  by_contra hno
  rcases isComponent_eq_false_iff.1 (Bool.not_eq_true _ ▸ hno) with heq | ⟨heq, -⟩
  · exact h.ne_nil heq
  · exact h.ne_dot heq

/-- A slash and a name behind a path are one more component. -/
theorem components_append_name (directory : Path) (hname : IsName name) :
    (directory ++ '/' :: name).components = directory.components ++ [name] := by
  rw [components, components, pieces_append_name directory hname.noSlash, List.filter_append,
    List.filter_cons_of_pos (hname.isComponent _), List.map_append]
  rfl

theorem isAbsolute_append (hne : directory ≠ []) (t : Text) : (directory ++ t).isAbsolute = directory.isAbsolute := by
  rw [isAbsolute_eq, isAbsolute_eq, List.head?_append_of_ne_nil _ hne]

/-- Behind a directory, a slash and a name are taken off as they are. -/
theorem split?_append_name (h : directory.IsTidy) (hname : IsName name) :
    (directory ++ '/' :: name).split? = some (directory, name) := by
  have hsplit : (directory ++ '/' :: name).split? = some ((directory ++ '/' :: name).upTo
      (directory.pieces.reverse.dropWhile fun piece => !isComponent piece), name) := by
    rw [split?, pieces_append_name directory hname.noSlash, List.reverse_append, List.reverse_singleton,
      List.singleton_append, List.dropWhile_cons_of_neg (by simp [hname.isComponent])]
  rw [hsplit]
  rcases h with rfl | ⟨piece, hlast, hpiece⟩
  · rfl
  · have hne : directory.pieces ≠ [] := List.ne_nil_of_mem (List.mem_of_getLast? hlast)
    have hkept : directory.pieces.reverse.dropWhile (fun piece => !isComponent piece) = directory.pieces.reverse := by
      obtain ⟨front, hpieces⟩ := List.getLast?_eq_some_iff.1 hlast
      rw [hpieces, List.reverse_append, List.reverse_singleton, List.singleton_append,
        List.dropWhile_cons_of_neg (by simp [hpiece])]
    rw [hkept, upTo_reverse _ hne, ← splitAtChar_eq_map_pieces, Text.joined_splitAtChar]

end Path

/-- A slash and a name behind a path lead to the place with this name at the path's place. -/
theorem FileTree.target_append_name (tree : FileTree) {directory : Path} {name : Text} (hne : directory ≠ [])
    (hname : Path.IsName name) : tree.target (directory ++ '/' :: name) = name :: tree.target directory := by
  rw [target_eq_foldl_components, target_eq_foldl_components, Path.components_append_name directory hname,
    List.foldl_concat, start, Path.isAbsolute_append hne]
  exact hname.stepTo _

end LogDiagram
