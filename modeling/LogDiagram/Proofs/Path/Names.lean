import Mathlib.Data.List.Infix
import LogDiagram.Storage.FileTree

/-!
# Names on a path

A path is followed name by name (`Path.names`), while the directory around it is told from its pieces with dots and
empty pieces (`Path.parent?`). Here both are brought together.

* `Text.splitAtChar_eq_splitOn`: the pieces between slashes;
* `Path.names_append`: a text without slashes behind a path makes the last name longer, or is the last name;
* `Path.split?_eq_some`: the pieces of a path are those of the directory around, the last component, and nothing that
  counts between and behind them;
* `Path.names_parent?`, `Path.isAbsolute_parent?`, `Path.prefix_of_parent?`: the path of the directory around starts where
  the path starts, has its first names, but not all of them, and is the front of its text;
* `Path.IsAncestor`: the paths of all directories above, which start and go on like that, too.
-/

namespace LogDiagram

/-- What is dropped in front of a list has the property, and what the rest starts with has not. -/
theorem exists_dropped {α : Type} (p : α → Bool) (l : List α) :
    ∃ dropped, l = dropped ++ l.dropWhile p ∧ (∀ x ∈ dropped, p x = true) ∧
      ∀ x ∈ (l.dropWhile p).head?, p x = false := by
  refine ⟨l.takeWhile p, List.takeWhile_append_dropWhile.symm, List.all_eq_true.1 List.all_takeWhile, ?_⟩
  intro x hmem
  have hhead := List.head?_dropWhile_not p l
  rw [Option.mem_def.1 hmem] at hhead
  exact hhead

namespace Text

variable {sep : Char} {t piece : Text} {parts : List Text}

/-- One character of the pass behind `splitAtChar`. -/
def splitStep (sep : Char) (state : Text × List Text) (c : Char) : Text × List Text :=
  if c = sep then ([], state.1.reverse :: state.2) else (c :: state.1, state.2)

/-- The open piece of the pass grows at its front, and so does the list of the finished ones. -/
theorem foldl_splitStep (sep : Char) (t : Text) (state : Text × List Text) :
    ((t.foldl (splitStep sep) state).1.reverse :: (t.foldl (splitStep sep) state).2).reverse =
      state.2.reverse ++ (t.splitOn sep).modifyHead (state.1.reverse ++ ·) := by
  induction t generalizing state with
  | nil => simp
  | cons c t ih =>
    rw [List.foldl_cons, ih, List.splitOn_cons_eq_if_modifyHead, splitStep]
    by_cases hc : c = sep
    · rw [if_pos hc, if_pos (beq_iff_eq.2 hc)]
      cases t.splitOn sep <;> simp
    · rw [if_neg hc, if_neg (by simpa using hc), List.modifyHead_modifyHead]
      congr 2
      funext first
      simp

theorem splitAtChar_eq_splitOn (sep : Char) (t : Text) : splitAtChar sep t = t.splitOn sep := by
  have h : splitAtChar sep t = [].reverse ++ (t.splitOn sep).modifyHead ([].reverse ++ ·) :=
    foldl_splitStep sep t ([], [])
  rw [h]
  cases t.splitOn sep <;> rfl

theorem joined_splitAtChar (sep : Char) (t : Text) : joined [sep] (splitAtChar sep t) = t := by
  rw [splitAtChar_eq_splitOn]
  exact List.intercalate_splitOn sep

theorem splitAtChar_joined (h : ∀ piece ∈ parts, sep ∉ piece) (hne : parts ≠ []) :
    splitAtChar sep (joined [sep] parts) = parts := by
  rw [splitAtChar_eq_splitOn]
  exact List.splitOn_intercalate sep h hne

/-- The join of first parts is the front of the whole join. -/
theorem prefix_joined (sep : Text) {kept parts : List Text} (h : kept <+: parts) : joined sep kept <+: joined sep parts := by
  obtain ⟨others, rfl⟩ := h
  induction kept with
  | nil => exact List.nil_prefix
  | cons part kept ih =>
    cases kept with
    | nil => cases others <;> simp [joined]
    | cons next kept =>
      obtain ⟨rest, hrest⟩ := ih
      refine ⟨rest, ?_⟩
      simp only [joined, List.cons_append, List.intersperse_cons_cons, List.flatten_cons, List.append_assoc] at hrest ⊢
      rw [hrest]

theorem not_mem_of_mem_splitAtChar (h : piece ∈ splitAtChar sep t) : sep ∉ piece := by
  rw [splitAtChar_eq_splitOn] at h
  induction t generalizing piece with
  | nil =>
    rw [List.splitOn_nil, List.mem_singleton] at h
    rw [h]
    exact List.not_mem_nil
  | cons c t ih =>
    rw [List.splitOn_cons_eq_if_modifyHead] at h
    by_cases hc : c = sep
    · rw [if_pos (beq_iff_eq.2 hc)] at h
      rcases List.mem_cons.1 h with rfl | h
      · exact List.not_mem_nil
      · exact ih h
    · rw [if_neg (by simpa using hc)] at h
      cases hpieces : t.splitOn sep with
      | nil => exact absurd hpieces (List.splitOn_ne_nil sep t)
      | cons first rest =>
        rw [hpieces] at h ih
        rcases List.mem_cons.1 h with rfl | h
        · rw [List.mem_cons, not_or]
          exact ⟨fun heq => hc heq.symm, ih List.mem_cons_self⟩
        · exact ih (List.mem_cons_of_mem _ h)

/-- A text without separators behind another one becomes part of the last piece. -/
theorem exists_splitAtChar_append (sep : Char) (t : Text) :
    ∃ front last, ∀ s, sep ∉ s → splitAtChar sep (t ++ s) = front ++ [last ++ s] := by
  simp only [splitAtChar_eq_splitOn]
  induction t with
  | nil => exact ⟨[], [], fun s hs => List.splitOn_eq_singleton hs⟩
  | cons c t ih =>
    obtain ⟨front, last, h⟩ := ih
    by_cases hc : c = sep
    · refine ⟨[] :: front, last, fun s hs => ?_⟩
      rw [List.cons_append, List.splitOn_cons_eq_if_modifyHead, if_pos (beq_iff_eq.2 hc), h s hs]
      rfl
    · cases front with
      | nil =>
        refine ⟨[], c :: last, fun s hs => ?_⟩
        rw [List.cons_append, List.splitOn_cons_eq_if_modifyHead, if_neg (by simpa using hc), h s hs]
        rfl
      | cons first front =>
        refine ⟨(c :: first) :: front, last, fun s hs => ?_⟩
        rw [List.cons_append, List.splitOn_cons_eq_if_modifyHead, if_neg (by simpa using hc), h s hs]
        rfl

end Text

namespace Path

variable {path parent : Path}

/-- A text without slashes behind a path makes the last name longer, or is the last name. -/
theorem names_append (path : Path) :
    ∃ front last, (path.names = front ++ [last] ∨ path.names = front ∧ last = []) ∧
      ∀ s, s ≠ [] → '/' ∉ s → (path ++ s).names = front ++ [last ++ s] := by
  obtain ⟨front, last, h⟩ := Text.exists_splitAtChar_append '/' path
  have hpath := h [] List.not_mem_nil
  rw [List.append_nil, List.append_nil] at hpath
  refine ⟨front.filter fun name => !name.isEmpty, last, ?_, fun s hs hslash => ?_⟩
  · rw [names, hpath, List.filter_append]
    cases last with
    | nil => exact .inr ⟨List.append_nil _, rfl⟩
    | cons c last => exact .inl rfl
  · rw [names, h s hslash, List.filter_append]
    congr 1
    simp [hs]

/-- The file beside a path has the path's last name with an ending, or the ending as its name. -/
theorem names_trimPath (path : Path) :
    ∃ front last, (path.names = front ++ [last] ∨ path.names = front ∧ last = []) ∧
      path.trimPath.names = front ++ [last ++ ".trim.log".toList] := by
  obtain ⟨front, last, hpath, happend⟩ := names_append path
  exact ⟨front, last, hpath, happend _ (by decide) (by decide)⟩

/-! ## The directory around -/

theorem isAbsolute_eq (path : Path) : path.isAbsolute = (path.head? == some '/') := by
  cases path with
  | nil => rfl
  | cons c path =>
    by_cases hc : c = '/'
    · rw [hc]
      rfl
    · rw [isAbsolute]
      · simp [hc]
      · simpa using hc

/-- What stands in front in a list of pieces that is not a single empty piece. -/
theorem head?_joined {piece : Text} {parts : List Text} (h : parts = [] → piece ≠ []) :
    (Text.joined ['/'] (piece :: parts)).head? = (piece ++ ['/']).head? := by
  cases parts with
  | nil => cases piece <;> simp_all [Text.joined]
  | cons next parts => cases piece <;> simp [Text.joined]

/-- A component is not empty. -/
theorem ne_nil_of_isComponent {piece : Text × Nat} (h : isComponent piece = true) : piece.1 ≠ [] := by
  rintro hempty
  obtain ⟨text, i⟩ := piece
  simp only at hempty
  rw [hempty] at h
  cases h

/--
The pieces of a path: those of the directory around, which end with a component if there are any, the last component,
and no components between and behind them.
-/
theorem split?_eq_some {last : Text} (h : path.split? = some (parent, last)) :
    ∃ kept between behind i, path.pieces = kept ++ (between ++ (last, i) :: behind) ∧
      (∀ piece ∈ between ++ behind, isComponent piece = false) ∧ isComponent (last, i) = true ∧
        (∀ piece ∈ kept.getLast?, isComponent piece = true) ∧ parent = path.upTo kept.reverse := by
  obtain ⟨behind, hreverse, hbehind, hlast⟩ := exists_dropped (fun piece => !isComponent piece) path.pieces.reverse
  rw [split?] at h
  split at h
  · cases h
  · next piece before hpieces =>
    simp only [hpieces, Bool.not_eq_true', Bool.not_eq_false'] at hreverse hbehind hlast
    obtain ⟨between, hbefore, hbetween, hkept⟩ := exists_dropped (fun piece => !isComponent piece) before
    simp only [Bool.not_eq_true', Bool.not_eq_false'] at hbetween hkept
    obtain ⟨rfl, rfl⟩ := Prod.mk.inj (Option.some.inj h)
    refine ⟨(before.dropWhile fun piece => !isComponent piece).reverse, between.reverse, behind.reverse, piece.2,
      ?_, ?_, hlast piece rfl, ?_, ?_⟩
    · rw [← path.pieces.reverse_reverse, hreverse]
      nth_rewrite 1 [hbefore]
      simp
    · intro other hmem
      rcases List.mem_append.1 hmem with hmem | hmem
      · exact hbetween other (List.mem_reverse.1 hmem)
      · exact hbehind other (List.mem_reverse.1 hmem)
    · rw [List.getLast?_reverse]
      exact hkept
    · rw [List.reverse_reverse]

theorem splitAtChar_eq_map_pieces (path : Path) : Text.splitAtChar '/' path = path.pieces.map (·.1) := by
  rw [pieces, List.zipIdx_map_fst]

theorem upTo_reverse (path : Path) {kept : List (Text × Nat)} (hne : kept ≠ []) :
    path.upTo kept.reverse = Text.joined ['/'] (kept.map (·.1)) := by
  rw [upTo, List.reverse_reverse]
  simpa using hne

/--
The pieces of the directory around a path are the first pieces of the path: none, or those up to one that is not empty.
A piece that is not empty follows them.
-/
theorem parent?_eq_some (h : path.parent? = some parent) :
    ∃ kept others, Text.splitAtChar '/' path = kept ++ others ∧ (∃ name ∈ others, name ≠ []) ∧
      (kept = [] ∧ parent = (if path.isAbsolute then ['/'] else []) ∨
        (∃ front last, kept = front ++ [last] ∧ last ≠ []) ∧ parent = Text.joined ['/'] kept) := by
  rw [parent?, Option.map_eq_some_iff] at h
  obtain ⟨⟨_, last⟩, hsplit, rfl⟩ := h
  obtain ⟨kept, between, behind, i, hpieces, -, hlast, hkept, hparent⟩ := split?_eq_some hsplit
  refine ⟨kept.map (·.1), (between ++ (last, i) :: behind).map (·.1), ?_,
    ⟨last, by simp, ne_nil_of_isComponent hlast⟩, ?_⟩
  · rw [splitAtChar_eq_map_pieces, hpieces, List.map_append]
  · obtain rfl | ⟨front, piece, rfl⟩ := kept.eq_nil_or_concat
    · exact .inl ⟨rfl, hparent⟩
    · refine .inr ⟨⟨front.map (·.1), piece.1, by simp, ne_nil_of_isComponent (hkept piece (by simp))⟩, ?_⟩
      rw [hparent, upTo_reverse path (by simp)]

/-- The names of the directory around a path are first names of the path, but not all of them. -/
theorem names_parent? (h : path.parent? = some parent) : ∃ rest, rest ≠ [] ∧ path.names = parent.names ++ rest := by
  obtain ⟨kept, others, hpath, ⟨name, hname, hne⟩, hparent⟩ := parent?_eq_some h
  refine ⟨others.filter fun name => !name.isEmpty, ?_, ?_⟩
  · refine List.ne_nil_of_mem (List.mem_filter.2 ⟨hname, ?_⟩)
    cases name with
    | nil => exact absurd rfl hne
    | cons c name => rfl
  · rw [names, hpath, List.filter_append]
    congr 1
    rcases hparent with ⟨rfl, rfl⟩ | ⟨⟨front, last, rfl, -⟩, rfl⟩
    · cases path.isAbsolute with
      | true => rfl
      | false => rfl
    · have hslash : ∀ piece ∈ front ++ [last], '/' ∉ piece := fun piece hmem =>
        Text.not_mem_of_mem_splitAtChar (hpath ▸ List.mem_append_left others hmem)
      rw [names, Text.splitAtChar_joined hslash (by simp)]

/-- The path of the directory around is the front of the path. -/
theorem prefix_of_parent? (h : path.parent? = some parent) : parent <+: path := by
  obtain ⟨kept, others, hpath, -, hparent⟩ := parent?_eq_some h
  rcases hparent with ⟨-, rfl⟩ | ⟨-, rfl⟩
  · split
    · next habsolute =>
      cases path with
      | nil => cases habsolute
      | cons c path =>
        rw [isAbsolute_eq, List.head?_cons, beq_iff_eq, Option.some.injEq] at habsolute
        rw [habsolute]
        exact ⟨path, rfl⟩
    · exact List.nil_prefix
  · have hjoined := Text.joined_splitAtChar '/' path
    rw [hpath] at hjoined
    exact hjoined ▸ Text.prefix_joined ['/'] (List.prefix_append kept others)

/-- The directory around a path starts where the path starts. -/
theorem isAbsolute_parent? (h : path.parent? = some parent) : parent.isAbsolute = path.isAbsolute := by
  obtain ⟨kept, others, hkept, -, ⟨-, rfl⟩ | ⟨⟨front, last, rfl, hlast⟩, rfl⟩⟩ := parent?_eq_some h
  · cases path.isAbsolute <;> rfl
  · have hpath := Text.joined_splitAtChar '/' path
    rw [hkept] at hpath
    rw [isAbsolute_eq, isAbsolute_eq, ← hpath]
    cases front with
    | nil =>
      rw [List.nil_append, List.singleton_append, head?_joined fun _ => hlast, head?_joined fun _ => hlast]
    | cons piece front =>
      rw [List.cons_append, List.cons_append, head?_joined (by simp), head?_joined (by simp)]

/-! ## The directories above -/

/-- A path is that of the directory around another one, as that is written, or lies in turn around that directory. -/
inductive IsAncestor : Path → Path → Prop
  | parent {above path : Path} : path.parent? = some above → IsAncestor above path
  | around {above parent path : Path} : path.parent? = some parent → IsAncestor above parent → IsAncestor above path

/-- The directories above a path start where it starts, and their names are its first names. -/
theorem IsAncestor.names_prefix {above : Path} (h : IsAncestor above path) :
    above.names <+: path.names ∧ above.isAbsolute = path.isAbsolute := by
  induction h with
  | parent hparent =>
    obtain ⟨rest, -, hrest⟩ := names_parent? hparent
    exact ⟨⟨rest, hrest.symm⟩, isAbsolute_parent? hparent⟩
  | around hparent _ ih =>
    obtain ⟨rest, -, hrest⟩ := names_parent? hparent
    exact ⟨ih.1.trans ⟨rest, hrest.symm⟩, ih.2.trans (isAbsolute_parent? hparent)⟩

theorem isAncestor_of_mem_ancestors (fuel : Nat) (path : Path) :
    ∀ above ∈ FileTree.ancestors fuel path, IsAncestor above path := by
  induction fuel generalizing path with
  | zero => exact fun above hmem => absurd hmem List.not_mem_nil
  | succ fuel ih =>
    intro above hmem
    rw [FileTree.ancestors] at hmem
    split at hmem
    · exact absurd hmem List.not_mem_nil
    · exact absurd hmem List.not_mem_nil
    · next parent _ hparent =>
      split at hmem
      · exact absurd hmem List.not_mem_nil
      · rcases List.mem_cons.1 hmem with rfl | hmem
        · exact .parent hparent
        · exact .around hparent (ih parent above hmem)

end Path

end LogDiagram
