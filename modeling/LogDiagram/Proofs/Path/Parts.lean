import LogDiagram.Config.Basic
import LogDiagram.Proofs.Path.Components
import LogDiagram.Proofs.Path.Expanding
import LogDiagram.Proofs.Text.Pieces

/-!
# The place that the parts of a path name

The directory, the file name and the stem of a path are told by rules of their own. Here they are put together again.

* `Path.isStem_stemOf`: a stem is a file name without what stands behind its last dot;
* `Path.expand_defaultDocumentFile`: what the path of a document is if no other one is configured;
* `Path.parts_name_own_place`: the directory and the file name lead where the path leads, and the document lies beside it.
-/

namespace LogDiagram.Path

variable {path parent : Path} {file name : Text}

/-! ## Stems -/

/-- A front part of a name: all of it, or what stands before its last dot. A dot at the start does not count. -/
def IsStem (name stem : Text) : Prop :=
  stem ≠ [] ∧ ∃ rest, name = stem ++ rest ∧
    (rest = [] ∧ '.' ∉ name.tail ∨ ∃ extension, rest = '.' :: extension ∧ '.' ∉ extension)

theorem isStem_stemOf (hname : name ≠ []) : IsStem name (stemOf name) := by
  obtain ⟨extension, hreverse, hextension, hdot⟩ := exists_dropped (fun c : Char => c ≠ '.') name.reverse
  have hnone : '.' ∉ extension := fun hmem => by simpa using hextension '.' hmem
  rw [stemOf]
  split
  case h_1 hrest =>
    rw [hrest, List.append_nil] at hreverse
    refine ⟨hname, [], (List.append_nil name).symm, .inl ⟨rfl, fun hmem => hnone ?_⟩⟩
    rw [← hreverse]
    exact List.mem_reverse.2 (List.mem_of_mem_tail hmem)
  case h_2 c hrest =>
    rw [hrest] at hreverse
    refine ⟨hname, [], (List.append_nil name).symm, .inl ⟨rfl, fun hmem => hnone ?_⟩⟩
    rw [← List.reverse_reverse name, hreverse, List.reverse_append] at hmem
    exact List.mem_reverse.1 hmem
  case h_3 c before hbefore hrest =>
    rw [hrest] at hreverse hdot
    obtain rfl : c = '.' := by simpa using hdot c rfl
    have hname : name = before.reverse ++ '.' :: extension.reverse := by
      rw [← List.reverse_reverse name, hreverse]
      simp
    refine ⟨fun hnil => hbefore (List.reverse_eq_nil_iff.1 hnil), '.' :: extension.reverse, hname, .inr ?_⟩
    exact ⟨extension.reverse, rfl, fun hmem => hnone (List.mem_reverse.1 hmem)⟩

/-! ## The directory of a path -/

/-- The path that the directory, a slash and the file name make. -/
def Parts.whole (parts : Parts) : Path := parts.directory ++ '/' :: parts.file

theorem parts_of_split? (h : path.split? = some (parent, file)) (hfile : IsName file) :
    path.parts = ⟨if parent = [] then ['.'] else parent, file, stemOf file⟩ := by
  have hname : path.fileName? = some file := fileName?_eq_some_iff.2 ⟨parent, h, hfile⟩
  rw [parts, hname, parent?, h]
  cases parent <;> rfl

/-- The directory is the directory around, or a dot if there is none. -/
theorem directory_of_split? (h : path.split? = some (parent, file)) (hfile : IsName file) :
    parent = [] ∧ path.parts.directory = ['.'] ∨ parent ≠ [] ∧ path.parts.directory = parent := by
  rw [parts_of_split? h hfile]
  by_cases hparent : parent = []
  · exact .inl ⟨hparent, if_pos hparent⟩
  · exact .inr ⟨hparent, if_neg hparent⟩

theorem isTidy_directory (h : path.split? = some (parent, file)) (hfile : IsName file) :
    IsTidy path.parts.directory := by
  rcases directory_of_split? h hfile with ⟨-, hdirectory⟩ | ⟨hne, hdirectory⟩
  · rw [hdirectory]
    exact .inr ⟨(['.'], 0), rfl, rfl⟩
  · rw [hdirectory]
    exact isTidy_of_split? h hne

/-- The directory starts where the path starts. -/
theorem isAbsolute_directory (h : path.split? = some (parent, file)) (hfile : IsName file) :
    isAbsolute path.parts.directory = path.isAbsolute := by
  have hparent : parent.isAbsolute = path.isAbsolute := isAbsolute_parent? (by rw [parent?, h]; rfl)
  rw [← hparent]
  rcases directory_of_split? h hfile with ⟨rfl, hdirectory⟩ | ⟨-, hdirectory⟩
  · rw [hdirectory]
    rfl
  · rw [hdirectory]

/-- The path leads to the place with the file name at the place of the directory. -/
theorem target_of_split? (tree : FileTree) (h : path.split? = some (parent, file)) (hfile : IsName file) :
    tree.target path = file :: tree.target path.parts.directory := by
  have hstart : tree.start path.parts.directory = tree.start path := by
    rw [FileTree.start, FileTree.start, isAbsolute_directory h hfile]
  rw [tree.target_eq_foldl_components path, components_of_split? h, List.foldl_concat, hfile.stepTo, ← hstart,
    tree.target_eq_foldl_components path.parts.directory]
  congr 1
  rcases directory_of_split? h hfile with ⟨rfl, hdirectory⟩ | ⟨-, hdirectory⟩
  · rw [hdirectory]
    rfl
  · rw [hdirectory]

/-- A relative path that ends with a component has one. -/
theorem IsTidy.components_ne_nil (h : path.IsTidy) (hrelative : path.isAbsolute = false) : path.components ≠ [] := by
  rcases h with rfl | ⟨piece, hlast, hpiece⟩
  · cases hrelative
  · have hmem : piece ∈ path.pieces.filter isComponent := List.mem_filter.2 ⟨List.mem_of_getLast? hlast, hpiece⟩
    rw [components, ne_eq, List.map_eq_nil_iff]
    exact List.ne_nil_of_mem hmem

/-- The directory and the file name have the components of the path; a bare file name gets a dot in front. -/
theorem components_whole (h : path.split? = some (parent, file)) (hfile : IsName file) :
    path.parts.whole.components =
      if path.isAbsolute = false ∧ path.components = [file] then [['.'], file] else path.components := by
  have hwhole : path.parts.whole.components = components path.parts.directory ++ [file] := by
    rw [parts_of_split? h hfile]
    exact components_append_name _ hfile
  have habsolute : isAbsolute path.parts.directory = path.isAbsolute := isAbsolute_directory h hfile
  rw [hwhole]
  rcases directory_of_split? h hfile with ⟨rfl, hdirectory⟩ | ⟨hne, hdirectory⟩
  · rw [hdirectory] at habsolute ⊢
    rw [if_pos ⟨habsolute.symm, components_of_split? h⟩]
    rfl
  · rw [hdirectory] at habsolute ⊢
    rw [if_neg, components_of_split? h]
    rintro ⟨hrelative, hbare⟩
    have hnone : parent.components = [] := by simpa [components_of_split? h] using hbare
    exact (isTidy_of_split? h hne).components_ne_nil (habsolute.trans hrelative) hnone

/-! ## The document of a log -/

/-- Without dollar signs in the parts, the document is named after the log and lies in the same directory. -/
theorem expand_defaultDocumentFile {parts : Parts} (hdirectory : '$' ∉ parts.directory) (hfile : '$' ∉ parts.file)
    (hstem : '$' ∉ parts.stem) :
    parts.expand Config.defaultDocumentFile = parts.directory ++ '/' :: (parts.file ++ ".txt".toList) := by
  have hopen : Text.HasNoOpenMark parts.table Config.defaultDocumentFile := of_decide_eq_true rfl
  calc parts.expand Config.defaultDocumentFile
    _ = Text.replaceEach parts.table Config.defaultDocumentFile :=
      (Parts.isMarkTable hdirectory hfile hstem).foldl_replaceAll hopen
    _ = _ := rfl

/-- A character that is no dot stands in no part of a path that it does not stand in. -/
theorem not_mem_parts {c : Char} (h : path.split? = some (parent, file)) (hfile : IsName file) (hc : c ∉ path)
    (hdot : c ≠ '.') : c ∉ path.parts.directory ∧ c ∉ path.parts.file ∧ c ∉ path.parts.stem := by
  have hlast : c ∉ file := by
    obtain ⟨-, a, b, rfl, -⟩ := Text.mem_splitAtChar_iff.1 (mem_splitAtChar_of_split? h)
    exact fun hmem => hc (List.mem_append_right a (List.mem_append_left b hmem))
  have hparent : c ∉ parent := fun hmem => hc ((prefix_of_parent? (by rw [parent?, h]; rfl)).subset hmem)
  obtain ⟨-, rest, hrest, -⟩ := isStem_stemOf hfile.ne_nil
  rw [parts_of_split? h hfile]
  refine ⟨?_, hlast, fun hmem => hlast (hrest ▸ List.mem_append_left rest hmem)⟩
  split
  · simpa using hdot
  · exact hparent

/-- The path of the document of a log if no other one is configured. -/
def ownDocument (log : Path) : Path := log.parts.expand Config.defaultDocumentFile

theorem ownDocument_eq (h : path.split? = some (parent, file)) (hfile : IsName file) (hdollar : '$' ∉ path) :
    path.ownDocument = path.parts.directory ++ '/' :: (file ++ ".txt".toList) := by
  obtain ⟨hdirectory, hname, hstem⟩ := not_mem_parts h hfile hdollar (by decide)
  rw [ownDocument, expand_defaultDocumentFile hdirectory hname hstem, parts_of_split? h hfile]

/--
The parts of a path with a file name name its own place. The directory and the file name make a path with the same
components, but for a dot in front of a bare file name, and this leads to the same place in every tree. The stem is a
front part of the file name. And unless the path holds a dollar sign, the document of the log lies in its directory
under the log's name with an ending of its own, so it never takes the place of the log.
-/
theorem parts_name_own_place (h : path.fileName? = some file) :
    path.parts.file = file ∧ IsStem file path.parts.stem ∧
      path.parts.whole.isAbsolute = path.isAbsolute ∧
      path.parts.whole.components =
        (if path.isAbsolute = false ∧ path.components = [file] then [['.'], file] else path.components) ∧
      (∀ tree : FileTree, tree.target path.parts.whole = tree.target path) ∧
      ('$' ∉ path →
        path.ownDocument.parent? = some path.parts.directory ∧
          path.ownDocument.fileName? = some (file ++ ".txt".toList) ∧
          path.ownDocument.components ≠ path.components ∧
          ∀ tree : FileTree, ∃ place, tree.target path = file :: place ∧
            tree.target path.ownDocument = (file ++ ".txt".toList) :: place) := by
  obtain ⟨parent, hsplit, hfile⟩ := fileName?_eq_some_iff.1 h
  have hparts := parts_of_split? hsplit hfile
  have hne : path.parts.directory ≠ [] := by
    rcases directory_of_split? hsplit hfile with ⟨-, hdirectory⟩ | ⟨hne, hdirectory⟩ <;> rw [hdirectory]
    · exact List.cons_ne_nil _ _
    · exact hne
  have hpartsFile : path.parts.file = file := by rw [hparts]
  have hwhole : path.parts.whole = path.parts.directory ++ '/' :: file := by rw [Parts.whole, hpartsFile]
  refine ⟨hpartsFile, ?_, ?_, components_whole hsplit hfile, fun tree => ?_, fun hdollar => ?_⟩
  · rw [hparts]
    exact isStem_stemOf hfile.ne_nil
  · rw [hwhole, isAbsolute_append hne, isAbsolute_directory hsplit hfile]
  · rw [hwhole, tree.target_append_name hne hfile, target_of_split? tree hsplit hfile]
  · have hname : IsName (file ++ ".txt".toList) := hfile.append (by decide) ⟨'t', by decide, by decide⟩
    have hdocument := split?_append_name (isTidy_directory hsplit hfile) hname
    rw [ownDocument_eq hsplit hfile hdollar]
    refine ⟨by rw [parent?, hdocument]; rfl, fileName?_eq_some_iff.2 ⟨_, hdocument, hname⟩, ?_, fun tree =>
      ⟨_, target_of_split? tree hsplit hfile, tree.target_append_name hne hname⟩⟩
    rw [components_of_split? hdocument, components_of_split? hsplit]
    intro heq
    have hsame : file ++ ".txt".toList = file := List.singleton_injective (List.append_inj' heq rfl).2
    exact absurd (List.append_right_eq_self.1 hsame) (by decide)

/-- A hidden file with two endings, behind doubled slashes and dots, and with more of them at the end. -/
theorem parts_name_own_place_dots_and_slashes :
    let path : Path := "/var//./log/.x.tar.gz/./".toList
    path.fileName? = some ".x.tar.gz".toList ∧ '$' ∉ path ∧
      path.parts = ⟨"/var//./log".toList, ".x.tar.gz".toList, ".x.tar".toList⟩ ∧
      path.parts.whole.components = path.components ∧
      path.ownDocument.fileName? = some ".x.tar.gz.txt".toList ∧
      ∀ tree : FileTree, ∃ place, tree.target path = ".x.tar.gz".toList :: place ∧
        tree.target path.ownDocument = ".x.tar.gz.txt".toList :: place := by
  intro path
  have hfile : path.fileName? = some ".x.tar.gz".toList := by decide
  have hdollar : '$' ∉ path := by decide
  obtain ⟨-, -, -, hcomponents, -, hdocument⟩ := parts_name_own_place hfile
  obtain ⟨-, hname, -, hplaces⟩ := hdocument hdollar
  exact ⟨hfile, hdollar, by decide, hcomponents, hname, hplaces⟩

/-- With a dollar sign, the path of a directory may name a part itself. -/
example : ownDocument "$\x7bfileBasename\x7d/a.log".toList = "a.log/a.log.txt".toList := by decide

end LogDiagram.Path
