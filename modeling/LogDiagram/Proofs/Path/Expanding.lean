import LogDiagram.Path.Expansion
import LogDiagram.Proofs.Text.Marks

/-!
# Writing path parts into a text

`Path.Parts.expand` makes one pass for each part of a path. Here it is compared with a single pass for all of them.

* `Path.Parts.table`: the names of the parts and what they stand for;
* `Path.Parts.isMarkTable`: the names share no piece, and parts without a dollar sign form no name;
* `Path.Parts.expand_eq_replaceEach`: unless an unfinished name stands in front of another one, the passes give what the
  single pass gives, in any order.
-/

namespace LogDiagram.Path.Parts

open Text

variable {parts : Parts} {t : Text}

/-- The names of the parts of a path in configured texts, each with the part. -/
def table (parts : Parts) : List (Text × Text) :=
  [(directoryMark, parts.directory), (stemMark, parts.stem), (fileMark, parts.file)]

/-- The names are marks, and none of them starts another one. -/
theorem isMarkTable (hdirectory : '$' ∉ parts.directory) (hfile : '$' ∉ parts.file) (hstem : '$' ∉ parts.stem) :
    IsMarkTable '$' parts.table := by
  have hmarks : ∀ mark ∈ [directoryMark, stemMark, fileMark], IsMark '$' mark := by decide
  have hapart : [directoryMark, stemMark, fileMark].Pairwise fun mark mark' => ¬mark <+: mark' ∧ ¬mark' <+: mark := by
    decide
  have hpairwise : (parts.table.map (·.1)).Pairwise fun mark mark' => ¬mark <+: mark' ∧ ¬mark' <+: mark := hapart
  rw [List.pairwise_map] at hpairwise
  refine ⟨fun entry hmem => hmarks entry.1 (List.mem_map_of_mem (f := (·.1)) hmem), ?_, hpairwise⟩
  intro entry hmem
  simp only [table, List.mem_cons, List.not_mem_nil, or_false] at hmem
  rcases hmem with rfl | rfl | rfl
  · exact hdirectory
  · exact hstem
  · exact hfile

/--
If no part holds a dollar sign and no name in the text stands directly behind an unfinished start of a name, then the
parts are written into the text as by one pass from left to right, which puts each part in the place of its name, copies
everything else and never looks at what it put in; and so they are by one pass for each part, in any order.
-/
theorem expand_eq_replaceEach (hdirectory : '$' ∉ parts.directory) (hfile : '$' ∉ parts.file)
    (hstem : '$' ∉ parts.stem) (hopen : HasNoOpenMark parts.table t) :
    parts.expand t = replaceEach parts.table t ∧
      ∀ order : List (Text × Text), order.Perm parts.table →
        order.foldl (fun t entry => replaceAll entry.1 entry.2 t) t = parts.expand t := by
  have htable : IsMarkTable '$' parts.table := isMarkTable hdirectory hfile hstem
  have hexpand : parts.expand t = replaceEach parts.table t := htable.foldl_replaceAll hopen
  refine ⟨hexpand, fun order hperm => ?_⟩
  rw [htable.foldl_replaceAll_of_perm hopen hperm, hexpand]

/-- A command with names that touch each other, another dollar sign, and an unfinished name behind them. -/
theorem expand_eq_replaceEach_command :
    let parts : Parts := ⟨"./logs".toList, "x\x7by\x7d.log".toList, "x\x7by\x7d".toList⟩
    let t : Text := "ls $1 $\x7bfileDirname\x7d$\x7bfileBasename\x7d$\x7bfile".toList
    HasNoOpenMark parts.table t ∧ parts.expand t = replaceEach parts.table t ∧
      parts.expand t = "ls $1 ./logsx\x7by\x7d.log$\x7bfile".toList ∧
      parts.table.reverse.foldl (fun t entry => replaceAll entry.1 entry.2 t) t = parts.expand t := by
  intro parts t
  have hopen : HasNoOpenMark parts.table t := by decide
  have hexpand := @expand_eq_replaceEach parts t (by decide) (by decide) (by decide) hopen
  exact ⟨hopen, hexpand.1, by decide, hexpand.2 _ (List.reverse_perm _)⟩

/-- An unfinished name in front of another one is finished by the part that is put in. -/
example :
    let parts : Parts := ⟨"ion\x7d".toList, "a.log".toList, "a".toList⟩
    let t : Text := "$\x7bfileBasenameNoExtens$\x7bfileDirname\x7d".toList
    parts.expand t = "a".toList ∧ replaceEach parts.table t = stemMark := by
  decide

end LogDiagram.Path.Parts
