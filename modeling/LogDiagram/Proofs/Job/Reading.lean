import LogDiagram.Proofs.Bytes.Lines
import LogDiagram.Proofs.Job.Steps
import LogDiagram.Proofs.Storage.Rewriting

/-!
# Reading a log

A job reads the lines of its log from bytes that may be damaged, and of logs that it wrote itself.

* `Job.readLog_line_by_line`: each line is read from its own bytes, so damage in one line is not seen in any other one;
* `Job.lines_read_back_iff`: lines that were written, by the replacement of a log or as a document, are read back
  exactly if no line feed cuts them and none of them ends in a carriage return.
-/

namespace LogDiagram

theorem Document.text_of_newLines {document : Document} (h : document.newLines = true) :
    document.text = Text.ofLines document.lines := by
  simp only [Document.text, h, if_true, Text.ofLines]

namespace Job

variable {tree left : FileTree} {path : Path} {ls : List Text} {faults : Faults}

/--
A log is read line by line: its bytes are split at line feeds, and each piece is read on its own. A piece between line
ends, however damaged, gives one line, and the lines in front of it and behind it are those of the bytes there. A piece
that is not damaged is read as the text whose bytes it has.
-/
theorem readLog_line_by_line :
    let read (content : Bytes) : List Text := Text.lines (Bytes.toTextLossy content)
    (∀ tree log, readLog tree log = (tree.read log).map read) ∧
      (∀ content, read content = (Bytes.lines content).map Bytes.toTextLossy) ∧
      (∀ before piece after : Bytes, before = [] ∨ before.getLast? = some Bytes.lineFeed → Bytes.lineFeed ∉ piece →
        read (before ++ piece ++ Bytes.lineFeed :: after) =
          read before ++ Bytes.toTextLossy (Bytes.withoutReturn piece) :: read after) ∧
      ∀ (content : Bytes) (i : Nat) (line : Bytes) (t : Text), (Bytes.lines content)[i]? = some line →
        Bytes.toText? line = some t → (read content)[i]? = some t ∧ Bytes.ofText t = line := by
  intro read
  have hread : ∀ content, read content = (Bytes.lines content).map Bytes.toTextLossy := Bytes.lines_toTextLossy
  refine ⟨fun tree log => rfl, hread, fun before piece after hbefore hpiece => ?_, fun content i line t hline ht => ?_⟩
  · rw [hread, hread, hread, List.append_assoc, Bytes.lines_append_of_isWhole hbefore, Bytes.lines_append hpiece,
      List.map_append, List.map_cons]
  · obtain rfl := Bytes.toText?_eq_some_iff.1 ht
    rw [hread, List.getElem?_map, hline, Option.map_some, Bytes.toTextLossy_ofText]
    exact ⟨rfl, rfl⟩

/-- A character is cut by the end of its line, another one by a carriage return, and the last line is not damaged. -/
theorem readLog_line_by_line_cut_characters :
    let before : Bytes := [0x61, 0xE2, 0x82, 0x0D, 0x0A]
    let piece : Bytes := [0xF0, 0x9F]
    let after : Bytes := [0x6F, 0x6B, 0x0D]
    let content := before ++ piece ++ Bytes.lineFeed :: after
    (before = [] ∨ before.getLast? = some Bytes.lineFeed) ∧ Bytes.lineFeed ∉ piece ∧
      Text.lines (Bytes.toTextLossy content) = [['a', '\uFFFD'], ['\uFFFD'], ['o', 'k', '\r']] ∧
      (Bytes.lines content)[2]? = some after ∧ Bytes.toText? after = some ['o', 'k', '\r'] ∧
      (Text.lines (Bytes.toTextLossy content))[2]? = some ['o', 'k', '\r'] ∧
      Bytes.ofText ['o', 'k', '\r'] = after := by
  intro before piece after content
  have hbefore : before = [] ∨ before.getLast? = some Bytes.lineFeed := by decide
  have hpiece : Bytes.lineFeed ∉ piece := by decide
  have hline : (Bytes.lines content)[2]? = some after := by decide
  have ht : Bytes.toText? after = some ['o', 'k', '\r'] := by decide
  obtain ⟨-, -, hlines, hsame⟩ := readLog_line_by_line
  refine ⟨hbefore, hpiece, ?_, hline, ht, hsame content 2 after _ hline ht⟩
  exact (hlines before piece after hbefore hpiece).trans (by decide)

/-! ## Lines that were written -/

/-- The lines in a file are read back exactly if each of them can be the line of a text. -/
theorem readLog_of_node (h : left.node path = .ok (.file (Bytes.ofText (Text.ofLines ls)))) :
    ∃ read, readLog left path = .ok read ∧ (read = ls ↔ ∀ line ∈ ls, Text.IsLine line) := by
  refine ⟨Text.lines (Text.ofLines ls), ?_, Text.lines_ofLines_iff⟩
  rw [readLog, FileTree.read, h]
  exact congrArg (fun t => Except.ok (Text.lines t)) (Bytes.toTextLossy_ofText (Text.ofLines ls))

/-- A replaced log is a file, or the device that stood beside it. -/
theorem node_of_replaceContent {content : Bytes} (h : tree.replaceContent faults path content = (left, none))
    (hdevice : ¬left.HasDevice path) : left.node path = .ok (.file content) := by
  have hnode := FileTree.node_replaceContent h
  split at hnode
  · exact absurd (FileTree.node_eq_ok hnode).2 hdevice
  · exact hnode

/-- A document that was written is a file, or the device that stood in its place. -/
theorem node_of_writeOutput {content : Bytes} (h : tree.writeOutput faults path content = (left, none))
    (hdevice : ¬left.HasDevice path) : left.node path = .ok (.file content) := by
  have hholds := FileTree.holdsOutput_of_writeOutput h
  obtain ⟨stored, hstored, hnode⟩ := hholds.node?
  simp only [List.mem_cons, List.not_mem_nil, or_false] at hstored
  rcases hstored with rfl | rfl
  · exact FileTree.node_eq_ok_iff.2 ⟨hholds.locate, hnode, .inr hholds.hasEndSlash⟩
  · exact absurd hnode hdevice

/--
Lines are written by the replacement of a log or as a document with line feeds. Unless a device kept nothing of them,
they are then read, and what is read is the same list exactly if no line holds a line feed and none ends in a carriage
return. Both ways to write succeed at the path of a file, if the storage allows it and nothing stands beside the file.
-/
theorem lines_read_back_iff (ls : List Text) (path : Path) :
    let ReadsBack (left : FileTree) : Prop :=
      ∃ read, readLog left path = .ok read ∧ (read = ls ↔ ∀ line ∈ ls, '\n' ∉ line ∧ line.getLast? ≠ some '\r')
    let replace (faults : Faults) (tree : FileTree) := tree.replaceContent faults path (Bytes.ofText (Text.ofLines ls))
    let write (faults : Faults) (tree : FileTree) :=
      tree.writeOutput faults path (Bytes.ofText (Document.mk ls true).text)
    (∀ faults tree left, replace faults tree = (left, none) → ¬left.HasDevice path → ReadsBack left) ∧
      (∀ faults tree left, write faults tree = (left, none) → ¬left.HasDevice path → ReadsBack left) ∧
      ∀ (tree : FileTree) (stored : Bytes), tree.node path = .ok (.file stored) → path.endsInDots = false →
        (∃ left, write .none tree = (left, none) ∧ ReadsBack left) ∧
          (tree.locate path.trimPath = .ok (tree.target path.trimPath) →
            tree.node? (tree.target path.trimPath) = none →
              ∃ left, replace .none tree = (left, none) ∧ ReadsBack left) := by
  intro ReadsBack replace write
  have hwrite : ∀ faults tree, write faults tree = tree.writeOutput faults path (Bytes.ofText (Text.ofLines ls)) := by
    intro faults tree
    have htext : (Document.mk ls true).text = Text.ofLines ls := Document.text_of_newLines rfl
    exact congrArg (fun t => tree.writeOutput faults path (Bytes.ofText t)) htext
  refine ⟨fun faults tree left h hdevice => readLog_of_node (node_of_replaceContent h hdevice),
    fun faults tree left h hdevice => ?_, fun tree stored hnode hdots => ⟨?_, fun hlocate hfree => ?_⟩⟩
  · rw [hwrite] at h
    exact readLog_of_node (node_of_writeOutput h hdevice)
  · obtain ⟨left, h, hfile⟩ := FileTree.exists_writeOutput hnode hdots (Bytes.ofText (Text.ofLines ls))
    exact ⟨left, (hwrite _ _).trans h, readLog_of_node hfile⟩
  · obtain ⟨left, h, hfile⟩ :=
      FileTree.exists_replaceContent hnode hdots hlocate hfree (Bytes.ofText (Text.ofLines ls))
    exact ⟨left, h, readLog_of_node hfile⟩

/-- An empty line and a carriage return inside a line are read back; a carriage return at the end of one is not. -/
theorem lines_read_back_iff_inner_return :
    let tree := smallTree ["old"] []
    let ls : List Text := [['a', '\r', 'b'], [], ['c']]
    let replaced := tree.replaceContent .none ['x'] (Bytes.ofText (Text.ofLines ls))
    let document := tree.writeOutput .none ['x'] (Bytes.ofText (Document.mk (['a', '\r'] :: ls) true).text)
    tree.node ['x'] = .ok (.file (bytesOf ["old"])) ∧
      replaced.2 = none ∧ ¬replaced.1.HasDevice ['x'] ∧ readLog replaced.1 ['x'] = .ok ls ∧
      document.2 = none ∧ ¬document.1.HasDevice ['x'] ∧ readLog document.1 ['x'] ≠ .ok (['a', '\r'] :: ls) := by
  intro tree ls replaced document
  have hnode : tree.node ['x'] = .ok (.file (bytesOf ["old"])) := by decide +kernel
  have hlocate : tree.locate (Path.trimPath ['x']) = .ok (tree.target (Path.trimPath ['x'])) := by decide +kernel
  have hdevice : ¬replaced.1.HasDevice ['x'] ∧ ¬document.1.HasDevice ['x'] := by decide +kernel
  have hreplaced : replaced.2 = none := by
    obtain ⟨left, hleft, -⟩ :=
      ((lines_read_back_iff ls ['x']).2.2 tree _ hnode (by decide)).2 hlocate (by decide +kernel)
    exact congrArg Prod.snd hleft
  have hdocument : document.2 = none := by
    obtain ⟨left, hleft, -⟩ := ((lines_read_back_iff (['a', '\r'] :: ls) ['x']).2.2 tree _ hnode (by decide)).1
    exact congrArg Prod.snd hleft
  refine ⟨hnode, hreplaced, hdevice.1, ?_, hdocument, hdevice.2, fun hread => ?_⟩
  · obtain ⟨read, hread, hsame⟩ :=
      (lines_read_back_iff ls ['x']).1 .none tree replaced.1 (Prod.ext rfl hreplaced) hdevice.1
    rw [hread, hsame.2 (by decide)]
  · obtain ⟨read, hread', hsame⟩ :=
      (lines_read_back_iff (['a', '\r'] :: ls) ['x']).2.1 .none tree document.1 (Prod.ext rfl hdocument) hdevice.2
    rw [hread, Except.ok.injEq] at hread'
    exact absurd (hsame.1 hread'.symm) (by decide)

end Job

end LogDiagram
