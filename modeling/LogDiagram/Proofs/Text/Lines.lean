import LogDiagram.Bytes.Utf8
import LogDiagram.Text.Lines

/-!
# Lines of stored bytes

* `Bytes.lines_toTextLossy_eq_nil_iff`: bytes without lines are no bytes at all, since every byte leaves a character, and
  every character stands in a line or ends one;
* `Text.lines_append`: the text in front of the first line feed is the first line, and the text behind it has the others;
* `Text.lines_ofLines_iff`: lines that were written are read back exactly if each of them can be the line of a text.
-/

namespace LogDiagram

/-- What was read or is open stays in the lines. -/
theorem Text.linesFrom_eq_nil_iff {line : Text} {done : List Text} {t : Text} :
    linesFrom line done t = [] ↔ line = [] ∧ done = [] ∧ t = [] := by
  induction t generalizing line done with
  | nil =>
    rw [linesFrom]
    cases line <;> simp
  | cons c rest ih =>
    rw [linesFrom]
    split <;> simp [ih]

theorem Bytes.lossyFrom_eq_nil_iff {skip : Nat} {done : Text} {bs : Bytes} :
    lossyFrom skip done bs = [] ↔ done = [] ∧ bs.length ≤ skip := by
  induction bs generalizing skip done with
  | nil => simp [lossyFrom]
  | cons b rest ih =>
    cases skip with
    | zero => simp [lossyFrom, ih]
    | succ skip => simp [lossyFrom, ih]

/-- Bytes without lines are no bytes at all. -/
theorem Bytes.lines_toTextLossy_eq_nil_iff {bs : Bytes} : Text.lines (toTextLossy bs) = [] ↔ bs = [] := by
  rw [Text.lines, Text.linesFrom_eq_nil_iff, toTextLossy, lossyFrom_eq_nil_iff]
  simp

/-! ## Lines written and read back -/

namespace Text

variable {line : Text} {ls : List Text}

/-- A line that no line feed cuts and that loses nothing in front of its line feed. -/
def IsLine (line : Text) : Prop := '\n' ∉ line ∧ line.getLast? ≠ some '\r'

instance : Decidable (IsLine line) := inferInstanceAs (Decidable (_ ∧ _))

/-- A line loses a carriage return at its end and nothing else. -/
theorem endedLine_reverse_eq_iff : endedLine line.reverse = line ↔ line.getLast? ≠ some '\r' := by
  rw [endedLine.eq_def]
  split
  · next rest hrest =>
    obtain rfl := List.reverse_eq_iff.1 hrest
    simp
  · next hlast =>
    refine ⟨fun _ hreturn => ?_, fun _ => List.reverse_reverse line⟩
    obtain ⟨rest, rfl⟩ := List.getLast?_eq_some_iff.1 hreturn
    exact hlast rest.reverse (by simp)

theorem length_endedLine_le (line : Text) : (endedLine line).length ≤ line.length := by
  rw [endedLine.eq_def]
  split <;> simp

/-- The open line of the pass takes all characters up to the next line feed. -/
theorem linesFrom_append (h : '\n' ∉ line) (before : Text) (done : List Text) (rest : Text) :
    linesFrom before done (line ++ '\n' :: rest) = linesFrom [] (endedLine (line.reverse ++ before) :: done) rest := by
  induction line generalizing before with
  | nil => rw [List.nil_append, linesFrom, if_pos rfl, List.reverse_nil, List.nil_append]
  | cons c line ih =>
    rw [List.mem_cons, not_or] at h
    rw [List.cons_append, linesFrom, if_neg (Ne.symm h.1), ih h.2, List.reverse_cons, List.append_assoc]
    rfl

/-- The finished lines stay in front. -/
theorem linesFrom_eq (before : Text) (done : List Text) (t : Text) :
    linesFrom before done t = done.reverse ++ linesFrom before [] t := by
  induction t generalizing before done with
  | nil =>
    rw [linesFrom, linesFrom]
    split <;> simp
  | cons c t ih =>
    rw [linesFrom, linesFrom]
    split
    · rw [ih, ih [] [_]]
      simp
    · exact ih (c :: before) done

/-- The text in front of the first line feed is the first line. -/
theorem lines_append (h : '\n' ∉ line) (rest : Text) :
    lines (line ++ '\n' :: rest) = endedLine line.reverse :: lines rest := by
  rw [lines, linesFrom_append h, linesFrom_eq, List.append_nil]
  rfl

/-- Without a line feed the text is the only line, or it is empty. -/
theorem lines_of_not_mem (h : '\n' ∉ line) : lines line = [line].filter (!·.isEmpty) := by
  have hopen : ∀ before, linesFrom before [] line = [before.reverse ++ line].filter (!·.isEmpty) := by
    induction line with
    | nil =>
      intro before
      rw [linesFrom]
      cases before <;> simp
    | cons c line ih =>
      intro before
      rw [List.mem_cons, not_or] at h
      rw [linesFrom, if_neg (Ne.symm h.1), ih h.2]
      simp
  exact hopen []

theorem ofLines_cons (line : Text) (ls : List Text) : ofLines (line :: ls) = line ++ '\n' :: ofLines ls := by
  rw [ofLines, List.flatMap_cons, List.append_assoc]
  rfl

/-- Lines that were written are read back exactly if no line feed cuts them and none ends in a carriage return. -/
theorem lines_ofLines_iff : lines (ofLines ls) = ls ↔ ∀ line ∈ ls, IsLine line := by
  induction ls with
  | nil => exact ⟨fun _ => nofun, fun _ => rfl⟩
  | cons line ls ih =>
    rw [List.forall_mem_cons, ← ih, ofLines_cons]
    by_cases hcut : '\n' ∈ line
    · -- A line that is cut comes back shorter.
      obtain ⟨front, rest, rfl, hfront⟩ := List.eq_append_cons_of_mem hcut
      refine ⟨fun h => ?_, fun h => absurd hcut h.1.1⟩
      rw [List.append_assoc, List.cons_append, lines_append hfront, List.cons.injEq] at h
      have hlength := length_endedLine_le front.reverse
      rw [h.1] at hlength
      simp only [List.length_append, List.length_cons, List.length_reverse] at hlength
      omega
    · rw [lines_append hcut, List.cons.injEq, endedLine_reverse_eq_iff, IsLine, and_iff_right hcut]

/-- Lines that were written are read back. -/
theorem lines_ofLines (h : ∀ line ∈ ls, IsLine line) : lines (ofLines ls) = ls := lines_ofLines_iff.2 h

end Text

end LogDiagram
