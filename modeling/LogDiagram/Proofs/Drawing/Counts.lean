import LogDiagram.Diagram.Drawing
import LogDiagram.Proofs.Buffer.Push
import LogDiagram.Proofs.Pairs.Answers

/-!
# What is counted while a log is drawn

`RuleSet.draw` goes over a log line by line with counters. Here the same is said of the log as a whole.

* `RuleSet.Accounts`: what the run has after some lines, told from these lines alone; one line keeps it
  (`Accounts.step`), hence every run has it (`accounts_foldl`);
* `lines_draw`, `stats_draw`: the diagram and its numbers;
* `length_eq_counts`, `linesRead_draw`: each line is blacklisted, unmatched, dropped as a duplicate or drawn.
-/

namespace LogDiagram.RuleSet

open OutputBuffer (Push ofPushes answers)

variable {set : RuleSet} {raws : List Text} {raw : Text} {run : Run}

/-! ## What becomes of one line -/

/-- After its replacements the line holds a text of the blacklist. -/
def blacklists (set : RuleSet) (raw : Text) : Bool := isBlacklisted set.blacklist (set.substitute raw)

/-- The line passes the blacklist, but it is not drawn. -/
def leavesUnmatched (set : RuleSet) (raw : Text) : Bool := !set.blacklists raw && (set.drawLine? raw).isNone

/-- What is pushed for the lines of a log. -/
def pushes (set : RuleSet) (raws : List Text) : List Push := raws.filterMap set.drawLine?

theorem pushes_append (set : RuleSet) (raws : List Text) (raw : Text) :
    set.pushes (raws ++ [raw]) = set.pushes raws ++ (set.drawLine? raw).toList := by
  rw [pushes, List.filterMap_append, pushes]
  cases h : set.drawLine? raw <;> simp [h]

theorem drawLine?_of_blacklists (h : set.blacklists raw = true) : set.drawLine? raw = none := by
  unfold drawLine?
  exact if_pos h

theorem renderLine?_of_not_blacklists (h : set.blacklists raw = false) :
    set.renderLine? (set.substitute raw) = set.drawLine? raw := by
  unfold drawLine?
  exact (if_neg (by rw [← blacklists, h]; exact Bool.false_ne_true)).symm

/-- A blacklisted line is counted as such. -/
theorem step_of_blacklists (h : set.blacklists raw = true) :
    set.step run raw = { run with stats := { run.stats with
      linesRead := run.stats.linesRead + 1, blacklisted := run.stats.blacklisted + 1 } } := by
  unfold step
  exact if_pos h

/-- A line that passes the blacklist and is not drawn is counted as unmatched. -/
theorem step_of_leavesUnmatched (h : set.leavesUnmatched raw = true) :
    set.step run raw = { run with stats := { run.stats with
      linesRead := run.stats.linesRead + 1, unmatched := run.stats.unmatched + 1 } } := by
  rw [leavesUnmatched, Bool.and_eq_true, Bool.not_eq_true', Option.isNone_iff_eq_none] at h
  obtain ⟨hpass, hnone⟩ := h
  rw [← renderLine?_of_not_blacklists hpass] at hnone
  unfold blacklists at hpass
  simp only [step, hpass, hnone, Bool.false_eq_true, if_false]

/-- Any other line is pushed, and counted as a duplicate if the answer is no. -/
theorem step_of_drawLine? {push : Push} (h : set.drawLine? raw = some push) :
    set.step run raw = ⟨(run.buffer.push push.1 push.2).1, { run.stats with
      linesRead := run.stats.linesRead + 1
      suppressed := run.stats.suppressed + if (run.buffer.push push.1 push.2).2 then 0 else 1 }⟩ := by
  have hpass : set.blacklists raw = false := by
    rw [← Bool.not_eq_true]
    intro hb
    rw [drawLine?_of_blacklists hb] at h
    cases h
  rw [← renderLine?_of_not_blacklists hpass] at h
  unfold blacklists at hpass
  obtain ⟨line, policy⟩ := push
  simp only [step, hpass, h, Bool.false_eq_true, if_false]
  cases hpush : run.buffer.push line policy with
  | mk buffer isKept => cases isKept <;> rfl

/-- A line is blacklisted, unmatched or drawn. -/
theorem line_cases (set : RuleSet) (raw : Text) :
    set.blacklists raw = true ∧ set.leavesUnmatched raw = false ∧ set.drawLine? raw = none ∨
      set.blacklists raw = false ∧ set.leavesUnmatched raw = true ∧ set.drawLine? raw = none ∨
      set.blacklists raw = false ∧ set.leavesUnmatched raw = false ∧ ∃ push, set.drawLine? raw = some push := by
  cases hb : set.blacklists raw with
  | true => exact .inl ⟨rfl, by simp [leavesUnmatched, hb], drawLine?_of_blacklists hb⟩
  | false =>
    right
    cases hd : set.drawLine? raw with
    | none => exact .inl ⟨rfl, by simp [leavesUnmatched, hb, hd], rfl⟩
    | some push => exact .inr ⟨rfl, by simp [leavesUnmatched, hd], push, rfl⟩

/-! ## What becomes of a log -/

/-- What a run has after some lines: the pushes of these lines in its buffer, and each counter at its number. -/
structure Accounts (set : RuleSet) (raws : List Text) (run : Run) : Prop where
  buffer : run.buffer = ofPushes (set.pushes raws)
  linesRead : run.stats.linesRead = raws.length
  blacklisted : run.stats.blacklisted = raws.countP set.blacklists
  unmatched : run.stats.unmatched = raws.countP set.leavesUnmatched
  suppressed : run.stats.suppressed = (answers (set.pushes raws)).count false

theorem accounts_start (set : RuleSet) : Accounts set [] .start := ⟨rfl, rfl, rfl, rfl, rfl⟩

/-- One more line. -/
theorem Accounts.step (h : Accounts set raws run) (raw : Text) : Accounts set (raws ++ [raw]) (set.step run raw) := by
  obtain ⟨hbuffer, hread, hblack, hunmatched, hsuppressed⟩ := h
  rcases line_cases set raw with ⟨hb, hu, hd⟩ | ⟨hb, hu, hd⟩ | ⟨hb, hu, push, hd⟩
  · rw [step_of_blacklists hb]
    constructor <;> simp [pushes_append, hbuffer, hread, hblack, hunmatched, hsuppressed, hb, hu, hd]
  · rw [step_of_leavesUnmatched hu]
    constructor <;> simp [pushes_append, hbuffer, hread, hblack, hunmatched, hsuppressed, hb, hu, hd]
  · rw [step_of_drawLine? hd]
    have hpushes : set.pushes (raws ++ [raw]) = set.pushes raws ++ [push] := by rw [pushes_append, hd]; rfl
    refine ⟨?_, ?_, ?_, ?_, ?_⟩
    · rw [hpushes, OutputBuffer.ofPushes_append, hbuffer]
    · simp [hread]
    · simp [hblack, hb]
    · simp [hunmatched, hu]
    · rw [hpushes, OutputBuffer.answers_append, List.count_append, hbuffer, ← hsuppressed]
      cases ((ofPushes (set.pushes raws)).push push.1 push.2).2 <;> rfl

/-- Every run over a log. -/
theorem accounts_foldl (set : RuleSet) (raws : List Text) : Accounts set raws (raws.foldl set.step .start) := by
  induction raws using List.reverseRecOn with
  | nil => exact accounts_start set
  | append_singleton raws raw ih =>
    rw [List.foldl_append]
    exact ih.step raw

/-- The diagram of a log: all that is pushed for its lines, with the errors of the pairs. -/
theorem lines_draw (set : RuleSet) (raws : List Text) :
    (set.draw raws).lines = (PairSpec.annotateAll set.pairs (ofPushes (set.pushes raws)).finish).1 := by
  rw [← (accounts_foldl set raws).buffer]
  rfl

/-- The numbers of a diagram. -/
theorem stats_draw (set : RuleSet) (raws : List Text) :
    (set.draw raws).stats =
      { linesRead := raws.length
        blacklisted := raws.countP set.blacklists
        unmatched := raws.countP set.leavesUnmatched
        suppressed := (answers (set.pushes raws)).count false
        pairErrors := (PairSpec.annotateAll set.pairs (ofPushes (set.pushes raws)).finish).2 } := by
  obtain ⟨hbuffer, hread, hblack, hunmatched, hsuppressed⟩ := accounts_foldl set raws
  rw [← hbuffer, ← hread, ← hblack, ← hunmatched, ← hsuppressed]
  rfl

/-! ## The balance -/

/-- Each line is blacklisted, unmatched or pushed. -/
theorem length_eq_counts (set : RuleSet) (raws : List Text) :
    raws.length = raws.countP set.blacklists + raws.countP set.leavesUnmatched + (set.pushes raws).length := by
  induction raws with
  | nil => rfl
  | cons raw raws ih =>
    rw [List.length_cons, List.countP_cons, List.countP_cons, pushes, List.filterMap_cons, ih]
    rcases line_cases set raw with ⟨hb, hu, hd⟩ | ⟨hb, hu, hd⟩ | ⟨hb, hu, push, hd⟩
    · simp only [hb, hu, hd, if_true, Bool.false_eq_true, if_false, pushes]
      omega
    · simp only [hb, hu, hd, if_true, Bool.false_eq_true, if_false, pushes]
      omega
    · simp only [hb, hu, hd, Bool.false_eq_true, if_false, pushes, List.length_cons]
      omega

/-- A diagram has one line for each push that was kept, and one for each error. -/
theorem length_lines_draw (set : RuleSet) (raws : List Text) :
    (set.draw raws).lines.length = (ofPushes (set.pushes raws)).lines.length + (set.draw raws).stats.pairErrors := by
  rw [lines_draw, stats_draw, PairSpec.length_annotateAll, OutputBuffer.length_finish]

/-- No line is lost, and none is made up but the errors. -/
theorem linesRead_draw (set : RuleSet) (raws : List Text) :
    (set.draw raws).stats.linesRead + (set.draw raws).stats.pairErrors =
      (set.draw raws).stats.blacklisted + (set.draw raws).stats.unmatched + (set.draw raws).stats.suppressed +
        (set.draw raws).lines.length := by
  have hlines := length_eq_counts set raws
  have hpushes := OutputBuffer.length_lines_ofPushes (set.pushes raws)
  rw [length_lines_draw, stats_draw]
  simp only
  omega

end LogDiagram.RuleSet
