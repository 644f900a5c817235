import LogDiagram.Proofs.Drawing.Counts
import LogDiagram.Proofs.Job.Steps

/-!
# The numbers of a job

* `Config.length_log`, `Config.length_document`: how many lines go into a product, and how many come out of it;
* `Job.no_line_lost`: the balance, from the pushes of single lines up to the document of a job.
-/

namespace LogDiagram

open OutputBuffer (ofPushes answers)

/-! ## What a configuration makes of a log -/

theorem LineDeletion.length_deleteFrom (deletions : List LineDeletion) (lines : List Text) :
    lines.length = (deleteFrom deletions lines).2 + (deleteFrom deletions lines).1.length := by
  have hle := List.length_filter_le (fun line => !deletions.any fun d => d.isFor line) lines
  simp only [deleteFrom]
  omega

namespace Config

variable (config : Config) (rules : RuleSet) (log : List Text)

/-- Each line of a log is deleted or read by the drawing. -/
theorem length_log :
    log.length = (config.product rules log).deleted + (config.product rules log).drawing.stats.linesRead := by
  have hstats := RuleSet.stats_draw rules (LineDeletion.deleteFrom config.deletions log).1
  simp only [product, hstats]
  exact LineDeletion.length_deleteFrom config.deletions log

/-- A document has the lines of its diagram between the opening and the closing ones. -/
theorem length_document :
    (config.product rules log).document.lines.length =
      config.wrapTextPre.length + (config.product rules log).drawing.lines.length + config.wrapTextPost.length := by
  simp only [product, Document.assemble, List.length_append]

theorem drawing_product :
    (config.product rules log).drawing = rules.draw (LineDeletion.deleteFrom config.deletions log).1 := rfl

end Config

/-! ## The balance -/

namespace Job

/--
Line by line and as a whole a log is drawn alike: the diagram is made of what single lines push, and each line is
blacklisted, unmatched, dropped as a duplicate or drawn. A job that succeeds counts each line of the log that it reads
once; its document has the drawn lines, the errors of the pairs, and the opening and closing lines.
-/
theorem no_line_lost :
    (∀ (set : RuleSet) (raws : List Text),
      let buffer := ofPushes (raws.filterMap set.drawLine?)
      let checked := PairSpec.annotateAll set.pairs buffer.finish
      let stats := (set.draw raws).stats
      (set.draw raws).lines = checked.1 ∧
        stats.linesRead = raws.length ∧
        stats.blacklisted = raws.countP (fun raw => isBlacklisted set.blacklist (set.substitute raw)) ∧
        stats.unmatched = raws.countP (fun raw =>
          !isBlacklisted set.blacklist (set.substitute raw) && (set.drawLine? raw).isNone) ∧
        stats.suppressed = (answers (raws.filterMap set.drawLine?)).count false ∧
        stats.pairErrors = checked.2 ∧ checked.1.length = buffer.finish.length + checked.2 ∧
        stats.linesRead = stats.blacklisted + stats.unmatched + stats.suppressed +
          ((set.draw raws).lines.length - stats.pairErrors)) ∧
    ∀ (job : Job) (machine : Machine) (faults : Faults) (tree : FileTree) (summary : JobSummary),
      (job.run machine faults tree).result = .ok summary →
        ∃ plan kept log content, job.plan tree = .ok plan ∧ job.keepCopy faults plan tree = (kept, none) ∧
          readLog kept job.log = .ok log ∧
          tree.contentAt? (tree.target job.log) = some content ∧
          (¬job.CopiesOntoLog plan.backupFile tree → log = Text.lines (Bytes.toTextLossy content)) ∧
          log.length = summary.deleted + summary.stats.linesRead ∧
          summary.stats.blacklisted + summary.stats.unmatched + summary.stats.suppressed ≤ summary.stats.linesRead ∧
          summary.written = plan.config.wrapTextPre.length +
            (summary.stats.linesRead - summary.stats.blacklisted - summary.stats.unmatched - summary.stats.suppressed) +
            summary.stats.pairErrors + plan.config.wrapTextPost.length := by
  constructor
  · intro set raws
    have hbalance := set.linesRead_draw raws
    have hlines := set.length_lines_draw raws
    have hstats := set.stats_draw raws
    refine ⟨set.lines_draw raws, ?_, ?_, ?_, ?_, ?_, PairSpec.length_annotateAll _ _, by omega⟩ <;> rw [hstats] <;> rfl
  · intro job machine faults tree summary h
    obtain ⟨written, draft, commandsRun, isDrawn, hwrite, rfl, -⟩ := run_eq_ok h
    obtain ⟨kept, replaced, log, hsteps⟩ := write_eq_ok hwrite
    obtain ⟨content, hcontent, hlog⟩ := hsteps.log_eq
    have hread := draft.plan.config.length_log draft.plan.rules log
    have hwritten := draft.plan.config.length_document draft.plan.rules log
    have hbalance := draft.plan.rules.linesRead_draw (LineDeletion.deleteFrom draft.plan.config.deletions log).1
    have hlines := draft.plan.rules.length_lines_draw (LineDeletion.deleteFrom draft.plan.config.deletions log).1
    rw [← Config.drawing_product] at hbalance hlines
    rw [← hsteps.product] at hread hwritten hbalance hlines
    refine ⟨draft.plan, kept, log, content, hsteps.plan, hsteps.keepCopy, hsteps.readLog, hcontent, ?_, hread, ?_, ?_⟩
    · intro hnot
      rw [hlog, if_neg hnot]
    · simp only [summary]
      omega
    · simp only [summary]
      omega

/-- A log of four lines: one is deleted, one is not matched, and one repeats another one. -/
theorem no_line_lost_four_lines :
    let tree := smallTree ["a", "h", "h", "z"] [
      "\x7b\"translations\":[", "\x7b\"patterns\":[\"h\"],", "\"print\":\"P\",", "\"duplicates\":\"remove_all\"\x7d],",
      "\"delete_lines\":[\"a\"],", "\"wrap_text_pre\":[\"(\"],", "\"translation_file\":\"o\"\x7d"]
    let summary : JobSummary := ⟨['o'], none, ⟨3, 0, 1, 1, 0⟩, 1, 2, 0, false⟩
    (small.run idle .none tree).result = .ok summary ∧
      ∃ plan kept log, small.plan tree = .ok plan ∧ small.keepCopy .none plan tree = (kept, none) ∧
        readLog kept small.log = .ok log ∧ log.length = 1 + 3 ∧
        2 = plan.config.wrapTextPre.length + (3 - 0 - 1 - 1) + 0 + plan.config.wrapTextPost.length := by
  intro tree summary
  have hrun : (small.run idle .none tree).result = .ok summary := by decide +kernel
  obtain ⟨plan, kept, log, -, hplan, hkept, hlog, -, -, hlength, -, hwritten⟩ := no_line_lost.2 _ _ _ _ _ hrun
  exact ⟨hrun, plan, kept, log, hplan, hkept, hlog, hlength, hwritten⟩

end Job

end LogDiagram
