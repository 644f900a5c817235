import LogDiagram.Proofs.Job.Counts
import LogDiagram.Proofs.Text.Lines

/-!
# What a job computes

A job reads and writes files in turn, among them the very log that it draws. What it computes is told here without
files: `ConfigDefinition.outcome?` goes from a definition, the text of its table and the bytes of a log to the bytes of
the document and the numbers.

* `Job.run_outcome`: a run leaves the outcome of its log, or that of an empty log if it copies the log onto itself;
* `Job.outcome_of_run`: hence it leaves the outcome of its log unless that copy strikes a log that is not empty.
-/

namespace LogDiagram

/-- What is computed from the bytes of a log. -/
structure LogOutcome where
  document : Bytes
  stats : Stats
  /-- How many lines of the log were deleted. -/
  deleted : Nat
  /-- How many lines the document has. -/
  written : Nat
  deriving DecidableEq, Repr

/-! ## The outcome without files -/

/-- The outcome as it is found where its document is written: a device keeps nothing. -/
def LogOutcome.keptAt (outcome : LogOutcome) (tree : FileTree) (path : Path) : LogOutcome :=
  { outcome with document := if tree.HasDevice path then [] else outcome.document }

theorem LogOutcome.keptAt_eq_self_iff {outcome : LogOutcome} {tree : FileTree} {path : Path} :
    outcome.keptAt tree path = outcome ↔ (tree.HasDevice path → outcome.document = []) := by
  cases outcome with
  | mk document stats deleted written =>
    rw [keptAt, LogOutcome.mk.injEq]
    by_cases hdev : tree.HasDevice path
    · rw [if_pos hdev]
      exact ⟨fun h _ => h.1.symm, fun h => ⟨(h hdev).symm, rfl, rfl, rfl⟩⟩
    · rw [if_neg hdev]
      exact ⟨fun _ hc => absurd hc hdev, fun _ => ⟨rfl, rfl, rfl, rfl⟩⟩

/-- What a checked configuration with the rules chosen from it makes of the bytes of a log. -/
def Config.outcome (config : Config) (rules : RuleSet) (log : Bytes) : LogOutcome :=
  let (kept, deleted) := LineDeletion.deleteFrom config.deletions (Text.lines (Bytes.toTextLossy log))
  let drawing := rules.draw kept
  let document := Document.assemble config.wrapTextPre drawing.lines config.wrapTextPost config.autoNewLine
  { document := Bytes.ofText document.text, stats := drawing.stats, deleted, written := document.lines.length }

namespace ConfigDefinition

/-- The rules in the text of a table, if there is a table. -/
def tableRules? : (table : Option Text) → Option (Option (List (Text × RuleDefinition)))
  | none => some none
  | some t => (rulesOfCsv? [] t).map some

/-- What a definition, the text of its table and the chosen groups make of the bytes of a log. -/
def outcome? (d : ConfigDefinition) (table : Option Text) (selection : GroupSelection) (log : Bytes) :
    Option LogOutcome := do
  let tableRules ← tableRules? table
  let config ← (Config.ofDefinition d tableRules).toOption
  let rules ← (config.ruleSet selection).toOption
  return config.outcome rules log

/-- The checked configuration and the chosen rules of a definition. -/
def Compiles (d : ConfigDefinition) (table : Option Text) (selection : GroupSelection) (config : Config)
    (rules : RuleSet) : Prop :=
  ∃ tableRules, tableRules? table = some tableRules ∧ Config.ofDefinition d tableRules = .ok config ∧
    config.ruleSet selection = .ok rules

variable {d d' : ConfigDefinition} {table : Option Text} {selection : GroupSelection} {config : Config}
  {rules : RuleSet}

theorem Compiles.outcome? (h : d.Compiles table selection config rules) (log : Bytes) :
    d.outcome? table selection log = some (config.outcome rules log) := by
  obtain ⟨tableRules, htable, hconfig, hrules⟩ := h
  rw [ConfigDefinition.outcome?, htable]
  simp only [bind, Option.bind, hconfig, hrules, Except.toOption]
  rfl

theorem Compiles.unique {config' : Config} {rules' : RuleSet} (h : d.Compiles table selection config rules)
    (h' : d.Compiles table selection config' rules') : config' = config ∧ rules' = rules := by
  obtain ⟨tableRules, htable, hconfig, hrules⟩ := h
  obtain ⟨tableRules', htable', hconfig', hrules'⟩ := h'
  rw [htable, Option.some.injEq] at htable'
  rw [← htable', hconfig, Except.ok.injEq] at hconfig'
  rw [← hconfig', hrules, Except.ok.injEq] at hrules'
  exact ⟨hconfig'.symm, hrules'.symm⟩

/-- Where the log is kept plays no part in the rules that are chosen. -/
theorem Compiles.backupFile (h : d.Compiles table selection config rules)
    (hd : { d' with backupFile := none } = { d with backupFile := none }) :
    d'.Compiles table selection { config with backupFile := d'.backupFile.bind Text.nonempty? } rules := by
  obtain ⟨tableRules, htable, hconfig, hrules⟩ := h
  have hsame : d' = { d with backupFile := d'.backupFile } := by
    cases d
    cases d'
    simp only [ConfigDefinition.mk.injEq] at hd ⊢
    simpa using hd
  have hconfig' := Config.ofDefinition_backupFile d'.backupFile hconfig
  rw [← hsame] at hconfig'
  exact ⟨tableRules, htable, hconfig', hrules⟩

end ConfigDefinition

/-- Only bytes without lines have the numbers of no bytes. -/
theorem Config.eq_nil_of_outcome (config : Config) (rules : RuleSet) {log : Bytes}
    (hstats : (config.outcome rules log).stats = (config.outcome rules []).stats)
    (hdeleted : (config.outcome rules log).deleted = (config.outcome rules []).deleted) : log = [] := by
  have hlog := config.length_log rules (Text.lines (Bytes.toTextLossy log))
  have hnil := config.length_log rules (Text.lines (Bytes.toTextLossy []))
  have hzero : (Text.lines (Bytes.toTextLossy [])).length = 0 := rfl
  change _ = (config.outcome rules log).deleted + (config.outcome rules log).stats.linesRead at hlog
  change _ = (config.outcome rules []).deleted + (config.outcome rules []).stats.linesRead at hnil
  rw [hstats, hdeleted, ← hnil, hzero] at hlog
  exact Bytes.lines_toTextLossy_eq_nil_iff.1 (List.eq_nil_of_length_eq_zero hlog)

/-- If a log may be lost on two ways, the numbers show on which it was, unless it has no bytes. -/
theorem Config.lost_iff_of_outcome (config : Config) (rules : RuleSet) {log : Bytes} {p q : Prop} [Decidable p]
    [Decidable q]
    (hstats : (config.outcome rules (if p then [] else log)).stats =
      (config.outcome rules (if q then [] else log)).stats)
    (hdeleted : (config.outcome rules (if p then [] else log)).deleted =
      (config.outcome rules (if q then [] else log)).deleted) : (p ↔ q) ∨ log = [] := by
  by_cases hp : p
  · by_cases hq : q
    · exact .inl (iff_of_true hp hq)
    · rw [if_pos hp, if_neg hq] at hstats hdeleted
      exact .inr (config.eq_nil_of_outcome rules hstats.symm hdeleted.symm)
  · by_cases hq : q
    · rw [if_neg hp, if_pos hq] at hstats hdeleted
      exact .inr (config.eq_nil_of_outcome rules hstats hdeleted)
    · exact .inl (iff_of_false hp hq)

namespace Job

variable {job job' : Job} {machine : Machine} {faults : Faults} {tree tree' : FileTree} {plan : Plan}
  {summary : JobSummary} {d : ConfigDefinition} {table : Option Text}

/-! ## The outcome of a run -/

/-- A plan is compiled from the definition and the text of the table that a job reads. -/
theorem compiles_of_plan (h : job.plan tree = .ok plan) :
    ∃ d table, ReadsConfig job tree d table ∧ d.Compiles table job.selection plan.config plan.rules ∧
      plan.config.documentFile = (d.documentFile.bind Text.nonempty?).getD Config.defaultDocumentFile := by
  obtain ⟨hload, hrules, -, -, -⟩ := plan_eq_ok h
  obtain ⟨t, d, tableRules, ht, hd, htable, hconfig⟩ := loadConfig_eq_ok hload
  have hfile : plan.config.documentFile = (d.documentFile.bind Text.nonempty?).getD Config.defaultDocumentFile := by
    obtain ⟨_, _, _, -, -, -, heq⟩ := Config.ofDefinition_eq_ok_iff.1 hconfig
    rw [heq]
    rfl
  have hread := loadTable_eq_ok htable
  cases hpath : tablePath? job.config d with
  | none =>
    rw [hpath] at hread
    obtain rfl := hread
    exact ⟨d, none, ⟨⟨t, ht, hd⟩, by rw [hpath]⟩, ⟨none, rfl, hconfig, hrules⟩, hfile⟩
  | some path =>
    rw [hpath] at hread
    obtain ⟨text, rules, htext, hcsv, rfl⟩ := hread
    -- the places of the rules name the path of the table, which the outcome does not know
    have hvalues := map_snd_rulesOfCsv? path [] text
    rw [hcsv, Option.map_some, Option.map_eq_some_iff] at hvalues
    obtain ⟨rules', hcsv', hvalues⟩ := hvalues
    refine ⟨d, some text, ⟨⟨t, ht, hd⟩, by rw [hpath]; exact ⟨text, htext, rfl⟩⟩, ⟨some rules', ?_, ?_, hrules⟩, hfile⟩
    · rw [ConfigDefinition.tableRules?, hcsv', Option.map_some]
    · exact Config.ofDefinition_of_map_snd_eq (by simp only [Option.map_some, hvalues]) hconfig

/-- What a job without commands leaves and tells is an outcome. -/
structure Agrees (run : JobRun) (summary : JobSummary) (outcome : LogOutcome) : Prop where
  document : run.tree.read summary.documentFile = .ok outcome.document
  stats : summary.stats = outcome.stats
  deleted : summary.deleted = outcome.deleted
  written : summary.written = outcome.written

theorem Agrees.unique {run : JobRun} {outcome outcome' : LogOutcome} (h : Agrees run summary outcome)
    (h' : Agrees run summary outcome') : outcome' = outcome := by
  obtain ⟨hdocument, hstats, hdeleted, hwritten⟩ := h
  obtain ⟨hdocument', hstats', hdeleted', hwritten'⟩ := h'
  rw [hdocument, Except.ok.injEq] at hdocument'
  cases outcome
  cases outcome'
  simp only [LogOutcome.mk.injEq]
  exact ⟨hdocument'.symm, hstats'.symm.trans hstats, hdeleted'.symm.trans hdeleted, hwritten'.symm.trans hwritten⟩

/-- If a run may have lost its log, it agrees with the outcome of the log exactly if there was nothing to lose. -/
theorem Agrees.outcome_iff {run : JobRun} {config : Config} {rules : RuleSet} {log : Bytes} {path : Path} {lost : Prop}
    [Decidable lost] (h : Agrees run summary ((config.outcome rules (if lost then [] else log)).keptAt tree path)) :
    Agrees run summary (config.outcome rules log) ↔
      (lost → log = []) ∧ (tree.HasDevice path → (config.outcome rules log).document = []) := by
  constructor
  · intro hlog
    have heq := hlog.unique h
    by_cases hlost : lost
    · rw [if_pos hlost] at heq
      have hstats := congrArg LogOutcome.stats heq
      have hdeleted := congrArg LogOutcome.deleted heq
      obtain rfl := config.eq_nil_of_outcome rules hstats.symm hdeleted.symm
      exact ⟨fun _ => rfl, LogOutcome.keptAt_eq_self_iff.1 heq⟩
    · rw [if_neg hlost] at heq
      exact ⟨fun hc => absurd hc hlost, LogOutcome.keptAt_eq_self_iff.1 heq⟩
  · rintro ⟨hlost, hdevice⟩
    have hbytes : (if lost then [] else log) = log := by
      split
      · next hc => exact (hlost hc).symm
      · rfl
    rw [hbytes, LogOutcome.keptAt_eq_self_iff.2 hdevice] at h
    exact h

/-- A run leaves the outcome of its log, or that of an empty log if it copies the log onto itself. -/
theorem run_outcome (hno : job.noExecute = true) (h : (job.run machine faults tree).result = .ok summary) :
    ∃ d table config rules log, ReadsConfig job tree d table ∧ d.Compiles table job.selection config rules ∧
      tree.contentAt? (tree.target job.log) = some log ∧
      summary.documentFile =
        job.log.parts.expand ((d.documentFile.bind Text.nonempty?).getD Config.defaultDocumentFile) ∧
      Agrees (job.run machine faults tree) summary
        ((config.outcome rules (if job.CopiesOntoLog summary.backupFile tree then [] else log)).keptAt
          (job.run machine faults tree).tree summary.documentFile) := by
  obtain ⟨written, draft, commandsRun, isDrawn, hwrite, rfl, htree⟩ := run_eq_ok h
  obtain ⟨kept, replaced, log, hsteps⟩ := write_eq_ok hwrite
  obtain ⟨content, hcontent, rfl⟩ := hsteps.log_eq
  obtain ⟨d, table, hreads, hcompiles, hfile⟩ := compiles_of_plan hsteps.plan
  have hread := FileTree.read_writeOutput hsteps.writeOutput
  have hpath := (plan_eq_ok hsteps.plan).2.2.2.1
  rw [hfile] at hpath
  refine ⟨d, table, _, _, content, hreads, hcompiles, hcontent, hpath, ?_⟩
  rw [hsteps.product] at hread
  constructor
  case document => rw [htree hno]; exact hread
  case stats => exact congrArg (·.drawing.stats) hsteps.product
  case deleted => exact congrArg (·.deleted) hsteps.product
  case written => exact congrArg (·.document.lines.length) hsteps.product

/-- Two jobs have the same groups, rules and log; their copies, their paths and all other files may differ. -/
structure SameInput (job job' : Job) (tree tree' : FileTree) : Prop where
  selection : job'.selection = job.selection
  config : ∃ d d' table, ReadsConfig job tree d table ∧ ReadsConfig job' tree' d' table ∧
    { d' with backupFile := none } = { d with backupFile := none }
  log : tree'.contentAt? (tree'.target job'.log) = tree.contentAt? (tree.target job.log)

/-- What two runs with the same input compute is told by one configuration. -/
theorem run_outcome_of_sameInput {machine' : Machine} {faults' : Faults} {summary' : JobSummary}
    (hsame : SameInput job job' tree tree') (hno : job.noExecute = true) (hno' : job'.noExecute = true)
    (h : (job.run machine faults tree).result = .ok summary)
    (h' : (job'.run machine' faults' tree').result = .ok summary') :
    ∃ config rules log, tree.contentAt? (tree.target job.log) = some log ∧
      Agrees (job.run machine faults tree) summary
        ((Config.outcome config rules (if job.CopiesOntoLog summary.backupFile tree then [] else log)).keptAt
          (job.run machine faults tree).tree summary.documentFile) ∧
      Agrees (job'.run machine' faults' tree') summary'
        ((config.outcome rules (if job'.CopiesOntoLog summary'.backupFile tree' then [] else log)).keptAt
          (job'.run machine' faults' tree').tree summary'.documentFile) := by
  obtain ⟨hselection, ⟨d, d', table, hreads, hreads', hd⟩, hlog⟩ := hsame
  obtain ⟨d₁, table₁, config, rules, log, hreads₁, hcompiles, hcontent, -, hagrees⟩ := run_outcome hno h
  obtain ⟨d₂, table₂, config', rules', log', hreads₂, hcompiles', hcontent', -, hagrees'⟩ := run_outcome hno' h'
  obtain ⟨rfl, rfl⟩ := hreads.unique hreads₁
  obtain ⟨rfl, rfl⟩ := hreads'.unique hreads₂
  rw [hselection] at hcompiles'
  obtain ⟨rfl, rfl⟩ := (hcompiles.backupFile hd).unique hcompiles'
  rw [hlog, hcontent, Option.some.injEq] at hcontent'
  obtain rfl := hcontent'
  exact ⟨config, rules', log, hcontent, hagrees, hagrees'⟩

/--
Without commands a run that succeeds leaves and tells what is computed from its definition, its table, its groups and
the bytes of its log, exactly if it did not copy a log with bytes onto itself and its document was not lost to a
device. Two runs with the same input agree exactly if both or neither copied the log onto itself, or it has no bytes.
-/
theorem outcome_of_run (hno : job.noExecute = true) (h : (job.run machine faults tree).result = .ok summary) :
    (∃ d table log outcome, ReadsConfig job tree d table ∧ tree.contentAt? (tree.target job.log) = some log ∧
      d.outcome? table job.selection log = some outcome ∧
      summary.documentFile =
        job.log.parts.expand ((d.documentFile.bind Text.nonempty?).getD Config.defaultDocumentFile) ∧
      (Agrees (job.run machine faults tree) summary outcome ↔
        (job.CopiesOntoLog summary.backupFile tree → log = []) ∧
          ((job.run machine faults tree).tree.HasDevice summary.documentFile → outcome.document = []))) ∧
    ∀ (job' : Job) (machine' : Machine) (faults' : Faults) (tree' : FileTree) (summary' : JobSummary),
      SameInput job job' tree tree' → job'.noExecute = true →
        (job'.run machine' faults' tree').result = .ok summary' →
          (summary'.stats = summary.stats ∧ summary'.deleted = summary.deleted ∧ summary'.written = summary.written ∧
              (¬(job.run machine faults tree).tree.HasDevice summary.documentFile →
                ¬(job'.run machine' faults' tree').tree.HasDevice summary'.documentFile →
                  (job'.run machine' faults' tree').tree.read summary'.documentFile =
                    (job.run machine faults tree).tree.read summary.documentFile) ↔
            (job.CopiesOntoLog summary.backupFile tree ↔ job'.CopiesOntoLog summary'.backupFile tree') ∨
              tree.contentAt? (tree.target job.log) = some []) := by
  constructor
  · obtain ⟨d, table, config, rules, log, hreads, hcompiles, hcontent, hpath, hagrees⟩ := run_outcome hno h
    exact ⟨d, table, log, _, hreads, hcontent, hcompiles.outcome? log, hpath, hagrees.outcome_iff⟩
  · intro job' machine' faults' tree' summary' hsame hno' h'
    obtain ⟨config, rules, log, hcontent, hagrees, hagrees'⟩ := run_outcome_of_sameInput hsame hno hno' h h'
    rw [hcontent, Option.some.injEq]
    constructor
    · rintro ⟨hstats, hdeleted, -, -⟩
      rw [hagrees.stats, hagrees'.stats] at hstats
      rw [hagrees.deleted, hagrees'.deleted] at hdeleted
      exact config.lost_iff_of_outcome rules hstats.symm hdeleted.symm
    · intro hboth
      have hbytes : (if job'.CopiesOntoLog summary'.backupFile tree' then [] else log) =
          if job.CopiesOntoLog summary.backupFile tree then [] else log := by
        rcases hboth with hiff | rfl
        · simp only [hiff]
        · rw [ite_self, ite_self]
      rw [hbytes] at hagrees'
      refine ⟨hagrees'.stats.trans hagrees.stats.symm, hagrees'.deleted.trans hagrees.deleted.symm,
        hagrees'.written.trans hagrees.written.symm, fun hdevice hdevice' => ?_⟩
      rw [hagrees.document, hagrees'.document, LogOutcome.keptAt_eq_self_iff.2 fun hc => absurd hc hdevice,
        LogOutcome.keptAt_eq_self_iff.2 fun hc => absurd hc hdevice']

/-- A log that is kept beside itself gives the document that it gives without a copy. -/
theorem outcome_of_run_with_copy :
    let config := ["\x7b\"translations\":[", "\x7b\"patterns\":[\"h\"],", "\"print\":\"P\"\x7d],",
      "\"translation_file\":\"o\"", "\x7d"]
    let config' := config.dropLast ++ [",\"backup_file\":\"b\"", "\x7d"]
    let run := small.run idle .none (smallTree ["h"] config)
    let run' := small.run idle .none (smallTree ["h"] config')
    let summary : JobSummary := ⟨['o'], none, ⟨1, 0, 0, 0, 0⟩, 0, 1, 0, false⟩
    SameInput small small (smallTree ["h"] config) (smallTree ["h"] config') ∧ small.noExecute = true ∧
      run.result = .ok summary ∧ run'.result = .ok { summary with backupFile := some ['b'] } ∧
      (∃ d table log outcome, ReadsConfig small (smallTree ["h"] config) d table ∧
        d.outcome? table small.selection log = some outcome ∧ Agrees run summary outcome) ∧
      run'.tree.read ['o'] = run.tree.read ['o'] := by
  intro config config' run run' summary
  have hrun : run.result = .ok summary := by decide +kernel
  have hrun' : run'.result = .ok { summary with backupFile := some ['b'] } := by decide +kernel
  have hsame : SameInput small small (smallTree ["h"] config) (smallTree ["h"] config') := by
    let d : ConfigDefinition :=
      ⟨[⟨none, none, some [['h']], some ['P'], [], none⟩], none, [], [], [], [], [], [], [], none, some ['o'], none, []⟩
    have hread : ReadsConfig small (smallTree ["h"] config) d none :=
      readsConfig_of_read (bytesOf config) (by decide +kernel) (by decide +kernel) rfl
    have hread' : ReadsConfig small (smallTree ["h"] config') { d with backupFile := some ['b'] } none :=
      readsConfig_of_read (bytesOf config') (by decide +kernel) (by decide +kernel) rfl
    exact ⟨rfl, ⟨_, _, _, hread, hread', rfl⟩, by decide +kernel⟩
  obtain ⟨⟨d, table, log, outcome, hreads, -, houtcome, -, hagrees⟩, hothers⟩ := outcome_of_run rfl hrun
  have hsamerun := (hothers _ _ _ _ _ hsame rfl hrun').2 (.inl (by decide +kernel))
  refine ⟨hsame, rfl, hrun, hrun', ⟨d, table, log, outcome, hreads, houtcome, hagrees.2 ⟨?_, ?_⟩⟩, ?_⟩
  · exact fun hself => absurd hself (by decide +kernel)
  · exact fun hdevice => absurd hdevice (by decide +kernel)
  · exact hsamerun.2.2.2 (by decide +kernel) (by decide +kernel)

/-- A log that is copied onto itself on a path which does not lead there before is lost, and its document with it. -/
theorem outcome_lost_by_copy :
    let config := ["\x7b\"translations\":[", "\x7b\"patterns\":[\"h\"],", "\"print\":\"P\"\x7d],",
      "\"translation_file\":\"o\",", "\"backup_file\":\"b/../x\"", "\x7d"]
    let run := small.run idle .none (smallTree ["h"] config)
    run.result = .ok ⟨['o'], some "b/../x".toList, ⟨0, 0, 0, 0, 0⟩, 0, 0, 0, false⟩ ∧ run.tree.read ['o'] = .ok [] ∧
      (ConfigDefinition.ofJson (Bytes.toTextLossy (bytesOf config))).toOption.bind
          (fun d => d.outcome? none small.selection (bytesOf ["h"])) = some ⟨bytesOf ["P"], ⟨1, 0, 0, 0, 0⟩, 0, 1⟩ := by
  decide +kernel

end Job

end LogDiagram
