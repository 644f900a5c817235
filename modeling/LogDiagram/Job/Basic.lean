import LogDiagram.Config.Product
import LogDiagram.Failure
import LogDiagram.Path.Expansion

/-!
# Jobs

A job draws the diagram of one log: it reads the configuration, keeps a copy of the log, deletes lines, writes the
document and runs the commands of the configuration.

* `Job.loadConfig` reads a configuration and its table of rules;
* `Job.run` does a job; the answer has the tree of files as it is then, also after a failure.

The log is only replaced when a copy of it is kept.
-/

namespace LogDiagram

/-- What a job is about. -/
structure Job where
  log : Path
  config : Path
  selection : GroupSelection
  /-- The program that draws a picture of the diagram in the end. -/
  plantumlJar : Option Path
  java : Text
  /-- No commands are run. -/
  noExecute : Bool
  deriving DecidableEq, Repr

/-- What came of a job. -/
structure JobSummary where
  documentFile : Path
  /-- The copy of the log, whether it was made now or before. -/
  backupFile : Option Path
  stats : Stats
  /-- How many lines of the log were deleted. -/
  deleted : Nat
  /-- How many lines the document has. -/
  written : Nat
  commandsRun : Nat
  pictureDrawn : Bool
  deriving DecidableEq, Repr

/-- The tree that a job leaves, what its commands printed, and what came of it. -/
structure JobRun where
  tree : FileTree
  printed : Bytes
  result : Except Failure JobSummary

namespace Job

/-! ## Reading the configuration -/

/-- How many bytes a configuration file may have. -/
def configLimit : Nat := 8 * 1024 * 1024

/-- The text of a configuration file; what is no text in it is marked. -/
def readConfigFile (tree : FileTree) (path : Path) : Except ConfigError Text :=
  match tree.read path with
  | .error cause => .error (.unreadable path cause)
  | .ok content =>
    let size := content.length
    if size > configLimit then .error (.tooLarge path size configLimit) else .ok (Bytes.toTextLossy content)

/-- The path of the table of rules that a definition names: it is followed from the directory of the configuration. -/
def tablePath? (path : Path) (d : ConfigDefinition) : Option Path :=
  (d.ruleTable.bind Text.nonempty?).map fun name =>
    match path.parent? with
    | some directory => directory.join name
    | none => name

def loadTable (tree : FileTree) (path : Path) (d : ConfigDefinition) :
    Except ConfigError (Option (List (Text × RuleDefinition))) :=
  match tablePath? path d with
  | none => .ok none
  | some tablePath => do
    let t ← readConfigFile tree tablePath
    match rulesOfCsv? tablePath t with
    | none => throw (.csv tablePath)
    | some rules => return some rules

def loadConfig (tree : FileTree) (path : Path) : Except ConfigError Config := do
  let t ← readConfigFile tree path
  let d ← (ConfigDefinition.ofJson t).mapError (ConfigError.json path)
  let tableRules ← loadTable tree path d
  (Config.ofDefinition d tableRules).mapError ConfigError.entry

/-! ## The steps of a job -/

/-- What is known of a job before its log is read. -/
structure Plan where
  config : Config
  rules : RuleSet
  parts : Path.Parts
  documentFile : Path
  backupFile : Option Path
  deriving DecidableEq, Repr

def plan (job : Job) (tree : FileTree) : Except ConfigError Plan := do
  let config ← loadConfig tree job.config
  let rules ← (config.ruleSet job.selection).mapError ConfigError.entry
  let parts := job.log.parts
  return {
    config, rules, parts
    documentFile := parts.expand config.documentFile
    backupFile := config.backupFile.map parts.expand }

/-- The tree with the copy of the log, if one is to be kept. -/
def keepCopy (job : Job) (faults : Faults) (plan : Plan) (tree : FileTree) : FileTree × Option OutputError :=
  match plan.backupFile with
  | none => (tree, none)
  | some copy => tree.backup faults job.log copy

def readLog (tree : FileTree) (log : Path) : Except OsError (List Text) :=
  (tree.read log).map fun content => Text.lines (Bytes.toTextLossy content)

/-- The tree with the log replaced, if a copy of it is kept. -/
def replaceLog (job : Job) (faults : Faults) (plan : Plan) (lines : List Text) (tree : FileTree) :
    FileTree × Option OutputError :=
  match plan.backupFile with
  | none => (tree, none)
  | some _ => tree.replaceContent faults job.log (Bytes.ofText (Text.ofLines lines))

/-- What a job has written before its commands run. -/
structure Draft where
  plan : Plan
  product : Product
  deriving DecidableEq, Repr

/-- Everything but the commands: the tree with the document and the replaced log. -/
def write (job : Job) (faults : Faults) (tree : FileTree) : FileTree × Except Failure Draft :=
  match job.plan tree with
  | .error error => (tree, .error (.config error))
  | .ok plan =>
    match job.keepCopy faults plan tree with
    | (tree, some error) => (tree, .error (.output error))
    | (tree, none) =>
      match readLog tree job.log with
      | .error cause => (tree, .error (.log job.log "read log".toList cause))
      | .ok log =>
        let product := plan.config.product plan.rules log
        match job.replaceLog faults plan product.trimmed tree with
        | (tree, some error) => (tree, .error (.output error))
        | (tree, none) =>
          match tree.writeOutput faults plan.documentFile (Bytes.ofText product.document.text) with
          | (tree, some error) => (tree, .error (.output error))
          | (tree, none) => (tree, .ok ⟨plan, product⟩)

def summary (draft : Draft) (commandsRun : Nat) (pictureDrawn : Bool) : JobSummary where
  documentFile := draft.plan.documentFile
  backupFile := draft.plan.backupFile
  stats := draft.product.drawing.stats
  deleted := draft.product.deleted
  written := draft.product.document.lines.length
  commandsRun
  pictureDrawn

/-- The picture of the diagram drawn, if a program for it is known. -/
def drawPicture (job : Job) (machine : Machine) (draft : Draft) (tree : FileTree) : ChainRun Bool :=
  match job.plantumlJar with
  | none => ⟨tree, [], .ok false⟩
  | some jar =>
    let run :=
      machine.drawPicture job.java jar draft.plan.documentFile draft.product.document.lines.length tree
    ⟨run.tree, run.printed, run.result.map fun _ => true⟩

/-- The commands of a job, and the picture after them. -/
def execute (job : Job) (machine : Machine) (draft : Draft) (tree : FileTree) : JobRun :=
  let commands := draft.plan.config.execute.map draft.plan.parts.expand
  match machine.runAll commands tree with
  | ⟨tree, printed, .error error⟩ => ⟨tree, printed, .error (.command error)⟩
  | ⟨tree, printed, .ok count⟩ =>
    match job.drawPicture machine draft tree with
    | ⟨tree, more, .error error⟩ => ⟨tree, printed ++ more, .error (.command error)⟩
    | ⟨tree, more, .ok isDrawn⟩ => ⟨tree, printed ++ more, .ok (summary draft count isDrawn)⟩

/-- Does a job. -/
def run (job : Job) (machine : Machine) (faults : Faults) (tree : FileTree) : JobRun :=
  match job.write faults tree with
  | (tree, .error failure) => ⟨tree, [], .error failure⟩
  | (tree, .ok draft) =>
    if job.noExecute then ⟨tree, [], .ok (summary draft 0 false)⟩ else job.execute machine draft tree

end Job

end LogDiagram
