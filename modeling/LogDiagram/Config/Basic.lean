import LogDiagram.Config.RuleTable
import LogDiagram.Deletion
import LogDiagram.Rule.Basic

/-!
# Checked configurations

A `Config` is a configuration without defects. `Config.ofDefinition` checks a definition entry by entry: the rules, then
the pairs, then the deletions; the first defect of the first defective entry is reported.
-/

namespace LogDiagram

/-- A configuration that was checked. -/
structure Config where
  /-- All rules, before any of them is chosen. -/
  rules : List Rule
  blacklist : List Text
  replacements : List Replacement
  pairs : List PairSpec
  deletions : List LineDeletion
  /-- The groups whose rules do not apply unless groups are chosen. -/
  disabledGroups : List Text
  /-- The lines in front of the diagram. -/
  wrapTextPre : List Text
  /-- The lines behind the diagram. -/
  wrapTextPost : List Text
  /-- Each line of the document ends with a line feed. -/
  autoNewLine : Bool
  /-- Where the document is written; parts of the path of the log may be named. -/
  documentFile : Text
  /-- Where the log is kept before it is replaced; parts of its path may be named. -/
  backupFile : Option Text
  /-- The commands that are run when the document is written. -/
  execute : List Text
  deriving DecidableEq, Repr

def required {α : Type} (field : String) : Option α → Except Defect α
  | some value => .ok value
  | none => .error (.missing field.toList)

/-- The entry itself unless it lacks a part. -/
def complete {α : Type} (missing : Option Text) (entry : α) : Except Defect α :=
  match missing with
  | some field => .error (.missing field)
  | none => .ok entry

def VariableDefinition.check (d : VariableDefinition) : Except Defect VariableSpec := do
  let startsWith ← required "variables.startswith" d.startsWith
  let endsWith ← required "variables.endswith" d.endsWith
  return { startsWith, endsWith }

def DuplicatePolicy.check : Option Text → Except Defect DuplicatePolicy
  | none => .ok .keep
  | some tag =>
    match DuplicatePolicy.ofTag? tag with
    | some policy => .ok policy
    | none => .error (.unknownDuplicates tag)

def RuleDefinition.check (d : RuleDefinition) : Except Defect Rule := do
  let patterns ← required "patterns" d.patterns
  let template ← required "print" d.print
  let captures ← d.captures.mapM VariableDefinition.check
  let duplicates ← DuplicatePolicy.check d.duplicates
  let rule : Rule :=
    { group := d.group.bind Text.nonempty?, enabled := d.enable.getD true, patterns, captures, template, duplicates }
  complete rule.missingField? rule

/-- The pair that a definition makes; without a text of its own the wait ends before the next source line. -/
def PairDefinition.check (d : PairDefinition) : Except Defect PairSpec := do
  let source ← required "source" d.source
  let pairsWith ← required "pairswith" d.pairsWith
  let error ← required "error" d.error
  let pair : PairSpec := { source, pairsWith, before := (d.before.bind Text.nonempty?).getD source, error }
  complete pair.missingField? pair

namespace Config

/-- Where the document is written if the configuration does not say it: beside the log. -/
def defaultDocumentFile : Text := "$\x7bfileDirname\x7d/$\x7bfileBasename\x7d.txt".toList

/-- The configuration that a definition makes. If rules of a table are given, they replace those of the definition. -/
def ofDefinition (d : ConfigDefinition) (tableRules : Option (List (Text × RuleDefinition))) :
    Except EntryError Config := do
  let rules ← checkEntries RuleDefinition.check (tableRules.getD (located "translations" d.rules))
  let pairs ← checkEntries PairDefinition.check (located "pairs" d.pairs)
  let deletions ← LineDeletion.ofEntries d.deleteLines
  return {
    rules
    blacklist := d.blacklist
    replacements := d.replaceWords.map fun (search, replace) => { search, replace }
    pairs
    deletions
    disabledGroups := d.disableGroup
    wrapTextPre := d.wrapTextPre
    wrapTextPost := d.wrapTextPost
    autoNewLine := d.autoNewLine.getD true
    documentFile := (d.documentFile.bind Text.nonempty?).getD defaultDocumentFile
    backupFile := d.backupFile.bind Text.nonempty?
    execute := d.execute }

end Config

end LogDiagram
