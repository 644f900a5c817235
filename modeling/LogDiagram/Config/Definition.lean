import LogDiagram.Json.Decoder

/-!
# Configurations as they are written

The definitions hold what a configuration file says, before anything of it is checked. A part that may be absent is
optional, so that its absence can be reported with the place of its entry; keys that are not known do not count.

* `ConfigDefinition.ofJson` reads a definition from the text of a configuration file.
-/

namespace LogDiagram

/-- A piece of a line to be captured, as written. -/
structure VariableDefinition where
  startsWith : Option Text
  endsWith : Option Text
  deriving DecidableEq, Repr

/-- A rule as written. -/
structure RuleDefinition where
  group : Option Text
  enable : Option Bool
  patterns : Option (List Text)
  print : Option Text
  captures : List VariableDefinition
  duplicates : Option Text
  deriving DecidableEq, Repr

/-- A pair as written. -/
structure PairDefinition where
  source : Option Text
  pairsWith : Option Text
  before : Option Text
  error : Option Text
  deriving DecidableEq, Repr

/-- A configuration as written. -/
structure ConfigDefinition where
  rules : List RuleDefinition
  /-- A table that holds the rules instead of `rules`. -/
  ruleTable : Option Text
  blacklist : List Text
  deleteLines : List Text
  /-- What is replaced by what, in the order of the file. -/
  replaceWords : List (Text × Text)
  pairs : List PairDefinition
  disableGroup : List Text
  wrapTextPre : List Text
  wrapTextPost : List Text
  autoNewLine : Option Bool
  documentFile : Option Text
  backupFile : Option Text
  execute : List Text
  deriving DecidableEq, Repr

open Json

namespace VariableDefinition

def empty : VariableDefinition := ⟨none, none⟩

def fields : List (RecordField VariableDefinition) := [
  .of "startswith" (asOptional asText) fun d v => { d with startsWith := v },
  .of "endswith" (asOptional asText) fun d v => { d with endsWith := v }]

def decoder : Decoder VariableDefinition := asRecord "struct VariableDef" fields empty

end VariableDefinition

namespace RuleDefinition

def empty : RuleDefinition := ⟨none, none, none, none, [], none⟩

def fields : List (RecordField RuleDefinition) := [
  (RecordField.of "group" (asOptional asText) fun d v => { d with group := v }).also "category",
  .of "enable" (asOptional asFlag) fun d v => { d with enable := v },
  .of "patterns" (asOptional (asList asText)) fun d v => { d with patterns := v },
  .of "print" (asOptional asText) fun d v => { d with print := v },
  .of "variables" (asList VariableDefinition.decoder) fun d v => { d with captures := v },
  .of "duplicates" (asOptional asText) fun d v => { d with duplicates := v }]

def decoder : Decoder RuleDefinition := asRecord "struct RuleDef" fields empty

end RuleDefinition

namespace PairDefinition

def empty : PairDefinition := ⟨none, none, none, none⟩

def fields : List (RecordField PairDefinition) := [
  .of "source" (asOptional asText) fun d v => { d with source := v },
  .of "pairswith" (asOptional asText) fun d v => { d with pairsWith := v },
  .of "before" (asOptional asText) fun d v => { d with before := v },
  .of "error" (asOptional asText) fun d v => { d with error := v }]

def decoder : Decoder PairDefinition := asRecord "struct PairDef" fields empty

end PairDefinition

namespace ConfigDefinition

def empty : ConfigDefinition := ⟨[], none, [], [], [], [], [], [], [], none, none, none, []⟩

def fields : List (RecordField ConfigDefinition) := [
  .of "translations" (asList RuleDefinition.decoder) fun d v => { d with rules := v },
  .of "translations_csv" (asOptional asText) fun d v => { d with ruleTable := v },
  .of "blacklist" (asList asText) fun d v => { d with blacklist := v },
  .of "delete_lines" (asList asText) fun d v => { d with deleteLines := v },
  .of "replace_words" (asTextPairs "an object of search -> replace strings") fun d v => { d with replaceWords := v },
  .of "pairs" (asList PairDefinition.decoder) fun d v => { d with pairs := v },
  (RecordField.of "disable_group" (asList asText) fun d v => { d with disableGroup := v }).also "disable_category",
  .of "wrap_text_pre" (asList asText) fun d v => { d with wrapTextPre := v },
  .of "wrap_text_post" (asList asText) fun d v => { d with wrapTextPost := v },
  .of "auto_new_line" (asOptional asFlag) fun d v => { d with autoNewLine := v },
  .of "translation_file" (asOptional asText) fun d v => { d with documentFile := v },
  .of "backup_file" (asOptional asText) fun d v => { d with backupFile := v },
  .of "execute" (asList asText) fun d v => { d with execute := v }]

def decoder : Decoder ConfigDefinition := asRecord "struct ConfigDefinition" fields empty

/-- The configuration that a text holds. -/
def ofJson (t : Text) : Except JsonProblem ConfigDefinition := decode decoder t

end ConfigDefinition

end LogDiagram
