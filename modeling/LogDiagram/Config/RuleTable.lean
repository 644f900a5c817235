import LogDiagram.Config.Csv
import LogDiagram.Config.Definition
import LogDiagram.Path.Basic

/-!
# Rules in a table

A rule may be a row of a table instead of an entry of a configuration file. `RuleDefinition.ofRow` gives its definition
and `rulesOfCsv?` the definitions of a whole table with their places.
-/

namespace LogDiagram

/-- The columns of a table of rules; all other columns do not count. -/
def ruleColumns : List String := [
  "enable", "group", "print", "duplicates", "pattern1", "pattern2", "pattern3",
  "variable1_starts_with", "variable1_ends_with", "variable2_starts_with", "variable2_ends_with",
  "variable3_starts_with", "variable3_ends_with"]

/-- The words that switch a row off, in any case of letters. -/
def disablingWords : List String := ["no", "false", "0"]

/-- The rule of a row. Empty patterns and variables without a start do not count. -/
def RuleDefinition.ofRow (header row : List Text) : RuleDefinition :=
  let cell := Csv.Table.cell header row
  let captured (startColumn endColumn : String) : Option VariableDefinition :=
    (cell startColumn).nonempty?.map fun start => ⟨some start, some (cell endColumn)⟩
  { group := (cell "group").nonempty?
    enable := some !(disablingWords.any fun word => word.toList == (cell "enable").asciiLower)
    patterns := some ([cell "pattern1", cell "pattern2", cell "pattern3"].filterMap Text.nonempty?)
    print := some (cell "print")
    captures :=
      [captured "variable1_starts_with" "variable1_ends_with", captured "variable2_starts_with" "variable2_ends_with",
        captured "variable3_starts_with" "variable3_ends_with"].filterMap id
    duplicates := (cell "duplicates").nonempty? }

/-- The place of the `i`-th row below the header, which is row one of the file. -/
def rowOf (fileName : Text) (i : Nat) : Text := fileName ++ " row ".toList ++ Text.ofNat (i + 2)

/-- The rules of a table with their places; none if the table is malformed. -/
def rulesOfCsv? (path : Path) (t : Text) : Option (List (Text × RuleDefinition)) :=
  (Csv.Table.read? ruleColumns t).map fun table =>
    table.rows.zipIdx.map fun (row, i) => (rowOf (path.fileName?.getD path) i, .ofRow table.header row)

end LogDiagram
