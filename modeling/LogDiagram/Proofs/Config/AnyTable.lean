import LogDiagram.Proofs.Config.RuleRows

/-!
# Tables of rules in any text

Every text has records, so that every text is a table of rules or a malformed one.

* `HasCell`, `RuleDefinition.ofCells`, `IsOfRow`: the rule that a row tells under a header;
* `IsMalformed`: the records that are no table of rules;
* `rulesOfCsv?_row_by_row`: all other records give one rule for each row, in their order.
-/

namespace LogDiagram

open Csv

/-! ## The rule of a row -/

/-- The row has the content in the column; a column that the header does not name is empty. -/
def HasCell (header row : List Text) (column : String) (content : Text) : Prop :=
  Holds header row column content ∨ column.toList ∉ header ∧ content = []

/-- The rule whose columns have the given contents. Empty patterns and variables without a start do not count. -/
def RuleDefinition.ofCells (content : String → Text) : RuleDefinition where
  group := if content "group" = [] then none else some (content "group")
  enable := some (disablingWords.all fun word => (content "enable").asciiLower ≠ word.toList)
  patterns := some ((patternColumns.map content).filter fun pattern => pattern ≠ [])
  print := some (content "print")
  captures := (captureColumns.filter fun columns => content columns.1 ≠ []).map fun columns =>
    ⟨some (content columns.1), some (content columns.2)⟩
  duplicates := if content "duplicates" = [] then none else some (content "duplicates")

/-- The definition that a row tells under a header, with all cells trimmed. -/
def IsOfRow (header row : List Text) (d : RuleDefinition) : Prop :=
  ∃ content : String → Text, d = .ofCells content ∧
    ∀ column ∈ ruleColumns, HasCell (header.map Text.trimmed) (row.map Text.trimmed) column (content column)

/-- The cells of a row that stand under a column of rules. -/
def ruleCells (header row : List Text) : List (Text × Text) :=
  (header.zip row).filter fun cell => ruleColumns.any fun column => cell.1.trimmed = column.toList

variable {header row : List Text} {column : String} {content : Text}

/-- Only columns of rules count. -/
theorem RuleDefinition.ofCells_congr {content content' : String → Text}
    (h : ∀ column ∈ ruleColumns, content column = content' column) : ofCells content = ofCells content' := by
  have hpatterns : patternColumns.map content = patternColumns.map content' :=
    List.map_congr_left fun column hcolumn => h column (patternColumns_subset column hcolumn)
  have hstart : ∀ columns ∈ captureColumns, content columns.1 = content' columns.1 := fun columns hcolumns =>
    h _ (captureColumns_subset columns hcolumns).1
  have hend : ∀ columns ∈ captureColumns, content columns.2 = content' columns.2 := fun columns hcolumns =>
    h _ (captureColumns_subset columns hcolumns).2
  have hfilter : (captureColumns.filter fun columns => content columns.1 ≠ []) =
      captureColumns.filter fun columns => content' columns.1 ≠ [] :=
    List.filter_congr fun columns hcolumns => by rw [hstart columns hcolumns]
  have hcaptures : (ofCells content).captures = (ofCells content').captures := by
    rw [ofCells, ofCells, hfilter]
    refine List.map_congr_left fun columns hcolumns => ?_
    have hmem := (List.mem_filter.1 hcolumns).1
    rw [hstart columns hmem, hend columns hmem]
  simp only [ofCells] at hcaptures
  simp only [ofCells, hcaptures, hpatterns, h "group" (by decide), h "enable" (by decide), h "print" (by decide),
    h "duplicates" (by decide)]

/-- Empty texts do not count. -/
theorem filterMap_nonempty? (l : List Text) : l.filterMap Text.nonempty? = l.filter fun t => t ≠ [] := by
  induction l with
  | nil => rfl
  | cons t l ih =>
    cases t with
    | nil => simpa [Text.nonempty?] using ih
    | cons c t => simpa [Text.nonempty?] using ih

/-- Pairs of columns with an empty start do not count. -/
theorem reduceOption_nonempty?_map {α β : Type} (start : α → Text) (f : α → Text → β) (l : List α) :
    (l.map fun a => (start a).nonempty?.map (f a)).filterMap id =
      (l.filter fun a => start a ≠ []).map fun a => f a (start a) := by
  induction l with
  | nil => rfl
  | cons a l ih =>
    rw [List.map_cons, List.filter_cons]
    by_cases h : start a = []
    · simpa [h, Text.nonempty?] using ih
    · simpa [h, Text.nonempty?] using ih

/-- A row is read as the rule of its cells. -/
theorem ofRow_eq_ofCells (header row : List Text) :
    RuleDefinition.ofRow header row = .ofCells (Table.cell header row) := by
  let cell := Table.cell header row
  have henable : (!disablingWords.any fun word => word.toList == (cell "enable").asciiLower) =
      disablingWords.all fun word => (cell "enable").asciiLower ≠ word.toList := by
    have hword : (fun word : String => !(word.toList == (cell "enable").asciiLower)) =
        fun word : String => decide ((cell "enable").asciiLower ≠ word.toList) := by
      funext word
      rw [Bool.eq_iff_iff, Bool.not_eq_true', beq_eq_false_iff_ne, decide_eq_true_iff, ne_comm]
    rw [List.not_any_eq_all_not, hword]
  have hpatterns := filterMap_nonempty? (patternColumns.map cell)
  have hcaptures := reduceOption_nonempty?_map (fun columns => cell columns.1)
    (fun columns start => (⟨some start, some (cell columns.2)⟩ : VariableDefinition)) captureColumns
  rw [RuleDefinition.ofRow, RuleDefinition.ofCells, RuleDefinition.mk.injEq]
  exact ⟨Text.nonempty?_eq _, congrArg some henable, congrArg some hpatterns, rfl, hcaptures, Text.nonempty?_eq _⟩

/-- The cell that is found is the one that the row has, if the header does not name the column twice. -/
theorem HasCell.eq (hcount : header.count column.toList ≤ 1) (h : HasCell header row column content) :
    content = Table.cell header row column := by
  rcases h with hcell | ⟨hno, rfl⟩
  · exact (Table.cell_eq_of_mem hcount hcell).symm
  · have hnone : (header.zip row).lookup column.toList = none := by
      refine lookup_of_not_mem fun hmem => hno ?_
      obtain ⟨cell, hcell, heq⟩ := List.mem_map.1 hmem
      exact heq ▸ (List.of_mem_zip hcell).1
    rw [Table.cell, hnone]
    rfl

/-- In a row that is not shorter than the header each column has a cell, or none if the header does not name it. -/
theorem hasCell_cell (hlength : header.length ≤ row.length) (hcount : header.count column.toList ≤ 1) :
    HasCell header row column (Table.cell header row column) := by
  by_cases hmem : column.toList ∈ header
  · obtain ⟨i, hi, heq⟩ := List.getElem_of_mem hmem
    have hcell : HasCell header row column row[i] :=
      .inl (holds_of_getElem? i (by rw [List.getElem?_eq_getElem hi, heq]) (List.getElem?_eq_getElem _))
    exact hcell.eq hcount ▸ hcell
  · have hcell : HasCell header row column [] := .inr ⟨hmem, rfl⟩
    exact hcell.eq hcount ▸ hcell

/-- Under a header that names no column of rules twice a row tells one rule, the one that is read. -/
theorem isOfRow_iff (hlength : header.length ≤ row.length)
    (hcount : ∀ column ∈ ruleColumns, (header.map Text.trimmed).count column.toList ≤ 1) (d : RuleDefinition) :
    IsOfRow header row d ↔ d = readRow header row := by
  rw [readRow, ofRow_eq_ofCells]
  constructor
  · rintro ⟨content, rfl, hcells⟩
    exact RuleDefinition.ofCells_congr fun column hcolumn => (hcells column hcolumn).eq (hcount column hcolumn)
  · rintro rfl
    exact ⟨_, rfl, fun column hcolumn => hasCell_cell (by simpa using hlength) (hcount column hcolumn)⟩

/-- A rule depends on the cells under the columns of rules only, not on other columns or surplus cells. -/
theorem readRow_ruleCells (header row : List Text) :
    readRow ((ruleCells header row).map (·.1)) ((ruleCells header row).map (·.2)) = readRow header row := by
  let kept (name : Text) : Bool := ruleColumns.any fun column => name = column.toList
  have hcells : (((ruleCells header row).map (·.1)).map Text.trimmed).zip
        (((ruleCells header row).map (·.2)).map Text.trimmed) =
      ((header.map Text.trimmed).zip (row.map Text.trimmed)).filter fun cell => kept cell.1 := by
    rw [List.map_map, List.map_map, List.zip_map', List.zip_map, List.filter_map]
    rfl
  rw [readRow, readRow, ofRow_eq_ofCells, ofRow_eq_ofCells]
  refine RuleDefinition.ofCells_congr fun column hcolumn => ?_
  have hkept : kept column.toList = true := List.any_eq_true.2 ⟨column, hcolumn, decide_eq_true rfl⟩
  rw [Table.cell, Table.cell, hcells, lookup_filter_of_kept _ hkept]

/-! ## The rules of a text -/

/-- Records with rows of which one is shorter than the header, or whose header names a column of rules twice. -/
def IsMalformed (recs : List (List Text)) : Prop :=
  ∃ header rows, recs = header :: rows ∧ rows ≠ [] ∧
    ((∃ column ∈ ruleColumns, 2 ≤ (header.map Text.trimmed).count column.toList) ∨
      ∃ row ∈ rows, row.length < header.length)

variable {rows : List (List Text)} {t : Text} {path : Path}

/-- What the reading of a table checks is whether its records are malformed. -/
theorem isMalformed_cons (header : List Text) (rows : List (List Text)) :
    let trimmedRows := rows.map fun row => row.map Text.trimmed
    IsMalformed (header :: rows) ↔
      (!trimmedRows.isEmpty && (Table.repeats (header.map Text.trimmed) ruleColumns ||
        trimmedRows.any fun row => row.length < (header.map Text.trimmed).length)) = true := by
  simp only [IsMalformed, Table.repeats, Bool.and_eq_true, Bool.or_eq_true, List.any_eq_true, List.any_map,
    Function.comp_apply, decide_eq_true_eq, List.length_map, Bool.not_eq_true', List.isEmpty_eq_false_iff,
    ne_eq, List.map_eq_nil_iff]
  constructor
  · rintro ⟨_, _, heq, hdefect⟩
    obtain ⟨rfl, rfl⟩ := List.cons.inj heq
    exact hdefect
  · intro hdefect
    exact ⟨header, rows, rfl, hdefect⟩

theorem rulesOfCsv?_of_malformed (hrecs : records t = header :: rows) (h : IsMalformed (header :: rows)) :
    rulesOfCsv? path t = none := by
  rw [rulesOfCsv?, Table.read?, hrecs, List.map_cons]
  simp only [(isMalformed_cons header rows).1 h, if_true, Option.map_none]

theorem rulesOfCsv?_of_not_malformed (hrecs : records t = header :: rows) (h : ¬IsMalformed (header :: rows)) :
    rulesOfCsv? path t = some (placed (rowOf (path.fileName?.getD path)) (rows.map (readRow header)) 0) := by
  rw [rulesOfCsv?, Table.read?, hrecs, List.map_cons]
  simp only [mt (isMalformed_cons header rows).2 h, Bool.false_eq_true, if_false, Option.map_some, placed]
  simp [List.zipIdx_map, readRow]

theorem rulesOfCsv?_of_no_records (hrecs : records t = []) : rulesOfCsv? path t = some [] := by
  simp [rulesOfCsv?, Table.read?, hrecs]

theorem length_placed {α : Type} (place : Nat → Text) (entries : List α) (start : Nat) :
    (placed place entries start).length = entries.length := by
  simp [placed]

theorem getElem?_placed {α : Type} {place : Nat → Text} {entries : List α} {k : Nat} {entry : α}
    (h : entries[k]? = some entry) : (placed place entries 0)[k]? = some (place k, entry) := by
  simp [placed, h]

/--
Every text has records of one kind. They are no table of rules just if they have rows and either the header names a
column of rules twice or a row is shorter than the header. Otherwise each row gives one rule, in its order and with its
number, which is the one that the row tells under the header.
-/
theorem rulesOfCsv?_row_by_row (path : Path) (t : Text) :
    ∃ recs, (∀ recs', HasRecords recs' (withoutMark t) ↔ recs' = recs) ∧
      (rulesOfCsv? path t = none ↔ IsMalformed recs) ∧
      ∀ rules, rulesOfCsv? path t = some rules →
        rules.length = recs.tail.length ∧
        ∀ header rows, recs = header :: rows → ∀ k row, rows[k]? = some row →
          rules[k]? =
            some (path.fileName?.getD path ++ " row ".toList ++ Text.ofNat (k + 2), readRow header row) ∧
          (∀ d, IsOfRow header row d ↔ d = readRow header row) ∧
          readRow ((ruleCells header row).map (·.1)) ((ruleCells header row).map (·.2)) = readRow header row := by
  refine ⟨records t, fun recs' => by rw [← records_eq_iff, eq_comm], ?_⟩
  cases hrecs : records t with
  | nil =>
    have hread : rulesOfCsv? path t = some [] := rulesOfCsv?_of_no_records hrecs
    have hno : ¬IsMalformed [] := by simp [IsMalformed]
    refine ⟨by simp [hread, hno], fun rules hrules => ?_⟩
    obtain rfl : [] = rules := Option.some.inj (hread.symm.trans hrules)
    exact ⟨rfl, fun _ _ heq => nomatch heq⟩
  | cons header rows =>
    by_cases hmalformed : IsMalformed (header :: rows)
    · have hread := @rulesOfCsv?_of_malformed header rows t path hrecs hmalformed
      exact ⟨by simp [hread, hmalformed], fun rules hrules => by simp [hread] at hrules⟩
    · have hread := @rulesOfCsv?_of_not_malformed header rows t path hrecs hmalformed
      refine ⟨by simp [hread, hmalformed], fun rules hrules => ?_⟩
      obtain rfl := Option.some.inj (hread.symm.trans hrules)
      refine ⟨by simp [length_placed], fun header' rows' heq k row hrow => ?_⟩
      obtain ⟨rfl, rfl⟩ := List.cons.inj heq
      have hmem : row ∈ rows := List.mem_of_getElem? hrow
      have hlength : header.length ≤ row.length := by
        refine Nat.le_of_not_lt fun hshort => hmalformed ?_
        exact ⟨header, rows, rfl, List.ne_nil_of_mem hmem, .inr ⟨row, hmem, hshort⟩⟩
      have hcount : ∀ column ∈ ruleColumns, (header.map Text.trimmed).count column.toList ≤ 1 := by
        refine fun column hcolumn => Nat.le_of_not_lt fun htwice => hmalformed ?_
        exact ⟨header, rows, rfl, List.ne_nil_of_mem hmem, .inl ⟨column, hcolumn, htwice⟩⟩
      exact ⟨getElem?_placed (by simp [hrow]), isOfRow_iff hlength hcount, readRow_ruleCells header row⟩

end LogDiagram
