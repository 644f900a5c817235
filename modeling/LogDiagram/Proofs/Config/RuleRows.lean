import Mathlib.Data.List.ReduceOption
import LogDiagram.Config.RuleTable
import LogDiagram.Proofs.Config.QuotedTables
import LogDiagram.Proofs.Config.Written

/-!
# Rules in a table and rules in JSON

A rule may be written as a row of a table and as an entry of a configuration file.

* `TableRule`: what both can say of a rule;
* `TableRule.IsRow`, `TableRule.AreTable`: its rows, and the tables of several rules;
* `TableRule.IsEntry`: its entries;
* `rulesOfCsv?_of_areTable`: what is read of a table are entries that say its rules.
-/

namespace LogDiagram

open Json

/-! ## What is written -/

/-- A rule that fits into a row. -/
structure TableRule where
  enabled : Bool
  group : Text
  print : Text
  duplicates : Text
  patterns : List Text
  /-- The starts of the captured pieces and their ends. -/
  captures : List (Text × Text)
  patterns_length : patterns.length ≤ 3
  patterns_ne_nil : ∀ pattern ∈ patterns, pattern ≠ []
  captures_length : captures.length ≤ 3
  captures_ne_nil : ∀ capture ∈ captures, capture.1 ≠ []
  /-- No text has blanks around it. -/
  trimmed : ∀ t ∈ [group, print, duplicates] ++ patterns ++ captures.map (·.1) ++ captures.map (·.2), t.trimmed = t

/-- The first row of a table of rules: each column of rules once, in any order, and columns with other names. -/
structure IsRuleHeader (header : List Text) : Prop where
  once : ∀ column ∈ ruleColumns, header.count column.toList = 1
  others : ∀ name ∈ header, ∀ column ∈ ruleColumns, name.trimmed = column.toList → name = column.toList

/-- The columns of patterns. -/
def patternColumns : List String := ["pattern1", "pattern2", "pattern3"]

/-- The columns of variables, for their starts and their ends. -/
def captureColumns : List (String × String) := [
  ("variable1_starts_with", "variable1_ends_with"), ("variable2_starts_with", "variable2_ends_with"),
  ("variable3_starts_with", "variable3_ends_with")]

/-- The row has the content in the column. -/
def Holds (header row : List Text) (column : String) (content : Text) : Prop :=
  (column.toList, content) ∈ header.zip row

namespace TableRule

/-- A row that says the rule. Patterns and variables stand in their order; a column without one is empty. -/
structure IsRow (rule : TableRule) (header row : List Text) : Prop where
  length : row.length = header.length
  enable : ∃ word, Holds header row "enable" word ∧
    if rule.enabled then word = "yes".toList else word.asciiLower ∈ ["no", "false", "0"].map String.toList
  group : Holds header row "group" rule.group
  print : Holds header row "print" rule.print
  duplicates : Holds header row "duplicates" rule.duplicates
  patterns : ∃ slots : List (Option Text), slots.reduceOption = rule.patterns ∧
    List.Forall₂ (fun column slot => Holds header row column (slot.getD [])) patternColumns slots
  captures : ∃ slots : List (Option (Text × Text)), slots.reduceOption = rule.captures ∧
    List.Forall₂ (fun columns slot => Holds header row columns.1 (slot.getD ([], [])).1 ∧
      Holds header row columns.2 (slot.getD ([], [])).2) captureColumns slots

/-- A text that is a table of the rules, in their order. -/
def AreTable (rules : List TableRule) (t : Text) : Prop :=
  ∃ header rows, IsRuleHeader header ∧ List.Forall₂ (fun rule row => rule.IsRow header row) rules rows ∧
    Csv.WritesRecords (header :: rows) t

/-- An entry of a configuration file that says the rule. A group or a policy that is empty may be left out, and so may
the mark of a rule that is switched on. -/
structure IsEntry (rule : TableRule) (d : RuleDefinition) : Prop where
  enable : d.enable = some rule.enabled ∨ rule.enabled = true ∧ d.enable = none
  group : d.group = some rule.group ∨ rule.group = [] ∧ d.group = none
  print : d.print = some rule.print
  duplicates : d.duplicates = some rule.duplicates ∨ rule.duplicates = [] ∧ d.duplicates = none
  patterns : d.patterns = some rule.patterns
  captures : d.captures = rule.captures.map fun capture => ⟨some capture.1, some capture.2⟩

/-- The entry with everything written out. -/
def definition (rule : TableRule) : RuleDefinition where
  enable := some rule.enabled
  group := some rule.group
  print := some rule.print
  duplicates := some rule.duplicates
  patterns := some rule.patterns
  captures := rule.captures.map fun capture => ⟨some capture.1, some capture.2⟩

end TableRule

/-! ## Headers, cells and entries -/

theorem trimmed_of_mem_ruleColumns : ∀ column ∈ ruleColumns, Text.trimmed column.toList = column.toList := by
  decide

/-- A header without blanks has no other names that look like those of columns. -/
theorem isRuleHeader_of_trimmed {header : List Text} (hself : ∀ name ∈ header, name.trimmed = name)
    (honce : ∀ column ∈ ruleColumns, header.count column.toList = 1) : IsRuleHeader header where
  once := honce
  others := fun name hname _ _ heq => (hself name hname).symm.trans heq

/-- A cell by its position. -/
theorem holds_of_getElem? {header row : List Text} {column : String} {content : Text} (i : Nat)
    (hname : header[i]? = some column.toList) (hcell : row[i]? = some content) : Holds header row column content :=
  List.mem_of_getElem? (List.getElem?_zip_eq_some.2 ⟨hname, hcell⟩)

namespace TableRule

variable (rule : TableRule)

theorem isEntry_definition : rule.IsEntry rule.definition := ⟨.inl rfl, .inl rfl, rfl, .inl rfl, rfl, rfl⟩

end TableRule

/-! ## Rows are read as they were written -/

/-- A text without blanks has none around it. -/
theorem Text.trimmed_of_forall {t : Text} (h : ∀ c ∈ t, isBlank c = false) : t.trimmed = t := by
  have hself : ∀ u : Text, (∀ c ∈ u, isBlank c = false) → u.dropWhile isBlank = u := by
    intro u hu
    cases u with
    | nil => rfl
    | cons c u => rw [List.dropWhile_cons_of_neg (by simp [hu c List.mem_cons_self])]
  have hreverse : ∀ c ∈ t.reverse, isBlank c = false := fun c hc => h c (List.mem_reverse.1 hc)
  rw [trimmed, trimmedLeft, hself t h, trimmedRight, hself t.reverse hreverse, List.reverse_reverse]

/-- No blank is a letter. -/
theorem toLower_of_isBlank {c : Char} (h : isBlank c = true) : c.toLower = c := by
  have hrange : ¬(65 ≤ c.toNat ∧ c.toNat ≤ 90) := by
    simp only [isBlank, Bool.or_eq_true, Bool.and_eq_true, decide_eq_true_eq, beq_iff_eq] at h
    omega
  refine dif_neg fun hletter => hrange ?_
  have hlow : (65 : UInt32).toNat ≤ c.val.toNat := UInt32.le_iff_toNat_le.1 hletter.1
  have hhigh : c.val.toNat ≤ (90 : UInt32).toNat := UInt32.le_iff_toNat_le.1 hletter.2
  exact ⟨hlow, hhigh⟩

/-- The words that switch a row off have no blanks around them. -/
theorem trimmed_of_asciiLower {word : Text} (h : word.asciiLower ∈ ["no", "false", "0"].map String.toList) :
    word.trimmed = word := by
  have hlower : ∀ w ∈ ["no", "false", "0"].map String.toList, w.any isBlank = false := by decide
  refine Text.trimmed_of_forall fun c hc => ?_
  have hletter : isBlank c.toLower = false :=
    Bool.eq_false_iff.2 (List.any_eq_false.1 (hlower _ h) _ (List.mem_map_of_mem hc))
  cases hblank : isBlank c with
  | false => rfl
  | true => rw [toLower_of_isBlank hblank, hblank] at hletter; exact hletter

section Rows

variable {rule : TableRule} {header row : List Text} {column : String} {content : Text}

theorem patternColumns_subset : ∀ column ∈ patternColumns, column ∈ ruleColumns := by decide

theorem captureColumns_subset : ∀ columns ∈ captureColumns, columns.1 ∈ ruleColumns ∧ columns.2 ∈ ruleColumns := by
  decide

/-- Without the blanks around its cells a header names no column of rules twice. -/
theorem IsRuleHeader.count_trimmed (h : IsRuleHeader header) (hcolumn : column ∈ ruleColumns) :
    (header.map Text.trimmed).count column.toList = 1 := by
  have hsame : ∀ name ∈ header, (Text.trimmed name == column.toList) = true ↔ (name == column.toList) = true := by
    intro name hname
    rw [beq_iff_eq, beq_iff_eq]
    refine ⟨h.others name hname column hcolumn, ?_⟩
    rintro rfl
    exact trimmed_of_mem_ruleColumns column hcolumn
  rw [← h.once column hcolumn, List.count_eq_countP, List.countP_map, List.count_eq_countP]
  exact List.countP_congr hsame

/-- A cell without blanks around it is read as it was written. -/
theorem IsRuleHeader.cell_eq (h : IsRuleHeader header) (hcolumn : column ∈ ruleColumns)
    (hcell : Holds header row column content) (hcontent : content.trimmed = content) :
    Csv.Table.cell (header.map Text.trimmed) (row.map Text.trimmed) column = content := by
  refine Csv.Table.cell_eq_of_mem (h.count_trimmed hcolumn).le ?_
  have hmem := List.mem_map_of_mem (f := Prod.map Text.trimmed Text.trimmed) hcell
  rw [Prod.map_apply, trimmed_of_mem_ruleColumns column hcolumn, hcontent] at hmem
  rwa [List.zip_map]

theorem nonempty?_getD {slot : Option Text} (h : ∀ content ∈ slot, content ≠ []) : (slot.getD []).nonempty? = slot := by
  cases slot with
  | none => rfl
  | some content => simp [Text.nonempty?, h content rfl]

theorem eq_some_or_of_nonempty? (t : Text) : t.nonempty? = some t ∨ t = [] ∧ t.nonempty? = none := by
  cases t with
  | nil => exact .inr ⟨rfl, rfl⟩
  | cons c t => exact .inl rfl

/-- Columns without a content do not count. -/
theorem filterMap_nonempty?_slots {slots : List (Option Text)} (h : ∀ content ∈ slots.reduceOption, content ≠ []) :
    (slots.map fun slot => slot.getD []).filterMap Text.nonempty? = slots.reduceOption := by
  rw [List.filterMap_map, List.reduceOption]
  refine List.filterMap_congr fun slot hslot => nonempty?_getD fun content hcontent => ?_
  obtain rfl := Option.mem_def.1 hcontent
  exact h content (List.reduceOption_mem_iff.2 hslot)

/-- A variable whose start is empty is none. -/
theorem nonempty?_map_capture {slot : Option (Text × Text)} (h : ∀ capture ∈ slot, capture.1 ≠ []) :
    ((slot.getD ([], [])).1.nonempty?.map fun start =>
      (⟨some start, some (slot.getD ([], [])).2⟩ : VariableDefinition)) =
      slot.map fun capture => ⟨some capture.1, some capture.2⟩ := by
  cases slot with
  | none => rfl
  | some capture => simp [Text.nonempty?, h capture rfl]

/-- What is read of a row: all cells are trimmed. -/
def readRow (header row : List Text) : RuleDefinition := .ofRow (header.map Text.trimmed) (row.map Text.trimmed)

namespace TableRule.IsRow

theorem readRow_enable (hheader : IsRuleHeader header) (h : rule.IsRow header row) :
    (readRow header row).enable = some rule.enabled := by
  obtain ⟨word, hword, hmeaning⟩ := h.enable
  have htrimmed : word.trimmed = word := by
    cases henabled : rule.enabled with
    | true =>
      rw [henabled, if_pos rfl] at hmeaning
      rw [hmeaning]
      decide
    | false =>
      rw [henabled, if_neg Bool.false_ne_true] at hmeaning
      exact trimmed_of_asciiLower hmeaning
  change some (!disablingWords.any fun name => name.toList == Text.asciiLower (Csv.Table.cell _ _ "enable")) = _
  rw [hheader.cell_eq (by decide) hword htrimmed]
  cases henabled : rule.enabled with
  | true =>
    rw [henabled, if_pos rfl] at hmeaning
    rw [hmeaning]
    decide
  | false =>
    rw [henabled, if_neg Bool.false_ne_true] at hmeaning
    obtain ⟨name, hname, heq⟩ := List.mem_map.1 hmeaning
    have hoff : (disablingWords.any fun name => name.toList == word.asciiLower) = true :=
      List.any_eq_true.2 ⟨name, hname, beq_iff_eq.2 heq⟩
    rw [hoff]
    rfl

theorem readRow_patterns (hheader : IsRuleHeader header) (h : rule.IsRow header row) :
    (readRow header row).patterns = some rule.patterns := by
  obtain ⟨slots, hslots, hcells⟩ := h.patterns
  have hread : patternColumns.map (Csv.Table.cell (header.map Text.trimmed) (row.map Text.trimmed)) =
      slots.map fun slot => slot.getD [] := by
    refine map_eq_map_of_forall₂ hcells fun column hcolumn slot hslot hholds => ?_
    refine hheader.cell_eq (patternColumns_subset _ hcolumn) hholds ?_
    cases slot with
    | none => rfl
    | some content =>
      have hcontent : content ∈ rule.patterns := hslots ▸ List.reduceOption_mem_iff.2 hslot
      exact rule.trimmed content (by simp [hcontent])
  have hne : ∀ content ∈ slots.reduceOption, content ≠ [] := hslots ▸ rule.patterns_ne_nil
  rw [← hslots, ← filterMap_nonempty?_slots hne, ← hread]
  rfl

theorem readRow_captures (hheader : IsRuleHeader header) (h : rule.IsRow header row) :
    (readRow header row).captures = rule.captures.map fun capture => ⟨some capture.1, some capture.2⟩ := by
  obtain ⟨slots, hslots, hcells⟩ := h.captures
  let cell := Csv.Table.cell (header.map Text.trimmed) (row.map Text.trimmed)
  have hread : captureColumns.map (fun columns => (cell columns.1).nonempty?.map fun start =>
        (⟨some start, some (cell columns.2)⟩ : VariableDefinition)) =
      slots.map (Option.map fun capture => ⟨some capture.1, some capture.2⟩) := by
    refine map_eq_map_of_forall₂ hcells fun columns hcolumns slot hslot hholds => ?_
    have hcapture : ∀ capture ∈ slot, capture ∈ rule.captures := by
      intro capture hcapture
      obtain rfl := Option.mem_def.1 hcapture
      exact hslots ▸ List.reduceOption_mem_iff.2 hslot
    have htrimmed : (slot.getD ([], [])).1.trimmed = (slot.getD ([], [])).1 ∧
        (slot.getD ([], [])).2.trimmed = (slot.getD ([], [])).2 := by
      cases slot with
      | none => exact ⟨rfl, rfl⟩
      | some capture =>
        have hmem := hcapture capture rfl
        exact ⟨rule.trimmed _ (by simp [List.mem_map_of_mem (f := Prod.fst) hmem]),
          rule.trimmed _ (by simp [List.mem_map_of_mem (f := Prod.snd) hmem])⟩
    have hcolumns := captureColumns_subset _ hcolumns
    simp only [cell, hheader.cell_eq hcolumns.1 hholds.1 htrimmed.1, hheader.cell_eq hcolumns.2 hholds.2 htrimmed.2]
    exact nonempty?_map_capture fun capture h => rule.captures_ne_nil capture (hcapture capture h)
  rw [← hslots, ← List.reduceOption_map, ← hread]
  rfl

/-- What is read of a row is an entry that says the same. -/
theorem isEntry (hheader : IsRuleHeader header) (h : rule.IsRow header row) : rule.IsEntry (readRow header row) where
  enable := .inl (h.readRow_enable hheader)
  group := by
    rw [readRow, RuleDefinition.ofRow, hheader.cell_eq (by decide) h.group (rule.trimmed _ (by simp))]
    exact eq_some_or_of_nonempty? rule.group
  print := by rw [readRow, RuleDefinition.ofRow, hheader.cell_eq (by decide) h.print (rule.trimmed _ (by simp))]
  duplicates := by
    rw [readRow, RuleDefinition.ofRow, hheader.cell_eq (by decide) h.duplicates (rule.trimmed _ (by simp))]
    exact eq_some_or_of_nonempty? rule.duplicates
  patterns := h.readRow_patterns hheader
  captures := h.readRow_captures hheader

end TableRule.IsRow

end Rows

/-! ## Tables are read -/

/-- Entries with places that tell their position. -/
def placed {α : Type} (place : Nat → Text) (entries : List α) (start : Nat) : List (Text × α) :=
  (entries.zipIdx start).map fun (entry, i) => (place i, entry)

/-- A table is read as entries that say its rules, each with the place of its row. -/
theorem rulesOfCsv?_of_areTable {rules : List TableRule} {t : Text} (h : TableRule.AreTable rules t) (path : Path) :
    ∃ definitions, List.Forall₂ TableRule.IsEntry rules definitions ∧
      rulesOfCsv? path t = some (placed (rowOf (path.fileName?.getD path)) definitions 0) := by
  obtain ⟨header, rows, hheader, hrows, hwritten⟩ := h
  have hne : header ≠ [] := by
    rintro rfl
    exact absurd (hheader.once "enable" (by decide)) (by simp)
  have hrepeats : Csv.Table.repeats (header.map Text.trimmed) ruleColumns = false := by
    rw [Csv.Table.repeats, List.any_eq_false]
    intro column hcolumn
    simp [hheader.count_trimmed hcolumn]
  have hlengths : ∀ row ∈ rows, row.length = header.length :=
    forall_mem_of_forall₂_right hrows fun _ _ hrow => hrow.length
  have hread := Csv.Table.read?_of_writesRecords hwritten hne hrepeats hlengths
  refine ⟨rows.map (readRow header), ?_, ?_⟩
  · exact List.forall₂_map_right_iff.2 (hrows.imp fun _ _ hrow => hrow.isEntry hheader)
  · rw [rulesOfCsv?, hread, placed]
    simp [List.zipIdx_map, readRow]

end LogDiagram
