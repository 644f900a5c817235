import LogDiagram.Proofs.Config.TableRecords
import LogDiagram.Proofs.Lists.Lookup

/-!
# Tables with all cells between quotes

Between quotes a cell may hold everything: commas, quotes and ends of lines.

* `Csv.recordText`, `Csv.WritesRecords`: how records are written;
* `Csv.records_of_writesRecords`: the records of a text are those that were written;
* `Csv.Table.read?_of_writesRecords`: a table is read with its header and its rows.
-/

namespace LogDiagram.Csv

/-! ## Writing -/

/-- The cells of a record with commas between them. -/
def recordText (cells : List Text) : Text := Text.joined [','] (cells.map quotedCell)

/-- What ends a record: one end of a line or more, since empty lines do not count. -/
def IsRecordEnd (t : Text) : Prop := t ≠ [] ∧ ∀ c ∈ t, c = '\n' ∨ c = '\r'

instance (t : Text) : Decidable (IsRecordEnd t) :=
  decidable_of_iff (t ≠ [] ∧ t.all (fun c => c = '\n' ∨ c = '\r') = true) (by simp [IsRecordEnd])

/-- Records with their ends; the last record may be without. -/
inductive WritesRecords : List (List Text) → Text → Prop
  | nil : WritesRecords [] []
  | last (cells : List Text) : WritesRecords [cells] (recordText cells)
  | cons {recordEnd t : Text} {recs : List (List Text)} (cells : List Text) :
    IsRecordEnd recordEnd → WritesRecords recs t → WritesRecords (cells :: recs) (recordText cells ++ (recordEnd ++ t))

/-! ## Reading -/

variable {t : Text} {recs : List (List Text)}

theorem writesCell_quotedCell (cell : Text) : WritesCell cell (quotedCell cell) := by
  have hplain : IsPlain [] := ⟨by simp, by simp⟩
  simpa using WritesCell.quoted cell hplain

theorem writesRecord_recordText (cell : Text) (cells : List Text) :
    WritesRecord WritesCell (cell :: cells) (recordText (cell :: cells)) := by
  induction cells generalizing cell with
  | nil =>
    have htext : recordText [cell] = quotedCell cell := by simp [recordText, Text.joined]
    rw [htext]
    exact .last (writesCell_quotedCell cell)
  | cons next cells ih =>
    have htext : recordText (cell :: next :: cells) = quotedCell cell ++ ',' :: recordText (next :: cells) := by
      simp [recordText, Text.joined]
    rw [htext]
    exact .cons (writesCell_quotedCell cell) (ih next)

theorem recordText_ne_nil (cell : Text) (cells : List Text) : recordText (cell :: cells) ≠ [] := by
  cases cells with
  | nil => exact List.cons_ne_nil _ _
  | cons => exact List.cons_ne_nil _ _

/-- What is written with all cells between quotes has the records that were written. -/
theorem hasRecords_of_writesRecords (h : WritesRecords recs t) (hcells : ∀ cells ∈ recs, cells ≠ []) :
    HasRecords recs t := by
  have hnone : ∀ c ∈ ([] : Text), IsLineEnd c := by simp
  induction h with
  | nil => exact .nil hnone
  | last cells =>
    obtain ⟨cell, cells, rfl⟩ := List.exists_cons_of_ne_nil (hcells cells List.mem_cons_self)
    exact .last hnone (writesRecord_recordText cell cells) (recordText_ne_nil cell cells)
  | cons cells hrecordEnd _ ih =>
    obtain ⟨cell, cells, rfl⟩ := List.exists_cons_of_ne_nil (hcells cells List.mem_cons_self)
    obtain ⟨hne, hends⟩ := hrecordEnd
    obtain ⟨c, blank, rfl⟩ := List.exists_cons_of_ne_nil hne
    have hrest := (ih fun cells' h => hcells cells' (List.mem_cons_of_mem _ h)).blank_append
      fun d hd => hends d (List.mem_cons_of_mem _ hd)
    exact .cons hnone (writesRecord_recordText cell cells) (recordText_ne_nil cell cells)
      (hends c List.mem_cons_self) hrest

/-- Text between quotes starts with no mark of a byte order. -/
theorem withoutMark_of_writesRecords (h : WritesRecords recs t) (hcells : ∀ cells ∈ recs, cells ≠ []) :
    withoutMark t = t := by
  have hquote : ∀ cells ∈ recs, ∀ u, withoutMark (recordText cells ++ u) = recordText cells ++ u := by
    intro cells hmem u
    obtain ⟨cell, cells, rfl⟩ := List.exists_cons_of_ne_nil (hcells cells hmem)
    cases cells with
    | nil => rfl
    | cons => rfl
  cases h with
  | nil => rfl
  | last cells => simpa using hquote cells List.mem_cons_self []
  | cons cells _ _ => exact hquote cells List.mem_cons_self _

/-- What is read are the records that were written. -/
theorem records_of_writesRecords (h : WritesRecords recs t) (hcells : ∀ cells ∈ recs, cells ≠ []) :
    records t = recs := by
  rw [records_eq_iff, withoutMark_of_writesRecords h hcells]
  exact hasRecords_of_writesRecords h hcells

/-! ## Tables -/

namespace Table

variable {header : List Text} {rows : List (List Text)} {columns : List String}

/-- A table is read row by row, if its header has cells and names no column twice and all rows have its length. -/
theorem read?_of_writesRecords (h : WritesRecords (header :: rows) t) (hheader : header ≠ [])
    (hcolumns : repeats (header.map Text.trimmed) columns = false) (hrows : ∀ row ∈ rows, row.length = header.length) :
    read? columns t = some ⟨header.map Text.trimmed, rows.map fun row => row.map Text.trimmed⟩ := by
  have hcells : ∀ cells ∈ header :: rows, cells ≠ [] := by
    intro cells hmem
    rcases List.mem_cons.1 hmem with rfl | hmem
    · exact hheader
    · exact List.length_pos_iff.1 (by rw [hrows cells hmem]; exact List.length_pos_iff.2 hheader)
  have hshort : ((rows.map fun row => row.map Text.trimmed).any fun row =>
      row.length < (header.map Text.trimmed).length) = false := by
    rw [List.any_eq_false]
    intro row hrow
    obtain ⟨row, hmem, rfl⟩ := List.mem_map.1 hrow
    have hlength := hrows row hmem
    simp [hlength]
  rw [read?, records_of_writesRecords h hcells, List.map_cons]
  simp only [hcolumns, hshort, Bool.or_false, Bool.and_false, Bool.false_eq_true, if_false]

/-- The cell of a column that stands in the header once. -/
theorem cell_eq_of_mem {row : List Text} {column : String} {content : Text} (hcount : header.count column.toList ≤ 1)
    (h : (column.toList, content) ∈ header.zip row) : cell header row column = content := by
  rw [cell, lookup_zip_of_mem hcount h, Option.getD_some]

end Table

end LogDiagram.Csv
