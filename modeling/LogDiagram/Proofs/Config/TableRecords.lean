import LogDiagram.Config.Csv

/-!
# The records of a text

Every text is a table of comma-separated values, also one with quotes that are not closed, with text behind closing
quotes or with rows of any lengths.

* `Csv.WritesCell`, `Csv.WritesRecord`, `Csv.HasRecords`: how cells, records and whole texts are written;
* `Csv.finish_foldl_step`: character by character those records are read that are written;
* `Csv.exists_hasRecords`: every text has records;
* `Csv.records_eq_iff`: the records that are read are those that the text has, and no others.
-/

namespace LogDiagram.Csv

/-! ## Writing -/

/-- A text in which each quote is written twice. -/
def doubled (t : Text) : Text := t.flatMap fun c => if c = '"' then ['"', '"'] else [c]

/-- A cell between quotes. -/
def quotedCell (t : Text) : Text := '"' :: (doubled t ++ ['"'])

/-- The end of a line. -/
def IsLineEnd (c : Char) : Prop := c = '\n' ∨ c = '\r'

/-- A text without commas and ends of lines that does not start with a quote. -/
structure IsPlain (t : Text) : Prop where
  inside : ∀ c ∈ t, c ≠ ',' ∧ ¬IsLineEnd c
  start : t.head? ≠ some '"'

/-- A cell as it is written: without quotes around it, or with a part between quotes in front. -/
inductive WritesCell : Text → Text → Prop
  | plain {t : Text} : IsPlain t → WritesCell t t
  | quoted (t : Text) {behind : Text} : IsPlain behind → WritesCell (t ++ behind) (quotedCell t ++ behind)

/-- A cell whose quote is not closed. -/
def WritesOpenCell (t written : Text) : Prop := written = '"' :: doubled t

/-- A record as it is written: cells with commas between them, where the last one may be written in its own way. -/
inductive WritesRecord (WritesLast : Text → Text → Prop) : List Text → Text → Prop
  | last {cell written : Text} : WritesLast cell written → WritesRecord WritesLast [cell] written
  | cons {cell written rest : Text} {cells : List Text} :
    WritesCell cell written → WritesRecord WritesLast cells rest →
      WritesRecord WritesLast (cell :: cells) (written ++ ',' :: rest)

/--
The records of a text. Each starts behind any number of ends of lines, has at least one character and ends with its
line; a cell whose quote is not closed goes on to the end of the text.
-/
inductive HasRecords : List (List Text) → Text → Prop
  | nil {blank : Text} : (∀ c ∈ blank, IsLineEnd c) → HasRecords [] blank
  | last {blank written : Text} {cells : List Text} :
    (∀ c ∈ blank, IsLineEnd c) → WritesRecord WritesCell cells written → written ≠ [] →
      HasRecords [cells] (blank ++ written)
  | openLast {blank written : Text} {cells : List Text} :
    (∀ c ∈ blank, IsLineEnd c) → WritesRecord WritesOpenCell cells written → HasRecords [cells] (blank ++ written)
  | cons {blank written t : Text} {cells : List Text} {recs : List (List Text)} {c : Char} :
    (∀ c ∈ blank, IsLineEnd c) → WritesRecord WritesCell cells written → written ≠ [] → IsLineEnd c →
      HasRecords recs t → HasRecords (cells :: recs) (blank ++ (written ++ c :: t))

/-- Empty lines do not count. -/
theorem HasRecords.blank_append {recs : List (List Text)} {t blank : Text} (hblank : ∀ c ∈ blank, IsLineEnd c)
    (h : HasRecords recs t) : HasRecords recs (blank ++ t) := by
  have hboth : ∀ {u : Text}, (∀ c ∈ u, IsLineEnd c) → ∀ c ∈ blank ++ u, IsLineEnd c := by
    intro u hu c hc
    exact (List.mem_append.1 hc).elim (hblank c) (hu c)
  cases h with
  | nil hu => exact .nil (hboth hu)
  | last hu hwritten hne =>
    rw [← List.append_assoc]
    exact .last (hboth hu) hwritten hne
  | openLast hu hwritten =>
    rw [← List.append_assoc]
    exact .openLast (hboth hu) hwritten
  | cons hu hwritten hne hend hrest =>
    rw [← List.append_assoc]
    exact .cons (hboth hu) hwritten hne hend hrest

/-! ## Reading character by character -/

variable {t written : Text} {cells : List Text} {recs : List (List Text)} {scan : Scan} {c : Char}

/-- The state of a scan before the first character of a cell. -/
def Scan.IsBeforeCell (scan : Scan) : Prop :=
  (scan.position = .recordStart ∨ scan.position = .cellStart) ∧ scan.cell = []

theorem isBeforeCell_recordStart (before : List (List Text)) : Scan.IsBeforeCell ⟨.recordStart, [], [], before⟩ :=
  ⟨.inl rfl, rfl⟩

theorem Scan.IsBeforeCell.not_quoted (h : scan.IsBeforeCell) : scan.position ≠ .quoted := by
  obtain ⟨hposition | hposition, -⟩ := h
  · simp [hposition]
  · simp [hposition]

theorem step_quote_of_isBeforeCell (h : scan.IsBeforeCell) : scan.step '"' = { scan with position := .quoted } := by
  obtain ⟨hposition | hposition, -⟩ := h
  · simp [Scan.step, hposition]
  · simp [Scan.step, hposition]

theorem foldl_step_doubled (h : scan.position = .quoted) :
    (doubled t).foldl Scan.step scan = { scan with cell := t.reverse ++ scan.cell } := by
  induction t generalizing scan with
  | nil => rfl
  | cons c t ih =>
    have hstep : (if c = '"' then ['"', '"'] else [c]).foldl Scan.step scan = scan.copy c .quoted := by
      split
      · next hc => simp [Scan.step, h, hc, Scan.copy]
      · next hc => simp [Scan.step, h, hc]
    rw [doubled, List.flatMap_cons, List.foldl_append, hstep, ← doubled, ih rfl]
    simp [Scan.copy, h]

/-- A quoted cell is taken over without its quotes. -/
theorem foldl_step_quotedCell (h : scan.IsBeforeCell) (t : Text) :
    (quotedCell t).foldl Scan.step scan = { scan with position := .afterQuote, cell := t.reverse } := by
  rw [quotedCell, List.foldl_cons, step_quote_of_isBeforeCell h, List.foldl_append, foldl_step_doubled rfl]
  simp [Scan.step, h.2]

/-- Outside quotes a comma ends a cell. -/
theorem step_comma (h : scan.position ≠ .quoted) : scan.step ',' = scan.endCell := by
  cases hposition : scan.position with
  | quoted => exact absurd hposition h
  | _ => simp [Scan.step, hposition, Scan.unquoted]

/-- Outside quotes an end of a line ends a record that has begun. -/
theorem step_of_isLineEnd (hc : IsLineEnd c) (h : scan.position ≠ .quoted) (hbegun : scan.position ≠ .recordStart) :
    scan.step c = scan.endRecord := by
  have hquote : c ≠ '"' ∧ c ≠ ',' := by rcases hc with rfl | rfl <;> decide
  cases hposition : scan.position with
  | quoted => exact absurd hposition h
  | recordStart => exact absurd hposition hbegun
  | _ => simp [Scan.step, hposition, Scan.unquoted, hquote.1, hquote.2, show c = '\n' ∨ c = '\r' from hc]

/-- In front of a record ends of lines are passed over. -/
theorem foldl_step_blank {blank : Text} (h : ∀ c ∈ blank, IsLineEnd c) (hscan : scan.position = .recordStart) :
    blank.foldl Scan.step scan = scan := by
  induction blank with
  | nil => rfl
  | cons c blank ih =>
    have hend : c = '\n' ∨ c = '\r' := h c List.mem_cons_self
    have hc : scan.step c = scan := by simp [Scan.step, hscan, hend]
    rw [List.foldl_cons, hc]
    exact ih fun d hd => h d (List.mem_cons_of_mem _ hd)

/-- Outside quotes all other characters are copied, quotes only behind another character of the cell. -/
theorem step_copy (hc : c ≠ ',' ∧ ¬IsLineEnd c) (h : scan.position ≠ .quoted)
    (hquote : c ≠ '"' ∨ scan.position = .plain) : scan.step c = scan.copy c .plain := by
  have hline : ¬(c = '\n' ∨ c = '\r') := hc.2
  cases hposition : scan.position with
  | quoted => exact absurd hposition h
  | plain => simp [Scan.step, hposition, Scan.unquoted, hc.1, hline]
  | _ =>
    have hne : c ≠ '"' := hquote.resolve_right (by simp [hposition])
    simp [Scan.step, hposition, Scan.unquoted, hc.1, hline, hne]

theorem foldl_step_plain (h : ∀ c ∈ t, c ≠ ',' ∧ ¬IsLineEnd c) (hscan : scan.position = .plain) :
    t.foldl Scan.step scan = { scan with cell := t.reverse ++ scan.cell } := by
  induction t generalizing scan with
  | nil => rfl
  | cons c t ih =>
    have hstep : scan.step c = scan.copy c .plain :=
      step_copy (h c List.mem_cons_self) (by simp [hscan]) (.inr hscan)
    rw [List.foldl_cons, hstep, ih (fun d hd => h d (List.mem_cons_of_mem _ hd)) rfl]
    simp [Scan.copy, hscan]

/-- The position behind a text that is not between quotes: it is still in front of the record only without a text. -/
def IsBehind (before : Scan) (written : Text) (position : Position) : Prop :=
  position ≠ .quoted ∧ (position = .recordStart → before.position = .recordStart ∧ written = [])

theorem foldl_step_of_isPlain (h : IsPlain t) (hscan : scan.position ≠ .quoted) :
    ∃ position, IsBehind scan t position ∧
      t.foldl Scan.step scan = { scan with position, cell := t.reverse ++ scan.cell } := by
  cases t with
  | nil => exact ⟨scan.position, ⟨hscan, fun hposition => ⟨hposition, rfl⟩⟩, rfl⟩
  | cons c t =>
    have hquote : c ≠ '"' := fun hc => h.start (by rw [hc]; rfl)
    have hstep : scan.step c = scan.copy c .plain := step_copy (h.inside c List.mem_cons_self) hscan (.inl hquote)
    refine ⟨.plain, ⟨by decide, fun hposition => absurd hposition (by decide)⟩, ?_⟩
    rw [List.foldl_cons, hstep, foldl_step_plain (fun d hd => h.inside d (List.mem_cons_of_mem _ hd)) rfl]
    simp [Scan.copy]

/-- A cell is read as what it says. -/
theorem foldl_step_of_writesCell {cell : Text} (h : WritesCell cell written) (hscan : scan.IsBeforeCell) :
    ∃ position, IsBehind scan written position ∧
      written.foldl Scan.step scan = { scan with position, cell := cell.reverse } := by
  cases h with
  | plain hplain =>
    obtain ⟨position, hposition, hfold⟩ := foldl_step_of_isPlain hplain hscan.not_quoted
    exact ⟨position, hposition, by rw [hfold, hscan.2, List.append_nil]⟩
  | @quoted t behind hplain =>
    let closed : Scan := { scan with position := .afterQuote, cell := t.reverse }
    have hclosed : closed.position = .afterQuote := rfl
    obtain ⟨position, hposition, hfold⟩ := @foldl_step_of_isPlain behind closed hplain (by simp [hclosed])
    refine ⟨position, ⟨hposition.1, fun hstart => absurd (hposition.2 hstart).1 (by simp [hclosed])⟩, ?_⟩
    rw [List.foldl_append, foldl_step_quotedCell hscan, hfold]
    simp [closed]

theorem foldl_step_of_writesOpenCell {cell : Text} (h : WritesOpenCell cell written) (hscan : scan.IsBeforeCell) :
    written.foldl Scan.step scan = { scan with position := .quoted, cell := cell.reverse } := by
  rw [h, List.foldl_cons, step_quote_of_isBeforeCell hscan, foldl_step_doubled rfl]
  simp [hscan.2]

/-- A record is read up to its last cell. The induction goes over the cells; `scan.cells` holds those in front. -/
theorem foldl_step_upTo_lastCell {WritesLast : Text → Text → Prop} (h : WritesRecord WritesLast cells written)
    (hscan : scan.IsBeforeCell) :
    ∃ (before : Scan) (last lastWritten : Text), before.IsBeforeCell ∧ WritesLast last lastWritten ∧
      written.foldl Scan.step scan = lastWritten.foldl Scan.step before ∧
      (before.position = .recordStart → scan.position = .recordStart ∧ written = lastWritten) ∧
      ∀ position, Scan.endRecord { before with position, cell := last.reverse } =
        ⟨.recordStart, [], [], (scan.cells.reverse ++ cells) :: scan.records⟩ := by
  induction h generalizing scan with
  | @last cell written hlast =>
    refine ⟨scan, cell, written, hscan, hlast, rfl, fun hstart => ⟨hstart, rfl⟩, fun position => ?_⟩
    simp [Scan.endRecord, Scan.endCell]
  | @cons cell written rest cells hcell _ ih =>
    obtain ⟨position, hposition, hfold⟩ := foldl_step_of_writesCell hcell hscan
    let behind : Scan := ⟨.cellStart, [], cell :: scan.cells, scan.records⟩
    have hcomma : Scan.step { scan with position, cell := cell.reverse } ',' = behind := by
      rw [step_comma hposition.1]
      simp [Scan.endCell, behind]
    obtain ⟨before, last, lastWritten, hbefore, hlast, hrest, hstart, hend⟩ := @ih behind ⟨.inr rfl, rfl⟩
    refine ⟨before, last, lastWritten, hbefore, hlast, ?_, ?_, ?_⟩
    · rw [List.foldl_append, hfold, List.foldl_cons, hcomma, hrest]
    · intro hbegin
      exact absurd (hstart hbegin).1 (by simp [behind])
    · intro position
      rw [hend]
      simp [behind]

/-- A record is read up to its end: the scan is no longer in front of it and not between quotes. -/
theorem foldl_step_of_writesRecord (h : WritesRecord WritesCell cells written) (hne : written ≠ [])
    (hscan : scan.IsBeforeCell) :
    ∃ scan' : Scan, written.foldl Scan.step scan = scan' ∧ scan'.position ≠ .quoted ∧
      scan'.position ≠ .recordStart ∧
      scan'.endRecord = ⟨.recordStart, [], [], (scan.cells.reverse ++ cells) :: scan.records⟩ := by
  obtain ⟨before, last, lastWritten, hbefore, hlast, hfold, hstart, hend⟩ := foldl_step_upTo_lastCell h hscan
  obtain ⟨position, hposition, hlastFold⟩ := foldl_step_of_writesCell hlast hbefore
  refine ⟨_, hfold.trans hlastFold, hposition.1, ?_, hend position⟩
  intro hbegin
  obtain ⟨hbegin, hempty⟩ := hposition.2 hbegin
  exact hne ((hstart hbegin).2.trans hempty)

/-- A record whose last quote is not closed. -/
theorem foldl_step_of_writesRecord_open (h : WritesRecord WritesOpenCell cells written) (hscan : scan.IsBeforeCell) :
    ∃ scan' : Scan, written.foldl Scan.step scan = scan' ∧ scan'.position = .quoted ∧
      scan'.endRecord = ⟨.recordStart, [], [], (scan.cells.reverse ++ cells) :: scan.records⟩ := by
  obtain ⟨before, last, lastWritten, hbefore, hlast, hfold, -, hend⟩ := foldl_step_upTo_lastCell h hscan
  exact ⟨_, hfold.trans (foldl_step_of_writesOpenCell hlast hbefore), rfl, hend .quoted⟩

theorem finish_of_begun (h : scan.position ≠ .recordStart) : scan.finish = scan.endRecord.records.reverse := by
  cases hposition : scan.position with
  | recordStart => exact absurd hposition h
  | _ => simp [Scan.finish, hposition]

/-- The records of a text are read one after the other; `before` holds those in front, last one first. -/
theorem finish_foldl_step (h : HasRecords recs t) (before : List (List Text)) :
    (t.foldl Scan.step ⟨.recordStart, [], [], before⟩).finish = before.reverse ++ recs := by
  have hscan := isBeforeCell_recordStart
  induction h generalizing before with
  | nil hblank =>
    rw [foldl_step_blank hblank rfl]
    simp [Scan.finish]
  | last hblank hwritten hne =>
    obtain ⟨scan, hfold, -, hbegun, hend⟩ := foldl_step_of_writesRecord hwritten hne (hscan before)
    rw [List.foldl_append, foldl_step_blank hblank rfl, hfold, finish_of_begun hbegun, hend]
    simp
  | openLast hblank hwritten =>
    obtain ⟨scan, hfold, hposition, hend⟩ := foldl_step_of_writesRecord_open hwritten (hscan before)
    rw [List.foldl_append, foldl_step_blank hblank rfl, hfold, finish_of_begun (by simp [hposition]), hend]
    simp
  | cons hblank hwritten hne hline _ ih =>
    obtain ⟨scan, hfold, hposition, hbegun, hend⟩ := foldl_step_of_writesRecord hwritten hne (hscan before)
    rw [List.foldl_append, foldl_step_blank hblank rfl, List.foldl_append, hfold, List.foldl_cons,
      step_of_isLineEnd hline hposition hbegun, hend, ih]
    simp

/-! ## Every text has records -/

/-- What stands behind an opening quote: up to the closing one, or all of it. -/
theorem exists_doubled (t : Text) :
    (∃ inside rest, t = doubled inside ++ '"' :: rest ∧ rest.head? ≠ some '"') ∨ ∃ inside, t = doubled inside := by
  match t with
  | [] => exact .inr ⟨[], rfl⟩
  | c :: t =>
    by_cases hc : c = '"'
    · subst hc
      by_cases hnext : t.head? = some '"'
      · -- A quote written twice stands inside, so the search goes on behind both.
        obtain ⟨u, rfl⟩ := List.head?_eq_some_iff.1 hnext
        rcases exists_doubled u with ⟨inside, rest, rfl, hrest⟩ | ⟨inside, rfl⟩
        · exact .inl ⟨'"' :: inside, rest, by simp [doubled], hrest⟩
        · exact .inr ⟨'"' :: inside, by simp [doubled]⟩
      · exact .inl ⟨[], t, rfl, hnext⟩
    · rcases exists_doubled t with ⟨inside, rest, rfl, hrest⟩ | ⟨inside, rfl⟩
      · exact .inl ⟨c :: inside, rest, by simp [doubled, hc], hrest⟩
      · exact .inr ⟨c :: inside, by simp [doubled, hc]⟩
termination_by t.length

/-- A cell ends at a comma, at the end of a line or at the end of the text. -/
def IsCellEnd (rest : Text) : Prop := ∀ c ∈ rest.head?, c = ',' ∨ IsLineEnd c

/-- A text up to the first character of some kind. -/
theorem exists_front (p : Char → Prop) (t : Text) :
    ∃ front rest, t = front ++ rest ∧ (∀ c ∈ front, ¬p c) ∧ ∀ c ∈ rest.head?, p c := by
  induction t with
  | nil => exact ⟨[], [], rfl, by simp, by simp⟩
  | cons c t ih =>
    by_cases hc : p c
    · exact ⟨[], c :: t, rfl, by simp, by simpa using hc⟩
    · obtain ⟨front, rest, rfl, hfront, hrest⟩ := ih
      exact ⟨c :: front, rest, rfl, List.forall_mem_cons.2 ⟨hc, hfront⟩, hrest⟩

theorem exists_isPlain (h : t.head? ≠ some '"') : ∃ front rest, t = front ++ rest ∧ IsPlain front ∧ IsCellEnd rest := by
  obtain ⟨front, rest, rfl, hfront, hrest⟩ := exists_front (fun c => c = ',' ∨ IsLineEnd c) t
  refine ⟨front, rest, rfl, ⟨fun c hc => not_or.1 (hfront c hc), fun hquote => h ?_⟩, hrest⟩
  rw [List.head?_append, hquote]
  rfl

/-- A cell stands at the start of every text. -/
theorem exists_writesCell (t : Text) :
    (∃ cell written rest, t = written ++ rest ∧ WritesCell cell written ∧ IsCellEnd rest) ∨
      ∃ cell, WritesOpenCell cell t := by
  by_cases hquote : t.head? = some '"'
  · obtain ⟨u, rfl⟩ := List.head?_eq_some_iff.1 hquote
    rcases exists_doubled u with ⟨inside, rest, rfl, hrest⟩ | ⟨inside, rfl⟩
    · obtain ⟨behind, rest, rfl, hbehind, hend⟩ := exists_isPlain hrest
      exact .inl ⟨inside ++ behind, _, rest, by simp [quotedCell], .quoted inside hbehind, hend⟩
    · exact .inr ⟨inside, rfl⟩
  · obtain ⟨front, rest, rfl, hfront, hend⟩ := exists_isPlain hquote
    exact .inl ⟨front, front, rest, rfl, .plain hfront, hend⟩

/-- A record stands at the start of every text. -/
theorem exists_writesRecord (t : Text) :
    (∃ cells written rest, t = written ++ rest ∧ WritesRecord WritesCell cells written ∧
      ∀ c ∈ rest.head?, IsLineEnd c) ∨ ∃ cells, WritesRecord WritesOpenCell cells t := by
  rcases exists_writesCell t with ⟨cell, written, rest, rfl, hcell, hend⟩ | ⟨cell, hcell⟩
  · by_cases hcomma : rest.head? = some ','
    · obtain ⟨u, rfl⟩ := List.head?_eq_some_iff.1 hcomma
      rcases exists_writesRecord u with ⟨cells, written', rest, rfl, hcells, hrest⟩ | ⟨cells, hcells⟩
      · exact .inl ⟨cell :: cells, written ++ ',' :: written', rest, by simp, .cons hcell hcells, hrest⟩
      · exact .inr ⟨cell :: cells, .cons hcell hcells⟩
    · refine .inl ⟨[cell], written, rest, rfl, .last hcell, fun c hc => (hend c hc).resolve_left ?_⟩
      rintro rfl
      exact hcomma hc
  · exact .inr ⟨[cell], .last hcell⟩
termination_by t.length
decreasing_by subst_vars; simp; omega

/-- Every text has records: each of them leaves a shorter text. -/
theorem exists_hasRecords (t : Text) : ∃ recs, HasRecords recs t := by
  obtain ⟨blank, u, rfl, hstart, hbegin⟩ := exists_front (fun c => ¬IsLineEnd c) t
  have hblank : ∀ c ∈ blank, IsLineEnd c := fun c hc => Classical.not_not.1 (hstart c hc)
  rcases exists_writesRecord u with ⟨cells, written, rest, rfl, hcells, hrest⟩ | ⟨cells, hcells⟩
  · cases rest with
    | nil =>
      by_cases hne : written = []
      · exact ⟨[], by simpa [hne] using HasRecords.nil hblank⟩
      · exact ⟨[cells], by simpa using HasRecords.last hblank hcells hne⟩
    | cons c rest =>
      have hline : IsLineEnd c := hrest c rfl
      have hne : written ≠ [] := by
        rintro rfl
        exact hbegin c rfl hline
      obtain ⟨recs, hrecs⟩ := exists_hasRecords rest
      exact ⟨cells :: recs, .cons hblank hcells hne hline hrecs⟩
  · exact ⟨[cells], .openLast hblank hcells⟩
termination_by t.length
decreasing_by subst_vars; simp; omega

/-- The records that are read are those that the text has, and no others. -/
theorem records_eq_iff : records t = recs ↔ HasRecords recs (withoutMark t) := by
  have hread : ∀ {recs}, HasRecords recs (withoutMark t) → records t = recs := fun h => finish_foldl_step h []
  refine ⟨?_, hread⟩
  rintro rfl
  obtain ⟨recs, hrecs⟩ := exists_hasRecords (withoutMark t)
  exact (hread hrecs).symm ▸ hrecs

end LogDiagram.Csv
