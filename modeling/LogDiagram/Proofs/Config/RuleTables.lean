import LogDiagram.Proofs.Config.Checked
import LogDiagram.Proofs.Config.RuleRows

/-!
# Tables of rules make the same as entries

* `TableRule.IsEntry.check_eq`: entries that say the same rule are checked alike;
* `checkEntries_placed`: lists of entries that are checked alike have their first defect at the same position;
* `Config.ofDefinition_of_areTable`: a table and entries with the same rules make the same configuration, or have the
  same first defect.
-/

namespace LogDiagram

open Json

/-! ## Rows and entries are checked alike -/

/-- What a check asks of an entry. -/
theorem RuleDefinition.check_congr {d d' : RuleDefinition}
    (hgroup : d.group.bind Text.nonempty? = d'.group.bind Text.nonempty?)
    (henable : d.enable.getD true = d'.enable.getD true) (hpatterns : d.patterns = d'.patterns)
    (hprint : d.print = d'.print) (hcaptures : d.captures = d'.captures)
    (hduplicates : DuplicatePolicy.check d.duplicates = DuplicatePolicy.check d'.duplicates) : d.check = d'.check := by
  simp only [RuleDefinition.check, hgroup, henable, hpatterns, hprint, hcaptures, hduplicates]

theorem TableRule.IsEntry.check_eq {rule : TableRule} {d : RuleDefinition} (h : rule.IsEntry d) :
    d.check = rule.definition.check := by
  refine RuleDefinition.check_congr ?_ ?_ h.patterns h.print h.captures ?_
  · rcases h.group with heq | ⟨hempty, heq⟩
    · rw [heq]
      rfl
    · rw [heq]
      simp [TableRule.definition, hempty, Text.nonempty?]
  · rcases h.enable with heq | ⟨henabled, heq⟩
    · rw [heq]
      rfl
    · rw [heq]
      simp [TableRule.definition, henabled]
  · rcases h.duplicates with heq | ⟨hempty, heq⟩
    · rw [heq]
      rfl
    · rw [heq, TableRule.definition, hempty]
      rfl

/-! ## The same configuration or the same defect -/

/-- What is made of a table of rules and of entries with the same rules: one configuration, one defect of one rule with
its two places, or one error that is about no rule. -/
inductive SameButPlaces (fileName : Text) (count : Nat) : Except EntryError Config → Except EntryError Config → Prop
  | ok (config : Config) : SameButPlaces fileName count (.ok config) (.ok config)
  | rule (i : Nat) (defect : Defect) : i < count →
    SameButPlaces fileName count (.error ⟨rowOf fileName i, defect⟩) (.error ⟨entryOf "translations" i, defect⟩)
  | other (i : Nat) (error : EntryError) :
    error.location = entryOf "pairs" i ∨ error.location = entryOf "delete_lines" i →
    SameButPlaces fileName count (.error error) (.error error)

section Checks

variable {α β : Type} {check : α → Except Defect β}

/-- Entries that are checked alike are accepted alike or refused for one defect of one entry, wherever they stand. -/
theorem checkEntries_placed {entries entries' : List α}
    (h : List.Forall₂ (fun entry entry' => check entry = check entry') entries entries') (place place' : Nat → Text)
    (start : Nat) :
    (∃ results, checkEntries check (placed place entries start) = .ok results ∧
      checkEntries check (placed place' entries' start) = .ok results) ∨
    ∃ i defect, i < start + entries.length ∧
      checkEntries check (placed place entries start) = .error ⟨place i, defect⟩ ∧
      checkEntries check (placed place' entries' start) = .error ⟨place' i, defect⟩ := by
  induction h generalizing start with
  | nil => exact .inl ⟨[], rfl, rfl⟩
  | @cons entry entry' entries entries' heq _ ih =>
    have hcons : ∀ (place : Nat → Text) (entry : α) (entries : List α),
        checkEntries check (placed place (entry :: entries) start) =
          ((check entry).mapError (EntryError.mk (place start)) >>= fun result =>
            checkEntries check (placed place entries (start + 1)) >>= fun results => pure (result :: results)) :=
      fun place entry entries => List.mapM_cons
    rw [hcons, hcons, ← heq]
    cases hcheck : check entry with
    | error defect => exact .inr ⟨start, defect, by simp, rfl, rfl⟩
    | ok result =>
      rcases ih (start + 1) with ⟨results, hleft, hright⟩ | ⟨i, defect, hi, hleft, hright⟩
      · rw [hleft, hright]
        exact .inl ⟨result :: results, rfl, rfl⟩
      · rw [hleft, hright]
        exact .inr ⟨i, defect, by simp only [List.length_cons]; omega, rfl, rfl⟩

/-- An error is about an entry of the list. -/
theorem location_of_checkEntries {list : String} {entries : List α} {error : EntryError}
    (h : checkEntries check (located list entries) = .error error) : ∃ i, error.location = entryOf list i := by
  have hsame : List.Forall₂ (fun entry entry' => check entry = check entry') entries entries :=
    List.forall₂_same.2 fun _ _ => rfl
  change checkEntries check (placed (entryOf list) entries 0) = .error error at h
  rcases checkEntries_placed hsame (entryOf list) (entryOf list) 0 with ⟨results, hok, -⟩ | ⟨i, defect, -, herror, -⟩
  · rw [hok] at h
    cases h
  · rw [herror] at h
    obtain rfl := Except.error.inj h
    exact ⟨i, rfl⟩

end Checks

namespace Config

/-- What a definition makes of rules that were checked. -/
def ofRules (d : ConfigDefinition) (rules : List Rule) : Except EntryError Config := do
  let pairs ← checkEntries PairDefinition.check (located "pairs" d.pairs)
  let deletions ← LineDeletion.ofEntries d.deleteLines
  return ofChecked d rules pairs deletions

theorem ofDefinition_eq_bind (d : ConfigDefinition) (tableRules : Option (List (Text × RuleDefinition))) :
    ofDefinition d tableRules =
      (checkEntries RuleDefinition.check (tableRules.getD (located "translations" d.rules)) >>= ofRules d) := rfl

theorem location_of_ofRules {d : ConfigDefinition} {rules : List Rule} {error : EntryError}
    (h : ofRules d rules = .error error) :
    ∃ i, error.location = entryOf "pairs" i ∨ error.location = entryOf "delete_lines" i := by
  cases hpairs : checkEntries PairDefinition.check (located "pairs" d.pairs) with
  | error e =>
    rw [ofRules, hpairs] at h
    obtain rfl := Except.error.inj h
    obtain ⟨i, hi⟩ := location_of_checkEntries hpairs
    exact ⟨i, .inl hi⟩
  | ok pairs =>
    cases hdeletions : LineDeletion.ofEntries d.deleteLines with
    | error e =>
      rw [ofRules, hpairs] at h
      change (LineDeletion.ofEntries d.deleteLines >>= _) = _ at h
      rw [hdeletions] at h
      obtain rfl := Except.error.inj h
      obtain ⟨i, hi⟩ := location_of_checkEntries hdeletions
      exact ⟨i, .inr hi⟩
    | ok deletions =>
      rw [ofRules, hpairs] at h
      change (LineDeletion.ofEntries d.deleteLines >>= _) = _ at h
      rw [hdeletions] at h
      cases h

/-- Rules that are checked alike make the same of a definition, but for the places of rules. -/
theorem sameButPlaces_of_forall₂ {definitions entries : List RuleDefinition}
    (h : List.Forall₂ (fun d d' => d.check = d'.check) definitions entries) (fileName : Text) (d : ConfigDefinition) :
    SameButPlaces fileName definitions.length (ofDefinition d (some (placed (rowOf fileName) definitions 0)))
      (ofDefinition { d with rules := entries } none) := by
  rw [ofDefinition_eq_bind, ofDefinition_eq_bind]
  change SameButPlaces _ _ (checkEntries RuleDefinition.check (placed (rowOf fileName) definitions 0) >>= ofRules d)
    (checkEntries RuleDefinition.check (placed (entryOf "translations") entries 0) >>= ofRules d)
  rcases checkEntries_placed h (rowOf fileName) (entryOf "translations") 0 with
    ⟨rules, hleft, hright⟩ | ⟨i, defect, hi, hleft, hright⟩
  · rw [hleft, hright]
    change SameButPlaces _ _ (ofRules d rules) (ofRules d rules)
    cases hrest : ofRules d rules with
    | ok config => exact .ok config
    | error error =>
      obtain ⟨i, hi⟩ := location_of_ofRules hrest
      exact .other i error hi
  · rw [hleft, hright]
    exact .rule i defect (by omega)

/--
A table of rules and entries with the same rules make the same of every definition: equal configurations, or the same
error with the place of its rule in the table or in the list. Rules that a definition has besides a table do not count.
-/
theorem ofDefinition_of_areTable {rules : List TableRule} {csv json : Text} {d : ConfigDefinition}
    {entries : List RuleDefinition} (hcsv : TableRule.AreTable rules csv)
    (hentries : List.Forall₂ TableRule.IsEntry rules entries)
    (hjson : ConfigDefinition.IsWrittenAs { d with rules := entries } json) (path : Path) :
    ∃ tableRules, rulesOfCsv? path csv = some tableRules ∧
      ConfigDefinition.ofJson json = .ok { d with rules := entries } ∧
      SameButPlaces (path.fileName?.getD path) rules.length (ofDefinition d (some tableRules))
        (ofDefinition { d with rules := entries } none) := by
  obtain ⟨definitions, hdefinitions, hread⟩ := rulesOfCsv?_of_areTable hcsv path
  refine ⟨_, hread, ConfigDefinition.ofJson_eq_ok hjson, ?_⟩
  have hchecks : ∀ {ds : List RuleDefinition}, List.Forall₂ TableRule.IsEntry rules ds →
      (rules.map fun rule => rule.definition.check) = ds.map RuleDefinition.check :=
    fun h => map_eq_map_of_forall₂ h fun _ _ _ _ hentry => hentry.check_eq.symm
  have halike : List.Forall₂ (fun d d' => d.check = d'.check) definitions entries := by
    have hmap : List.Forall₂ (· = ·) (definitions.map RuleDefinition.check) (entries.map RuleDefinition.check) := by
      rw [List.forall₂_eq_eq_eq, ← hchecks hdefinitions, hchecks hentries]
    exact List.forall₂_map_left_iff.1 (List.forall₂_map_right_iff.1 hmap)
  rw [hdefinitions.length_eq]
  exact sameButPlaces_of_forall₂ halike _ d

/-- A rule with a comma, quotes and an end of a line, in the second columns of a table with a note in front of it. -/
theorem ofDefinition_of_areTable_one_rule :
    let rule : TableRule :=
      ⟨false, "a,b".toList, "\"P\"".toList, "drop".toList, ["x\ny".toList], [("s".toList, [])], by decide, by decide,
        by decide, by decide, by decide⟩
    let header : List Text := ("note" :: ruleColumns.reverse).map String.toList
    let row : List Text :=
      ["1,2", "", "", "", "s", "", "", "", "x\ny", "", "drop", "\"P\"", "a,b", "FALSE"].map String.toList
    let csv : Text := Csv.recordText header ++ ("\r\n".toList ++ Csv.recordText row)
    let json : Text := "[[[\"a,b\",false,[\"x\\ny\"],\"\\\"P\\\"\",[[\"s\",\"\"]],\"drop\"]]]\n".toList
    let d : ConfigDefinition := { ConfigDefinition.empty with rules := [RuleDefinition.empty] }
    let d' : ConfigDefinition := { d with rules := [rule.definition] }
    TableRule.AreTable [rule] csv ∧ d'.IsWrittenAs json ∧
      ∃ tableRules, rulesOfCsv? "dir/rules.csv".toList csv = some tableRules ∧ ConfigDefinition.ofJson json = .ok d' ∧
        SameButPlaces "rules.csv".toList 1 (ofDefinition d (some tableRules)) (ofDefinition d' none) := by
  intro rule header row csv json d d'
  have hrow : rule.IsRow header row := by
    refine ⟨rfl, ⟨"FALSE".toList, holds_of_getElem? 13 rfl rfl, by decide⟩, holds_of_getElem? 12 rfl rfl,
      holds_of_getElem? 11 rfl rfl, holds_of_getElem? 10 rfl rfl, ?_, ?_⟩
    · exact ⟨[none, some "x\ny".toList, none], rfl, .cons (holds_of_getElem? 9 rfl rfl)
        (.cons (holds_of_getElem? 8 rfl rfl) (.cons (holds_of_getElem? 7 rfl rfl) .nil))⟩
    · exact ⟨[none, some ("s".toList, []), none], rfl, .cons ⟨holds_of_getElem? 6 rfl rfl, holds_of_getElem? 5 rfl rfl⟩
        (.cons ⟨holds_of_getElem? 4 rfl rfl, holds_of_getElem? 3 rfl rfl⟩
          (.cons ⟨holds_of_getElem? 2 rfl rfl, holds_of_getElem? 1 rfl rfl⟩ .nil))⟩
  have hheader : IsRuleHeader header := isRuleHeader_of_trimmed (by decide) (by decide)
  have hcsv : TableRule.AreTable [rule] csv :=
    ⟨header, [row], hheader, .cons hrow .nil, .cons header (by decide) (.last row)⟩
  have hplain : ∀ t ∈ ["a,b".toList, "s".toList, "drop".toList], Spelling.text t (quote t) :=
    fun t ht => ⟨t, writesString_of_isPlain (by revert t; decide), rfl⟩
  have hpattern : Spelling.text "x\ny".toList "\"x\\ny\"".toList :=
    ⟨"x\\ny".toList, .plain (by decide) (.escape rfl (writesString_of_isPlain (t := ['y']) (by decide))), rfl⟩
  have hprint : Spelling.text "\"P\"".toList "\"\\\"P\\\"\"".toList :=
    ⟨"\\\"P\\\"".toList, .escape rfl (.plain (by decide) (.escape rfl .nil)), rfl⟩
  have hcapture : VariableDefinition.spelling ⟨some "s".toList, some []⟩ "[\"s\",\"\"]".toList :=
    @Spelling.record.array _ _ _ VariableDefinition.parts [] _ _ (enclosed_joined _ _ _) rfl nofun
      (.cons (hplain _ (by decide)) (.cons ⟨[], .nil, rfl⟩ .nil))
  have hentry : RuleDefinition.spelling rule.definition
      "[\"a,b\",false,[\"x\\ny\"],\"\\\"P\\\"\",[[\"s\",\"\"]],\"drop\"]".toList :=
    @Spelling.record.array _ _ _ RuleDefinition.parts [] _ _ (enclosed_joined _ _ _) rfl nofun
      (.cons (hplain _ (by decide)) (.cons rfl (.cons ⟨_, enclosed_joined _ _ _, .cons hpattern .nil⟩ (.cons hprint
        (.cons ⟨_, enclosed_joined _ _ _, .cons hcapture .nil⟩ (.cons (hplain _ (by decide)) .nil))))))
  have hrules : Spelling.list RuleDefinition.spelling d'.rules
      "[[\"a,b\",false,[\"x\\ny\"],\"\\\"P\\\"\",[[\"s\",\"\"]],\"drop\"]]".toList :=
    ⟨_, enclosed_joined _ _ _, .cons hentry .nil⟩
  have hjson : d'.IsWrittenAs json := by
    refine ⟨[], _, ['\n'], by decide, by decide, @Spelling.record.array _ _ _ (ConfigDefinition.parts.take 1)
      (ConfigDefinition.parts.drop 1) _ _ (enclosed_joined _ _ _) rfl ?_ (.cons hrules .nil), rfl⟩
    simp [ConfigDefinition.parts, RecordPart.of, RecordPart.also, d', d, ConfigDefinition.empty]
  exact ⟨hcsv, hjson, ofDefinition_of_areTable hcsv (.cons rule.isEntry_definition .nil) hjson "dir/rules.csv".toList⟩

end Config

end LogDiagram
