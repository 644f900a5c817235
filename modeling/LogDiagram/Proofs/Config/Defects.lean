import LogDiagram.Proofs.Config.Checked

/-!
# The defects of a definition

What is wrong with an entry of a configuration, told from the entry alone: `RuleDefinition.defects`,
`PairDefinition.defects` and `LineDeletion.defects` list all of it, in the order in which it is reported. Beside each
stands what a sound entry means.

* `RuleDefinition.check_eq`, `PairDefinition.check_eq`, `LineDeletion.ofEntry_eq`: a check reports the first defect of
  its entry;
* `Config.ofDefinition_eq`: a definition is refused with the first defect of its first defective entry, and accepted if
  there is none.
-/

namespace LogDiagram

/-- A defect, if a condition says so. -/
def Defect.when (condition : Bool) (defect : Defect) : List Defect := if condition then [defect] else []

/-- A part that has to be there lacks. -/
def Defect.ofAbsent {α : Type} (field : String) (part : Option α) : List Defect :=
  Defect.when part.isNone (.missing field.toList)

/-- A part is there, but nothing is in it. -/
def Defect.ofEmpty {α : Type} (field : String) (part : Option (List α)) : List Defect :=
  Defect.when (part.any List.isEmpty) (.missing field.toList)

/-! ## Rules -/

/-- What may be wrong with a variable. -/
def VariableDefinition.defects (d : VariableDefinition) : List Defect :=
  Defect.ofAbsent "variables.startswith" d.startsWith ++ Defect.ofAbsent "variables.endswith" d.endsWith

/-- A variable without defects. -/
def VariableDefinition.variable (d : VariableDefinition) : VariableSpec := ⟨d.startsWith.getD [], d.endsWith.getD []⟩

/-- The names of policies for repeated lines. -/
def DuplicatePolicy.tags : List Text :=
  ["", "none", "allowed", "remove_all", "remove", "remove_continuous", "count", "count_continuous"].map String.toList

/-- What may be wrong with the name of a policy: without the blanks around it, it is not known. -/
def DuplicatePolicy.defects : Option Text → List Defect
  | none => []
  | some tag => Defect.when (tag.trimmed ∉ tags) (.unknownDuplicates tag)

/-- What may be wrong with a rule; it does not matter whether the rule is switched off. -/
def RuleDefinition.defects (d : RuleDefinition) : List Defect :=
  Defect.ofAbsent "patterns" d.patterns ++ Defect.ofAbsent "print" d.print ++
    d.captures.flatMap VariableDefinition.defects ++ DuplicatePolicy.defects d.duplicates ++
    Defect.ofEmpty "patterns" d.patterns ++ Defect.ofEmpty "print" d.print

/-- A rule without defects. -/
def RuleDefinition.rule (d : RuleDefinition) : Rule where
  group := d.group.bind Text.nonempty?
  enabled := d.enable.getD true
  patterns := d.patterns.getD []
  captures := d.captures.map VariableDefinition.variable
  template := d.print.getD []
  duplicates := (d.duplicates.bind DuplicatePolicy.ofTag?).getD .keep

theorem required_eq {α : Type} (field : String) (part : Option α) (default : α) :
    required field part = refuseFirst (Defect.ofAbsent field part) (part.getD default) := by
  cases part <;> rfl

/-- Of a part that is there only its content counts. -/
theorem Defect.ofEmpty_eq {α : Type} {field : String} {part : Option (List α)} (h : ofAbsent field part = []) :
    ofEmpty field part = when (part.getD []).isEmpty (.missing field.toList) := by
  cases part with
  | none => cases h
  | some content => rfl

theorem VariableDefinition.check_eq (d : VariableDefinition) : d.check = refuseFirst d.defects d.variable := by
  rw [check, required_eq "variables.startswith" d.startsWith []]
  refine bind_refuseFirst fun _ => ?_
  rw [required_eq "variables.endswith" d.endsWith []]
  exact bind_pure_refuseFirst _ _ _

/-- Exactly the names of the list are known. -/
theorem DuplicatePolicy.ofTag?_eq_none_iff {tag : Text} : ofTag? tag = none ↔ tag.trimmed ∉ tags := by
  rw [ofTag?]
  have hmem : tag.trimmed ∈ tags ↔ String.ofList tag.trimmed ∈
      ["", "none", "allowed", "remove_all", "remove", "remove_continuous", "count", "count_continuous"] := by
    rw [tags, List.mem_map]
    constructor
    · rintro ⟨name, hname, heq⟩
      rw [← heq, String.ofList_toList]
      exact hname
    · exact fun h => ⟨_, h, String.toList_ofList⟩
  rw [hmem]
  split <;> simp_all

theorem DuplicatePolicy.check_eq (tag : Option Text) :
    DuplicatePolicy.check tag = refuseFirst (defects tag) ((tag.bind ofTag?).getD .keep) := by
  cases tag with
  | none => rfl
  | some tag =>
    rw [check, defects, Option.bind_some]
    cases hpolicy : ofTag? tag with
    | none => simp only [Defect.when, ofTag?_eq_none_iff.1 hpolicy, not_false_eq_true, decide_true, if_true]; rfl
    | some policy =>
      have hknown : tag.trimmed ∈ tags := by
        by_contra hunknown
        rw [ofTag?_eq_none_iff.2 hunknown] at hpolicy
        cases hpolicy
      simp only [Defect.when, hknown, not_true_eq_false, decide_false, Bool.false_eq_true, if_false]
      rfl

/-- The last check of an entry asks for two parts that must not be empty. -/
theorem complete_eq {α : Type} {first second : String} {isFirst isSecond : Bool} (entry : α) :
    complete (if isFirst then some first.toList else if isSecond then some second.toList else none) entry =
      refuseFirst (Defect.when isFirst (.missing first.toList) ++ Defect.when isSecond (.missing second.toList))
        entry := by
  cases isFirst <;> cases isSecond <;> rfl

/-- A rule is refused with its first defect. -/
theorem RuleDefinition.check_eq (d : RuleDefinition) : d.check = refuseFirst d.defects d.rule := by
  rw [check, defects, required_eq "patterns" d.patterns []]
  simp only [List.append_assoc]
  refine bind_refuseFirst fun hpatterns => ?_
  rw [required_eq "print" d.print []]
  refine bind_refuseFirst fun hprint => ?_
  rw [mapM_refuseFirst VariableDefinition.check_eq]
  refine bind_refuseFirst fun _ => ?_
  rw [DuplicatePolicy.check_eq]
  refine bind_refuseFirst fun _ => ?_
  rw [Defect.ofEmpty_eq hpatterns, Defect.ofEmpty_eq hprint]
  exact complete_eq d.rule

/-! ## Pairs -/

/-- What may be wrong with a pair. -/
def PairDefinition.defects (d : PairDefinition) : List Defect :=
  Defect.ofAbsent "source" d.source ++ Defect.ofAbsent "pairswith" d.pairsWith ++ Defect.ofAbsent "error" d.error ++
    Defect.ofEmpty "source" d.source ++ Defect.ofEmpty "pairswith" d.pairsWith

/-- A pair without defects. -/
def PairDefinition.pair (d : PairDefinition) : PairSpec where
  source := d.source.getD []
  pairsWith := d.pairsWith.getD []
  before := (d.before.bind Text.nonempty?).getD (d.source.getD [])
  error := d.error.getD []

/-- A pair is refused with its first defect. -/
theorem PairDefinition.check_eq (d : PairDefinition) : d.check = refuseFirst d.defects d.pair := by
  rw [check, defects, required_eq "source" d.source []]
  simp only [List.append_assoc]
  refine bind_refuseFirst fun hsource => ?_
  rw [required_eq "pairswith" d.pairsWith []]
  refine bind_refuseFirst fun hpairsWith => ?_
  rw [required_eq "error" d.error []]
  refine bind_refuseFirst fun _ => ?_
  rw [Defect.ofEmpty_eq hsource, Defect.ofEmpty_eq hpairsWith]
  exact complete_eq d.pair

/-! ## Deletions -/

namespace LineDeletion

/-- The entry is to be read as a regular expression. -/
def isRegex (entry : Text) : Bool := entry.any regexMarks.contains

/-- What may be wrong with an entry that names lines to be deleted. -/
def defects (entry : Text) : List Defect :=
  Defect.when (isRegex entry && entry.utf8Size > regexLimit) (.regexTooLong entry.utf8Size regexLimit) ++
    Defect.when (isRegex entry && (Regex.parse? entry).isNone) (.invalidRegex entry)

/-- The deletion of an entry without defects. -/
def named (entry : Text) : LineDeletion :=
  match isRegex entry, Regex.parse? entry with
  | true, some r => regex entry r
  | _, _ => literal entry

/-- A deletion is refused with its first defect. -/
theorem ofEntry_eq (entry : Text) : ofEntry entry = refuseFirst (defects entry) (named entry) := by
  rw [ofEntry, ← isRegex, defects, named]
  cases hregex : isRegex entry with
  | false => simp [Defect.when, refuseFirst]
  | true =>
    by_cases hlong : entry.utf8Size > regexLimit
    · simp [Defect.when, refuseFirst, hlong]
    · cases hparse : Regex.parse? entry <;> simp [Defect.when, refuseFirst, hlong]

end LineDeletion

/-! ## Configurations -/

/-- The defects of entries, each with the place of its entry. -/
def defectsOf {α : Type} (defects : α → List Defect) (entries : List (Text × α)) : List EntryError :=
  entries.flatMap fun (location, entry) => (defects entry).map (EntryError.mk location)

/-- A list of entries is refused with the first defect of the first defective entry. -/
theorem checkEntries_eq {α β : Type} {check : α → Except Defect β} {defects : α → List Defect} {value : α → β}
    (h : ∀ entry, check entry = refuseFirst (defects entry) (value entry)) (entries : List (Text × α)) :
    checkEntries check entries = refuseFirst (defectsOf defects entries) (entries.map fun entry => value entry.2) := by
  refine mapM_refuseFirst (fun (location, entry) => ?_) entries
  simp only [h entry, mapError_refuseFirst]

theorem map_located {α β : Type} (list : String) (f : α → β) (entries : List α) :
    ((located list entries).map fun entry => f entry.2) = entries.map f := by
  rw [located, List.map_map, ← List.zipIdx_map_fst 0 entries, List.map_map, List.zipIdx_map_fst]
  rfl

namespace ConfigDefinition

/-- The rules of a definition with their places: those of a table, if there is one, and none of its own then. -/
def ruleEntries (d : ConfigDefinition) (tableRules : Option (List (Text × RuleDefinition))) :
    List (Text × RuleDefinition) :=
  tableRules.getD (located "translations" d.rules)

/-- All defects of a definition: those of the rules, then those of the pairs, then those of the deletions. -/
def defects (d : ConfigDefinition) (tableRules : Option (List (Text × RuleDefinition))) : List EntryError :=
  defectsOf RuleDefinition.defects (d.ruleEntries tableRules) ++
    defectsOf PairDefinition.defects (located "pairs" d.pairs) ++
    defectsOf LineDeletion.defects (located "delete_lines" d.deleteLines)

end ConfigDefinition

namespace Config

/-- The configuration of a definition without defects: each entry makes one rule, pair or deletion, in order. -/
def ofSound (d : ConfigDefinition) (tableRules : Option (List (Text × RuleDefinition))) : Config :=
  ofChecked d ((d.ruleEntries tableRules).map fun entry => entry.2.rule) (d.pairs.map PairDefinition.pair)
    (d.deleteLines.map LineDeletion.named)

variable (d : ConfigDefinition) (tableRules : Option (List (Text × RuleDefinition)))

/-- A definition is refused with its first defect. -/
theorem ofDefinition_eq : ofDefinition d tableRules = refuseFirst (d.defects tableRules) (ofSound d tableRules) := by
  rw [ofDefinition, ConfigDefinition.defects, checkEntries_eq RuleDefinition.check_eq]
  simp only [List.append_assoc]
  refine bind_refuseFirst fun _ => ?_
  rw [checkEntries_eq PairDefinition.check_eq, map_located]
  refine bind_refuseFirst fun _ => ?_
  rw [LineDeletion.ofEntries, checkEntries_eq LineDeletion.ofEntry_eq, map_located]
  exact bind_pure_refuseFirst _ _ _

/--
A definition is accepted exactly if none of its entries has a defect; otherwise the first defect of the first defective
entry is reported with the place of that entry. An accepted definition makes one rule, one pair and one deletion of
each entry, in their order.
-/
theorem ofDefinition_reports_first_defect :
    ((∃ config, ofDefinition d tableRules = .ok config) ↔ d.defects tableRules = []) ∧
      (∀ error, ofDefinition d tableRules = .error error ↔ (d.defects tableRules).head? = some error) ∧
      ∀ config, ofDefinition d tableRules = .ok config ↔ d.defects tableRules = [] ∧
        config = ofChecked d ((d.ruleEntries tableRules).map fun entry => entry.2.rule)
          (d.pairs.map PairDefinition.pair) (d.deleteLines.map LineDeletion.named) := by
  rw [ofDefinition_eq]
  refine ⟨?_, fun _ => refuseFirst_eq_error_iff, fun _ => refuseFirst_eq_ok_iff⟩
  simp only [refuseFirst_eq_ok_iff, exists_and_left, exists_eq, and_true]

/-- The unknown policy of a rule that is switched off comes before its empty pattern list and before other entries. -/
example :
    let sound : RuleDefinition := ⟨none, none, some [['a']], some ['P'], [], none⟩
    let faulty : RuleDefinition := ⟨none, some false, some [], some ['P'], [⟨some [], some []⟩], some " drop ".toList⟩
    let d := { ConfigDefinition.empty with
      rules := [sound, faulty, { sound with print := none }], pairs := [⟨none, none, none, none⟩], deleteLines := [['*']] }
    ofDefinition d none = .error ⟨"translations[1]".toList, .unknownDuplicates " drop ".toList⟩ := by
  decide

end Config

end LogDiagram
