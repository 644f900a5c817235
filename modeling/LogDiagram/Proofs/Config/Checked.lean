import Mathlib.Data.List.Forall2
import LogDiagram.Config.Basic
import LogDiagram.Proofs.Results

/-!
# What a checked configuration depends on

* `checkEntries_eq_ok_iff`: a list of entries is accepted entry by entry, wherever the entries come from;
* `Config.ofDefinition_eq_ok_iff`: a configuration is made of its checked rules, pairs and deletions;
* `Config.ofDefinition_backupFile`: where the log is kept plays no part in the checks.
-/

namespace LogDiagram

/-- A list of entries is accepted if each entry is. -/
theorem checkEntries_eq_ok_iff {α β : Type} {check : α → Except Defect β} {entries : List (Text × α)}
    {results : List β} :
    checkEntries check entries = .ok results ↔
      List.Forall₂ (fun entry result => check entry.2 = .ok result) entries results := by
  induction entries generalizing results with
  | nil => exact ⟨fun h => Except.ok.inj h ▸ .nil, fun h => by cases h; rfl⟩
  | cons entry rest ih =>
    obtain ⟨location, value⟩ := entry
    rw [checkEntries, List.mapM_cons, bind_eq_ok_iff]
    constructor
    · rintro ⟨first, hfirst, hrest⟩
      obtain ⟨others, hothers, heq⟩ := bind_eq_ok_iff.1 hrest
      obtain rfl := Except.ok.inj heq
      exact .cons (mapError_eq_ok_iff.1 hfirst) (ih.1 hothers)
    · rintro (_ | ⟨hfirst, hrest⟩)
      exact ⟨_, mapError_eq_ok_iff.2 hfirst, bind_eq_ok_iff.2 ⟨_, ih.2 hrest, rfl⟩⟩

/-- The places of entries do not matter if all of them are accepted. -/
theorem checkEntries_of_map_snd_eq {α β : Type} {check : α → Except Defect β} {entries entries' : List (Text × α)}
    {results : List β} (heq : entries'.map (·.2) = entries.map (·.2)) (h : checkEntries check entries = .ok results) :
    checkEntries check entries' = .ok results := by
  have hvalues : List.Forall₂ (fun value result => check value = .ok result) (entries.map (·.2)) results :=
    List.forall₂_map_left_iff.2 (checkEntries_eq_ok_iff.1 h)
  rw [← heq] at hvalues
  exact checkEntries_eq_ok_iff.2 (List.forall₂_map_left_iff.1 hvalues)

/-- The path of a table of rules plays a part in the places of its rules only. -/
theorem map_snd_rulesOfCsv? (path path' : Path) (t : Text) :
    (rulesOfCsv? path' t).map (·.map (·.2)) = (rulesOfCsv? path t).map (·.map (·.2)) := by
  simp only [rulesOfCsv?, Option.map_map]
  congr 1
  funext table
  simp [Function.comp_def]

namespace Config

/-- The configuration of a definition with its checked parts. -/
def ofChecked (d : ConfigDefinition) (rules : List Rule) (pairs : List PairSpec) (deletions : List LineDeletion) :
    Config where
  rules
  blacklist := d.blacklist
  replacements := d.replaceWords.map fun (search, replace) => { search, replace }
  pairs
  deletions
  disabledGroups := d.disableGroup
  wrapTextPre := d.wrapTextPre
  wrapTextPost := d.wrapTextPost
  autoNewLine := d.autoNewLine.getD true
  documentFile := (d.documentFile.bind Text.nonempty?).getD defaultDocumentFile
  backupFile := d.backupFile.bind Text.nonempty?
  execute := d.execute

variable {d : ConfigDefinition} {tableRules tableRules' : Option (List (Text × RuleDefinition))} {config : Config}

theorem ofDefinition_eq_ok_iff :
    ofDefinition d tableRules = .ok config ↔
      ∃ rules pairs deletions,
        checkEntries RuleDefinition.check (tableRules.getD (located "translations" d.rules)) = .ok rules ∧
          checkEntries PairDefinition.check (located "pairs" d.pairs) = .ok pairs ∧
          LineDeletion.ofEntries d.deleteLines = .ok deletions ∧ config = ofChecked d rules pairs deletions := by
  rw [ofDefinition, bind_eq_ok_iff]
  constructor
  · rintro ⟨rules, hrules, h⟩
    obtain ⟨pairs, hpairs, h⟩ := bind_eq_ok_iff.1 h
    obtain ⟨deletions, hdeletions, h⟩ := bind_eq_ok_iff.1 h
    exact ⟨rules, pairs, deletions, hrules, hpairs, hdeletions, (Except.ok.inj h).symm⟩
  · rintro ⟨rules, pairs, deletions, hrules, hpairs, hdeletions, rfl⟩
    exact ⟨rules, hrules, bind_eq_ok_iff.2 ⟨pairs, hpairs, bind_eq_ok_iff.2 ⟨deletions, hdeletions, rfl⟩⟩⟩

/-- The places of the rules of a table do not matter if the configuration is accepted. -/
theorem ofDefinition_of_map_snd_eq (heq : tableRules'.map (·.map (·.2)) = tableRules.map (·.map (·.2)))
    (h : ofDefinition d tableRules = .ok config) : ofDefinition d tableRules' = .ok config := by
  rw [ofDefinition_eq_ok_iff] at h ⊢
  obtain ⟨rules, pairs, deletions, hrules, hrest⟩ := h
  refine ⟨rules, pairs, deletions, checkEntries_of_map_snd_eq ?_ hrules, hrest⟩
  cases tableRules with
  | none =>
    rw [Option.map_none, Option.map_eq_none_iff] at heq
    rw [heq]
  | some rules =>
    obtain ⟨rules', rfl, hrules'⟩ := Option.map_eq_some_iff.1 heq
    exact hrules'

/-- Where the log is kept plays no part in the checks. -/
theorem ofDefinition_backupFile (backupFile : Option Text) (h : ofDefinition d tableRules = .ok config) :
    ofDefinition { d with backupFile } tableRules =
      .ok { config with backupFile := backupFile.bind Text.nonempty? } := by
  rw [ofDefinition_eq_ok_iff] at h ⊢
  obtain ⟨rules, pairs, deletions, hrules, hpairs, hdeletions, rfl⟩ := h
  exact ⟨rules, pairs, deletions, hrules, hpairs, hdeletions, rfl⟩

end Config

end LogDiagram
