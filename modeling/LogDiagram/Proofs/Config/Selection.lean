import LogDiagram.Config.Selection
import LogDiagram.Proofs.Config.Checked
import LogDiagram.Proofs.Lists.InStep
import LogDiagram.Proofs.Text.Pieces

/-!
# Which rules a run works with

* `RuleSet.ofParts_eq_ok`: rules and pairs that lack no part make a rule set;
* `Config.forall_rules`, `Config.forall_pairs`: no rule and no pair of a checked configuration lacks a part;
* `GroupSelection.IsNamedIn`, `GroupSelection.Selects`: the groups that a list with commas names, and the rules that two
  such lists select;
* `Config.ruleSet_ofLists`: a checked configuration makes a rule set of every selection, with exactly the selected rules.
-/

namespace LogDiagram

/-! ## Complete entries -/

theorem firstMissing?_eq_none {α : Type} {list : String} {missing? : α → Option Text} {entries : List α}
    (h : ∀ entry ∈ entries, missing? entry = none) : RuleSet.firstMissing? list missing? entries = none := by
  rw [RuleSet.firstMissing?, List.findSome?_eq_none_iff]
  rintro ⟨entry, i⟩ hmem
  simp only [h entry (List.fst_mem_of_mem_zipIdx hmem), Option.map_none]

/-- Rules and pairs that lack no part make a rule set. -/
theorem RuleSet.ofParts_eq_ok {rules : List Rule} {pairs : List PairSpec}
    (hrules : ∀ rule ∈ rules, rule.missingField? = none) (hpairs : ∀ pair ∈ pairs, pair.missingField? = none)
    (blacklist : List Text) (replacements : List Replacement) :
    ofParts rules blacklist replacements pairs = .ok { rules, blacklist, replacements, pairs } := by
  rw [ofParts, firstMissing?_eq_none hrules]
  simp only [firstMissing?_eq_none hpairs]

theorem complete_eq_ok {α : Type} {missing : Option Text} {entry result : α} (h : complete missing entry = .ok result) :
    missing = none ∧ result = entry := by
  cases missing with
  | some field => cases h
  | none => exact ⟨rfl, (Except.ok.inj h).symm⟩

/-- A rule that was checked lacks no part. -/
theorem RuleDefinition.missingField?_of_check {d : RuleDefinition} {rule : Rule} (h : d.check = .ok rule) :
    rule.missingField? = none := by
  obtain ⟨patterns, -, h⟩ := bind_eq_ok_iff.1 h
  obtain ⟨template, -, h⟩ := bind_eq_ok_iff.1 h
  obtain ⟨captures, -, h⟩ := bind_eq_ok_iff.1 h
  obtain ⟨duplicates, -, h⟩ := bind_eq_ok_iff.1 h
  obtain ⟨hnone, rfl⟩ := complete_eq_ok h
  exact hnone

/-- A pair that was checked lacks no part. -/
theorem PairDefinition.missingField?_of_check {d : PairDefinition} {pair : PairSpec} (h : d.check = .ok pair) :
    pair.missingField? = none := by
  obtain ⟨source, -, h⟩ := bind_eq_ok_iff.1 h
  obtain ⟨pairsWith, -, h⟩ := bind_eq_ok_iff.1 h
  obtain ⟨error, -, h⟩ := bind_eq_ok_iff.1 h
  obtain ⟨hnone, rfl⟩ := complete_eq_ok h
  exact hnone

namespace Config

variable {d : ConfigDefinition} {tableRules : Option (List (Text × RuleDefinition))} {config : Config}

theorem forall_rules (h : ofDefinition d tableRules = .ok config) : ∀ rule ∈ config.rules, rule.missingField? = none := by
  obtain ⟨rules, pairs, deletions, hrules, -, -, rfl⟩ := ofDefinition_eq_ok_iff.1 h
  exact forall_mem_of_forall₂_right (checkEntries_eq_ok_iff.1 hrules) fun _ _ =>
    RuleDefinition.missingField?_of_check

theorem forall_pairs (h : ofDefinition d tableRules = .ok config) : ∀ pair ∈ config.pairs, pair.missingField? = none := by
  obtain ⟨rules, pairs, deletions, -, hpairs, -, rfl⟩ := ofDefinition_eq_ok_iff.1 h
  exact forall_mem_of_forall₂_right (checkEntries_eq_ok_iff.1 hpairs) fun _ _ =>
    PairDefinition.missingField?_of_check

end Config

/-! ## Lists with commas -/

namespace GroupSelection

variable {list list' enable disable : Option Text} {name : Text} {disabledGroups : List Text} {rule : Rule}

/-- The name stands in a list with commas: it is not empty, and with blanks around it, it is a piece of the list. -/
def IsNamedIn (list : Option Text) (name : Text) : Prop :=
  name ≠ [] ∧ ∃ t ∈ list, ∃ piece, Text.IsPiece ',' t piece ∧ Text.IsCore piece name

theorem mem_namesIn_iff : name ∈ namesIn list ↔ IsNamedIn list name := by
  cases list with
  | none => simp [namesIn, IsNamedIn]
  | some t =>
    have hmem : name ∈ namesIn (some t) ↔ (∃ piece ∈ Text.splitAtChar ',' t, piece.trimmed = name) ∧ name ≠ [] := by
      simp [namesIn, List.mem_filter]
    rw [hmem, IsNamedIn, and_comm]
    simp only [Text.mem_splitAtChar_iff, Text.trimmed_eq_iff, Option.mem_def, Option.some.injEq, exists_eq_left']

/-- The lists name the same groups. -/
def SameNames (list list' : Option Text) : Prop := ∀ name, IsNamedIn list name ↔ IsNamedIn list' name

theorem namesIn_isEmpty_iff : (namesIn list).isEmpty = true ↔ ∀ name, ¬IsNamedIn list name := by
  rw [List.isEmpty_iff, List.eq_nil_iff_forall_not_mem]
  simp only [mem_namesIn_iff]

/-- Of a list that is put together from pieces, the names are the pieces without the blanks around them. -/
theorem isNamedIn_joined_iff {pieces : List Text} (hcomma : ∀ piece ∈ pieces, ',' ∉ piece) :
    IsNamedIn (some (Text.joined [','] pieces)) name ↔ name ≠ [] ∧ ∃ piece ∈ pieces, Text.IsCore piece name := by
  have hunfold : IsNamedIn (some (Text.joined [','] pieces)) name ↔
      name ≠ [] ∧ ∃ piece ∈ Text.splitAtChar ',' (Text.joined [','] pieces), Text.IsCore piece name := by
    simp only [IsNamedIn, Option.mem_def, Option.some.injEq, exists_eq_left', Text.mem_splitAtChar_iff]
  rw [hunfold]
  by_cases hne : pieces = []
  · -- the only piece of an empty text has no name as its core
    subst hne
    have hempty : ∀ piece ∈ Text.splitAtChar ',' (Text.joined [','] []), Text.IsCore piece name → name = [] := by
      rintro piece hpiece ⟨-, -, l, r, hcore, -⟩
      obtain rfl : piece = [] := List.mem_singleton.1 hpiece
      simp only [List.nil_eq, List.append_eq_nil_iff] at hcore
      exact hcore.2.1
    constructor
    · rintro ⟨hname, piece, hpiece, hcore⟩
      exact absurd (hempty piece hpiece hcore) hname
    · rintro ⟨-, piece, hpiece, -⟩
      cases hpiece
  · rw [Text.splitAtChar_joined hcomma hne]

/-- A piece with a name is not blank. -/
theorem isAllBlank_eq_false_of_isCore {piece : Text} (h : Text.IsCore piece name) (hname : name ≠ []) :
    piece.isAllBlank = false := by
  obtain ⟨hhead, -, l, r, rfl, -⟩ := h
  obtain ⟨c, rest, rfl⟩ := List.exists_cons_of_ne_nil hname
  rw [Text.isAllBlank, List.all_eq_false]
  exact ⟨c, by simp, by rw [hhead c rfl]; exact Bool.false_ne_true⟩

/-- Lists with the same pieces name the same groups, in whatever order and number the pieces stand; those that are blank
do not count. -/
theorem sameNames_joined {pieces pieces' : List Text} (hcomma : ∀ piece ∈ pieces ++ pieces', ',' ∉ piece)
    (hsame : ∀ piece, piece.isAllBlank = false → (piece ∈ pieces ↔ piece ∈ pieces')) :
    SameNames (some (Text.joined [','] pieces)) (some (Text.joined [','] pieces')) := by
  intro name
  rw [isNamedIn_joined_iff fun piece hmem => hcomma piece (List.mem_append_left _ hmem),
    isNamedIn_joined_iff fun piece hmem => hcomma piece (List.mem_append_right _ hmem)]
  refine and_congr_right fun hname => exists_congr fun piece => and_congr_left fun hcore => ?_
  exact hsame piece (isAllBlank_eq_false_of_isCore hcore hname)

/-! ## Selected rules -/

/--
The rule is selected by what is named to be switched on and off. If no group is named at all, the rules that are switched
on apply, except those of groups that the configuration disables.
-/
inductive Selects (enable disable : Option Text) (disabledGroups : List Text) (rule : Rule) : Prop
  | switchedOn (group : Text) : rule.group = some group → IsNamedIn enable group →
    Selects enable disable disabledGroups rule
  | notSwitchedOff (name : Text) : (∀ name, ¬IsNamedIn enable name) → IsNamedIn disable name →
    (∀ group ∈ rule.group, ¬IsNamedIn disable group) → Selects enable disable disabledGroups rule
  | byDefault : (∀ name, ¬IsNamedIn enable name) → (∀ name, ¬IsNamedIn disable name) → rule.enabled = true →
    (∀ group ∈ rule.group, group ∉ disabledGroups) → Selects enable disable disabledGroups rule

theorem isIn_iff {groups : List Text} : isIn rule groups = true ↔ ∃ group, rule.group = some group ∧ group ∈ groups := by
  simp [isIn, Option.any_eq_true]

theorem isIn_eq_false_iff {groups : List Text} : isIn rule groups = false ↔ ∀ group ∈ rule.group, group ∉ groups := by
  rw [← Bool.not_eq_true, isIn_iff]
  simp

/-- Exactly the selected rules are included. -/
theorem includes_iff : (ofLists enable disable).includes disabledGroups rule = true ↔
    Selects enable disable disabledGroups rule := by
  rw [includes, ofLists]
  constructor
  · intro h
    split at h
    · obtain ⟨group, hgroup, hnamed⟩ := isIn_iff.1 h
      exact .switchedOn group hgroup (mem_namesIn_iff.1 hnamed)
    · next henable =>
      rw [Bool.not_eq_true, Bool.not_eq_false', namesIn_isEmpty_iff] at henable
      split at h
      · next hdisable =>
        rw [Bool.not_eq_true', Bool.eq_false_iff, Ne, namesIn_isEmpty_iff, not_forall_not] at hdisable
        obtain ⟨name, hname⟩ := hdisable
        rw [Bool.not_eq_true', isIn_eq_false_iff] at h
        exact .notSwitchedOff name henable hname fun group hgroup hnamed => h group hgroup (mem_namesIn_iff.2 hnamed)
      · next hdisable =>
        rw [Bool.not_eq_true, Bool.not_eq_false', namesIn_isEmpty_iff] at hdisable
        rw [Bool.and_eq_true, Bool.not_eq_true', isIn_eq_false_iff] at h
        exact .byDefault henable hdisable h.1 h.2
  · intro h
    cases h with
    | switchedOn group hgroup hnamed =>
      have henable : (namesIn enable).isEmpty = false := by
        rw [Bool.eq_false_iff, Ne, namesIn_isEmpty_iff]
        exact fun hno => hno group hnamed
      simp only [henable, Bool.not_false, if_true]
      exact isIn_iff.2 ⟨group, hgroup, mem_namesIn_iff.2 hnamed⟩
    | notSwitchedOff name henable hname hgroup =>
      have hdisable : (namesIn disable).isEmpty = false := by
        rw [Bool.eq_false_iff, Ne, namesIn_isEmpty_iff]
        exact fun hno => hno name hname
      simp only [namesIn_isEmpty_iff.2 henable, hdisable, Bool.not_true, Bool.not_false, Bool.false_eq_true, if_false,
        if_true, Bool.not_eq_true']
      exact isIn_eq_false_iff.2 fun group hmem hnamed => hgroup group hmem (mem_namesIn_iff.1 hnamed)
    | byDefault henable hdisable henabled hgroup =>
      simp only [namesIn_isEmpty_iff.2 henable, namesIn_isEmpty_iff.2 hdisable, Bool.not_true, Bool.false_eq_true,
        if_false, henabled, Bool.true_and, Bool.not_eq_true']
      exact isIn_eq_false_iff.2 hgroup

instance (enable disable : Option Text) (disabledGroups : List Text) (rule : Rule) :
    Decidable (Selects enable disable disabledGroups rule) :=
  decidable_of_iff _ includes_iff

/-- Only the named groups matter. -/
theorem selects_congr {enable' disable' : Option Text} (henable : SameNames enable enable')
    (hdisable : SameNames disable disable') :
    Selects enable disable disabledGroups rule ↔ Selects enable' disable' disabledGroups rule := by
  have hmono : ∀ {e e' d d' : Option Text}, SameNames e e' → SameNames d d' →
      Selects e d disabledGroups rule → Selects e' d' disabledGroups rule := by
    intro e e' d d' he hd h
    cases h with
    | switchedOn group hgroup hnamed => exact .switchedOn group hgroup ((he group).1 hnamed)
    | notSwitchedOff name hno hname hgroup =>
      exact .notSwitchedOff name (fun other h => hno other ((he other).2 h)) ((hd name).1 hname)
        fun group hmem hnamed => hgroup group hmem ((hd group).2 hnamed)
    | byDefault hno hno' henabled hgroup =>
      exact .byDefault (fun other h => hno other ((he other).2 h)) (fun other h => hno' other ((hd other).2 h)) henabled
        hgroup
  exact ⟨hmono henable hdisable, hmono (fun name => (henable name).symm) fun name => (hdisable name).symm⟩

end GroupSelection

namespace Config

variable {d : ConfigDefinition} {tableRules : Option (List (Text × RuleDefinition))} {config : Config}

open GroupSelection

/--
A checked configuration makes a rule set of every selection. Its rules are the selected ones, in their order; everything
else is that of the configuration. Lists that name the same groups make the same rule set, and so it does not matter in
which order and how often the pieces of a list stand there, nor whether there are blank pieces among them.
-/
theorem ruleSet_ofLists (h : ofDefinition d tableRules = .ok config) (enable disable : Option Text) :
    config.ruleSet (.ofLists enable disable) = .ok {
        rules := config.rules.filter fun rule => Selects enable disable config.disabledGroups rule
        blacklist := config.blacklist
        replacements := config.replacements
        pairs := config.pairs } ∧
      (∀ enable' disable', SameNames enable enable' → SameNames disable disable' →
        config.ruleSet (.ofLists enable' disable') = config.ruleSet (.ofLists enable disable)) ∧
      ∀ pieces pieces' : List Text, (∀ piece ∈ pieces ++ pieces', ',' ∉ piece) →
        (∀ piece, piece.isAllBlank = false → (piece ∈ pieces ↔ piece ∈ pieces')) →
        SameNames (some (Text.joined [','] pieces)) (some (Text.joined [','] pieces')) := by
  have hset : ∀ enable disable, config.ruleSet (.ofLists enable disable) = .ok {
      rules := config.rules.filter fun rule => Selects enable disable config.disabledGroups rule
      blacklist := config.blacklist
      replacements := config.replacements
      pairs := config.pairs } := by
    intro enable disable
    have hfilter : config.rules.filter ((ofLists enable disable).includes config.disabledGroups) =
        config.rules.filter fun rule => Selects enable disable config.disabledGroups rule :=
      List.filter_congr fun rule _ => Bool.eq_iff_iff.2 (includes_iff.trans decide_eq_true_iff.symm)
    rw [ruleSet, hfilter]
    exact RuleSet.ofParts_eq_ok (fun rule hmem => forall_rules h rule (List.mem_of_mem_filter hmem)) (forall_pairs h) _ _
  refine ⟨hset enable disable, fun enable' disable' henable hdisable => ?_, fun _ _ => sameNames_joined⟩
  rw [hset enable' disable', hset enable disable]
  simp only [selects_congr henable hdisable]

/-- Four rules, of which two belong to groups that the list names, with blanks, twice and with an empty piece; what is
named to be switched off does not count then. -/
theorem ruleSet_ofLists_two_groups :
    let written (group : Option Text) (enable : Option Bool) (print : Char) : RuleDefinition :=
      ⟨group, enable, some [['a']], some [print], [], none⟩
    let rule (group : Option Text) (enabled : Bool) (print : Char) : Rule :=
      ⟨group, enabled, [['a']], [], [print], .keep⟩
    let d : ConfigDefinition := { ConfigDefinition.empty with
      rules := [written (some "Net".toList) none 'n', written (some "Noise".toList) none 'm',
        written (some "Debug".toList) (some false) 'd', written none none 'u']
      disableGroup := ["Noise".toList] }
    let config := ofChecked d [rule (some "Net".toList) true 'n', rule (some "Noise".toList) true 'm',
      rule (some "Debug".toList) false 'd', rule none true 'u'] [] []
    let enable : Option Text := some (Text.joined [','] [" Noise".toList, [], "Debug ".toList, " Noise".toList])
    let enable' : Option Text := some (Text.joined [','] ["Debug ".toList, " Noise".toList])
    let disable : Option Text := some "Noise".toList
    ofDefinition d none = .ok config ∧
      config.ruleSet (.ofLists enable disable) =
        .ok ⟨[rule (some "Noise".toList) true 'm', rule (some "Debug".toList) false 'd'], [], [], []⟩ ∧
      config.ruleSet (.ofLists enable' disable) = config.ruleSet (.ofLists enable disable) := by
  intro written rule d config enable enable' disable
  have h : ofDefinition d none = .ok config := by decide
  obtain ⟨hset, hcongr, hpieces⟩ := ruleSet_ofLists h enable disable
  refine ⟨h, hset.trans (by decide), hcongr enable' disable ?_ fun _ => Iff.rfl⟩
  refine hpieces _ _ (by decide) fun piece hblank => ?_
  have hne : piece ≠ [] := by
    rintro rfl
    cases hblank
  simp only [List.mem_cons, List.not_mem_nil, or_false, hne, false_or]
  exact ⟨fun hmem => hmem.elim .inr id, .inr⟩

end Config

end LogDiagram
