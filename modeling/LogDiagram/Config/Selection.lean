import LogDiagram.Config.Basic

/-!
# Choosing rules by group

A `GroupSelection` names groups to be switched on or off for one run. If some are switched on, only their rules apply;
otherwise, if some are switched off, all other rules apply; otherwise the configuration decides.
-/

namespace LogDiagram

/-- The groups named for one run. -/
structure GroupSelection where
  enable : List Text
  disable : List Text
  deriving DecidableEq, Repr

namespace GroupSelection

/-- The names in a list with commas; blanks around a name do not count, and neither do empty names. -/
def namesIn (list : Option Text) : List Text :=
  match list with
  | none => []
  | some t => ((Text.splitAtChar ',' t).map Text.trimmed).filter fun name => !name.isEmpty

/-- The selection that two lists with commas write. -/
def ofLists (enable disable : Option Text) : GroupSelection := ⟨namesIn enable, namesIn disable⟩

def isIn (rule : Rule) (groups : List Text) : Bool := rule.group.any groups.contains

def includes (selection : GroupSelection) (disabledGroups : List Text) (rule : Rule) : Bool :=
  if !selection.enable.isEmpty then isIn rule selection.enable
  else if !selection.disable.isEmpty then !isIn rule selection.disable
  else rule.enabled && !isIn rule disabledGroups

end GroupSelection

/-- What a run with the given selection works with. -/
def Config.ruleSet (config : Config) (selection : GroupSelection) : Except EntryError RuleSet :=
  RuleSet.ofParts (config.rules.filter (selection.includes config.disabledGroups)) config.blacklist
    config.replacements config.pairs

end LogDiagram
