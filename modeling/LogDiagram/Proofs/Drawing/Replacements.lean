import LogDiagram.Diagram.Drawing
import LogDiagram.Proofs.Text.Replacing
import LogDiagram.Rule.Template

/-!
# Logs that were run through a table of replacements

A log may be drawn again after the replacements were written into it, so running a line through the table once more
must not change it. Each entry of a table sees what the entries before it left, hence a later one could bring back what
an earlier one took away.

* `Replacement.Separate`: no search text of a table has a piece in common with a replacement;
* `Replacement.not_occursIn_applyAll`: the table of such replacements leaves none of its search texts;
* `RuleSet.draw_map_substitute`: lines that are stable under the replacements are drawn alike with and without them;
* `Replacement.applyAll_stable`: both together.
-/

namespace LogDiagram

namespace Replacement

variable {table : List Replacement} {entry : Replacement} {line s : Text}

/-- Each search text is apart from each replacement of the table; entries without a search text do not count. -/
def Separate (table : List Replacement) : Prop :=
  ∀ entry ∈ table, ∀ other ∈ table, entry.search ≠ [] → other.search ≠ [] → Text.Apart entry.search other.replace

instance : Decidable (Separate table) :=
  inferInstanceAs (Decidable (∀ entry ∈ table, ∀ other ∈ table, _ → _ → Text.Apart entry.search other.replace))

theorem Separate.tail (h : Separate (entry :: table)) : Separate table :=
  fun e he e' he' => h e (List.mem_cons_of_mem _ he) e' (List.mem_cons_of_mem _ he')

/-- An entry without a search text does nothing. -/
theorem applyAll_cons_of_eq_nil (h : entry.search = []) : applyAll (entry :: table) line = applyAll table line := by
  simp only [applyAll, List.filter_cons, h, List.isEmpty_nil, Bool.not_true, Bool.false_eq_true, if_false]

/-- The other entries see what the first one leaves. -/
theorem applyAll_cons (h : entry.search ≠ []) :
    applyAll (entry :: table) line = applyAll table (Text.replaceAll entry.search entry.replace line) := by
  have hkept : (!entry.search.isEmpty) = true := by simpa using h
  simp only [applyAll, List.filter_cons, hkept, if_true, List.foldl_cons]

/-- A line without search texts stays as it is. -/
theorem applyAll_of_not_occursIn (h : ∀ entry ∈ table, entry.search ≠ [] → Text.occursIn entry.search line = false) :
    applyAll table line = line := by
  induction table with
  | nil => rfl
  | cons entry table ih =>
    have hrest := ih fun e he => h e (List.mem_cons_of_mem _ he)
    by_cases hsearch : entry.search = []
    · rw [applyAll_cons_of_eq_nil hsearch, hrest]
    · rw [applyAll_cons hsearch, Text.replaceAll_of_not_occursIn (h entry List.mem_cons_self hsearch), hrest]

/-- A text that is apart from all replacements does not come forth. -/
theorem not_occursIn_applyAll_of_apart (happart : ∀ entry ∈ table, entry.search ≠ [] → Text.Apart s entry.replace)
    (h : Text.occursIn s line = false) : Text.occursIn s (applyAll table line) = false := by
  induction table generalizing line with
  | nil => exact h
  | cons entry table ih =>
    have hrest : ∀ e ∈ table, e.search ≠ [] → Text.Apart s e.replace := fun e he => happart e (List.mem_cons_of_mem _ he)
    by_cases hsearch : entry.search = []
    · rw [applyAll_cons_of_eq_nil hsearch]
      exact ih hrest h
    · rw [applyAll_cons hsearch]
      exact ih hrest (Text.not_occursIn_replaceAll hsearch (happart entry List.mem_cons_self hsearch) h)

/-- Separate replacements leave no search text of their table: an entry takes its own away, and none brings it back. -/
theorem not_occursIn_applyAll (h : Separate table) (line : Text) (hmem : entry ∈ table) (hsearch : entry.search ≠ []) :
    Text.occursIn entry.search (applyAll table line) = false := by
  induction table generalizing line with
  | nil => cases hmem
  | cons first table ih =>
    rcases List.mem_cons.1 hmem with rfl | hrest
    · have happart : ∀ e ∈ table, e.search ≠ [] → Text.Apart entry.search e.replace :=
        fun e he => h entry List.mem_cons_self e (List.mem_cons_of_mem _ he) hsearch
      have hself := h entry List.mem_cons_self entry List.mem_cons_self hsearch hsearch
      rw [applyAll_cons hsearch]
      exact not_occursIn_applyAll_of_apart happart (Text.not_occursIn_replaceAll_self hsearch hself line)
    · by_cases hfirst : first.search = []
      · rw [applyAll_cons_of_eq_nil hfirst]
        exact ih h.tail line hrest
      · rw [applyAll_cons hfirst]
        exact ih h.tail _ hrest

/-- Separate replacements change a line only once. -/
theorem applyAll_applyAll (h : Separate table) (line : Text) :
    applyAll table (applyAll table line) = applyAll table line :=
  applyAll_of_not_occursIn fun _ hmem hsearch => not_occursIn_applyAll h line hmem hsearch

end Replacement

namespace RuleSet

variable {set : RuleSet} {raw : Text} {raws : List Text} {run : Run}

/-- Of a line only its replaced form is looked at. -/
theorem step_substitute (h : set.substitute (set.substitute raw) = set.substitute raw) :
    set.step run (set.substitute raw) = set.step run raw := by
  simp only [step, h]

/-- Lines that are stable under the replacements are drawn alike with and without them. -/
theorem draw_map_substitute (h : ∀ raw ∈ raws, set.substitute (set.substitute raw) = set.substitute raw) :
    set.draw (raws.map set.substitute) = set.draw raws := by
  have hruns : (raws.map set.substitute).foldl set.step .start = raws.foldl set.step .start := by
    rw [List.foldl_map]
    exact List.foldl_ext _ _ _ fun run raw hmem => step_substitute (h raw hmem)
  simp only [draw, hruns]

end RuleSet

namespace Replacement

/--
A table of separate replacements leaves none of its search texts in a line, and a second pass changes nothing. So a log
that was run through the table is drawn like the log itself, with the same numbers.
-/
theorem applyAll_stable {table : List Replacement} (h : Separate table) :
    (∀ line, (∀ entry ∈ table, entry.search ≠ [] → Text.occursIn entry.search (applyAll table line) = false) ∧
        applyAll table (applyAll table line) = applyAll table line) ∧
      ∀ (set : RuleSet), set.replacements = table →
        ∀ raws, set.draw (raws.map (applyAll table)) = set.draw raws := by
  refine ⟨fun line => ⟨fun entry => not_occursIn_applyAll h line, applyAll_applyAll h line⟩, ?_⟩
  rintro set rfl raws
  exact RuleSet.draw_map_substitute fun raw _ => applyAll_applyAll h raw

/--
Two entries with search texts, and one without, which does not count. An entry that writes what another one searches for
would not be separate from it.
-/
theorem applyAll_stable_two_entries :
    let table : List Replacement := [⟨"ab".toList, "x".toList⟩, ⟨[], "ab".toList⟩, ⟨"cc".toList, "yz".toList⟩]
    let set : RuleSet := ⟨[⟨none, true, [['x']], [], ['P'], .keep⟩], [['z', 'c']], table, []⟩
    let raws : List Text := ["aabb".toList, "cccab".toList, "abcb".toList]
    Separate table ∧ ¬Separate (⟨['d'], "cab".toList⟩ :: table) ∧
      raws.map (applyAll table) = ["axb".toList, "yzcx".toList, "xcb".toList] ∧
      set.draw (raws.map (applyAll table)) = set.draw raws ∧
      set.draw raws = ⟨[['P'], ['P']], ⟨3, 1, 0, 0, 0⟩⟩ := by
  intro table set raws
  have hseparate : Separate table := by decide
  exact ⟨hseparate, by decide, by decide, (applyAll_stable hseparate).2 set rfl raws, by decide +kernel⟩

end Replacement

end LogDiagram
