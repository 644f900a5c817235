import LogDiagram.Rule.Basic

/-!
# Captures

`VariableSpec.capture?` takes from a line the text between the first start marker and the first end marker after it;
`VariableSpec.captureAll` keeps the captures that succeed.

Main statement: `capture?_eq_some_iff` (a capture is the decomposition of the line whose front part and then whose
middle part are shortest).
-/

namespace LogDiagram.VariableSpec

/-- The text between the first start marker and the first end marker behind it. -/
def capture? (spec : VariableSpec) (line : Text) : Option Text :=
  match spec.startsWith.cut? line with
  | some (_, rest) => (spec.endsWith.cut? rest).map (·.1)
  | none => none

/-- The captures of several pieces, each searched in the whole line; a piece that is not there is passed over. -/
def captureAll (specs : List VariableSpec) (line : Text) : List Text := specs.filterMap fun spec => spec.capture? line

/-- A capture leaves the shortest front part and, behind the start marker, is the shortest text before an end marker. -/
theorem capture?_eq_some_iff {spec : VariableSpec} {line v : Text} :
    spec.capture? line = some v ↔
      ∃ a rest b, line = a ++ spec.startsWith ++ rest ∧ rest = v ++ spec.endsWith ++ b ∧
        (∀ a' b', line = a' ++ spec.startsWith ++ b' → a.length ≤ a'.length) ∧
        ∀ v' b', rest = v' ++ spec.endsWith ++ b' → v.length ≤ v'.length := by
  rw [capture?]
  constructor
  · split
    · next a rest h =>
      rw [Option.map_eq_some_iff]
      rintro ⟨⟨v', b⟩, h', rfl⟩
      obtain ⟨h1, h2⟩ := Text.cut?_eq_some_iff.1 h
      obtain ⟨h3, h4⟩ := Text.cut?_eq_some_iff.1 h'
      exact ⟨a, rest, b, h1, h3, h2, h4⟩
    · simp
  · rintro ⟨a, rest, b, h1, h3, h2, h4⟩
    simp only [Text.cut?_eq_some_iff.2 ⟨h1, h2⟩, Text.cut?_eq_some_iff.2 ⟨h3, h4⟩, Option.map_some]

end LogDiagram.VariableSpec
