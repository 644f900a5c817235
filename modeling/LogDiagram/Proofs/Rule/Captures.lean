import LogDiagram.Proofs.Bytes.Offsets
import LogDiagram.Rule.Capture

/-!
# What captures find

A capture looks for the first start marker and, behind it, for the first end marker. It gives up after the first start
marker, and still it misses nothing: an end marker that stands behind a later start marker also stands behind the first
one.

* `IsValue`, `HasValue`: the value that a capture has to find, and a line in which there is one at all;
* `capture?_eq_some_iff_isValue`, `capture?_eq_none_iff`: a capture finds it, and fails only if there is none;
* `captureBytes_ofText`: the search over the bytes of the line finds the same, and slices between characters only;
* `captureAll_eq_iff`: the values of several captures, each found on its own;
* `capture_finds_leftmost_shortest`: all of this together.
-/

namespace LogDiagram.VariableSpec

variable {spec : VariableSpec} {specs : List VariableSpec} {line v : Text} {values : List Text}

/-! ## Values -/

/-- The line holds the start marker and, somewhere behind it, the end marker. -/
def HasValue (spec : VariableSpec) (line : Text) : Prop :=
  ∃ a v b, line = a ++ spec.startsWith ++ v ++ spec.endsWith ++ b

/-- The text stands between the first start marker of the line and the first end marker behind that. -/
def IsValue (spec : VariableSpec) (line v : Text) : Prop :=
  ∃ a b, line = a ++ spec.startsWith ++ v ++ spec.endsWith ++ b ∧
    (∀ a' b', line = a' ++ spec.startsWith ++ b' → a.length ≤ a'.length) ∧
    ∀ v' b', v ++ spec.endsWith ++ b = v' ++ spec.endsWith ++ b' → v.length ≤ v'.length

theorem IsValue.hasValue (h : IsValue spec line v) : HasValue spec line := by
  obtain ⟨a, b, heq, -, -⟩ := h
  exact ⟨a, v, b, heq⟩

theorem capture?_eq_some_iff_isValue : spec.capture? line = some v ↔ IsValue spec line v := by
  rw [capture?_eq_some_iff]
  constructor
  · rintro ⟨a, rest, b, hline, rfl, hstart, hend⟩
    exact ⟨a, b, by rw [hline]; simp only [List.append_assoc], hstart, hend⟩
  · rintro ⟨a, b, hline, hstart, hend⟩
    exact ⟨a, v ++ spec.endsWith ++ b, b, by rw [hline]; simp only [List.append_assoc], rfl, hstart, hend⟩

/-- An end marker behind any start marker also stands behind the first one. -/
theorem occursIn_behind_first (h : HasValue spec line) {a rest : Text}
    (hcut : spec.startsWith.cut? line = some (a, rest)) : spec.endsWith.occursIn rest = true := by
  obtain ⟨a', v, b, hlater⟩ := h
  obtain ⟨hfirst, hmin⟩ := Text.cut?_eq_some_iff.1 hcut
  have hle : a.length ≤ a'.length := hmin a' (v ++ spec.endsWith ++ b) (by rw [hlater]; simp only [List.append_assoc])
  have hshort : a ++ spec.startsWith <+: line := ⟨rest, hfirst.symm⟩
  have hlong : a' ++ spec.startsWith <+: line :=
    ⟨v ++ spec.endsWith ++ b, by rw [hlater]; simp only [List.append_assoc]⟩
  obtain ⟨between, hbetween⟩ := List.prefix_of_prefix_length_le hshort hlong (by
    rw [List.length_append, List.length_append]
    omega)
  have hrest : rest = between ++ v ++ spec.endsWith ++ b := by
    rw [← hbetween, hfirst] at hlater
    simpa only [List.append_assoc, List.append_cancel_left_eq] using hlater
  exact Text.occursIn_iff.2 ⟨between ++ v, b, hrest⟩

/-- A capture fails only if the line has no value at all. -/
theorem capture?_eq_none_iff : spec.capture? line = none ↔ ¬HasValue spec line := by
  constructor
  · intro hnone hvalue
    obtain ⟨a, v, b, hline⟩ := hvalue
    have hstart : (spec.startsWith.cut? line).isSome = true := by
      rw [Text.cut?_isSome, Text.occursIn_iff]
      exact ⟨a, v ++ spec.endsWith ++ b, by rw [hline]; simp only [List.append_assoc]⟩
    obtain ⟨⟨a', rest⟩, hcut⟩ := Option.isSome_iff_exists.1 hstart
    have hend := occursIn_behind_first ⟨a, v, b, hline⟩ hcut
    rw [← Text.cut?_isSome, Option.isSome_iff_exists] at hend
    obtain ⟨parts, hparts⟩ := hend
    simp only [capture?, hcut, hparts, Option.map_some] at hnone
    cases hnone
  · intro hno
    cases hcapture : spec.capture? line with
    | none => rfl
    | some v => exact absurd (capture?_eq_some_iff_isValue.1 hcapture).hasValue hno

/-! ## The search by bytes -/

/-- The search over the bytes of a line: two searches for a marker, and the slices behind and between them. -/
def captureBytes (spec : VariableSpec) (line : Bytes) : Except Bytes.SliceFault (Option Bytes) :=
  match Bytes.find? (Bytes.ofText spec.startsWith) line with
  | none => .ok none
  | some i => do
    let start := i + (Bytes.ofText spec.startsWith).length
    let rest ← Bytes.slice line start line.length
    match Bytes.find? (Bytes.ofText spec.endsWith) rest with
    | none => return none
    | some length => return some (← Bytes.slice line start (start + length))

/-- Over the bytes of a text every slice is in range and between characters, and the value is the same. -/
theorem captureBytes_ofText (spec : VariableSpec) (line : Text) :
    spec.captureBytes (Bytes.ofText line) = .ok ((spec.capture? line).map Bytes.ofText) := by
  rw [captureBytes, Bytes.find?_ofText, capture?]
  cases hstart : spec.startsWith.cut? line with
  | none => rfl
  | some parts =>
    obtain ⟨a, rest⟩ := parts
    obtain ⟨rfl, -⟩ := Text.cut?_eq_some_iff.1 hstart
    have hbehind := Bytes.slice_ofText (a ++ spec.startsWith) rest []
    rw [List.append_nil, ← List.length_append, ← Bytes.ofText_append, Bytes.ofText_append a,
      List.length_append] at hbehind
    simp only [Option.map_some, hbehind, bind, Except.bind, Bytes.find?_ofText]
    cases hend : spec.endsWith.cut? rest with
    | none => rfl
    | some parts =>
      obtain ⟨v, b⟩ := parts
      obtain ⟨rfl, -⟩ := Text.cut?_eq_some_iff.1 hend
      have hbetween := Bytes.slice_ofText (a ++ spec.startsWith) v (spec.endsWith ++ b)
      rw [Bytes.ofText_append a, List.length_append] at hbetween
      simp only [List.append_assoc] at hbetween ⊢
      simp only [Option.map_some, hbetween]
      rfl

/-! ## Several captures -/

/-- The values that captures have in a line: for each capture in turn its value, or nothing if there is none. -/
inductive Captured (line : Text) : (specs : List VariableSpec) → (values : List Text) → Prop
  | nil : Captured line [] []
  | value {spec : VariableSpec} {specs : List VariableSpec} {v : Text} {values : List Text} :
    IsValue spec line v → Captured line specs values → Captured line (spec :: specs) (v :: values)
  | pass {spec : VariableSpec} {specs : List VariableSpec} {values : List Text} :
    ¬HasValue spec line → Captured line specs values → Captured line (spec :: specs) values

/-- Several captures give the values that there are, in the order of the captures. -/
theorem captureAll_eq_iff : captureAll specs line = values ↔ Captured line specs values := by
  constructor
  · rintro rfl
    induction specs with
    | nil => exact .nil
    | cons spec specs ih =>
      rw [captureAll, List.filterMap_cons]
      cases hcapture : spec.capture? line with
      | none => exact .pass (capture?_eq_none_iff.1 hcapture) ih
      | some v => exact .value (capture?_eq_some_iff_isValue.1 hcapture) ih
  · intro h
    induction h with
    | nil => rfl
    | value hvalue _ ih => simp only [captureAll, List.filterMap_cons, capture?_eq_some_iff_isValue.2 hvalue, ← ih]
    | pass hno _ ih => simp only [captureAll, List.filterMap_cons, capture?_eq_none_iff.2 hno, ← ih]

/--
A capture finds the text between the first start marker and the first end marker behind it, and it fails exactly if the
line cannot be cut around a start marker and an end marker behind it at all. The search over bytes never slices out of
range or inside a character and finds the same. Several captures give the values that there are, each found on its own.
-/
theorem capture_finds_leftmost_shortest (spec : VariableSpec) (line : Text) :
    (∀ v, spec.capture? line = some v ↔
      ∃ a b, line = a ++ spec.startsWith ++ v ++ spec.endsWith ++ b ∧
        (∀ a' b', line = a' ++ spec.startsWith ++ b' → a.length ≤ a'.length) ∧
        ∀ v' b', v ++ spec.endsWith ++ b = v' ++ spec.endsWith ++ b' → v.length ≤ v'.length) ∧
      (spec.capture? line = none ↔ ∀ a v b, line ≠ a ++ spec.startsWith ++ v ++ spec.endsWith ++ b) ∧
      spec.captureBytes (Bytes.ofText line) = .ok ((spec.capture? line).map Bytes.ofText) ∧
      ∀ specs values, captureAll specs line = values ↔ Captured line specs values := by
  refine ⟨fun v => capture?_eq_some_iff_isValue, ?_, captureBytes_ofText spec line, fun _ _ => captureAll_eq_iff⟩
  rw [capture?_eq_none_iff]
  exact ⟨fun hno a v b heq => hno ⟨a, v, b, heq⟩, fun hno ⟨a, v, b, heq⟩ => hno a v b heq⟩

/-- A marker of two bytes that stands in the line three times, the first two times without a gap. -/
example : (⟨['é'], ['é']⟩ : VariableSpec).captureBytes (Bytes.ofText ['→', 'é', 'é', 'x', 'é']) = .ok (some []) := by
  decide

end LogDiagram.VariableSpec
