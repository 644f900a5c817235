import LogDiagram.Proofs.Text.Marks
import LogDiagram.Rule.Template

/-!
# Filling in the places of a template

`Text.render` fills in one value after the other, and each pass goes over the text that the passes before it left.
Places of a later value that came forth by then, in a value or over its seams, are filled in like those of the template.

* `Text.fillOnce`: the template with its places filled in by one pass, which never looks at a value;
* `Text.isMark_placeholder`, `Text.apart_placeholder`: places are marks, and different ones never overlap;
* `Text.KeepsPlaces`: no place of a value comes forth by filling in the values before it;
* `Text.keepsPlaces_of_plain`: it holds of values without a dollar sign, in templates without unfinished places;
* `Text.render_eq_fillOnce_iff`: `render` agrees with the one pass, for a list of values and each front part of it,
  exactly if no place comes forth; `Text.render_fills_value`: values where one does.
-/

namespace LogDiagram.Text

variable {template : Text} {values front : List Text} {value : Text} {i j : Nat}

/-! ## Places -/

/-- The places of values in a template, the first value at the place with number one. -/
def places (values : List Text) : List (Text × Text) := (values.zipIdx 1).map fun (value, i) => (placeholder i, value)

/--
One pass over the template from left to right, in which each place that has a value is replaced by it and everything
else is copied.
-/
def fillOnce (template : Text) (values : List Text) : Text := replaceEach (places values) template

theorem not_mem_ofNat {c : Char} (hc : c.isDigit = false) (n : Nat) : c ∉ ofNat n := by
  intro hmem
  rw [Nat.isDigit_of_mem_toDigits (by decide) (by decide) hmem] at hc
  cases hc

theorem ofNat_injective (h : ofNat i = ofNat j) : i = j := by
  have hread : ∀ n, Nat.ofDigitChars 10 (ofNat n) 0 = n := fun n => Nat.ofDigitChars_toDigits (by decide) (by decide)
  rw [← hread i, h, hread j]

/-- A place starts with the only dollar sign in it. -/
theorem isMark_placeholder (i : Nat) : IsMark '$' (placeholder i) := by
  have := not_mem_ofNat (c := '$') rfl i
  exact ⟨rfl, by simp [placeholder, this]⟩

/-- A place ends with the only closing brace in it. -/
theorem placeholder_eq_concat (i : Nat) : ∃ rest, placeholder i = rest ++ ['\x7d'] ∧ '\x7d' ∉ rest := by
  refine ⟨'$' :: '\x7b' :: ofNat i, rfl, ?_⟩
  have := not_mem_ofNat (c := '\x7d') rfl i
  simp [this]

theorem placeholder_injective (h : placeholder i = placeholder j) : i = j := by
  simp only [placeholder, List.cons.injEq, List.append_cancel_right_eq, true_and] at h
  exact ofNat_injective h

/-- A place that starts like another one is that place. -/
theorem eq_of_placeholder_start (h : placeholder i <+: placeholder j) : i = j := by
  obtain ⟨x, hx⟩ := h
  obtain ⟨rest, hi, -⟩ := placeholder_eq_concat i
  obtain ⟨rest', hj, hno⟩ := placeholder_eq_concat j
  rcases List.eq_nil_or_concat x with rfl | ⟨y, c, rfl⟩
  · rw [List.append_nil] at hx
    exact placeholder_injective hx
  · -- the closing brace would not be the last character
    rw [hi, hj, List.concat_eq_append, ← List.append_assoc] at hx
    have hrest := (List.append_inj' hx rfl).1
    exact absurd (by rw [← hrest]; simp) hno

/-- Different places share no piece. -/
theorem apart_placeholder (h : i ≠ j) : Apart (placeholder i) (placeholder j) :=
  (isMark_placeholder i).apart (isMark_placeholder j) (fun hstart => h (eq_of_placeholder_start hstart)) fun hstart =>
    h (eq_of_placeholder_start hstart).symm

/-! ## One value after the other -/

theorem places_concat (front : List Text) (value : Text) :
    places (front ++ [value]) = places front ++ [(placeholder (front.length + 1), value)] := by
  simp [places, List.zipIdx_append, Nat.add_comm]

/-- The entries of a table of places have the numbers from one up to that of the last value. -/
theorem exists_of_mem_places {entry : Text × Text} (h : entry ∈ places values) :
    ∃ i < values.length, entry.1 = placeholder (i + 1) ∧ entry.2 ∈ values := by
  obtain ⟨⟨value, n⟩, hmem, rfl⟩ := List.mem_map.1 h
  obtain ⟨hlow, hhigh, hvalue⟩ := List.mem_zipIdx hmem
  refine ⟨n - 1, by omega, by rw [Nat.sub_add_cancel hlow], ?_⟩
  exact hvalue ▸ List.getElem_mem _

/-- The next place is none of those before it. -/
theorem fresh_places (front : List Text) : Fresh (places front) (placeholder (front.length + 1)) := by
  refine ⟨(isMark_placeholder _).ne_nil, (isMark_placeholder _).unbordered, fun entry hmem => ?_⟩
  obtain ⟨i, hi, hplace, -⟩ := exists_of_mem_places hmem
  rw [hplace]
  exact ⟨(isMark_placeholder _).ne_nil, apart_placeholder (by omega)⟩

theorem fillPlaces_concat (template : Text) (i : Nat) (front : List Text) (value : Text) :
    fillPlaces template i (front ++ [value]) =
      replaceAll (placeholder (i + front.length)) value (fillPlaces template i front) := by
  induction front generalizing template i with
  | nil => rfl
  | cons first front ih =>
    rw [List.cons_append, fillPlaces, fillPlaces, ih, List.length_cons]
    rw [Nat.add_assoc, Nat.add_comm 1]

/--
Filling in the values before it brings forth no place of a value: its place stands as often as in the template. A value
that is its own place changes nothing anyway.
-/
def KeepsPlaces (template : Text) (values : List Text) : Prop :=
  ∀ k < values.length, values[k]? = some (placeholder (k + 1)) ∨
    occurrences (placeholder (k + 1)) (fillOnce template (values.take k)) = occurrences (placeholder (k + 1)) template

instance (template : Text) (values : List Text) : Decidable (KeepsPlaces template values) :=
  inferInstanceAs (Decidable (∀ k < values.length, _ ∨ _))

/-- One more value keeps the agreement with the one pass exactly if its place did not come forth. -/
theorem fillPlaces_concat_iff (h : fillPlaces template 1 front = fillOnce template front) (value : Text) :
    fillPlaces template 1 (front ++ [value]) = fillOnce template (front ++ [value]) ↔
      value = placeholder (front.length + 1) ∨
        occurrences (placeholder (front.length + 1)) (fillOnce template front) =
          occurrences (placeholder (front.length + 1)) template := by
  rw [fillPlaces_concat, h, Nat.add_comm 1, fillOnce, fillOnce, places_concat]
  exact replaceAll_replaceEach_iff (fresh_places front) value template

/-- All front parts of the values agree with the one pass exactly if no place comes forth. -/
theorem fillPlaces_take_iff :
    (∀ k ≤ values.length, fillPlaces template 1 (values.take k) = fillOnce template (values.take k)) ↔
      KeepsPlaces template values := by
  have hlength : ∀ k < values.length, (values.take k).length = k := fun k hk => by
    rw [List.length_take, Nat.min_eq_left (Nat.le_of_lt hk)]
  constructor
  · intro hall k hk
    have hnext := hall (k + 1) hk
    rw [← List.take_append_getElem hk, fillPlaces_concat_iff (hall k (Nat.le_of_lt hk)), hlength k hk] at hnext
    rw [List.getElem?_eq_getElem hk, Option.some.injEq]
    exact hnext
  · intro hkeeps k hk
    induction k with
    | zero => exact (replaceEach_nil template).symm
    | succ k ih =>
      have hnext := hkeeps k hk
      rw [List.getElem?_eq_getElem hk, Option.some.injEq] at hnext
      rw [← List.take_append_getElem hk, fillPlaces_concat_iff (ih (Nat.le_of_lt hk)), hlength k hk]
      exact hnext

/-! ## Values without a dollar sign -/

/--
No place stands directly behind a start of another one that is not finished. A value could finish that other place.
-/
def HasNoOpenPlace (template : Text) (n : Nat) : Prop :=
  ∀ i < n, ∀ j < n, ∀ u ∈ (placeholder (j + 1)).inits,
    u = [] ∨ u = placeholder (j + 1) ∨ occursIn (u ++ placeholder (i + 1)) template = false

instance (template : Text) (n : Nat) : Decidable (HasNoOpenPlace template n) :=
  inferInstanceAs (Decidable (∀ i < n, ∀ j < n, ∀ u ∈ (placeholder (j + 1)).inits, _ ∨ _))

/-- The place of the value behind some values is not opened in front of a place of one of them. -/
theorem HasNoOpenPlace.notOpened {n : Nat} (h : HasNoOpenPlace template n) (hfront : front.length < n) :
    NotOpened (places front) (placeholder (front.length + 1)) template := by
  intro entry hmem u hstart hnil hall
  obtain ⟨i, hi, hplace, -⟩ := exists_of_mem_places hmem
  have hno := h i (by omega) front.length hfront u ((List.mem_inits _ _).2 hstart)
  rw [hplace]
  exact occursIn_eq_false_iff.1 ((hno.resolve_left hnil).resolve_left hall)

/-- Values without a dollar sign bring forth no place in a template without open places. -/
theorem keepsPlaces_of_plain (hplain : ∀ value ∈ values, '$' ∉ value) (hopen : HasNoOpenPlace template values.length) :
    KeepsPlaces template values := by
  intro k hk
  have hlength : (values.take k).length = k := by rw [List.length_take, Nat.min_eq_left (Nat.le_of_lt hk)]
  have hfront : (values.take k).length < values.length := by rw [hlength]; exact hk
  have hvalues : ∀ entry ∈ places (values.take k), '$' ∉ entry.2 := by
    intro entry hmem
    obtain ⟨i, -, -, hvalue⟩ := exists_of_mem_places hmem
    exact hplain entry.2 (List.mem_of_mem_take hvalue)
  have hsame := occurrences_replaceEach_of_isMark (fresh_places (values.take k)) (isMark_placeholder _) hvalues
    (hopen.notOpened hfront)
  rw [hlength] at hsame
  exact .inr hsame

/-! ## Templates -/

theorem render_of_occursIn (hplace : (placeholder 1).occursIn template = true) (hvalues : values ≠ []) :
    render template values = fillPlaces template 1 values := by
  rw [render, if_neg (by simpa using hvalues), if_pos hplace]

/--
In a template with a first place, for a list of values and each front part of it, the values are filled in as by one
pass over the template exactly if no place of a value comes forth by filling in the values before it. None comes forth
from values without a dollar sign in a template without open places. A template without a first place has the values
behind it, in parentheses.
-/
theorem render_eq_fillOnce_iff (template : Text) (values : List Text) (hvalues : values ≠ []) :
    ((placeholder 1).occursIn template = true →
      ((∀ k < values.length, render template (values.take (k + 1)) = fillOnce template (values.take (k + 1))) ↔
          KeepsPlaces template values) ∧
        (KeepsPlaces template values → render template values = fillOnce template values) ∧
        ((∀ value ∈ values, '$' ∉ value) ∧ HasNoOpenPlace template values.length → KeepsPlaces template values)) ∧
      ((placeholder 1).occursIn template = false →
        render template values = template ++ '(' :: (joined [',', ' '] values ++ [')'])) := by
  refine ⟨fun hplace => ⟨⟨fun hall => ?_, fun hkeeps k hk => ?_⟩, fun hkeeps => ?_,
    fun h => keepsPlaces_of_plain h.1 h.2⟩, fun hno => ?_⟩
  · refine fillPlaces_take_iff.1 fun k hk => ?_
    cases k with
    | zero => exact (replaceEach_nil template).symm
    | succ k =>
      rw [← render_of_occursIn hplace (by simp [hvalues])]
      exact hall k hk
  · rw [render_of_occursIn hplace (by simp [hvalues])]
    exact fillPlaces_take_iff.2 hkeeps (k + 1) hk
  · have hwhole := fillPlaces_take_iff.2 hkeeps values.length (Nat.le_refl _)
    rw [List.take_length] at hwhole
    rw [render_of_occursIn hplace hvalues, hwhole]
  · rw [render, if_neg (by simpa using hvalues), if_neg (by rw [hno]; exact Bool.false_ne_true)]

/-- Values that hold braces, digits and a place that is not filled in any more. -/
theorem render_eq_fillOnce_iff_two_values :
    let template : Text := "${1} of ${2}, ${3}: ${1}".toList
    let values : List Text := ["{2}".toList, "${1}".toList]
    values ≠ [] ∧ (placeholder 1).occursIn template = true ∧ KeepsPlaces template values ∧
      render template values = fillOnce template values ∧
      fillOnce template values = "{2} of ${1}, ${3}: {2}".toList := by
  intro template values
  have hvalues : values ≠ [] := List.cons_ne_nil _ _
  have hplace : (placeholder 1).occursIn template = true := by decide
  have hkeeps : KeepsPlaces template values := by decide
  exact ⟨hvalues, hplace, hkeeps, ((render_eq_fillOnce_iff template values hvalues).1 hplace).2.1 hkeeps, by decide⟩

/-- A value that holds the place of a later value is not inserted as it is: the later value is filled in there. -/
theorem render_fills_value :
    let template : Text := "${1} -> ${2}".toList
    let values : List Text := ["${2}".toList, ['x']]
    (placeholder 1).occursIn template = true ∧ render template values = "x -> x".toList ∧
      fillOnce template values = "${2} -> x".toList ∧ render template values ≠ fillOnce template values := by
  decide

end LogDiagram.Text
