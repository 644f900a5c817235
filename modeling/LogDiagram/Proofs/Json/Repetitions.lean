import LogDiagram.Proofs.Json.Repeats
import LogDiagram.Proofs.Results

/-!
# Keys that may be given twice

A decoder refuses a value for a name that is given twice only if this is the name of a field, given twice in an object
that is read as a record. Other keys of a record and the keys of texts may be repeated.

* `GivesTwice`: the values in which a field of a record is given twice, in the record itself or deeper;
* `RefusesOnly`: a decoder refuses no other values for a name that is given twice;
* `putMembers_refusesOnly`, `refusesOnly_record`: so do decoders of records.
-/

namespace LogDiagram.Json

/-! ## Values in which a field is given twice -/

/-- Values in which something is given twice, each with the name of it. -/
abbrev Repetitions := Json → Text → Prop

/-- No value. -/
def NoRepetitions : Repetitions := fun _ _ => False

/-- A list with an item in which something is given twice. -/
def InItem (repetitions : Repetitions) : Repetitions := fun json name =>
  ∃ items ending, json = array items ending ∧ ∃ item ∈ items, repetitions item name

/-- A member has a key of a field in whose value something is given twice as `nested` tells. -/
def InMember {σ : Type} (fields : List (RecordField σ)) (nested : List (String × Repetitions))
    (members : List (Json × Json)) (name : Text) : Prop :=
  ∃ given value field repetitions, (string given, value) ∈ members ∧ field ∈ fields ∧ field.isCalled given = true ∧
    (field.name, repetitions) ∈ nested ∧ repetitions value name

/-- An object that gives a field of a record twice, or a record in whose fields something is given twice as `nested`
tells. -/
inductive GivesTwice {σ : Type} (fields : List (RecordField σ)) (nested : List (String × Repetitions)) : Repetitions
  | here {members : List (Json × Json)} {ending : Option Fault} {name : String} :
    2 ≤ (givenNames fields members).count name → GivesTwice fields nested (object members ending) name.toList
  | member {members : List (Json × Json)} {ending : Option Fault} {name : Text} :
    InMember fields nested members name → GivesTwice fields nested (object members ending) name
  | item {items : List Json} {ending : Option Fault} {item : Json} {field : RecordField σ} {repetitions : Repetitions}
    {name : Text} : (field, item) ∈ fields.zip items → (field.name, repetitions) ∈ nested → repetitions item name →
    GivesTwice fields nested (array items ending) name

/-- The decoder refuses a value for a name that is given twice only if that is so. -/
def RefusesOnly {α : Type} (decoder : Decoder α) (repetitions : Repetitions) : Prop :=
  ∀ json name, decoder json = .error (.duplicateField name) → repetitions json name

/-! ## Decoders of plain shapes -/

section Shapes

variable {α : Type} {decoder : Decoder α} {repetitions : Repetitions}

theorem refuse_ne_duplicateField {json : Json} {wanted : String} {name : Text} :
    (json.refuse wanted : Except JsonProblem α) ≠ .error (.duplicateField name) := by
  cases json <;> exact nofun

theorem ended_ne_duplicateField {fault : Option Fault} {value : α} {name : Text} :
    ended fault value ≠ .error (.duplicateField name) := by
  cases fault <;> exact nofun

theorem refusesOnly_text : RefusesOnly asText NoRepetitions := by
  intro json name h
  unfold asText at h
  split at h
  · cases h
  · exact refuse_ne_duplicateField h

theorem refusesOnly_flag : RefusesOnly asFlag NoRepetitions := by
  intro json name h
  unfold asFlag at h
  split at h
  · cases h
  · exact refuse_ne_duplicateField h

theorem map_eq_error {β : Type} {x : Except JsonProblem α} {f : α → β} {problem : JsonProblem}
    (h : x.map f = .error problem) : x = .error problem := by
  cases x with
  | error _ => exact congrArg _ (Except.error.inj h)
  | ok _ => cases h

theorem refusesOnly_optional (h : RefusesOnly decoder repetitions) : RefusesOnly (asOptional decoder) repetitions := by
  intro json name hjson
  unfold asOptional at hjson
  split at hjson
  · cases hjson
  · exact h json name (map_eq_error hjson)

theorem refusesOnly_list (h : RefusesOnly decoder repetitions) : RefusesOnly (asList decoder) (InItem repetitions) := by
  intro json name hjson
  unfold asList at hjson
  split at hjson
  · next items ending =>
    rcases bind_eq_error_iff.1 hjson with hitems | ⟨values, -, hended⟩
    · obtain ⟨item, hmem, hitem⟩ := exists_of_mapM_eq_error hitems
      exact ⟨items, ending, rfl, item, hmem, h item name hitem⟩
    · exact absurd hended ended_ne_duplicateField
  · exact absurd hjson refuse_ne_duplicateField

theorem RefusesOnly.mono {repetitions' : Repetitions} (h : RefusesOnly decoder repetitions)
    (himp : ∀ json name, repetitions json name → repetitions' json name) : RefusesOnly decoder repetitions' :=
  fun json name hjson => himp json name (h json name hjson)

/-- Keys of texts may be repeated. -/
theorem refusesOnly_textPairs (wanted : String) : RefusesOnly (asTextPairs wanted) NoRepetitions := by
  intro json name hjson
  unfold asTextPairs at hjson
  split at hjson
  · rcases bind_eq_error_iff.1 hjson with hmembers | ⟨values, -, hended⟩
    · obtain ⟨⟨key, value⟩, -, hmember⟩ := exists_of_mapM_eq_error hmembers
      rcases bind_eq_error_iff.1 hmember with hkey | ⟨_, -, hrest⟩
      · exact refusesOnly_text key name hkey
      · rcases bind_eq_error_iff.1 hrest with hvalue | ⟨_, -, hpure⟩
        · exact refusesOnly_text value name hvalue
        · cases hpure
    · exact ended_ne_duplicateField hended
  · exact refuse_ne_duplicateField hjson

end Shapes

/-! ## Decoders of records -/

section Records

variable {σ : Type} {start : σ} {fields : List (RecordField σ)} {field : RecordField σ}
  {nested : List (String × Repetitions)}

/-- The field refuses a value for a name that is given twice only as `nested` tells. -/
def FieldRefusesOnly (nested : List (String × Repetitions)) (field : RecordField σ) : Prop :=
  ∀ record, RefusesOnly (field.put record) fun json name =>
    ∃ repetitions, (field.name, repetitions) ∈ nested ∧ repetitions json name

theorem fieldRefusesOnly_of {α : Type} {decoder : Decoder α} {repetitions : Repetitions} {name : String}
    (h : RefusesOnly decoder repetitions) (hmem : (name, repetitions) ∈ nested) (set : σ → α → σ) :
    FieldRefusesOnly nested (.of name decoder set) :=
  fun _ json key hjson => ⟨repetitions, hmem, h json key (map_eq_error hjson)⟩

/-- A field in which nothing is refused for being repeated. -/
theorem fieldRefusesOnly_of_none {α : Type} {decoder : Decoder α} (h : RefusesOnly decoder NoRepetitions)
    (name : String) (set : σ → α → σ) : FieldRefusesOnly nested (.of name decoder set) :=
  fun _ json key hjson => (h json key (map_eq_error hjson)).elim

theorem FieldRefusesOnly.also (h : FieldRefusesOnly nested field) (name : String) :
    FieldRefusesOnly nested (field.also name) := h

theorem InMember.cons {members : List (Json × Json)} {name : Text} (h : InMember fields nested members name)
    (entry : Json × Json) : InMember fields nested (entry :: members) name := by
  obtain ⟨given, value, field, repetitions, hmem, hfield⟩ := h
  exact ⟨given, value, field, repetitions, List.mem_cons_of_mem _ hmem, hfield⟩

/-- A key is refused for being repeated only if its field was given before: in front of the members, as `seen` tells,
or by one of them. The induction goes over the members. -/
theorem putMembers_refusesOnly (hfields : ∀ field ∈ fields, FieldRefusesOnly nested field) {seen : List String}
    {record : σ} {members : List (Json × Json)} {name : Text}
    (h : putMembers fields seen record members = .error (.duplicateField name)) :
    (∃ main : String, main.toList = name ∧
      (main ∈ seen ∧ main ∈ givenNames fields members ∨ 2 ≤ (givenNames fields members).count main)) ∨
        InMember fields nested members name := by
  induction members generalizing seen record with
  | nil => cases h
  | cons entry members ih =>
    obtain ⟨json, value⟩ := entry
    rw [putMembers] at h
    cases hkey : asText json with
    | error problem =>
      rw [hkey] at h
      obtain rfl := Except.error.inj h
      exact (refusesOnly_text json name hkey).elim
    | ok key =>
      obtain rfl := asText_eq_ok hkey
      rw [hkey] at h
      simp only at h
      split at h
      · next hfind =>
        rw [givenNames_cons_of_none hfind]
        split at h
        · cases h
        · exact (ih h).imp_right fun hmember => hmember.cons _
      · next field hfind =>
        rw [givenNames_cons_of_some hfind]
        split at h
        · next hseen =>
          refine .inl ⟨field.name, JsonProblem.duplicateField.inj (Except.error.inj h), .inl ⟨?_, List.mem_cons_self⟩⟩
          exact List.contains_iff_mem.1 hseen
        · split at h
          · next problem hput =>
            obtain rfl := Except.error.inj h
            have hfield := List.mem_of_find?_eq_some hfind
            have hcalled : field.isCalled key = true := by simpa using List.find?_some hfind
            obtain ⟨repetitions, hmem, hvalue⟩ := hfields field hfield record value name hput
            exact .inr ⟨key, value, field, repetitions, List.mem_cons_self, hfield, hcalled, hmem, hvalue⟩
          · rcases ih h with ⟨main, hname, ⟨hseen, hlater⟩ | htwice⟩ | hmember
            · refine .inl ⟨main, hname, ?_⟩
              rcases List.mem_cons.1 hseen with rfl | hseen
              · -- the field of this member is given again behind it
                have hpos := List.count_pos_iff.2 hlater
                exact .inr (by rw [List.count_cons_self]; omega)
              · exact .inl ⟨hseen, List.mem_cons_of_mem _ hlater⟩
            · exact .inl ⟨main, hname, .inr (htwice.trans List.count_le_count_cons)⟩
            · exact .inr (hmember.cons _)

/-- An item is refused for something that is given twice only if that is so. -/
theorem putItems_refusesOnly (hfields : ∀ field ∈ fields, FieldRefusesOnly nested field) {record : σ}
    {items : List Json} {ending : Option Fault} {name : Text}
    (h : putItems fields record items ending = .error (.duplicateField name)) :
    ∃ field item repetitions, (field, item) ∈ fields.zip items ∧ (field.name, repetitions) ∈ nested ∧
      repetitions item name := by
  induction items generalizing fields record with
  | nil =>
    cases fields <;> exact absurd h ended_ne_duplicateField
  | cons item items ih =>
    cases fields with
    | nil => cases h
    | cons field fields =>
      rw [putItems] at h
      split at h
      · next problem hput =>
        obtain rfl := Except.error.inj h
        obtain ⟨repetitions, hmem, hitem⟩ := hfields field List.mem_cons_self record item name hput
        exact ⟨field, item, repetitions, List.mem_cons_self, hmem, hitem⟩
      · obtain ⟨field', item', repetitions, hzip, hrest⟩ := ih (fun f hf => hfields f (List.mem_cons_of_mem _ hf)) h
        exact ⟨field', item', repetitions, List.mem_cons_of_mem _ hzip, hrest⟩

/-- A decoder of records refuses no value for a name that is given twice unless it is one of its own. -/
theorem refusesOnly_record (hfields : ∀ field ∈ fields, FieldRefusesOnly nested field) (wanted : String) :
    RefusesOnly (asRecord wanted fields start) (GivesTwice fields nested) := by
  intro json name h
  unfold asRecord at h
  split at h
  · rcases bind_eq_error_iff.1 h with hput | ⟨_, -, hended⟩
    · rcases putMembers_refusesOnly hfields hput with ⟨main, rfl, ⟨hseen, -⟩ | htwice⟩ | hmember
      · cases hseen
      · exact .here htwice
      · exact .member hmember
    · exact absurd hended ended_ne_duplicateField
  · obtain ⟨field, item, repetitions, hzip, hnested, hitem⟩ := putItems_refusesOnly hfields h
    exact .item hzip hnested hitem
  · exact absurd h refuse_ne_duplicateField

end Records

end LogDiagram.Json
