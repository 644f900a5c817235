import LogDiagram.Proofs.Config.Written
import LogDiagram.Proofs.Json.Repetitions

/-!
# Keys of a configuration that are given twice

* `ConfigDefinition.EndsInRepeat`: the texts that end with a known key which is given for the second time, in the
  configuration itself or in a rule, a variable or a pair of it;
* `ConfigDefinition.GivesTwice`: the values in which a known key is given twice;
* `ConfigDefinition.ofJson_refuses_repeats`: a text that starts like the first ones is refused, whatever follows, and no
  other text is refused for a key that is repeated.
-/

namespace LogDiagram

open Json

/-! ## Texts that end with a repeat -/

/-- The front of a variable up to a key that is given twice. -/
def VariableDefinition.EndsInRepeat : Fronts := Json.EndsInRepeat parts []

/-- The front of a rule up to a key that is given twice, in it or in one of its variables. -/
def RuleDefinition.EndsInRepeat : Fronts :=
  Json.EndsInRepeat parts [("variables", EndsInItem VariableDefinition.spelling VariableDefinition.EndsInRepeat)]

/-- The front of a pair up to a key that is given twice. -/
def PairDefinition.EndsInRepeat : Fronts := Json.EndsInRepeat parts []

/-- The parts of a configuration that hold records, with the fronts of their values. -/
def ConfigDefinition.nestedFronts : List (String × Fronts) := [
  ("translations", EndsInItem RuleDefinition.spelling RuleDefinition.EndsInRepeat),
  ("pairs", EndsInItem PairDefinition.spelling PairDefinition.EndsInRepeat)]

/-- The front of a configuration up to a key that is given twice, in it or in one of its rules and pairs, with white
space in front. -/
def ConfigDefinition.EndsInRepeat : Fronts := fun t name =>
  ∃ before front, IsSpace before ∧ t = before ++ front ∧ Json.EndsInRepeat parts nestedFronts front name

theorem VariableDefinition.refuses : Refuses decoder EndsInRepeat := refuses_record fitsRecord fieldsRefuse_nil _

theorem PairDefinition.refuses : Refuses decoder EndsInRepeat := refuses_record fitsRecord fieldsRefuse_nil _

theorem RuleDefinition.refuses : Refuses decoder EndsInRepeat := by
  have hvariables := refuses_list VariableDefinition.decodes VariableDefinition.refuses
  exact refuses_record fitsRecord (fieldsRefuse_nil.cons hvariables rfl) _

theorem ConfigDefinition.refuses : Refuses decoder (Json.EndsInRepeat parts nestedFronts) := by
  have hrules := refuses_list RuleDefinition.decodes RuleDefinition.refuses
  have hpairs := refuses_list PairDefinition.decodes PairDefinition.refuses
  exact refuses_record fitsRecord ((fieldsRefuse_nil.cons hpairs rfl).cons hrules rfl) _

/-- A text that ends with a key which is given twice is refused for it, whatever follows. -/
theorem ConfigDefinition.ofJson_of_endsInRepeat {t : Text} {name : String} (h : EndsInRepeat t name) (rest : Text) :
    ofJson (t ++ rest) = .error (.duplicateField name.toList) := by
  obtain ⟨before, front, hbefore, rfl, hfront⟩ := h
  rw [List.append_assoc]
  exact decode_of_refuses refuses hbefore hfront rest

/-! ## Values in which a key is given twice -/

/-- A variable with a key that is given twice. -/
def VariableDefinition.GivesTwice : Repetitions := Json.GivesTwice fields []

/-- A rule with a key that is given twice, in it or in one of its variables. -/
def RuleDefinition.GivesTwice : Repetitions :=
  Json.GivesTwice fields [("variables", InItem VariableDefinition.GivesTwice)]

/-- A pair with a key that is given twice. -/
def PairDefinition.GivesTwice : Repetitions := Json.GivesTwice fields []

/-- A configuration with a key that is given twice, in it or in one of its rules and pairs. -/
def ConfigDefinition.GivesTwice : Repetitions :=
  Json.GivesTwice fields [
    ("translations", InItem RuleDefinition.GivesTwice), ("pairs", InItem PairDefinition.GivesTwice)]

section Fields

variable {nested : List (String × Repetitions)}

theorem fieldRefusesOnly_optionalText {σ : Type} (name : String) (set : σ → Option Text → σ) :
    FieldRefusesOnly nested (.of name (asOptional asText) set) :=
  fieldRefusesOnly_of_none (refusesOnly_optional refusesOnly_text) name set

theorem fieldRefusesOnly_optionalFlag {σ : Type} (name : String) (set : σ → Option Bool → σ) :
    FieldRefusesOnly nested (.of name (asOptional asFlag) set) :=
  fieldRefusesOnly_of_none (refusesOnly_optional refusesOnly_flag) name set

theorem refusesOnly_texts : RefusesOnly (asList asText) NoRepetitions :=
  (refusesOnly_list refusesOnly_text).mono fun _ _ ⟨_, _, _, _, _, h⟩ => h

end Fields

theorem VariableDefinition.refusesOnly : RefusesOnly decoder GivesTwice := by
  refine refusesOnly_record ?_ _
  simp only [fields, List.forall_mem_cons]
  exact ⟨fieldRefusesOnly_optionalText _ _, fieldRefusesOnly_optionalText _ _, fun _ h => nomatch h⟩

theorem PairDefinition.refusesOnly : RefusesOnly decoder GivesTwice := by
  refine refusesOnly_record ?_ _
  simp only [fields, List.forall_mem_cons]
  exact ⟨fieldRefusesOnly_optionalText _ _, fieldRefusesOnly_optionalText _ _, fieldRefusesOnly_optionalText _ _,
    fieldRefusesOnly_optionalText _ _, fun _ h => nomatch h⟩

theorem RuleDefinition.refusesOnly : RefusesOnly decoder GivesTwice := by
  refine refusesOnly_record ?_ _
  simp only [fields, List.forall_mem_cons]
  refine ⟨(fieldRefusesOnly_optionalText _ _).also _, fieldRefusesOnly_optionalFlag _ _, ?_,
    fieldRefusesOnly_optionalText _ _, ?_, fieldRefusesOnly_optionalText _ _, fun _ h => nomatch h⟩
  · exact fieldRefusesOnly_of_none (refusesOnly_optional refusesOnly_texts) _ _
  · exact fieldRefusesOnly_of (refusesOnly_list VariableDefinition.refusesOnly) (by simp) _

theorem ConfigDefinition.refusesOnly : RefusesOnly decoder GivesTwice := by
  have htexts : ∀ {nested} (name : String) (set : ConfigDefinition → List Text → ConfigDefinition),
      FieldRefusesOnly nested (.of name (asList asText) set) := fun name set =>
    fieldRefusesOnly_of_none refusesOnly_texts name set
  refine refusesOnly_record ?_ _
  simp only [fields, List.forall_mem_cons]
  refine ⟨?_, fieldRefusesOnly_optionalText _ _, htexts _ _, htexts _ _, ?_, ?_, (htexts _ _).also _, htexts _ _,
    htexts _ _, fieldRefusesOnly_optionalFlag _ _, fieldRefusesOnly_optionalText _ _, fieldRefusesOnly_optionalText _ _,
    htexts _ _, fun _ h => nomatch h⟩
  · exact fieldRefusesOnly_of (refusesOnly_list RuleDefinition.refusesOnly) (by simp) _
  · exact fieldRefusesOnly_of_none (refusesOnly_textPairs _) _ _
  · exact fieldRefusesOnly_of (refusesOnly_list PairDefinition.refusesOnly) (by simp) _

/-- A text is refused for a key that is repeated only if a known key is given twice in what was read of it. -/
theorem ConfigDefinition.givesTwice_of_ofJson {t name : Text} (h : ofJson t = .error (.duplicateField name)) :
    GivesTwice (Json.read t).1 name := by
  rw [ofJson, decode] at h
  simp only at h
  split at h
  · next problem hproblem =>
    obtain rfl := Except.error.inj h
    exact refusesOnly _ _ hproblem
  · split at h <;> cases h

/-! ## Repeated keys -/

namespace ConfigDefinition

/--
A text in which a known key is given for the second time is refused there for its data, with the main name of the key,
whatever follows. A text is refused for a repeated key only if a known key of a configuration, a rule, a variable or a
pair is given twice. All that is written as it should be is read, with any search texts to be replaced, the same one
several times too; and members with other keys may be put anywhere into the object of any record, repeated or not.
-/
theorem ofJson_refuses_repeats :
    (∀ t name, EndsInRepeat t name → ∀ rest, ∃ problem, ofJson (t ++ rest) = .error problem ∧
      problem = .duplicateField name.toList ∧ problem.kind = .data ∧
      problem.message = "duplicate field `".toList ++ name.toList ++ "`".toList) ∧
    (∀ t name, ofJson t = .error (.duplicateField name) → GivesTwice (Json.read t).1 name) ∧
    (∀ d : ConfigDefinition, (∃ t, d.IsWrittenAs t) ∧ ∀ t, d.IsWrittenAs t → ofJson t = .ok d) ∧
    ∀ {σ : Type} (parts : List (RecordPart σ)) (record : σ) (before after extra : List Member) (t : Text),
      WritesMembers parts record parts (before ++ after) →
      (∀ m ∈ extra, ∃ key, WritesString key m.key ∧ (∀ part ∈ parts, ∀ name ∈ part.names, name.toList ≠ key) ∧
        IsValue m.value) →
      Enclosed '\x7b' '\x7d' ((before ++ (extra ++ after)).map Member.text) t → Spelling.record parts record t := by
  refine ⟨fun t name h rest => ?_, fun t name => givesTwice_of_ofJson, fun d => ?_, ?_⟩
  · exact ⟨_, ofJson_of_endsInRepeat h rest, rfl, rfl, rfl⟩
  · exact ⟨exists_isWrittenAs d, fun t => ofJson_eq_ok⟩
  · intro σ parts record before after extra t h hextra henclosed
    exact .object henclosed (h.insert hextra)

/-- The group of a rule by its other key, behind a note that is given twice. -/
theorem ofJson_refuses_repeats_category :
    let t : Text := "\x7b\"note\":1,\"note\":2, \"translations\":[\x7b\"group\":\"a\",\"category\"".toList
    EndsInRepeat t "group" ∧ ∃ problem, ofJson (t ++ ":[".toList) = .error problem ∧
      problem = .duplicateField "group".toList ∧ problem.kind = .data ∧
      problem.message = "duplicate field `".toList ++ "group".toList ++ "`".toList := by
  intro t
  have hspace : IsSpace [] := by decide
  have hkey : ∀ name ∈ ["note", "translations", "group", "category"], WritesString name.toList name.toList :=
    fun name hname => writesString_of_isPlain (by revert name; decide)
  -- the rule
  let group := Member.mk "group".toList [] [] (quote ['a'])
  have hgroup : RecordPart.IsGivenBy (RuleDefinition.parts[0]) group :=
    ⟨"group", by decide, hkey _ (by decide)⟩
  have hmembers : WritesMembers RuleDefinition.parts { RuleDefinition.empty with group := some ['a'] }
      RuleDefinition.parts [group] := by
    refine @WritesMembers.part _ _ _ [] (RuleDefinition.parts.drop 1) _ _ _ "group" (by decide) (hkey _ (by decide))
      ⟨['a'], writesString_of_isPlain (by decide), rfl⟩ ?_
    exact .done (by simp [RuleDefinition.parts, RecordPart.of, RecordPart.also, RuleDefinition.empty])
  let rule : Text := '\x7b' :: (group.text ++ [',']) ++ quote "category".toList
  have hrule : RuleDefinition.EndsInRepeat rule "group" := by
    have hopened : Opened '\x7b' ([group].map Member.text) ('\x7b' :: (group.text ++ [','])) := by
      simpa using @Opened.some '\x7b' _ _ _ (@Listed.one [] group.text [] hspace hspace) hspace
    exact .again hopened hmembers List.mem_cons_self rfl ⟨group, List.mem_cons_self, hgroup⟩ (by decide)
      (hkey "category" (by decide))
  -- the configuration
  let note (n : Char) := Member.mk "note".toList [] [] [n]
  let rules := Member.mk "translations".toList [] [] ('[' :: rule)
  have hdigit : ∀ n ∈ ['1', '2'], IsValue [n] := by
    intro n hn
    have hdigits : IsDigits [n] ∧ n ≠ '0' := by
      rcases List.mem_pair.1 hn with rfl | rfl <;> decide
    exact .numeral (@IsNumeral.intro [] [n] [] [] (by decide) hdigits.1 (by simp [hdigits.2]) (.inl rfl) (.inl rfl))
  have hother : ∀ part ∈ parts, ∀ name ∈ part.names, name.toList ≠ "note".toList := by decide
  have hnotes : WritesMembers parts empty parts [note '1', note '2'] :=
    .other (hkey "note" (by decide)) hother (hdigit '1' (by decide))
      (.other (hkey "note" (by decide)) hother (hdigit '2' (by decide))
        (.done (by simp [parts, RecordPart.of, RecordPart.also, empty])))
  have hopened : Opened '\x7b' ([note '1', note '2'].map Member.text) "\x7b\"note\":1,\"note\":2, ".toList :=
    .some (@Listed.cons [] (note '1').text [] _ _ hspace hspace (@Listed.one [] (note '2').text [] hspace hspace))
      (by decide : IsSpace [' '])
  have hnew : ∀ m ∈ [note '1', note '2'], ¬RecordPart.IsGivenBy (parts[0]) m := by
    rintro m hm ⟨name, hname, hwritten⟩
    have hmeaning : WritesString "note".toList m.key := by
      rcases List.mem_pair.1 hm with rfl | rfl <;> exact hkey "note" (by decide)
    exact hother _ List.mem_cons_self name hname (hwritten.unique hmeaning)
  have ht : EndsInRepeat t "group" := by
    refine ⟨[], t, hspace, rfl, ?_⟩
    exact .member (m := rules) hopened hnotes List.mem_cons_self hnew
      ⟨"translations", by decide, hkey _ (by decide)⟩ (by decide : "translations" ∈ (parts[0]).names) List.mem_cons_self
      ⟨[], [], ['['], _, .none hspace, .nil, hrule, rfl⟩
  exact ⟨ht, ofJson_refuses_repeats.1 t "group" ht _⟩

end ConfigDefinition

end LogDiagram
