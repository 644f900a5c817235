import LogDiagram.Config.Definition
import LogDiagram.Proofs.Json.Records

/-!
# Configurations as they are written

* `ConfigDefinition.parts`, `ConfigDefinition.IsWrittenAs`: the parts of a configuration and the texts that write it;
* `ConfigDefinition.exists_isWrittenAs`: every configuration can be written;
* `ConfigDefinition.ofJson_of_isWrittenAs`: reading gives back what was written, in every spelling.
-/

namespace LogDiagram

open Json

/-! ## The parts of each record -/

/-- The parts of a variable. -/
def VariableDefinition.parts : List (RecordPart VariableDefinition) := [
  .of "startswith" startsWith (fun d v => { d with startsWith := v }) none (.optional .text),
  .of "endswith" endsWith (fun d v => { d with endsWith := v }) none (.optional .text)]

/-- The texts that write a variable. -/
def VariableDefinition.spelling : Spelling VariableDefinition := .record parts

/-- The parts of a rule. -/
def RuleDefinition.parts : List (RecordPart RuleDefinition) := [
  (RecordPart.of "group" group (fun d v => { d with group := v }) none (.optional .text)).also "category",
  .of "enable" enable (fun d v => { d with enable := v }) none (.optional .flag),
  .of "patterns" patterns (fun d v => { d with patterns := v }) none (.optional (.list .text)),
  .of "print" print (fun d v => { d with print := v }) none (.optional .text),
  .of "variables" captures (fun d v => { d with captures := v }) [] (.list VariableDefinition.spelling),
  .of "duplicates" duplicates (fun d v => { d with duplicates := v }) none (.optional .text)]

/-- The texts that write a rule. -/
def RuleDefinition.spelling : Spelling RuleDefinition := .record parts

/-- The parts of a pair. -/
def PairDefinition.parts : List (RecordPart PairDefinition) := [
  .of "source" source (fun d v => { d with source := v }) none (.optional .text),
  .of "pairswith" pairsWith (fun d v => { d with pairsWith := v }) none (.optional .text),
  .of "before" before (fun d v => { d with before := v }) none (.optional .text),
  .of "error" error (fun d v => { d with error := v }) none (.optional .text)]

/-- The texts that write a pair. -/
def PairDefinition.spelling : Spelling PairDefinition := .record parts

/-- The parts of a configuration. -/
def ConfigDefinition.parts : List (RecordPart ConfigDefinition) := [
  .of "translations" rules (fun d v => { d with rules := v }) [] (.list RuleDefinition.spelling),
  .of "translations_csv" ruleTable (fun d v => { d with ruleTable := v }) none (.optional .text),
  .of "blacklist" blacklist (fun d v => { d with blacklist := v }) [] (.list .text),
  .of "delete_lines" deleteLines (fun d v => { d with deleteLines := v }) [] (.list .text),
  .of "replace_words" replaceWords (fun d v => { d with replaceWords := v }) [] .textPairs,
  .of "pairs" pairs (fun d v => { d with pairs := v }) [] (.list PairDefinition.spelling),
  (RecordPart.of "disable_group" disableGroup (fun d v => { d with disableGroup := v }) [] (.list .text)).also
    "disable_category",
  .of "wrap_text_pre" wrapTextPre (fun d v => { d with wrapTextPre := v }) [] (.list .text),
  .of "wrap_text_post" wrapTextPost (fun d v => { d with wrapTextPost := v }) [] (.list .text),
  .of "auto_new_line" autoNewLine (fun d v => { d with autoNewLine := v }) none (.optional .flag),
  .of "translation_file" documentFile (fun d v => { d with documentFile := v }) none (.optional .text),
  .of "backup_file" backupFile (fun d v => { d with backupFile := v }) none (.optional .text),
  .of "execute" execute (fun d v => { d with execute := v }) [] (.list .text)]

/-- The texts that write a configuration. -/
def ConfigDefinition.spelling : Spelling ConfigDefinition := .record parts

/-! ## Each record is decoded -/

theorem VariableDefinition.fitsRecord : FitsRecord fields parts empty where
  fits := .cons (fits_of decodes_optionalText _ _ _ _) (.cons (fits_of decodes_optionalText _ _ _ _) .nil)
  disjoint := by simp [parts, RecordPart.of]
  comm := by simp [parts, RecordPart.of]
  whole := by simp [parts, RecordPart.of, empty]
  default := by simp +contextual [parts, RecordPart.of, empty]

theorem VariableDefinition.decodes : Decodes decoder spelling := decodes_record fitsRecord _

theorem PairDefinition.fitsRecord : FitsRecord fields parts empty where
  fits := .cons (fits_of decodes_optionalText _ _ _ _) (.cons (fits_of decodes_optionalText _ _ _ _)
    (.cons (fits_of decodes_optionalText _ _ _ _) (.cons (fits_of decodes_optionalText _ _ _ _) .nil)))
  disjoint := by simp [parts, RecordPart.of]
  comm := by simp [parts, RecordPart.of]
  whole := by simp [parts, RecordPart.of, empty]
  default := by simp +contextual [parts, RecordPart.of, empty]

theorem PairDefinition.decodes : Decodes decoder spelling := decodes_record fitsRecord _

theorem RuleDefinition.fitsRecord : FitsRecord fields parts empty where
  fits := .cons ((fits_of decodes_optionalText _ _ _ _).also rfl _) (.cons (fits_of decodes_optionalFlag _ _ _ _)
    (.cons (fits_of decodes_optionalTexts _ _ _ _) (.cons (fits_of decodes_optionalText _ _ _ _)
    (.cons (fits_of (decodes_list VariableDefinition.decodes) _ _ _ _)
    (.cons (fits_of decodes_optionalText _ _ _ _) .nil)))))
  disjoint := by simp [parts, RecordPart.of, RecordPart.also]
  comm := by simp [parts, RecordPart.of, RecordPart.also]
  whole := by simp [parts, RecordPart.of, RecordPart.also, empty]
  default := by simp +contextual [parts, RecordPart.of, RecordPart.also, empty]

theorem RuleDefinition.decodes : Decodes decoder spelling := decodes_record fitsRecord _

theorem ConfigDefinition.fitsRecord : FitsRecord fields parts empty where
  fits := by
    refine .cons (fits_of (decodes_list RuleDefinition.decodes) _ _ _ _) ?_
    refine .cons (fits_of decodes_optionalText _ _ _ _) ?_
    refine .cons (fits_of decodes_texts _ _ _ _) ?_
    refine .cons (fits_of decodes_texts _ _ _ _) ?_
    refine .cons (fits_of (decodes_textPairs _) _ _ _ _) ?_
    refine .cons (fits_of (decodes_list PairDefinition.decodes) _ _ _ _) ?_
    refine .cons ((fits_of decodes_texts _ _ _ _).also rfl _) ?_
    refine .cons (fits_of decodes_texts _ _ _ _) ?_
    refine .cons (fits_of decodes_texts _ _ _ _) ?_
    refine .cons (fits_of decodes_optionalFlag _ _ _ _) ?_
    refine .cons (fits_of decodes_optionalText _ _ _ _) ?_
    refine .cons (fits_of decodes_optionalText _ _ _ _) ?_
    exact .cons (fits_of decodes_texts _ _ _ _) .nil
  disjoint := by simp [parts, RecordPart.of, RecordPart.also]
  comm := by simp [parts, RecordPart.of, RecordPart.also]
  whole := by simp [parts, RecordPart.of, RecordPart.also, empty]
  default := by simp +contextual [parts, RecordPart.of, RecordPart.also, empty]

theorem ConfigDefinition.decodes : Decodes decoder spelling := decodes_record fitsRecord _

/-! ## Every configuration can be written -/

section Total

open Spelling

theorem VariableDefinition.isTotal_spelling : spelling.IsTotal :=
  isTotal_record (by simp [parts, isTotal_of, isTotal_text.optional])

theorem RuleDefinition.isTotal_spelling : spelling.IsTotal :=
  isTotal_record (by
    simp [parts, isTotal_of, IsTotal.also, isTotal_text.optional, isTotal_flag.optional, isTotal_text.list.optional,
      VariableDefinition.isTotal_spelling.list])

theorem PairDefinition.isTotal_spelling : spelling.IsTotal :=
  isTotal_record (by simp [parts, isTotal_of, isTotal_text.optional])

theorem ConfigDefinition.isTotal_spelling : spelling.IsTotal :=
  isTotal_record (by
    simp [parts, isTotal_of, IsTotal.also, isTotal_text.optional, isTotal_text.list, isTotal_flag.optional,
      isTotal_textPairs, RuleDefinition.isTotal_spelling.list, PairDefinition.isTotal_spelling.list])

end Total

/-! ## Reading and writing -/

namespace ConfigDefinition

variable {d : ConfigDefinition} {t : Text}

/-- A text that writes a configuration, with white space around it. -/
def IsWrittenAs (d : ConfigDefinition) (t : Text) : Prop :=
  ∃ before core after, IsSpace before ∧ IsSpace after ∧ spelling d core ∧ t = before ++ (core ++ after)

theorem exists_isWrittenAs (d : ConfigDefinition) : ∃ t, d.IsWrittenAs t := by
  obtain ⟨core, hcore⟩ := isTotal_spelling d
  exact ⟨_, [], core, [], by decide, by decide, hcore, rfl⟩

theorem ofJson_eq_ok (h : d.IsWrittenAs t) : ofJson t = .ok d := by
  obtain ⟨before, core, after, hbefore, hafter, hcore, rfl⟩ := h
  obtain ⟨json, hreads, hjson⟩ := decodes d core hcore
  exact decode_of_reads hreads hjson hbefore hafter

/-- What was written is what is read, in every spelling; so no text writes two configurations. -/
theorem ofJson_of_isWrittenAs (h : d.IsWrittenAs t) :
    ofJson t = .ok d ∧ ∀ d' : ConfigDefinition, d'.IsWrittenAs t → d' = d := by
  refine ⟨ofJson_eq_ok h, fun d' h' => ?_⟩
  have heq : Except.ok d' = (Except.ok d : Except JsonProblem ConfigDefinition) :=
    (ofJson_eq_ok h').symm.trans (ofJson_eq_ok h)
  exact Except.ok.inj heq

/-- A key that nobody knows with half a surrogate pair and a number out of range, a search text given twice, a rule as
the start of a list, a group by its other key and an empty path. -/
theorem ofJson_of_isWrittenAs_with_note :
    let rule : RuleDefinition := { RuleDefinition.empty with enable := some true }
    let d : ConfigDefinition := { empty with
      rules := [rule], replaceWords := [(['a'], ['b']), (['a'], [])], disableGroup := [['x']], backupFile := some [] }
    let t : Text := ("\x7b\"note\": [\"\\ud800\", 1e999], \"replace_words\" :\x7b\"a\":\"b\",\"\\u0061\":\"\"\x7d," ++
      "\"translations\":[[null,true]],\"disable_category\":[\"x\"],\"backup_file\":\"\"\x7d\n").toList
    d.IsWrittenAs t ∧ ofJson t = .ok d ∧ ∀ d' : ConfigDefinition, d'.IsWrittenAs t → d' = d := by
  intro rule d t
  have hspace : IsSpace [] := by decide
  have hescaped : WritesString ['a'] "\\u0061".toList :=
    @WritesString.unit '0' '0' '6' '1' 0x61 [] [] (by decide) (.inl (by decide)) .nil
  -- the value that nobody knows
  have hhalf : IsValue (quote "\\ud800".toList) := .string (@IsString.unit 'd' '8' '0' '0' 0xD800 [] (by decide) .nil)
  have hlarge : IsValue "1e999".toList := .numeral (@IsNumeral.intro [] ['1'] [] "e999".toList (by decide) (by decide)
    (by decide) (.inl rfl) (.inr ⟨'e', by decide, [], by decide, "999".toList, by decide, rfl⟩))
  let unknown : Text := "[\"\\ud800\", 1e999]".toList
  have hunknown : Enclosed '[' ']' [quote "\\ud800".toList, "1e999".toList] unknown := .some
    (@Listed.cons [] (quote "\\ud800".toList) [] _ _ hspace hspace
      (@Listed.one [' '] "1e999".toList [] (by decide) hspace))
  have hnote : IsValue unknown := by
    refine .array hunknown fun item hitem => ?_
    rcases List.mem_pair.1 hitem with rfl | rfl
    · exact hhalf
    · exact hlarge
  -- the other values
  have hpairs : Spelling.textPairs d.replaceWords "\x7b\"a\":\"b\",\"\\u0061\":\"\"\x7d".toList := by
    let first : Member := ⟨['a'], [], [], quote ['b'], hspace, hspace⟩
    let second : Member := ⟨"\\u0061".toList, [], [], quote [], hspace, hspace⟩
    have hfirst : WritesString ['a'] first.key ∧ Spelling.text ['b'] first.value :=
      ⟨writesString_of_isPlain (by decide), ['b'], writesString_of_isPlain (by decide), rfl⟩
    have hsecond : WritesString ['a'] second.key ∧ Spelling.text [] second.value := ⟨hescaped, [], .nil, rfl⟩
    exact ⟨[first, second], enclosed_joined _ _ _, .cons hfirst (.cons hsecond .nil)⟩
  have hrule : RuleDefinition.spelling rule "[null,true]".toList := by
    have hitems : Enclosed '[' ']' ["null".toList, "true".toList] "[null,true]".toList := enclosed_joined _ _ _
    refine @Spelling.record.array _ RuleDefinition.parts rule (RuleDefinition.parts.take 2)
      (RuleDefinition.parts.drop 2) _ _ hitems rfl ?_ (.cons rfl (.cons rfl .nil))
    simp [RuleDefinition.parts, RecordPart.of, rule, RuleDefinition.empty]
  have hrules : Spelling.list RuleDefinition.spelling d.rules "[[null,true]]".toList :=
    ⟨["[null,true]".toList], enclosed_joined _ _ _, .cons hrule .nil⟩
  have hgroup : Spelling.list .text d.disableGroup "[\"x\"]".toList :=
    ⟨[quote ['x']], enclosed_joined _ _ _, .cons ⟨['x'], writesString_of_isPlain (by decide), rfl⟩ .nil⟩
  have hbackup : Spelling.optional .text d.backupFile "\"\"".toList := ⟨[], .nil, rfl⟩
  -- the members
  let note := Member.mk "note".toList [] [' '] unknown
  let words := Member.mk "replace_words".toList [' '] [] "\x7b\"a\":\"b\",\"\\u0061\":\"\"\x7d".toList
  let rules := Member.mk "translations".toList [] [] "[[null,true]]".toList
  let groups := Member.mk "disable_category".toList [] [] "[\"x\"]".toList
  let backup := Member.mk "backup_file".toList [] [] "\"\"".toList
  have hkey : ∀ name ∈ ["note", "replace_words", "translations", "disable_category", "backup_file"],
      WritesString name.toList name.toList := fun name hname => writesString_of_isPlain (by revert name; decide)
  have hmembers : WritesMembers parts d parts [note, words, rules, groups, backup] := by
    refine .other (hkey "note" (by decide)) (by decide) hnote ?_
    refine @WritesMembers.part _ _ _ (parts.take 4) (parts.drop 5) _ _ _ "replace_words" (by decide)
      (hkey _ (by decide)) hpairs ?_
    refine @WritesMembers.part _ _ _ [] (parts.tail.take 3 ++ parts.drop 5) _ _ _ "translations" (by decide)
      (hkey _ (by decide)) hrules ?_
    refine @WritesMembers.part _ _ _ (parts.tail.take 3 ++ (parts.drop 5).take 1) (parts.drop 7) _ _ _
      "disable_category" (by decide) (hkey _ (by decide)) hgroup ?_
    refine @WritesMembers.part _ _ _ (parts.tail.take 3 ++ (parts.drop 5).take 1 ++ (parts.drop 7).take 4)
      (parts.drop 12) _ _ _ "backup_file" (by decide) (hkey _ (by decide)) hbackup ?_
    exact .done (by simp [parts, RecordPart.of, RecordPart.also, d, empty])
  have htexts : Enclosed '\x7b' '\x7d' ([note, words, rules, groups, backup].map Member.text) _ := .some
    (@Listed.cons [] note.text [] _ _ hspace hspace (@Listed.cons [' '] words.text [] _ _ (by decide) hspace
      (@Listed.cons [] rules.text [] _ _ hspace hspace (@Listed.cons [] groups.text [] _ _ hspace hspace
        (@Listed.one [] backup.text [] hspace hspace)))))
  have hwritten : d.IsWrittenAs t := ⟨[], _, ['\n'], hspace, by decide, .object htexts hmembers,
    by simp [t, note, words, rules, groups, backup, unknown, Member.text, quote]⟩
  exact ⟨hwritten, ofJson_of_isWrittenAs hwritten⟩

end ConfigDefinition

end LogDiagram
