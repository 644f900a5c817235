import Mathlib
import LogDiagram.Proofs.Settings.Levels
import LogDiagram.Proofs.Text.Pieces

/-!
# Settings key by key

A settings file has five keys in three sections. What becomes of a text under one of them depends on that text alone: it
is used if it is acceptable, and otherwise the default is. A bad text cannot spoil another setting, nor can a key that
is not known.

* `Settings.Key`, `Settings.Key.accepted?`, `Settings.Key.warning?`: the keys, the texts that are acceptable under each
  of them, and the warnings about others;
* `Settings.held?`, `Settings.HasForm`: what a document holds under a key, and documents that are of the form of
  settings;
* `Settings.rawOfEntries?_eq_some_iff`: the texts that are taken from a document;
* `Settings.value?_ofRaw`, `Settings.warnings_ofRaw`: what becomes of the texts;
* `Settings.AreOf`: the settings and warnings of a document, by its keys; there is one pair of them for each document;
* `Settings.ofToml?_key_by_key`: all of this for settings files, and two of them that differ in one key.
-/

namespace LogDiagram

namespace Settings

open Toml

/-! ## Keys -/

/-- What a settings file may set. -/
inductive Key where
  | level | file | java | plantumlJar | configFile
  deriving DecidableEq, Repr

namespace Key

/-- The keys; in a section that is written as a list, the texts stand in this order. -/
def all : List Key := [level, file, java, plantumlJar, configFile]

/-- The section in which a key stands, and its name there. -/
def path : Key → Text × Text
  | level => ("logging".toList, "level".toList)
  | file => ("logging".toList, "file".toList)
  | java => ("render".toList, "java".toList)
  | plantumlJar => ("render".toList, "plantuml_jar".toList)
  | configFile => ("translation".toList, "config_file".toList)

/--
What is used of a text under a key, if the text is acceptable: a level has to be known in small letters and is used in
them, and of the other texts some must not be blank and some must not be empty.
-/
def accepted? (endsWord : (before after : Text) → Bool) : Key → Text → Option Text
  | level, t => if levels.contains (t.lower endsWord) then some (t.lower endsWord) else none
  | java, t | configFile, t => if t.trimmed = [] then none else some t
  | file, t | plantumlJar, t => if t = [] then none else some t

/-- The warning about a text that is not acceptable under a key. An empty file name is none, without a warning. -/
def warning? : Key → Text → Option Text
  | level, t => some (levelWarning t)
  | java, _ => some javaWarning
  | configFile, _ => some configFileWarning
  | file, _ | plantumlJar, _ => none

/-- How the warnings about a key start. -/
def label (key : Key) : Text := '[' :: (key.path.1 ++ "] ".toList ++ key.path.2 ++ [' '])

/-- The names of the keys of a section, in the order of a list. -/
def namesIn (heading : Text) : List Text := (all.filter fun key => key.path.1 == heading).map fun key => key.path.2

end Key

/-- The setting for a key. -/
def value? (settings : Settings) : Key → Option Text
  | .level => settings.logLevel
  | .file => settings.logFile
  | .java => some settings.java
  | .plantumlJar => settings.plantumlJar
  | .configFile => some settings.configFile

/-- The text that is given for a key. -/
def textFor? (raw : RawSettings) : Key → Option Text
  | .level => raw.level
  | .file => raw.file
  | .java => raw.java
  | .plantumlJar => raw.plantumlJar
  | .configFile => raw.configFile

/-- The given texts, one for each key. -/
def ofTexts (texts : Key → Option Text) : RawSettings :=
  ⟨texts .level, texts .file, texts .java, texts .plantumlJar, texts .configFile⟩

theorem textFor?_ofTexts (texts : Key → Option Text) : ∀ key, textFor? (ofTexts texts) key = texts key
  | .level | .file | .java | .plantumlJar | .configFile => rfl

/-! ## Documents -/

/-- What stands in a section under a name; a section that is written as a list has it at some place. -/
def member? (found : Option Value) (name : Text) (place : Option Nat) : Option Value :=
  match found with
  | some (.table _ entries) => entries.lookup name
  | some (.list items) => place.bind fun i => items[i]?
  | _ => none

/-- What a document holds under a path of a section and a name. -/
def held? (doc : Entries) (path : Text × Text) : Option Value :=
  member? (doc.lookup path.1) path.2 ((Key.namesIn path.1).idxOf? path.2)

/-- The text that a document has for a key. -/
def written? (doc : Entries) (key : Key) : Option Text :=
  match held? doc key.path with
  | some (.text t) => some t
  | _ => none

/-- What may stand for a section: a table, a list, or nothing. A moment counts as an empty table. -/
def IsSection : Option Value → Prop
  | none | some (.table _ _) | some (.list _) | some .moment => True
  | _ => False

/-- The document is of the form of settings: sections are sections, and what stands under a key is a text. -/
structure HasForm (doc : Entries) : Prop where
  sections : ∀ key : Key, IsSection (doc.lookup key.path.1)
  texts : ∀ key : Key, ∀ value, held? doc key.path = some value → ∃ t, value = .text t

variable {doc : Entries} {raw : RawSettings} {key : Key} {found : Option Value} {names : List String}

/-- The texts of a section are taken from their places, one after the other. -/
theorem sectionOf?_of_isSection (h : IsSection found) (names : List String) :
    sectionOf? names found = names.zipIdx.mapM fun (name, i) => textOf? (member? found name.toList (some i)) := by
  have hnames : names.zipIdx.map Prod.fst = names := List.zipIdx_map_fst 0 names
  have habsent : (names.zipIdx.mapM fun _ => some (none : Option Text)) = some (names.map fun _ => none) := by
    rw [← hnames, List.map_map]
    conv_lhs => rw [hnames]
    exact List.mapM_pure
  match found with
  | none | some .moment => exact habsent.symm
  | some (.table _ entries) =>
    rw [sectionOf?]
    conv_lhs => rw [← hnames, List.mapM_map]
    rfl
  | some (.list items) => rfl

theorem sectionOf?_eq_none (h : ¬IsSection found) (names : List String) : sectionOf? names found = none := by
  match found with
  | none | some .moment | some (.table _ _) | some (.list _) => exact absurd trivial h
  | some (.text _) | some .scalar | some (.tables _) => rfl

/-- The texts of the one or two keys of a section. -/
theorem sectionOf?_pair (h : IsSection found) (first second : String) :
    sectionOf? [first, second] found =
      (textOf? (member? found first.toList (some 0))).bind fun t =>
        (textOf? (member? found second.toList (some 1))).map fun t' => [t, t'] := by
  rw [sectionOf?_of_isSection h]
  simp only [List.zipIdx_cons, List.zipIdx_nil, List.mapM_cons, List.mapM_nil, Nat.zero_add]
  cases textOf? (member? found first.toList (some 0)) <;>
    cases textOf? (member? found second.toList (some 1)) <;> rfl

theorem sectionOf?_single (h : IsSection found) (name : String) :
    sectionOf? [name] found = (textOf? (member? found name.toList (some 0))).map fun t => [t] := by
  rw [sectionOf?_of_isSection h]
  simp only [List.zipIdx_cons, List.zipIdx_nil, List.mapM_cons, List.mapM_nil]
  cases textOf? (member? found name.toList (some 0)) <;> rfl

/-- From a document with the right sections the text of each key is taken. -/
theorem rawOfEntries?_of_sections (h : ∀ key : Key, IsSection (doc.lookup key.path.1)) :
    rawOfEntries? doc = (do
      let level ← textOf? (held? doc Key.level.path)
      let file ← textOf? (held? doc Key.file.path)
      let java ← textOf? (held? doc Key.java.path)
      let plantumlJar ← textOf? (held? doc Key.plantumlJar.path)
      let configFile ← textOf? (held? doc Key.configFile.path)
      return { level, file, java, plantumlJar, configFile }) := by
  have hlogging : sectionOf? ["level", "file"] (doc.lookup "logging".toList) =
      (textOf? (held? doc Key.level.path)).bind fun t => (textOf? (held? doc Key.file.path)).map fun t' => [t, t'] :=
    sectionOf?_pair (h .level) "level" "file"
  have hrender : sectionOf? ["java", "plantuml_jar"] (doc.lookup "render".toList) =
      (textOf? (held? doc Key.java.path)).bind fun t =>
        (textOf? (held? doc Key.plantumlJar.path)).map fun t' => [t, t'] :=
    sectionOf?_pair (h .java) "java" "plantuml_jar"
  have htranslation : sectionOf? ["config_file"] (doc.lookup "translation".toList) =
      (textOf? (held? doc Key.configFile.path)).map fun t => [t] :=
    sectionOf?_single (h .configFile) "config_file"
  rw [rawOfEntries?, hlogging, hrender, htranslation]
  generalize textOf? (held? doc Key.level.path) = level
  generalize textOf? (held? doc Key.file.path) = file
  generalize textOf? (held? doc Key.java.path) = java
  generalize textOf? (held? doc Key.plantumlJar.path) = plantumlJar
  generalize textOf? (held? doc Key.configFile.path) = configFile
  cases level <;> cases file <;> cases java <;> cases plantumlJar <;> cases configFile <;> rfl

theorem isSection_of_rawOfEntries? (h : rawOfEntries? doc = some raw) (key : Key) :
    IsSection (doc.lookup key.path.1) := by
  have hsection : ∀ {names found texts}, sectionOf? names found = some texts → IsSection found := by
    intro names found texts htexts
    by_contra hno
    rw [sectionOf?_eq_none hno] at htexts
    cases htexts
  simp only [rawOfEntries?, Option.bind_eq_bind, Option.bind_eq_some_iff] at h
  obtain ⟨logging, hlogging, render, hrender, translation, htranslation, -⟩ := h
  cases key with
  | level | file => exact hsection hlogging
  | java | plantumlJar => exact hsection hrender
  | configFile => exact hsection htranslation

theorem textOf?_held? (h : HasForm doc) (key : Key) : textOf? (held? doc key.path) = some (written? doc key) := by
  rw [written?]
  cases hheld : held? doc key.path with
  | none => rfl
  | some value =>
    obtain ⟨t, rfl⟩ := h.texts key value hheld
    rfl

/-- A document gives texts exactly if it is of the form of settings, and then the text under each key. -/
theorem rawOfEntries?_eq_some_iff :
    rawOfEntries? doc = some raw ↔ HasForm doc ∧ ∀ key : Key, textFor? raw key = written? doc key := by
  constructor
  · intro h
    have hsections := isSection_of_rawOfEntries? h
    have htexts : ∀ key : Key, textOf? (held? doc key.path) = some (textFor? raw key) := by
      rw [rawOfEntries?_of_sections hsections] at h
      simp only [Option.bind_eq_bind, Option.bind_eq_some_iff] at h
      obtain ⟨level, hlevel, file, hfile, java, hjava, jar, hjar, configFile, hconfigFile, hraw⟩ := h
      obtain rfl := Option.some.inj hraw
      intro key
      cases key with
      | level => exact hlevel
      | file => exact hfile
      | java => exact hjava
      | plantumlJar => exact hjar
      | configFile => exact hconfigFile
    have hform : HasForm doc := by
      refine ⟨hsections, fun key value hheld => ?_⟩
      have htext := htexts key
      rw [hheld] at htext
      cases value with
      | text t => exact ⟨t, rfl⟩
      | _ => cases htext
    refine ⟨hform, fun key => ?_⟩
    have htext := htexts key
    rw [textOf?_held? hform, Option.some.injEq] at htext
    exact htext.symm
  · rintro ⟨hform, hraw⟩
    rw [rawOfEntries?_of_sections hform.sections]
    simp only [textOf?_held? hform, ← hraw]
    rfl

/-! ## Texts -/

variable {endsWord : (before after : Text) → Bool} {t w : Text}

theorem isAllBlank_iff : t.isAllBlank = true ↔ t.trimmed = [] := by
  rw [Text.trimmed_eq_iff, Text.isAllBlank, List.all_eq_true]
  constructor
  · intro h
    exact ⟨nofun, nofun, t, [], by simp, h, nofun⟩
  · rintro ⟨-, -, l, r, rfl, hl, hr⟩ c hc
    rw [List.nil_append, List.mem_append] at hc
    exact hc.elim (hl c) (hr c)

theorem visible?_eq (t : Text) : visible? t = if t.trimmed = [] then none else some t := by
  simp only [visible?, isAllBlank_iff]

/-- The acceptable texts under each key are those that are used. -/
theorem accepted?_eq (endsWord : (before after : Text) → Bool) : ∀ key : Key, key.accepted? endsWord =
    match key with
    | .level => level?
    | .file | .plantumlJar => Text.nonempty?
    | .java | .configFile => visible?
  | .level => (funext (level?_eq endsWord)).symm
  | .file | .plantumlJar => (funext Text.nonempty?_eq).symm
  | .java | .configFile => (funext visible?_eq).symm

/-- What is acceptable of the text for a key is used, and otherwise the default. -/
theorem value?_ofRaw (endsWord : (before after : Text) → Bool) (raw : RawSettings) (key : Key) :
    (ofRaw raw).1.value? key = ((textFor? raw key).bind (key.accepted? endsWord)).or (default.value? key) := by
  have hdefault : ∀ (found : Option Text) (t : Text), some (found.getD t) = found.or (some t) := by
    rintro (_ | _) t <;> rfl
  rw [accepted?_eq]
  cases key with
  | level | file | plantumlJar => exact Option.or_none.symm
  | java | configFile => exact hdefault _ _

/-- The text for a key that is given and not acceptable. -/
def refused? (endsWord : (before after : Text) → Bool) (key : Key) (given : Option Text) : Option Text :=
  given.filter fun t => (key.accepted? endsWord t).isNone

/-- There is one warning for each key that warns and whose text is not acceptable, in the order of the keys. -/
theorem warnings_ofRaw (endsWord : (before after : Text) → Bool) (raw : RawSettings) :
    (ofRaw raw).2 = Key.all.filterMap fun key => (refused? endsWord key (textFor? raw key)).bind key.warning? := by
  have hwarning : ∀ (key : Key) (accept : Text → Option Text) (warn : Text → Text),
      key.accepted? endsWord = accept → key.warning? = (fun t => some (warn t)) →
        ∀ given, (refused? endsWord key given).bind key.warning? = warning? accept warn given := by
    rintro key accept warn haccept hwarn (_ | t)
    · rfl
    · rw [refused?, haccept, hwarn, Option.filter, warning?]
      cases accept t <;> rfl
  have hsilent : ∀ (key : Key), key.warning? = (fun _ => none) →
      ∀ given, (refused? endsWord key given).bind key.warning? = none := fun key hkey given => by
    rw [hkey, Option.bind_fun_none]
  simp only [Key.all, List.filterMap_cons, List.filterMap_nil,
    hwarning .level _ _ (accepted?_eq endsWord .level) rfl, hsilent .file rfl,
    hwarning .java _ _ (accepted?_eq endsWord .java) rfl, hsilent .plantumlJar rfl,
    hwarning .configFile _ _ (accepted?_eq endsWord .configFile) rfl]
  rfl

/-! ## Settings files -/

/-- The settings and warnings that a document makes, key by key. -/
structure AreOf (endsWord : (before after : Text) → Bool) (doc : Entries) (settings : Settings)
    (warnings : List Text) : Prop where
  values : ∀ key, settings.value? key = ((written? doc key).bind (key.accepted? endsWord)).or (default.value? key)
  warned : warnings = Key.all.filterMap fun key => (refused? endsWord key (written? doc key)).bind key.warning?

variable {doc' : Entries} {settings settings' : Settings} {warnings warnings' : List Text} {t' : Text}

theorem ext_value? (h : ∀ key, settings.value? key = settings'.value? key) : settings = settings' := by
  have hlevel : settings.logLevel = settings'.logLevel := h .level
  have hfile : settings.logFile = settings'.logFile := h .file
  have hjava : settings.java = settings'.java := Option.some.inj (h .java)
  have hjar : settings.plantumlJar = settings'.plantumlJar := h .plantumlJar
  have hconfigFile : settings.configFile = settings'.configFile := Option.some.inj (h .configFile)
  cases settings
  cases settings'
  simp_all only

theorem areOf_ofRaw (endsWord : (before after : Text) → Bool) (h : ∀ key, textFor? raw key = written? doc key) :
    AreOf endsWord doc (ofRaw raw).1 (ofRaw raw).2 where
  values key := by rw [value?_ofRaw endsWord, h]
  warned := by
    rw [warnings_ofRaw endsWord]
    simp only [h]

/-- Only the texts of a document count. -/
theorem AreOf.congr (htexts : ∀ key, written? doc key = written? doc' key)
    (h : AreOf endsWord doc settings warnings) : AreOf endsWord doc' settings warnings where
  values key := by rw [h.values, htexts]
  warned := by
    rw [h.warned]
    simp only [htexts]

theorem AreOf.unique (h : AreOf endsWord doc settings warnings) (h' : AreOf endsWord doc settings' warnings') :
    settings = settings' ∧ warnings = warnings' :=
  ⟨ext_value? fun key => (h.values key).trans (h'.values key).symm, h.warned.trans h'.warned.symm⟩

/-- A settings file is read exactly if its document is of the right form, and then key by key. -/
theorem ofToml?_eq_some_iff (endsWord : (before after : Text) → Bool) (hdoc : document? t = some doc) :
    ofToml? t = some (settings, warnings) ↔ HasForm doc ∧ AreOf endsWord doc settings warnings := by
  rw [ofToml?, hdoc, Option.bind_some, Option.map_eq_some_iff]
  constructor
  · rintro ⟨raw, hraw, heq⟩
    obtain ⟨hform, htexts⟩ := rawOfEntries?_eq_some_iff.1 hraw
    have hare := areOf_ofRaw endsWord htexts
    rw [heq] at hare
    exact ⟨hform, hare⟩
  · rintro ⟨hform, hare⟩
    have htexts := textFor?_ofTexts (written? doc)
    obtain ⟨rfl, rfl⟩ := hare.unique (areOf_ofRaw endsWord htexts)
    exact ⟨_, rawOfEntries?_eq_some_iff.2 ⟨hform, htexts⟩, rfl⟩

theorem isSome_ofToml?_iff (hdoc : document? t = some doc) : (ofToml? t).isSome = true ↔ HasForm doc := by
  rw [ofToml?, hdoc, Option.bind_some, Option.isSome_map, Option.isSome_iff_exists]
  constructor
  · rintro ⟨raw, hraw⟩
    exact (rawOfEntries?_eq_some_iff.1 hraw).1
  · intro hform
    exact ⟨_, rawOfEntries?_eq_some_iff.2 ⟨hform, textFor?_ofTexts _⟩⟩

/-- A warning starts with the label of the key that it is about, and of no other one. -/
theorem isPrefixOf_warning {other : Key} (h : other.warning? t = some w) :
    key.label.isPrefixOf w = decide (other = key) := by
  cases other <;> cases key <;> cases h <;> rfl

/-- Each key stands once among the keys. -/
theorem filterMap_of_key (key : Key) (found : Key → Option Text) :
    (Key.all.filterMap fun other => if other = key then found other else none) = (found key).toList := by
  cases hfound : found key <;> cases key <;> simp [Key.all, hfound]

/-- The warnings about a key are the one that its text leads to, if there is one. -/
theorem filter_warnings (key : Key) (refused : Key → Option Text) :
    (Key.all.filterMap fun other => (refused other).bind other.warning?).filter key.label.isPrefixOf =
      ((refused key).bind key.warning?).toList := by
  have hother : ∀ other : Key, ((refused other).bind other.warning?).filter key.label.isPrefixOf =
      if other = key then (refused other).bind other.warning? else none := by
    intro other
    cases hwarning : (refused other).bind other.warning? with
    | none => simp
    | some w =>
      obtain ⟨t, -, hw⟩ := Option.bind_eq_some_iff.1 hwarning
      rw [Option.filter, isPrefixOf_warning hw]
      simp only [decide_eq_true_eq]
  rw [List.filter_filterMap]
  simp only [hother]
  exact filterMap_of_key key fun other => (refused other).bind other.warning?

/-- What is used for a level is a level, and what is used for a program or a configuration is not blank. -/
theorem AreOf.sound (h : AreOf endsWord doc settings warnings) :
    (∀ level, settings.logLevel = some level → level ∈ levels) ∧ settings.java.trimmed ≠ [] ∧
      settings.configFile.trimmed ≠ [] := by
  have hvisible : ∀ {given : Option Text} {used unset : Text}, unset.trimmed ≠ [] →
      some used = (given.bind fun t => if t.trimmed = [] then none else some t).or (some unset) →
        used.trimmed ≠ [] := by
    rintro (_ | t) used unset hunset hused
    · exact Option.some.inj hused ▸ hunset
    · by_cases ht : t.trimmed = []
      · rw [Option.bind_some, if_pos ht] at hused
        exact Option.some.inj hused ▸ hunset
      · rw [Option.bind_some, if_neg ht] at hused
        exact Option.some.inj hused ▸ ht
  refine ⟨fun level hlevel => ?_, hvisible (by decide) (h.values .java), hvisible (by decide) (h.values .configFile)⟩
  have hused : some level = ((written? doc .level).bind (Key.accepted? endsWord .level)).or none :=
    hlevel.symm.trans (h.values .level)
  rw [Option.or_none] at hused
  obtain ⟨t, -, ht⟩ := Option.bind_eq_some_iff.1 hused.symm
  rw [Key.accepted?, Option.ite_none_right_eq_some] at ht
  exact Option.some.inj ht.2 ▸ List.contains_iff_mem.1 ht.1

theorem HasForm.congr (h : ∀ key : Key, held? doc key.path = held? doc' key.path ∧
      (IsSection (doc.lookup key.path.1) ↔ IsSection (doc'.lookup key.path.1))) (hform : HasForm doc) :
    HasForm doc' where
  sections key := (h key).2.1 (hform.sections key)
  texts key value hvalue := hform.texts key value ((h key).1.trans hvalue)

/--
A settings file is read exactly if its document is of the form of settings. Each setting is the text under its own key
if that is acceptable, and the default otherwise, and there is one warning for each level, program and configuration
that is given and not acceptable, in this order. A level is always one of those that there are, and the program and the
configuration are never blank. Of two settings files whose documents hold the same under all paths but one, all settings
under other paths are equal, and so are the warnings about them; and files that differ only in what is no key of a
setting are read alike, if at all.
-/
theorem ofToml?_key_by_key (endsWord : (before after : Text) → Bool) {doc doc' : Entries} {t t' : Text}
    (hdoc : document? t = some doc) (hdoc' : document? t' = some doc') :
    ((ofToml? t).isSome = true ↔ HasForm doc) ∧
      (∀ settings warnings, ofToml? t = some (settings, warnings) →
        (∀ key, settings.value? key = ((written? doc key).bind (key.accepted? endsWord)).or (default.value? key)) ∧
        (warnings = Key.all.filterMap fun key => (refused? endsWord key (written? doc key)).bind key.warning?) ∧
        (∀ level, settings.logLevel = some level → level ∈ levels) ∧ settings.java.trimmed ≠ [] ∧
          settings.configFile.trimmed ≠ []) ∧
      (∀ settings warnings settings' warnings' path, ofToml? t = some (settings, warnings) →
        ofToml? t' = some (settings', warnings') → (∀ other, other ≠ path → held? doc other = held? doc' other) →
        ∀ key : Key, key.path ≠ path → settings.value? key = settings'.value? key ∧
          warnings.filter key.label.isPrefixOf = warnings'.filter key.label.isPrefixOf) ∧
      ((∀ key : Key, held? doc key.path = held? doc' key.path ∧
          (IsSection (doc.lookup key.path.1) ↔ IsSection (doc'.lookup key.path.1))) →
        ofToml? t = ofToml? t') := by
  refine ⟨isSome_ofToml?_iff hdoc, fun settings warnings h => ?_, ?_, ?_⟩
  · have hare := ((ofToml?_eq_some_iff endsWord hdoc).1 h).2
    exact ⟨hare.values, hare.warned, hare.sound⟩
  · intro settings warnings settings' warnings' path h h' hother key hkey
    have hare := ((ofToml?_eq_some_iff endsWord hdoc).1 h).2
    have hare' := ((ofToml?_eq_some_iff endsWord hdoc').1 h').2
    have hwritten : written? doc key = written? doc' key := by rw [written?, written?, hother _ hkey]
    refine ⟨by rw [hare.values, hare'.values, hwritten], ?_⟩
    rw [hare.warned, hare'.warned, filter_warnings key fun other => refused? endsWord other (written? doc other),
      filter_warnings key fun other => refused? endsWord other (written? doc' other), hwritten]
  · intro hsame
    have hforms : HasForm doc ↔ HasForm doc' :=
      ⟨HasForm.congr hsame, HasForm.congr fun key => ⟨(hsame key).1.symm, (hsame key).2.symm⟩⟩
    have hwritten : ∀ key, written? doc key = written? doc' key := fun key => by
      rw [written?, written?, (hsame key).1]
    refine Option.ext fun (settings, warnings) => ?_
    rw [ofToml?_eq_some_iff endsWord hdoc, ofToml?_eq_some_iff endsWord hdoc', hforms]
    exact and_congr_right fun _ => ⟨AreOf.congr hwritten, AreOf.congr fun key => (hwritten key).symm⟩

/--
A settings file with a level that is not known and one with a known level; they are laid out differently, and hold the
same otherwise. The small letter of `İ` is not the one of `I`.
-/
theorem ofToml?_key_by_key_two_levels :
    let t : Text := "[logging]\nlevel = \"İNFO\"\n[render]\njava = \" \\t\"\ncolour = true\n".toList
    let t' : Text := "render = \x7bjava = \" \\t\", colour = true\x7d\nlogging = [\"Trace\"]\n".toList
    let doc : Entries :=
      [("render".toList, .table .header [("colour".toList, .scalar), ("java".toList, .text " \t".toList)]),
        ("logging".toList, .table .header [("level".toList, .text "İNFO".toList)])]
    let doc' : Entries :=
      [("logging".toList, .list [.text "Trace".toList]),
        ("render".toList, .table .inline [("colour".toList, .scalar), ("java".toList, .text " \t".toList)])]
    let settings : Settings := ⟨none, none, "java".toList, none, "config.json".toList⟩
    let settings' : Settings := ⟨some "trace".toList, none, "java".toList, none, "config.json".toList⟩
    let warnings : List Text := [levelWarning "İNFO".toList, javaWarning]
    let warnings' : List Text := [javaWarning]
    document? t = some doc ∧ document? t' = some doc' ∧ HasForm doc ∧ ofToml? t = some (settings, warnings) ∧
      ofToml? t' = some (settings', warnings') ∧
      (∀ other, other ≠ Key.level.path → held? doc other = held? doc' other) ∧
      ∀ key, key ≠ Key.level → settings.value? key = settings'.value? key ∧
        warnings.filter key.label.isPrefixOf = warnings'.filter key.label.isPrefixOf := by
  intro t t' doc doc' settings settings' warnings warnings'
  have hdoc : document? t = some doc := by subst t doc; cbv
  have hdoc' : document? t' = some doc' := by subst t' doc'; cbv
  have hread : ofToml? t = some (settings, warnings) := by decide +kernel
  have hread' : ofToml? t' = some (settings', warnings') := by decide +kernel
  have hother : ∀ other, other ≠ Key.level.path → held? doc other = held? doc' other := by
    rintro ⟨heading, name⟩ hne
    by_cases hlogging : heading = "logging".toList
    · subst hlogging
      have hlevel : name ≠ "level".toList := fun h => hne (by rw [h]; rfl)
      have htable : [("level".toList, Value.text "İNFO".toList)].lookup name = none := by
        simp only [List.lookup_cons, beq_eq_false_iff_ne.2 hlevel, List.lookup_nil]
      have hlist : (["level".toList, "file".toList].idxOf? name).bind
          (fun i => [Value.text "Trace".toList][i]?) = none := by
        rw [List.idxOf?_cons, if_neg (by simpa using hlevel.symm), Option.bind_map]
        cases ["file".toList].idxOf? name <;> rfl
      exact htable.trans hlist.symm
    · by_cases hrender : heading = "render".toList
      · subst hrender
        rfl
      · simp only [held?, doc, doc', List.lookup_cons, beq_eq_false_iff_ne.2 hlogging, beq_eq_false_iff_ne.2 hrender,
          List.lookup_nil]
  refine ⟨hdoc, hdoc', ?_, hread, hread', hother, fun key hkey => ?_⟩
  · exact (ofToml?_key_by_key (fun _ _ => false) hdoc hdoc').1.1 (by rw [hread]; rfl)
  · refine (ofToml?_key_by_key (fun _ _ => false) hdoc hdoc').2.2.1 _ _ _ _ _ hread hread' hother key fun hpath => ?_
    cases key with
    | level => exact hkey rfl
    | file | java | plantumlJar | configFile => exact absurd hpath (by decide)

end Settings

end LogDiagram
