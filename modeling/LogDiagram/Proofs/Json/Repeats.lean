import LogDiagram.Proofs.Json.Openings
import LogDiagram.Proofs.Json.Records

/-!
# Keys of a record that are given twice

A decoder of records refuses a key that stands for a part which was given before, as soon as it is read.

* `EndsInRepeat`: the texts that end with such a key, well formed and without another one up to there, at any depth;
* `Refuses`, `refuses_record`: a decoder of records refuses them, whatever follows;
* `givenNames`, `putMembers_append`: which parts the members of an object give, and what is put behind them;
* `WritesMembers.insert`: members with other keys may be put anywhere in an object, repeated or not.
-/

namespace LogDiagram.Json

/-! ## Texts that end with a repeat -/

/-- Texts that end with a key which is given twice, each with the main name of that key. -/
abbrev Fronts := Text → String → Prop

section Texts

variable {σ : Type}

/-- The member has a key of the part. -/
def RecordPart.IsGivenBy (part : RecordPart σ) (m : Member) : Prop :=
  ∃ name ∈ part.names, WritesString name.toList m.key

/-- The front of a list of which some values and a part of the next one are written. -/
def EndsInItem {α : Type} (spelling : Spelling α) (fronts : Fronts) : Fronts := fun t name =>
  ∃ values items opened front,
    Opened '[' items opened ∧ List.Forall₂ spelling values items ∧ fronts front name ∧ t = opened ++ front

/-- The front of a record up to a key that is given twice, in the record itself or in the value of a part that is told
by `nested`. All of a record that is written before the key is well formed and repeats no part. -/
inductive EndsInRepeat (parts : List (RecordPart σ)) (nested : List (String × Fronts)) : Fronts
  /-- A part that was given is given again, by the same key or by another one. -/
  | again {record : σ} {members : List Member} {t written : Text} {part : RecordPart σ} {main key : String}
    {others : List String} : Opened '\x7b' (members.map Member.text) t → WritesMembers parts record parts members →
    part ∈ parts → part.names = main :: others → (∃ m ∈ members, part.IsGivenBy m) →
    key ∈ part.names → WritesString key.toList written → EndsInRepeat parts nested (t ++ quote written) main
  /-- In the value of a part that was not given before. -/
  | member {record : σ} {members : List Member} {m : Member} {t : Text} {part : RecordPart σ} {key name : String}
    {fronts : Fronts} : Opened '\x7b' (members.map Member.text) t → WritesMembers parts record parts members →
    part ∈ parts → (∀ m ∈ members, ¬part.IsGivenBy m) → part.IsGivenBy m → key ∈ part.names →
    (key, fronts) ∈ nested → fronts m.value name → EndsInRepeat parts nested (t ++ m.text) name
  /-- In the value of a part of a record that is written as a list. -/
  | item {record : σ} {items : List Text} {t front : Text} {given missing : List (RecordPart σ)} {part : RecordPart σ}
    {key name : String} {fronts : Fronts} : Opened '[' items t → parts = given ++ part :: missing →
    List.Forall₂ (fun part item => part.Spells record item) given items → key ∈ part.names →
    (key, fronts) ∈ nested → fronts front name → EndsInRepeat parts nested (t ++ front) name

/-- What is written between quotes has one meaning. -/
theorem WritesString.unique {meaning meaning' w : Text} (h : WritesString meaning w) (h' : WritesString meaning' w) :
    meaning = meaning' := by
  have hread := (readString_of_writesString h []).symm.trans (readString_of_writesString h' [])
  exact Json.string.inj (Prod.mk.inj hread).1

/-- Members with other keys than all the parts may be put anywhere, also with keys that are there already. -/
theorem WritesMembers.insert {parts remaining : List (RecordPart σ)} {record : σ} {before after extra : List Member}
    (h : WritesMembers parts record remaining (before ++ after))
    (hextra : ∀ m ∈ extra, ∃ key, WritesString key m.key ∧ (∀ part ∈ parts, ∀ name ∈ part.names, name.toList ≠ key) ∧
      IsValue m.value) :
    WritesMembers parts record remaining (before ++ (extra ++ after)) := by
  have hfront : ∀ {remaining}, WritesMembers parts record remaining after →
      WritesMembers parts record remaining (extra ++ after) := by
    intro remaining hafter
    induction extra with
    | nil => exact hafter
    | cons m extra ih =>
      obtain ⟨key, hkey, hother, hvalue⟩ := hextra m List.mem_cons_self
      exact .other hkey hother hvalue (ih fun m hm => hextra m (List.mem_cons_of_mem _ hm))
  induction before generalizing remaining with
  | nil => exact hfront h
  | cons m before ih =>
    rw [List.cons_append] at h
    cases h with
    | other hkey hother hvalue hrest => exact .other hkey hother hvalue (ih hrest)
    | part hname hkey hspells hrest => exact .part hname hkey hspells (ih hrest)

/-- Each member has a key with a meaning. -/
theorem WritesMembers.exists_key {parts remaining : List (RecordPart σ)} {record : σ} {members : List Member}
    (h : WritesMembers parts record remaining members) : ∀ m ∈ members, ∃ key, WritesString key m.key := by
  induction h with
  | done _ => exact fun _ hm => nomatch hm
  | other hkey _ _ _ ih => exact List.forall_mem_cons.2 ⟨⟨_, hkey⟩, ih⟩
  | part _ hkey _ _ ih => exact List.forall_mem_cons.2 ⟨⟨_, hkey⟩, ih⟩

end Texts

/-! ## Decoders refuse them -/

/-- The decoder refuses the values that start like this, whatever follows. -/
structure Refuses {α : Type} (decoder : Decoder α) (fronts : Fronts) : Prop where
  starts : ∀ front name, fronts front name → Starts front
  refuse : ∀ front name, fronts front name → ∀ fuel rest, 2 * front.length ≤ fuel →
    decoder (readValue fuel (front ++ rest)).1 = .error (.duplicateField name.toList)

section Refusing

theorem Starts.append {t : Text} (h : Starts t) (rest : Text) : Starts (t ++ rest) := by
  obtain ⟨c, u, rfl, hspace, hne⟩ := h
  exact ⟨c, u ++ rest, rfl, hspace, hne⟩

theorem starts_of_opened {opening : Char} {items : List Text} {t : Text} (h : Opened opening items t)
    (hopening : isSpacing opening = false ∧ opening ≠ ']') : Starts t := by
  cases h with
  | none _ => exact ⟨opening, _, rfl, hopening⟩
  | some _ _ => exact ⟨opening, _, rfl, hopening⟩

theorem length_pos_of_opened {opening : Char} {items : List Text} {t : Text} (h : Opened opening items t) :
    0 < t.length := by
  cases h with
  | none _ => exact Nat.succ_pos _
  | some _ _ => exact Nat.succ_pos _

variable {α : Type} {decoder : Decoder α} {spelling : Spelling α} {fronts : Fronts}

theorem mapM_eq_error {β : Type} {decode : β → Except JsonProblem α} {items more : List β} {values : List α} {item : β}
    {problem : JsonProblem} (h : List.Forall₂ (fun value item => decode item = .ok value) values items)
    (hitem : decode item = .error problem) : (items ++ item :: more).mapM decode = .error problem := by
  rw [List.mapM_append, mapM_eq_ok h, List.mapM_cons, hitem]
  rfl

/-- A list whose next item is refused is refused. -/
theorem refuses_list (hdecodes : Decodes decoder spelling) (h : Refuses decoder fronts) :
    Refuses (asList decoder) (EndsInItem spelling fronts) := by
  refine ⟨?_, ?_⟩
  · rintro _ name ⟨_, _, opened, front, hopened, -, -, rfl⟩
    exact (starts_of_opened hopened (by decide)).append front
  · rintro _ name ⟨values, items, opened, front, hopened, hitems, hfront, rfl⟩ fuel rest hfuel
    obtain ⟨jsons, hreads, hvalues⟩ := exists_forall₂_between hitems hdecodes
    have hlength := length_pos_of_opened hopened
    rw [List.length_append] at hfuel
    have hstarts := (h.starts front name hfront).append rest
    have hlarge : opened.length + (2 * front.length + 1) ≤ fuel := by omega
    obtain ⟨fuel', more, ending, hk, hread⟩ := exists_array_of_opened hopened hreads hstarts hlarge
    rw [List.append_assoc, hread, asList, mapM_eq_error hvalues (h.refuse front name hfront fuel' rest hk)]
    rfl

theorem Refuses.map {β : Type} (h : Refuses decoder fronts) (f : α → β) :
    Refuses (fun json => (decoder json).map f) fronts := by
  refine ⟨h.starts, fun front name hfront fuel rest hfuel => ?_⟩
  rw [h.refuse front name hfront fuel rest hfuel]
  rfl

/-- A text that starts like this is refused, whatever follows. -/
theorem decode_of_refuses (h : Refuses decoder fronts) {before front : Text} {name : String} (hbefore : IsSpace before)
    (hfront : fronts front name) (rest : Text) :
    decode decoder (before ++ (front ++ rest)) = .error (.duplicateField name.toList) := by
  have hfuel : 2 * front.length ≤ 2 * (before ++ (front ++ rest)).length + 2 := by
    simp only [List.length_append]
    omega
  rw [decode, Json.read, readValue_append hbefore]
  simp only [h.refuse front name hfront _ rest hfuel]

end Refusing

section Records

variable {σ : Type} {d start record record' : σ} {field : RecordField σ} {fields : List (RecordField σ)}
  {part : RecordPart σ} {parts given missing : List (RecordPart σ)} {entries : List (Json × Json)}
  {members : List Member} {seen : List String} {key : Text}

/-- The main names of the fields that members give. -/
def givenNames (fields : List (RecordField σ)) (entries : List (Json × Json)) : List String :=
  entries.filterMap fun entry =>
    match entry.1 with
    | .string key => (fields.find? fun field => field.isCalled key).map (·.name)
    | _ => none

theorem givenNames_cons_of_none {value : Json} (h : fields.find? (fun field => field.isCalled key) = none) :
    givenNames fields ((.string key, value) :: entries) = givenNames fields entries := by
  simp [givenNames, h]

theorem givenNames_cons_of_some {value : Json} (h : fields.find? (fun field => field.isCalled key) = some field) :
    givenNames fields ((.string key, value) :: entries) = field.name :: givenNames fields entries := by
  simp [givenNames, h]

theorem asText_eq_ok {json : Json} {t : Text} (h : asText json = .ok t) : json = .string t := by
  cases json with
  | string u => exact congrArg string (Except.ok.inj h)
  | _ => cases h

/-- A member that is put into a record has another key than all fields or is the first one that gives its field. -/
theorem putMembers_cons_eq_ok {json value : Json}
    (h : putMembers fields seen record ((json, value) :: entries) = .ok record') :
    ∃ key, json = .string key ∧
      ((fields.find? (fun field => field.isCalled key) = none ∧ value.skipFault? = none ∧
          putMembers fields seen record entries = .ok record') ∨
        ∃ field next, fields.find? (fun field => field.isCalled key) = some field ∧
          seen.contains field.name = false ∧ field.put record value = .ok next ∧
          putMembers fields (field.name :: seen) next entries = .ok record') := by
  rw [putMembers] at h
  cases hkey : asText json with
  | error problem =>
    rw [hkey] at h
    cases h
  | ok key =>
    rw [hkey] at h
    refine ⟨key, asText_eq_ok hkey, ?_⟩
    simp only at h
    split at h
    · next hfind =>
      split at h
      · cases h
      · next hskip => exact .inl ⟨hfind, hskip, h⟩
    · next field hfind =>
      split at h
      · cases h
      · next hnew =>
        split at h
        · cases h
        · next next hput => exact .inr ⟨field, next, hfind, Bool.eq_false_iff.2 hnew, hput, h⟩

/-- Behind members that were put, the next ones are put with the names that those gave. -/
theorem putMembers_append (h : putMembers fields seen record entries = .ok record') (more : List (Json × Json)) :
    putMembers fields seen record (entries ++ more) =
      putMembers fields ((givenNames fields entries).reverse ++ seen) record' more := by
  induction entries generalizing seen record with
  | nil =>
    rw [putMembers] at h
    obtain rfl := Except.ok.inj h
    rfl
  | cons entry entries ih =>
    obtain ⟨json, value⟩ := entry
    rcases putMembers_cons_eq_ok h with ⟨key, rfl, ⟨hfind, hskip, hrest⟩ | ⟨field, next, hfind, hnew, hput, hrest⟩⟩
    · rw [givenNames_cons_of_none hfind, ← ih hrest, List.cons_append, putMembers]
      simp only [asText, hfind, hskip]
    · rw [givenNames_cons_of_some hfind, List.reverse_cons, List.append_assoc, List.singleton_append, ← ih hrest,
        List.cons_append, putMembers]
      simp only [asText, hfind, hnew, hput, Bool.false_eq_true, if_false]

theorem mem_givenNames {name : String} :
    name ∈ givenNames fields entries ↔ ∃ key value field, (.string key, value) ∈ entries ∧
      fields.find? (fun field => field.isCalled key) = some field ∧ field.name = name := by
  rw [givenNames, List.mem_filterMap]
  constructor
  · rintro ⟨⟨json, value⟩, hmem, hname⟩
    cases json with
    | string key =>
      obtain ⟨field, hfind, hfield⟩ := Option.map_eq_some_iff.1 hname
      exact ⟨key, value, field, hmem, hfind, hfield⟩
    | _ => cases hname
  · rintro ⟨key, value, field, hmem, hfind, hname⟩
    exact ⟨_, hmem, Option.map_eq_some_iff.2 ⟨field, hfind, hname⟩⟩

/-- A key that is read has the meaning that was written. -/
theorem readsMember_key {m : Member} {entry : Json × Json} (h : ReadsMember m entry) (hkey : WritesString key m.key) :
    entry.1 = .string key := by
  have hread := (h.key []).symm.trans (readString_of_writesString hkey [])
  exact (Prod.mk.inj hread).1

/-- A part is among those that were given if a member has one of its keys. -/
theorem mem_givenNames_iff (h : FitsRecord fields parts start) (hwrites : WritesMembers parts d parts members)
    (hreads : List.Forall₂ ReadsMember members entries) (hpart : part ∈ parts) {main : String} {others : List String}
    (hmain : part.names = main :: others) :
    main ∈ givenNames fields entries ↔ ∃ m ∈ members, part.IsGivenBy m := by
  rw [mem_givenNames]
  constructor
  · rintro ⟨key, value, field, hentry, hfind, rfl⟩
    obtain ⟨m, hm, hread⟩ := exists_mem_of_forall₂ hreads.flip hentry
    obtain ⟨key', hkey⟩ := hwrites.exists_key m hm
    obtain rfl : key = key' := Json.string.inj (readsMember_key hread hkey)
    obtain ⟨p, hp, hfits⟩ := exists_mem_of_forall₂ h.fits (List.mem_of_find?_eq_some hfind)
    have hcalled : field.isCalled key = true := by simpa using List.find?_some hfind
    obtain ⟨name, hname, rfl⟩ := (isCalled_iff hfits key).1 hcalled
    -- both parts have the main name, so they are one
    have hself : field.name ∈ p.names := hfits.names ▸ List.mem_cons_self
    obtain ⟨g, hg, hgp⟩ := find?_field h.fits h.disjoint hp hself
    obtain ⟨g', hg', hgpart⟩ := find?_field h.fits h.disjoint hpart (hmain ▸ List.mem_cons_self)
    obtain rfl : g = g' := Option.some.inj (hg.symm.trans hg')
    exact ⟨m, hm, name, hgpart.names ▸ hgp.names ▸ hname, hkey⟩
  · rintro ⟨m, hm, name, hname, hkey⟩
    obtain ⟨⟨json, value⟩, hentry, hread⟩ := exists_mem_of_forall₂ hreads hm
    obtain rfl : json = .string name.toList := readsMember_key hread hkey
    obtain ⟨field, hfind, hfits⟩ := find?_field h.fits h.disjoint hpart hname
    refine ⟨name.toList, value, field, hentry, hfind, ?_⟩
    exact (List.cons.inj (hfits.names.symm.trans hmain)).1

/-- In an opened object the next member is decoded behind those that make up a record so far. -/
theorem asRecord_opened (h : FitsRecord fields parts start) {t : Text}
    (hopened : Opened '\x7b' (members.map Member.text) t) (hwrites : WritesMembers parts d parts members)
    {fuel k : Nat} (hfuel : t.length + (k + 1) ≤ fuel) (u : Text) (wanted : String) :
    ∃ entries fuel', List.Forall₂ ReadsMember members entries ∧ k ≤ fuel' ∧
      ∀ problem, (∀ more, putMembers fields (givenNames fields entries).reverse d
          (((readString u).1, memberValue fuel' u) :: more) = .error problem) →
        asRecord wanted fields start (readValue fuel (t ++ '"' :: u)).1 = .error problem := by
  have hperm : ([] ++ parts).Perm parts := List.Perm.refl parts
  have hseen : ∀ name ∈ ([] : List String), ∃ p ∈ ([] : List (RecordPart σ)), name ∈ p.names :=
    fun _ hname => nomatch hname
  obtain ⟨entries, hreads, hput⟩ := putMembers_of_writesMembers h hwrites hperm hseen
  change putMembers fields [] start entries = .ok d at hput
  obtain ⟨fuel', more, ending, hk, hread⟩ := exists_object_of_opened hopened hreads hfuel u
  refine ⟨entries, fuel', hreads, hk, fun problem hproblem => ?_⟩
  rw [hread, asRecord, putMembers_append hput, List.append_nil, hproblem more]
  rfl

/-- A key of a part that the members gave is refused with its main name. -/
theorem putMembers_again (h : FitsRecord fields parts start) (hwrites : WritesMembers parts d parts members)
    (hreads : List.Forall₂ ReadsMember members entries) (hpart : part ∈ parts) {main name : String}
    {others : List String} (hmain : part.names = main :: others) (hgiven : ∃ m ∈ members, part.IsGivenBy m)
    (hname : name ∈ part.names) (value : Json) (more : List (Json × Json)) :
    putMembers fields (givenNames fields entries).reverse d ((.string name.toList, value) :: more) =
      .error (.duplicateField main.toList) := by
  obtain ⟨field, hfind, hfits⟩ := find?_field h.fits h.disjoint hpart hname
  obtain rfl : field.name = main := (List.cons.inj (hfits.names.symm.trans hmain)).1
  have hseen : (givenNames fields entries).reverse.contains field.name = true := by
    rw [List.contains_iff_mem, List.mem_reverse]
    exact (mem_givenNames_iff h hwrites hreads hpart hmain).2 hgiven
  rw [putMembers]
  simp only [asText, hfind, hseen, if_true]

/-- The value of a part that no member gave is put into the record, so it is refused for what is wrong in it. -/
theorem putMembers_new (h : FitsRecord fields parts start) (hwrites : WritesMembers parts d parts members)
    (hreads : List.Forall₂ ReadsMember members entries) (hpart : part ∈ parts)
    (hnew : ∀ m ∈ members, ¬part.IsGivenBy m) {name : String} (hname : name ∈ part.names) :
    ∃ field ∈ fields, Fits field part ∧ ∀ value problem, field.put d value = .error problem → ∀ more,
      putMembers fields (givenNames fields entries).reverse d ((.string name.toList, value) :: more) =
        .error problem := by
  obtain ⟨field, hfind, hfits⟩ := find?_field h.fits h.disjoint hpart hname
  refine ⟨field, List.mem_of_find?_eq_some hfind, hfits, fun value problem hput more => ?_⟩
  have hseen : (givenNames fields entries).reverse.contains field.name = false := by
    rw [← Bool.not_eq_true, List.contains_iff_mem, List.mem_reverse,
      mem_givenNames_iff h hwrites hreads hpart hfits.names]
    exact fun ⟨m, hm, hgiven⟩ => hnew m hm hgiven
  rw [putMembers]
  simp only [asText, hfind, hseen, hput, Bool.false_eq_true, if_false]

/-- The fields refuse the values that start as `nested` tells. -/
def FieldsRefuse (fields : List (RecordField σ)) (nested : List (String × Fronts)) : Prop :=
  ∀ key fronts, (key, fronts) ∈ nested → ∀ field ∈ fields, field.isCalled key.toList = true →
    ∀ record, Refuses (field.put record) fronts

theorem fieldsRefuse_nil : FieldsRefuse fields [] := fun _ _ hmem => absurd hmem List.not_mem_nil

/-- The only field that is called by a name refuses what its decoder refuses. -/
theorem FieldsRefuse.cons {α : Type} {decoder : Decoder α} {set : σ → α → σ} {name : String} {fronts : Fronts}
    {nested : List (String × Fronts)} (hnested : FieldsRefuse fields nested) (h : Refuses decoder fronts)
    (hone : fields.filter (fun field => field.isCalled name.toList) = [.of name decoder set]) :
    FieldsRefuse fields ((name, fronts) :: nested) := by
  intro key fronts' hmem field hfield hcalled record
  rcases List.mem_cons.1 hmem with heq | hmem
  · obtain ⟨rfl, rfl⟩ := Prod.mk.inj heq
    have hfiltered : field ∈ fields.filter fun field => field.isCalled key.toList :=
      List.mem_filter.2 ⟨hfield, hcalled⟩
    rw [hone] at hfiltered
    obtain rfl := List.mem_singleton.1 hfiltered
    exact h.map _
  · exact hnested key fronts' hmem field hfield hcalled record

/-- A decoder of records refuses a part that is given twice, and what the decoders of its parts refuse. -/
theorem refuses_record (h : FitsRecord fields parts start) {nested : List (String × Fronts)}
    (hnested : FieldsRefuse fields nested) (wanted : String) :
    Refuses (asRecord wanted fields start) (EndsInRepeat parts nested) := by
  have hput : ∀ {part key fronts field}, key ∈ part.names → (key, fronts) ∈ nested → field ∈ fields →
      Fits field part → ∀ record, Refuses (field.put record) fronts := fun hkey hmem hfield hfits =>
    hnested _ _ hmem _ hfield ((isCalled_iff hfits _).2 ⟨_, hkey, rfl⟩)
  refine ⟨?_, ?_⟩
  · rintro _ name (⟨hopened, -⟩ | ⟨hopened, -⟩ | ⟨hopened, -⟩)
    · exact (starts_of_opened hopened (by decide)).append _
    · exact (starts_of_opened hopened (by decide)).append _
    · exact (starts_of_opened hopened (by decide)).append _
  · intro front name hfront fuel rest hfuel
    cases hfront with
    | @again record members t written part _ key others hopened hwrites hpart hmain hgiven hkey hwritten =>
      have hlength := length_pos_of_opened hopened
      have htext : t ++ quote written ++ rest = t ++ '"' :: (written ++ '"' :: rest) := by simp [quote]
      simp only [List.length_append, quote, List.length_cons] at hfuel
      have hlarge : t.length + (0 + 1) ≤ fuel := by omega
      obtain ⟨entries, fuel', hreads, -, hproblem⟩ :=
        asRecord_opened h hopened hwrites hlarge (written ++ '"' :: rest) wanted
      rw [htext]
      refine hproblem _ fun more => ?_
      rw [readString_of_writesString hwritten rest]
      exact putMembers_again h hwrites hreads hpart hmain hgiven hkey _ more
    | @member record members m t part key _ fronts hopened hwrites hpart hnew hgiven hkey hmem hinner =>
      obtain ⟨given, hname, hwritten⟩ := hgiven
      have hlength := length_pos_of_opened hopened
      let behind : Text := m.beforeColon ++ ':' :: (m.afterColon ++ (m.value ++ rest))
      have htext : t ++ m.text ++ rest = t ++ '"' :: (m.key ++ '"' :: behind) := by simp [Member.text, quote, behind]
      simp only [List.length_append, Member.text, List.length_cons] at hfuel
      have hlarge : t.length + (2 * m.value.length + 1) ≤ fuel := by omega
      obtain ⟨entries, fuel', hreads, hk, hproblem⟩ :=
        asRecord_opened h hopened hwrites hlarge (m.key ++ '"' :: behind) wanted
      obtain ⟨field, hfield, hfits, hrefused⟩ := putMembers_new h hwrites hreads hpart hnew hname
      have hread := readString_of_writesString hwritten behind
      have hvalue : memberValue fuel' (m.key ++ '"' :: behind) = (readValue fuel' (m.value ++ rest)).1 := by
        rw [memberValue_of_colon hread m.beforeColon_isSpace, readValue_append m.afterColon_isSpace]
      rw [htext]
      refine hproblem _ fun more => ?_
      rw [hread, hvalue]
      exact hrefused _ _ ((hput hkey hmem hfield hfits record).refuse _ _ hinner fuel' rest hk) more
    | @item record items t front given missing part key _ fronts hopened hparts hitems hkey hmem hinner =>
      have hlength := length_pos_of_opened hopened
      rw [List.length_append] at hfuel
      have hfits := h.fits
      rw [hparts] at hfits
      obtain ⟨jsons, fields', hreads, hfits', hsubset, hitemsPut⟩ := putItems_of_forall₂ hfits hitems start
      obtain ⟨field, others, hfit, -, rfl⟩ := List.forall₂_cons_right_iff.1 hfits'
      have hrefuses := hput hkey hmem (hsubset List.mem_cons_self) hfit
      have hlarge : t.length + (2 * front.length + 1) ≤ fuel := by omega
      obtain ⟨fuel', more, ending, hk, hread⟩ :=
        exists_array_of_opened hopened hreads (((hrefuses record).starts _ _ hinner).append rest) hlarge
      rw [List.append_assoc, hread, asRecord, hitemsPut, putItems]
      simp only [(hrefuses _).refuse _ _ hinner fuel' rest hk]

end Records

end LogDiagram.Json
