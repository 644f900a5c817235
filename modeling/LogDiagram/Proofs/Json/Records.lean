import Mathlib.Data.List.Perm.Basic
import LogDiagram.Proofs.Json.Reading

/-!
# Data written in JSON

A `Spelling` tells which texts write a piece of data. A record is written as an object, with its parts in any order and
other members between them, or as a list of its parts in order; parts that have their defaults may be left out.

* `Spelling.text`, `Spelling.flag`, `Spelling.optional`, `Spelling.list`, `Spelling.textPairs`: the spellings of plain
  shapes;
* `RecordPart` and `Spelling.record`: the spellings of records;
* `Decodes`: a decoder gives back what was written;
* `decodes_record`: a decoder of records gives back a record in each of its spellings;
* `Spelling.IsTotal`: all data can be written.
-/

namespace LogDiagram.Json

/-- Which texts write a piece of data. -/
abbrev Spelling (α : Type) := α → Text → Prop

/-! ## Plain shapes -/

namespace Spelling

variable {α : Type}

/-- A text. -/
def text : Spelling Text := fun meaning t => ∃ w, WritesString meaning w ∧ t = quote w

/-- A truth value. -/
def flag : Spelling Bool := fun value t => t = if value then "true".toList else "false".toList

/-- A value or `null`. -/
def optional (spelling : Spelling α) : Spelling (Option α)
  | none, t => t = "null".toList
  | some value, t => spelling value t

/-- A list. -/
def list (spelling : Spelling α) : Spelling (List α) := fun values t =>
  ∃ items, Enclosed '[' ']' items t ∧ List.Forall₂ spelling values items

/-- Keys and texts as the members of an object, in order. -/
def textPairs : Spelling (List (Text × Text)) := fun pairs t =>
  ∃ members : List Member, Enclosed '\x7b' '\x7d' (members.map Member.text) t ∧
    List.Forall₂ (fun pair m => WritesString pair.1 m.key ∧ text pair.2 m.value) pairs members

end Spelling

/-! ## Records -/

/-- A part of a record. -/
structure RecordPart (σ : Type) where
  /-- The keys that the part may have in an object. -/
  names : List String
  /-- The part may be left out. -/
  IsDefault : σ → Prop
  /-- What writes the part of a record. -/
  Spells : Spelling σ
  /-- A record with this part of another one. -/
  copy : (other record : σ) → σ

namespace RecordPart

variable {σ α : Type}

/-- A part with a single key. -/
def of (name : String) (get : σ → α) (set : σ → α → σ) (default : α) (spelling : Spelling α) : RecordPart σ where
  names := [name]
  IsDefault record := get record = default
  Spells record := spelling (get record)
  copy other record := set record (get other)

/-- A part that has another key as well. -/
def also (part : RecordPart σ) (name : String) : RecordPart σ := { part with names := part.names ++ [name] }

end RecordPart

section Spellings

variable {σ : Type}

/-- Members of an object that write the parts in `remaining` of a record, in any order. What has another key than all
the parts of the record does not count. -/
inductive WritesMembers (parts : List (RecordPart σ)) (record : σ) :
    (remaining : List (RecordPart σ)) → List Member → Prop
  | done {remaining : List (RecordPart σ)} : (∀ part ∈ remaining, part.IsDefault record) →
    WritesMembers parts record remaining []
  | other {remaining : List (RecordPart σ)} {m : Member} {ms : List Member} {key : Text} : WritesString key m.key →
    (∀ part ∈ parts, ∀ name ∈ part.names, name.toList ≠ key) → IsValue m.value →
    WritesMembers parts record remaining ms → WritesMembers parts record remaining (m :: ms)
  | part {before after : List (RecordPart σ)} {part : RecordPart σ} {m : Member} {ms : List Member} {name : String} :
    name ∈ part.names → WritesString name.toList m.key → part.Spells record m.value →
    WritesMembers parts record (before ++ after) ms → WritesMembers parts record (before ++ part :: after) (m :: ms)

/-- A record as an object, or as a list of its parts in order. -/
inductive Spelling.record (parts : List (RecordPart σ)) : Spelling σ
  | object {record : σ} {members : List Member} {t : Text} :
    Enclosed '\x7b' '\x7d' (members.map Member.text) t → WritesMembers parts record parts members →
    Spelling.record parts record t
  | array {record : σ} {given missing : List (RecordPart σ)} {items : List Text} {t : Text} :
    Enclosed '[' ']' items t → parts = given ++ missing → (∀ part ∈ missing, part.IsDefault record) →
    List.Forall₂ (fun part item => part.Spells record item) given items → Spelling.record parts record t

end Spellings

/-! ## Decoders of plain shapes -/

/-- The decoder gives back what was written. -/
def Decodes {α : Type} (decoder : Decoder α) (spelling : Spelling α) : Prop :=
  ∀ value t, spelling value t → ∃ json, Reads t json ∧ decoder json = .ok value

section Shapes

variable {α : Type} {decoder : Decoder α} {spelling : Spelling α}

theorem decodes_text : Decodes asText Spelling.text := by
  rintro meaning _ ⟨w, hw, rfl⟩
  exact ⟨.string meaning, reads_quote (readString_of_writesString hw), rfl⟩

theorem decodes_flag : Decodes asFlag Spelling.flag := by
  rintro value _ rfl
  exact ⟨.boolean value, reads_boolean value, rfl⟩

/-- A decoder of values that are never `null` decodes what may be absent. -/
theorem decodes_optional (h : Decodes decoder spelling) (hnull : ∀ value, decoder .null ≠ .ok value) :
    Decodes (asOptional decoder) (Spelling.optional spelling) := by
  intro value t ht
  cases value with
  | none =>
    obtain rfl : t = "null".toList := ht
    exact ⟨.null, reads_null, rfl⟩
  | some value =>
    obtain ⟨json, hreads, hjson⟩ := h value t ht
    refine ⟨json, hreads, ?_⟩
    rw [asOptional]
    · rw [hjson]
      rfl
    · rintro rfl
      exact hnull value hjson

theorem mapM_eq_ok {β : Type} {decode : β → Except JsonProblem α} {items : List β} {values : List α}
    (h : List.Forall₂ (fun value item => decode item = .ok value) values items) : items.mapM decode = .ok values := by
  induction h with
  | nil => rfl
  | cons hitem _ ih =>
    rw [List.mapM_cons, hitem, ih]
    rfl

theorem decodes_list (h : Decodes decoder spelling) : Decodes (asList decoder) (Spelling.list spelling) := by
  rintro values t ⟨items, henclosed, hitems⟩
  obtain ⟨jsons, hreads, hvalues⟩ := exists_forall₂_between hitems h
  refine ⟨.array jsons none, reads_array henclosed hreads, ?_⟩
  rw [asList, mapM_eq_ok hvalues]
  rfl

theorem decodes_textPairs (wanted : String) : Decodes (asTextPairs wanted) Spelling.textPairs := by
  rintro pairs t ⟨members, henclosed, hmembers⟩
  have hmember : ∀ (pair : Text × Text) (m : Member), WritesString pair.1 m.key ∧ Spelling.text pair.2 m.value →
      ∃ entry : Json × Json, ReadsMember m entry ∧ entry.1 = .string pair.1 ∧ asText entry.2 = .ok pair.2 := by
    rintro pair m ⟨hkey, hvalue⟩
    obtain ⟨json, hreads, hjson⟩ := decodes_text pair.2 m.value hvalue
    exact ⟨(.string pair.1, json), ⟨readString_of_writesString hkey, hreads⟩, rfl, hjson⟩
  obtain ⟨entries, hreads, hentries⟩ := exists_forall₂_between hmembers hmember
  refine ⟨.object entries none, reads_object henclosed hreads, ?_⟩
  rw [asTextPairs, @mapM_eq_ok _ _ _ entries pairs]
  · rfl
  · refine hentries.imp ?_
    rintro ⟨search, replace⟩ ⟨key, value⟩ ⟨rfl, hvalue⟩
    simp only at hvalue ⊢
    rw [hvalue]
    rfl

theorem decodes_texts : Decodes (asList asText) (.list .text) := decodes_list decodes_text

theorem decodes_optionalText : Decodes (asOptional asText) (.optional .text) :=
  decodes_optional decodes_text fun _ h => nomatch h

theorem decodes_optionalFlag : Decodes (asOptional asFlag) (.optional .flag) :=
  decodes_optional decodes_flag fun _ h => nomatch h

theorem decodes_optionalTexts : Decodes (asOptional (asList asText)) (.optional (.list .text)) :=
  decodes_optional decodes_texts fun _ h => nomatch h

end Shapes

/-! ## Decoders of records -/

section Records

variable {σ : Type} {d start : σ} {field : RecordField σ} {fields : List (RecordField σ)} {part : RecordPart σ}
  {parts given remaining missing : List (RecordPart σ)}

/-- The field has the names of the part and puts what is written of it into a record. -/
structure Fits (field : RecordField σ) (part : RecordPart σ) : Prop where
  names : part.names = field.name :: field.others
  put : ∀ d t, part.Spells d t → ∃ json, Reads t json ∧ ∀ record, field.put record json = .ok (part.copy d record)

theorem fits_of {α : Type} {decoder : Decoder α} {spelling : Spelling α} (h : Decodes decoder spelling) (name : String)
    (get : σ → α) (set : σ → α → σ) (default : α) :
    Fits (.of name decoder set) (.of name get set default spelling) := by
  refine ⟨rfl, fun d t ht => ?_⟩
  obtain ⟨json, hreads, hjson⟩ := h (get d) t ht
  refine ⟨json, hreads, fun record => ?_⟩
  change (decoder json).map (set record) = _
  rw [hjson]
  rfl

theorem Fits.also (h : Fits field part) (hothers : field.others = []) (name : String) :
    Fits (field.also name) (part.also name) := by
  refine ⟨?_, h.put⟩
  change part.names ++ [name] = field.name :: name :: field.others
  rw [h.names, hothers]
  rfl

/-- The fields of a decoder are the parts of a record. -/
structure FitsRecord (fields : List (RecordField σ)) (parts : List (RecordPart σ)) (start : σ) : Prop where
  fits : List.Forall₂ Fits fields parts
  /-- No two parts share a name. -/
  disjoint : parts.Pairwise fun p q => ∀ name ∈ p.names, name ∉ q.names
  /-- It does not matter which of two parts is copied first. -/
  comm : ∀ p ∈ parts, ∀ q ∈ parts, ∀ d record, q.copy d (p.copy d record) = p.copy d (q.copy d record)
  /-- The parts make up the whole record. -/
  whole : ∀ d, parts.foldl (fun record p => p.copy d record) start = d
  /-- All parts have their defaults at the start. -/
  default : ∀ p ∈ parts, ∀ d, p.IsDefault d → p.copy d start = start

/-- A record with some parts of another one. -/
def copyParts (d : σ) (parts : List (RecordPart σ)) (record : σ) : σ :=
  parts.foldl (fun record p => p.copy d record) record

theorem copyParts_snoc (d : σ) (given : List (RecordPart σ)) (part : RecordPart σ) (record : σ) :
    copyParts d (given ++ [part]) record = part.copy d (copyParts d given record) := by
  simp [copyParts]

theorem copyParts_of_isDefault (hmissing : ∀ p ∈ missing, p.copy d start = start) :
    copyParts d missing start = start := by
  induction missing with
  | nil => rfl
  | cons p missing ih =>
    have hp : p.copy d start = start := hmissing p List.mem_cons_self
    change copyParts d missing (p.copy d start) = start
    rw [hp]
    exact ih fun q hq => hmissing q (List.mem_cons_of_mem _ hq)

/-- A record is whole when the parts that were not given have their defaults. -/
theorem FitsRecord.copyParts_eq (h : FitsRecord fields parts start) (hperm : (given ++ missing).Perm parts)
    (hmissing : ∀ p ∈ missing, p.IsDefault d) : copyParts d given start = d := by
  have hsame : (missing ++ given).Perm parts := List.perm_append_comm.trans hperm
  have hstart : copyParts d missing start = start := by
    refine copyParts_of_isDefault fun p hp => h.default p ?_ d (hmissing p hp)
    exact hperm.mem_iff.1 (List.mem_append_right _ hp)
  calc copyParts d given start = copyParts d given (copyParts d missing start) := by rw [hstart]
    _ = copyParts d (missing ++ given) start := by simp only [copyParts, List.foldl_append]
    _ = copyParts d parts start := by
      refine hsame.foldl_eq' (fun p hp q hq record => ?_) start
      exact h.comm p (hsame.mem_iff.1 hp) q (hsame.mem_iff.1 hq) d record
    _ = d := h.whole d

/-- The field of a name. -/
theorem isCalled_iff (hfits : Fits field part) (key : Text) :
    field.isCalled key = true ↔ ∃ name ∈ part.names, name.toList = key := by
  simp [RecordField.isCalled, hfits.names]

theorem find?_field (hfits : List.Forall₂ Fits fields parts)
    (hdisjoint : parts.Pairwise fun p q => ∀ name ∈ p.names, name ∉ q.names) (hpart : part ∈ parts) {name : String}
    (hname : name ∈ part.names) :
    ∃ field, fields.find? (fun field => field.isCalled name.toList) = some field ∧ Fits field part := by
  induction hfits with
  | nil => cases hpart
  | @cons field' part' fields parts hfit _ ih =>
    obtain ⟨hhead, htail⟩ := List.pairwise_cons.1 hdisjoint
    rcases List.mem_cons.1 hpart with rfl | hpart
    · have hcalled : field'.isCalled name.toList = true := (isCalled_iff hfit _).2 ⟨name, hname, rfl⟩
      exact ⟨field', List.find?_cons_of_pos hcalled, hfit⟩
    · have hnot : field'.isCalled name.toList = false := by
        rw [Bool.eq_false_iff, Ne, isCalled_iff hfit]
        rintro ⟨other, hother, heq⟩
        obtain rfl := String.toList_inj.1 heq
        exact hhead part hpart other hother hname
      simp only [List.find?_cons, hnot]
      exact ih htail hpart

theorem find?_other (hfits : List.Forall₂ Fits fields parts) {key : Text}
    (hkey : ∀ part ∈ parts, ∀ name ∈ part.names, name.toList ≠ key) :
    fields.find? (fun field => field.isCalled key) = none := by
  induction hfits with
  | nil => rfl
  | @cons field part fields parts hfit _ ih =>
    have hnot : field.isCalled key = false := by
      rw [Bool.eq_false_iff, Ne, isCalled_iff hfit]
      rintro ⟨name, hname, heq⟩
      exact hkey part List.mem_cons_self name hname heq
    simp only [List.find?_cons, hnot]
    exact ih fun part hpart => hkey part (List.mem_cons_of_mem _ hpart)

/-- The members of an object that writes a record are read, and put together they are the record. The induction goes
over the members: `given` holds the parts that were put before them. -/
theorem putMembers_of_writesMembers (h : FitsRecord fields parts start) {members : List Member}
    (hmembers : WritesMembers parts d remaining members) (hperm : (given ++ remaining).Perm parts) {seen : List String}
    (hseen : ∀ name ∈ seen, ∃ p ∈ given, name ∈ p.names) :
    ∃ entries, List.Forall₂ ReadsMember members entries ∧
      putMembers fields seen (copyParts d given start) entries = .ok d := by
  induction hmembers generalizing given seen with
  | done hdefault =>
    refine ⟨[], .nil, ?_⟩
    rw [putMembers, h.copyParts_eq hperm hdefault]
  | @other remaining m ms key hkey hother hvalue _ ih =>
    obtain ⟨entries, hreads, hput⟩ := ih hperm hseen
    obtain ⟨json, hjson, hskip⟩ := reads_of_isValue hvalue
    refine ⟨(.string key, json) :: entries, .cons ⟨readString_of_writesString hkey, hjson⟩ hreads, ?_⟩
    rw [putMembers]
    simp only [asText, find?_other h.fits hother, hskip]
    exact hput
  | @part before after part m ms name hname hkey hspells _ ih =>
    have hpart : part ∈ parts := hperm.mem_iff.1 (by simp)
    obtain ⟨field, hfind, hfits⟩ := find?_field h.fits h.disjoint hpart hname
    obtain ⟨json, hjson, hfield⟩ := hfits.put d m.value hspells
    have hmain : field.name ∈ part.names := by
      rw [hfits.names]
      exact List.mem_cons_self
    have hpairwise : (given ++ (before ++ part :: after)).Pairwise fun p q => ∀ name ∈ p.names, name ∉ q.names :=
      (hperm.pairwise_iff fun h name hq hp => h name hp hq).2 h.disjoint
    have hnew : seen.contains field.name = false := by
      rw [← Bool.not_eq_true, List.contains_iff_mem]
      intro hmem
      -- no part that was given before has the name
      obtain ⟨p, hp, hnamed⟩ := hseen field.name hmem
      have hapart : ∀ name ∈ p.names, name ∉ part.names :=
        (List.pairwise_append.1 hpairwise).2.2 p hp part (by simp)
      exact hapart field.name hnamed hmain
    have hnext : (given ++ [part] ++ (before ++ after)).Perm parts := by
      refine List.Perm.trans ?_ hperm
      rw [List.append_assoc, List.singleton_append]
      exact List.perm_middle.symm.append_left given
    have hseenNext : ∀ n ∈ field.name :: seen, ∃ p ∈ given ++ [part], n ∈ p.names := by
      intro n hn
      rcases List.mem_cons.1 hn with rfl | hn
      · exact ⟨part, by simp, hmain⟩
      · obtain ⟨p, hp, hnp⟩ := hseen n hn
        exact ⟨p, List.mem_append_left _ hp, hnp⟩
    obtain ⟨entries, hreads, hput⟩ := ih hnext hseenNext
    refine ⟨(.string name.toList, json) :: entries, .cons ⟨readString_of_writesString hkey, hjson⟩ hreads, ?_⟩
    rw [putMembers]
    simp only [asText, hfind, hnew, hfield, Bool.false_eq_true, if_false]
    rw [← copyParts_snoc]
    exact hput

/-- The items of a list that writes parts of a record are read and put into the first fields; the next items go into
the fields of the other parts. -/
theorem putItems_of_forall₂ (hfits : List.Forall₂ Fits fields (given ++ missing)) {items : List Text}
    (hitems : List.Forall₂ (fun part item => part.Spells d item) given items) (record : σ) :
    ∃ jsons rest, List.Forall₂ Reads items jsons ∧ List.Forall₂ Fits rest missing ∧ rest ⊆ fields ∧
      ∀ more ending, putItems fields record (jsons ++ more) ending =
        putItems rest (copyParts d given record) more ending := by
  induction hitems generalizing fields record with
  | nil => exact ⟨[], fields, .nil, hfits, List.Subset.refl fields, fun _ _ => rfl⟩
  | @cons part item given items hspells _ ih =>
    rw [List.cons_append] at hfits
    obtain ⟨field, fields, hfit, htail, rfl⟩ := List.forall₂_cons_right_iff.1 hfits
    obtain ⟨json, hjson, hput⟩ := hfit.put d item hspells
    obtain ⟨jsons, rest, hreads, hrest, hsubset, hnext⟩ := ih htail (part.copy d record)
    refine ⟨json :: jsons, rest, .cons hjson hreads, hrest, List.subset_cons_of_subset _ hsubset, ?_⟩
    intro more ending
    rw [List.cons_append, putItems, hput]
    exact hnext more ending

/-- A record is decoded in each of its spellings. -/
theorem decodes_record (h : FitsRecord fields parts start) (wanted : String) :
    Decodes (asRecord wanted fields start) (Spelling.record parts) := by
  rintro d t (⟨henclosed, hmembers⟩ | ⟨henclosed, hparts, hmissing, hitems⟩)
  · have hperm : ([] ++ parts).Perm parts := List.Perm.refl parts
    have hseen : ∀ name ∈ ([] : List String), ∃ p ∈ ([] : List (RecordPart σ)), name ∈ p.names :=
      fun _ hname => nomatch hname
    obtain ⟨entries, hreads, hput⟩ := putMembers_of_writesMembers h hmembers hperm hseen
    refine ⟨.object entries none, reads_object henclosed hreads, ?_⟩
    change putMembers fields [] start entries = .ok d at hput
    rw [asRecord, hput]
    rfl
  · have hfits := h.fits
    rw [hparts] at hfits
    obtain ⟨jsons, rest, hreads, -, -, hput⟩ := putItems_of_forall₂ hfits hitems start
    refine ⟨.array jsons none, reads_array henclosed hreads, ?_⟩
    rw [asRecord, ← List.append_nil jsons, hput, h.copyParts_eq (by rw [hparts]) hmissing, putItems]
    rfl

end Records

/-! ## All data can be written -/

/-- Each piece of data has a text that writes it. -/
def Spelling.IsTotal {α : Type} (spelling : Spelling α) : Prop := ∀ value, ∃ t, spelling value t

section Total

variable {α : Type} {spelling : Spelling α}

/-- The number of a control character. -/
theorem hexUnit?_digitChar :
    ∀ n < 0x20, hexUnit? '0' '0' (Nat.digitChar (n / 16)) (Nat.digitChar (n % 16)) = some n := by
  decide

theorem exists_writesString (meaning : Text) : ∃ w, WritesString meaning w := by
  induction meaning with
  | nil => exact ⟨[], .nil⟩
  | cons c t ih =>
    obtain ⟨w, hw⟩ := ih
    rcases eq_or_ne c '"' with rfl | hquote
    · exact ⟨_, .escape (rfl : escaped? '"' = some '"') hw⟩
    rcases eq_or_ne c '\\' with rfl | hslash
    · exact ⟨_, .escape (rfl : escaped? '\\' = some '\\') hw⟩
    by_cases hcontrol : c.toNat < 0x20
    · have hc := WritesString.unit (hexUnit?_digitChar c.toNat hcontrol) (Or.inl (by omega)) hw
      rw [Char.ofNat_toNat] at hc
      exact ⟨_, hc⟩
    · exact ⟨c :: w, .plain ⟨hquote, hslash, by omega⟩ hw⟩

namespace Spelling

theorem isTotal_text : text.IsTotal := by
  intro meaning
  obtain ⟨w, hw⟩ := exists_writesString meaning
  exact ⟨quote w, w, hw, rfl⟩

theorem isTotal_flag : flag.IsTotal := fun _ => ⟨_, rfl⟩

theorem IsTotal.optional (h : spelling.IsTotal) : (Spelling.optional spelling).IsTotal
  | .none => ⟨_, rfl⟩
  | .some value => h value

theorem IsTotal.list (h : spelling.IsTotal) : (Spelling.list spelling).IsTotal := by
  intro values
  obtain ⟨items, hitems⟩ := exists_forall₂ fun value (_ : value ∈ values) => h value
  exact ⟨_, items, enclosed_joined '[' ']' items, hitems⟩

theorem isTotal_textPairs : textPairs.IsTotal := by
  intro pairs
  have hpair : ∀ pair ∈ pairs, ∃ m : Member, WritesString pair.1 m.key ∧ text pair.2 m.value := by
    intro pair _
    obtain ⟨key, hkey⟩ := exists_writesString pair.1
    obtain ⟨value, hvalue⟩ := isTotal_text pair.2
    exact ⟨⟨key, [], [], value, by decide, by decide⟩, hkey, hvalue⟩
  obtain ⟨members, hmembers⟩ := exists_forall₂ hpair
  exact ⟨_, members, enclosed_joined '\x7b' '\x7d' _, hmembers⟩

theorem isTotal_of {σ : Type} (h : spelling.IsTotal) (name : String) (get : σ → α) (set : σ → α → σ) (default : α) :
    (RecordPart.of name get set default spelling).Spells.IsTotal := fun d => h (get d)

theorem IsTotal.also {σ : Type} {part : RecordPart σ} (h : part.Spells.IsTotal) (name : String) :
    (part.also name).Spells.IsTotal := h

/-- A record can be written as the list of all its parts. -/
theorem isTotal_record {σ : Type} {parts : List (RecordPart σ)} (h : ∀ part ∈ parts, part.Spells.IsTotal) :
    (Spelling.record parts).IsTotal := by
  intro d
  obtain ⟨items, hitems⟩ := exists_forall₂ fun part hpart => h part hpart d
  exact ⟨_, .array (enclosed_joined '[' ']' items) (List.append_nil parts).symm (fun _ hpart => nomatch hpart) hitems⟩

end Spelling

end Total

end LogDiagram.Json
