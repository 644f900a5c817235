import Mathlib.Data.List.Find
import Mathlib.Data.List.Infix
import LogDiagram.Proofs.Text.Replacing

/-!
# Replacing several texts at once

A table of texts may be replaced in one pass, which never looks at what it put in, or with one pass for each entry,
where a later pass also finds what the earlier ones brought forth.

* `Text.Straddles`, `Text.Unbordered`: a text over the seam of two others, and texts that cannot overlap themselves;
* `Text.occurrences`: in how many places a text stands;
* `Text.replaceEach`: one pass for a whole table; `Text.replaceEach_induction`: what it meets, one character or entry at
  a time; `Text.replaceEach_append`: it may be cut where no entry straddles;
* `Text.replaceAll_replaceEach_iff`: one more pass, for an entry that is apart from those of the table, gives what one
  pass for the longer table gives exactly if the text to be replaced stands in as many places as at the start.
-/

namespace LogDiagram.Text

variable {table : List (Text × Text)} {entry : Text × Text} {sub new s r t a b : Text}

/-! ## Seams -/

/-- Side by side, two texts hold a third one over their seam. -/
def Straddles (s a b : Text) : Prop := ∃ u v, u ≠ [] ∧ v ≠ [] ∧ s = u ++ v ∧ u <:+ a ∧ v <+: b

/-- No end of the text is a start of it, but for the whole text. -/
def Unbordered (s : Text) : Prop := ∀ u, u <+: s → u <:+ s → u = [] ∨ u = s

theorem Straddles.of_suffix {long : Text} (h : Straddles s a b) (ha : a <:+ long) : Straddles s long b := by
  obtain ⟨u, v, hu, hv, hs, hua, hvb⟩ := h
  exact ⟨u, v, hu, hv, hs, hua.trans ha, hvb⟩

/-- What stands in front of two texts stands in front of the first one, unless it straddles. -/
theorem prefix_append_iff (ha : a ≠ []) (h : ¬Straddles s a b) : s <+: a ++ b ↔ s <+: a := by
  constructor
  · intro hs
    rcases List.prefix_or_prefix_of_prefix hs (List.prefix_append a b) with hsa | ⟨v, rfl⟩
    · exact hsa
    · by_cases hv : v = []
      · simp [hv]
      · exact absurd ⟨a, v, ha, hv, rfl, List.suffix_refl a, (List.prefix_append_right_inj a).1 hs⟩ h
  · exact fun hs => hs.trans (List.prefix_append a b)

/-- A text that cannot overlap itself does not straddle the seam in front of a copy of it. -/
theorem Unbordered.not_straddles_before (h : Unbordered s) : ¬Straddles s a (s ++ b) := by
  rintro ⟨u, v, hu, hv, hs, -, hvb⟩
  have hshort : v.length ≤ s.length := by rw [hs, List.length_append]; omega
  have hprefix : v <+: s := List.prefix_of_prefix_length_le hvb (List.prefix_append s b) hshort
  rcases h v hprefix ⟨u, hs.symm⟩ with hnil | hall
  · exact hv hnil
  · rw [hall, List.self_eq_append_left] at hs
    exact hu hs

/-- Nor the seam behind it. -/
theorem Unbordered.not_straddles_behind (h : Unbordered s) : ¬Straddles s (a ++ s) b := by
  rintro ⟨u, v, hu, hv, hs, hua, -⟩
  have hshort : u.length ≤ s.length := by rw [hs, List.length_append]; omega
  have hsuffix : u <:+ s := List.suffix_of_suffix_length_le hua (List.suffix_append a s) hshort
  rcases h u ⟨v, hs.symm⟩ hsuffix with hnil | hall
  · exact hu hnil
  · rw [hall, List.self_eq_append_right] at hs
    exact hv hs

/-- A text does not straddle the seams of a text that is apart from it. -/
theorem Apart.not_straddles_before (h : Apart s r) : ¬Straddles s a (r ++ b) := by
  rintro ⟨u, v, -, hv, rfl, -, hvb⟩
  rcases List.prefix_or_prefix_of_prefix hvb (List.prefix_append r b) with hvr | hrv
  · exact hv (h.eq_nil_of_end_start v (List.suffix_append u v) hvr)
  · exact h.not_infix' (hrv.isInfix.trans (List.suffix_append u v).isInfix)

theorem Apart.not_straddles_behind (h : Apart s r) : ¬Straddles s (a ++ r) b := by
  rintro ⟨u, v, hu, -, rfl, hua, -⟩
  rcases List.suffix_or_suffix_of_suffix hua (List.suffix_append a r) with hur | hru
  · exact hu (h.eq_nil_of_start_end u (List.prefix_append u v) hur)
  · exact h.not_infix' (hru.isInfix.trans (List.prefix_append u v).isInfix)

/-! ## Occurrences -/

/-- In how many places a text stands in another one. -/
def occurrences (sub : Text) : Text → Nat
  | [] => if sub.isPrefixOf [] then 1 else 0
  | c :: rest => (if sub.isPrefixOf (c :: rest) then 1 else 0) + occurrences sub rest

theorem occurrences_eq_zero_iff : occurrences sub t = 0 ↔ occursIn sub t = false := by
  rw [occursIn_eq_false_iff]
  induction t with
  | nil => simp [occurrences]
  | cons c t ih =>
    rw [occurrences, Nat.add_eq_zero_iff, ih, List.infix_cons_iff, not_or, ← List.isPrefixOf_iff_prefix]
    cases sub.isPrefixOf (c :: t) <;> simp

/-- A text that does not straddle two others stands in the places where it stands in one of them. -/
theorem occurrences_append (hsub : sub ≠ []) (h : ¬Straddles sub a b) :
    occurrences sub (a ++ b) = occurrences sub a + occurrences sub b := by
  induction a with
  | nil => simp [occurrences, hsub]
  | cons c a ih =>
    have hfront : sub.isPrefixOf (c :: (a ++ b)) = sub.isPrefixOf (c :: a) := by
      rw [Bool.eq_iff_iff, List.isPrefixOf_iff_prefix, List.isPrefixOf_iff_prefix]
      exact prefix_append_iff (List.cons_ne_nil c a) h
    have hrest := ih fun hs => h (hs.of_suffix (List.suffix_cons c a))
    rw [List.cons_append, occurrences, occurrences, hfront, hrest, Nat.add_assoc]

theorem occurrences_self (hsub : sub ≠ []) : occurrences sub sub = 1 := by
  obtain ⟨c, rest, rfl⟩ := List.exists_cons_of_ne_nil hsub
  have hno : occurrences (c :: rest) rest = 0 := by
    rw [occurrences_eq_zero_iff, occursIn_eq_false_iff]
    intro h
    have := h.length_le
    rw [List.length_cons] at this
    omega
  rw [occurrences, hno, if_pos (List.isPrefixOf_iff_prefix.2 (List.prefix_refl _))]

/-- Around a text that cannot overlap itself its occurrences are those on both sides and itself. -/
theorem occurrences_around (hsub : sub ≠ []) (h : Unbordered sub) (a b : Text) :
    occurrences sub (a ++ (sub ++ b)) = occurrences sub a + 1 + occurrences sub b := by
  have hseam : ¬Straddles sub sub b := h.not_straddles_behind (a := [])
  have hbehind : occurrences sub (sub ++ b) = 1 + occurrences sub b := by
    rw [occurrences_append hsub hseam, occurrences_self hsub]
  rw [occurrences_append hsub h.not_straddles_before, hbehind, Nat.add_assoc]

/-! ## One pass for a table -/

/-- The first entry of a table whose text stands in front. -/
def entryInFront? (table : List (Text × Text)) (t : Text) : Option (Text × Text) :=
  table.find? fun entry => entry.1.isPrefixOf t

/-- The pass behind `replaceEach`; `skip` characters still belong to the text that was replaced last. -/
def replaceEachFrom (table : List (Text × Text)) : (skip : Nat) → Text → Text
  | _, [] => []
  | skip + 1, _ :: rest => replaceEachFrom table skip rest
  | 0, c :: rest =>
    match entryInFront? table (c :: rest) with
    | some entry => entry.2 ++ replaceEachFrom table (entry.1.length - 1) rest
    | none => c :: replaceEachFrom table 0 rest

/--
One pass from left to right: where the text of an entry stands, its replacement is put in its place, and the pass goes
on behind it. Everything else is copied, and what was put in is not looked at.
-/
def replaceEach (table : List (Text × Text)) (t : Text) : Text := replaceEachFrom table 0 t

theorem replaceEachFrom_length_append (skipped rest : Text) :
    replaceEachFrom table skipped.length (skipped ++ rest) = replaceEach table rest := by
  induction skipped with
  | nil => rfl
  | cons c skipped ih => exact ih

theorem replaceEach_of_entryInFront?_eq_some {rest : Text} (hsub : sub ≠ [])
    (h : entryInFront? table (sub ++ rest) = some (sub, new)) :
    replaceEach table (sub ++ rest) = new ++ replaceEach table rest := by
  cases sub with
  | nil => exact absurd rfl hsub
  | cons c skipped =>
    rw [List.cons_append] at h
    rw [List.cons_append, replaceEach, replaceEachFrom, h]
    simp only [List.length_cons, Nat.add_sub_cancel]
    rw [replaceEachFrom_length_append]

theorem replaceEach_of_entryInFront?_eq_none {c : Char} {rest : Text} (h : entryInFront? table (c :: rest) = none) :
    replaceEach table (c :: rest) = c :: replaceEach table rest := by
  rw [replaceEach, replaceEachFrom, h]
  rfl

/-- The entry that stands in front stands there with its text. -/
theorem mem_of_entryInFront?_eq_some (h : entryInFront? table t = some entry) : entry ∈ table ∧ entry.1 <+: t := by
  refine ⟨List.mem_of_find?_eq_some h, ?_⟩
  have := List.find?_some h
  rwa [List.isPrefixOf_iff_prefix] at this

theorem entryInFront?_eq_none_iff : entryInFront? table t = none ↔ ∀ entry ∈ table, ¬entry.1 <+: t := by
  simp only [entryInFront?, List.find?_eq_none, List.isPrefixOf_iff_prefix]

theorem entryInFront?_append (ha : a ≠ []) (h : ∀ entry ∈ table, ¬Straddles entry.1 a b) :
    entryInFront? table (a ++ b) = entryInFront? table a := by
  refine List.find?_congr fun entry hmem => ?_
  rw [Bool.eq_iff_iff, List.isPrefixOf_iff_prefix, List.isPrefixOf_iff_prefix]
  exact prefix_append_iff ha (h entry hmem)

/-- Induction along a pass: a character is copied, or the text of an entry is passed over. -/
theorem replaceEach_induction {P : Text → Prop} (hne : ∀ entry ∈ table, entry.1 ≠ []) (nil : P [])
    (copy : ∀ c t, entryInFront? table (c :: t) = none → P t → P (c :: t))
    (put : ∀ entry rest, entry ∈ table → entryInFront? table (entry.1 ++ rest) = some entry → P rest →
      P (entry.1 ++ rest))
    (t : Text) : P t := by
  induction hlength : t.length using Nat.strongRecOn generalizing t with
  | ind n ih =>
    cases t with
    | nil => exact nil
    | cons c t =>
      cases hfirst : entryInFront? table (c :: t) with
      | none => exact copy c t hfirst (ih t.length (by rw [← hlength, List.length_cons]; omega) t rfl)
      | some entry =>
        obtain ⟨hmem, rest, hrest⟩ := mem_of_entryInFront?_eq_some hfirst
        have hshorter : rest.length < n := by
          have hpos := List.length_pos_iff.2 (hne entry hmem)
          rw [← hlength, ← hrest, List.length_append]
          omega
        rw [← hrest] at hfirst ⊢
        exact put entry rest hmem hfirst (ih rest.length hshorter rest rfl)

/-- A table without entries changes nothing. -/
theorem replaceEach_nil (t : Text) : replaceEach [] t = t := by
  induction t with
  | nil => rfl
  | cons c t ih => rw [replaceEach_of_entryInFront?_eq_none rfl, ih]

/-- A pass may be cut where no text of the table straddles. -/
theorem replaceEach_append (hne : ∀ entry ∈ table, entry.1 ≠ []) (h : ∀ entry ∈ table, ¬Straddles entry.1 a b) :
    replaceEach table (a ++ b) = replaceEach table a ++ replaceEach table b := by
  induction a using replaceEach_induction hne with
  | nil => rfl
  | copy c a hcopied ih =>
    have hfirst := entryInFront?_append (List.cons_ne_nil c a) h
    have hrest := ih fun entry hmem hs => h entry hmem (hs.of_suffix (List.suffix_cons c a))
    rw [hcopied, List.cons_append] at hfirst
    rw [List.cons_append, replaceEach_of_entryInFront?_eq_none hfirst, replaceEach_of_entryInFront?_eq_none hcopied,
      hrest, List.cons_append]
  | put entry rest hmem hentry ih =>
    have hfirst := entryInFront?_append (List.append_ne_nil_of_left_ne_nil (hne entry hmem) rest) h
    have hrest := ih fun other hother hs => h other hother (hs.of_suffix (List.suffix_append entry.1 rest))
    rw [hentry, List.append_assoc] at hfirst
    rw [List.append_assoc, replaceEach_of_entryInFront?_eq_some (hne entry hmem) hfirst,
      replaceEach_of_entryInFront?_eq_some (hne entry hmem) hentry, hrest, List.append_assoc]

/-- One pass for one text is a pass for a table with one entry. -/
theorem replaceFrom_eq_replaceEachFrom (skip : Nat) (t : Text) :
    replaceFrom sub new skip [] t = replaceEachFrom [(sub, new)] skip t := by
  induction t generalizing skip with
  | nil => cases skip <;> rfl
  | cons c t ih =>
    cases skip with
    | succ skip => exact ih skip
    | zero =>
      have hfront : (afterPrefix? sub (c :: t)).isSome = sub.isPrefixOf (c :: t) := by
        rw [Bool.eq_iff_iff, afterPrefix?_isSome_iff, List.isPrefixOf_iff_prefix]
        exact ⟨fun ⟨rest, h⟩ => ⟨rest, h.symm⟩, fun ⟨rest, h⟩ => ⟨rest, h.symm⟩⟩
      rw [replaceFrom, replaceEachFrom, hfront, entryInFront?, List.find?_cons]
      cases sub.isPrefixOf (c :: t) with
      | true =>
        simp only [if_true]
        rw [replaceFrom_eq, ih]
        simp [List.reverseAux_eq]
      | false =>
        simp only [Bool.false_eq_true, if_false, List.find?_nil]
        rw [replaceFrom_eq, ih]
        rfl

theorem replaceAll_eq_replaceEach (t : Text) : replaceAll sub new t = replaceEach [(sub, new)] t :=
  replaceFrom_eq_replaceEachFrom 0 t

/-- A pass finds nothing where no text of the table stands. -/
theorem replaceEach_of_not_infix (h : ∀ entry ∈ table, ¬entry.1 <:+: t) : replaceEach table t = t := by
  induction t with
  | nil => rfl
  | cons c t ih =>
    have hfirst : entryInFront? table (c :: t) = none :=
      entryInFront?_eq_none_iff.2 fun entry hmem hs => h entry hmem hs.isInfix
    have hrest : ∀ entry ∈ table, ¬entry.1 <:+: t := fun entry hmem hs =>
      h entry hmem (hs.trans (List.suffix_cons c t).isInfix)
    rw [replaceEach_of_entryInFront?_eq_none hfirst, ih hrest]

/-- An entry whose text does not stand there makes no difference. -/
theorem replaceEachFrom_concat (skip : Nat) (h : ¬sub <:+: t) :
    replaceEachFrom (table ++ [(sub, new)]) skip t = replaceEachFrom table skip t := by
  induction t generalizing skip with
  | nil => cases skip <;> rfl
  | cons c t ih =>
    rw [List.infix_cons_iff, not_or, ← List.isPrefixOf_iff_prefix, Bool.not_eq_true] at h
    cases skip with
    | succ skip => exact ih skip h.2
    | zero =>
      have hfirst : entryInFront? (table ++ [(sub, new)]) (c :: t) = entryInFront? table (c :: t) := by
        simp [entryInFront?, List.find?_append, h.1]
      rw [replaceEachFrom, replaceEachFrom, hfirst]
      cases entryInFront? table (c :: t) with
      | none => simp only [ih 0 h.2]
      | some entry => simp only [ih _ h.2]

/-! ## One more pass -/

/-- The text may be added to the table: it has no piece in common with another text of it, nor with a copy of itself. -/
structure Fresh (table : List (Text × Text)) (sub : Text) : Prop where
  ne_nil : sub ≠ []
  unbordered : Unbordered sub
  entries : ∀ entry ∈ table, entry.1 ≠ [] ∧ Apart entry.1 sub

theorem Fresh.entries_ne_nil (h : Fresh table sub) : ∀ entry ∈ table, entry.1 ≠ [] := fun entry hmem =>
  (h.entries entry hmem).1

theorem Fresh.nil (h : Fresh table sub) : Fresh [] sub :=
  ⟨h.ne_nil, h.unbordered, fun _ hmem => absurd hmem List.not_mem_nil⟩

/-- The pass for the table leaves the text where it stands. -/
theorem Fresh.replaceEach_around (h : Fresh table sub) (a b : Text) :
    replaceEach table (a ++ (sub ++ b)) = replaceEach table a ++ (sub ++ replaceEach table b) := by
  have hself : replaceEach table sub = sub :=
    replaceEach_of_not_infix fun entry hmem => Apart.not_infix (h.entries entry hmem).2
  have hbehind : replaceEach table (sub ++ b) = replaceEach table sub ++ replaceEach table b :=
    replaceEach_append h.entries_ne_nil fun entry hmem => (h.entries entry hmem).2.not_straddles_behind (a := [])
  rw [replaceEach_append h.entries_ne_nil fun entry hmem => (h.entries entry hmem).2.not_straddles_before, hbehind,
    hself]

/-- The pass for the longer table replaces the text where it stands. -/
theorem Fresh.replaceEach_concat_around (h : Fresh table sub) (new a b : Text) :
    replaceEach (table ++ [(sub, new)]) (a ++ (sub ++ b)) =
      replaceEach (table ++ [(sub, new)]) a ++ (new ++ replaceEach (table ++ [(sub, new)]) b) := by
  have hcases : ∀ entry ∈ table ++ [(sub, new)], entry ∈ table ∨ entry = (sub, new) := fun entry hmem => by
    simpa using hmem
  have hne : ∀ entry ∈ table ++ [(sub, new)], entry.1 ≠ [] := fun entry hmem => by
    rcases hcases entry hmem with hold | rfl
    · exact h.entries_ne_nil entry hold
    · exact h.ne_nil
  have hbefore : ∀ entry ∈ table ++ [(sub, new)], ¬Straddles entry.1 a (sub ++ b) := fun entry hmem => by
    rcases hcases entry hmem with hold | rfl
    · exact (h.entries entry hold).2.not_straddles_before
    · exact h.unbordered.not_straddles_before
  have hfirst : entryInFront? (table ++ [(sub, new)]) (sub ++ b) = some (sub, new) := by
    have hold : entryInFront? table (sub ++ b) = none := entryInFront?_eq_none_iff.2 fun entry hmem hs => by
      have hapart := (h.entries entry hmem).2
      rcases List.prefix_or_prefix_of_prefix hs (List.prefix_append sub b) with hin | hin
      · exact hapart.not_infix hin.isInfix
      · exact hapart.not_infix' hin.isInfix
    rw [entryInFront?, List.find?_append, ← entryInFront?, hold, Option.none_or, List.find?_singleton,
      if_pos (List.isPrefixOf_iff_prefix.2 (List.prefix_append sub b))]
  have hfront : replaceEach (table ++ [(sub, new)]) (sub ++ b) = new ++ replaceEach (table ++ [(sub, new)]) b :=
    replaceEach_of_entryInFront?_eq_some h.ne_nil hfirst
  rw [replaceEach_append hne hbefore, hfront]

/-- The pass for one text, as the pass for a table that had no entry before. -/
theorem replaceAll_eq_replaceEach_concat (t : Text) : replaceAll sub new t = replaceEach ([] ++ [(sub, new)]) t :=
  replaceAll_eq_replaceEach t

theorem Fresh.replaceAll_around (h : Fresh table sub) (new a b : Text) :
    replaceAll sub new (a ++ (sub ++ b)) = replaceAll sub new a ++ (new ++ replaceAll sub new b) := by
  simp only [replaceAll_eq_replaceEach_concat]
  exact h.nil.replaceEach_concat_around new a b

/--
What a text, its pass for the table and its pass for the longer table have in common: it holds of texts without the
added text, and passes on over a place where that text stands.
-/
theorem Fresh.pass_induction (h : Fresh table sub) (new : Text) {P : (t short long : Text) → Prop}
    (stop : ∀ t, occurrences sub t = 0 → P t (replaceEach table t) (replaceEach table t))
    (go : ∀ a b long, occurrences sub a = 0 → P b (replaceEach table b) long →
      P (a ++ (sub ++ b)) (replaceEach table a ++ (sub ++ replaceEach table b)) (replaceEach table a ++ (new ++ long)))
    (t : Text) : P t (replaceEach table t) (replaceEach (table ++ [(sub, new)]) t) := by
  induction t using cut?_induction h.ne_nil with
  | stop t hno =>
    have hsame : replaceEach (table ++ [(sub, new)]) t = replaceEach table t :=
      replaceEachFrom_concat 0 (occursIn_eq_false_iff.1 hno)
    rw [hsame]
    exact stop t (occurrences_eq_zero_iff.2 hno)
  | go t a b hcut ih =>
    obtain ⟨rfl, -⟩ := cut?_eq_some_iff.1 hcut
    have hno := not_infix_of_cut?_eq_some h.ne_nil hcut
    have hsame : replaceEach (table ++ [(sub, new)]) a = replaceEach table a := replaceEachFrom_concat 0 hno
    rw [List.append_assoc, h.replaceEach_around, h.replaceEach_concat_around, hsame]
    exact go a b _ (occurrences_eq_zero_iff.2 (occursIn_eq_false_iff.2 hno)) ih

/-- With each occurrence the longer table changes the length by the difference of the two texts. -/
theorem Fresh.length_replaceEach_concat (h : Fresh table sub) (new t : Text) :
    (replaceEach (table ++ [(sub, new)]) t).length + occurrences sub t * sub.length =
      (replaceEach table t).length + occurrences sub t * new.length := by
  induction t using h.pass_induction new with
  | stop t hno => rw [hno, Nat.zero_mul, Nat.zero_mul]
  | go a b long hno ih =>
    rw [occurrences_around h.ne_nil h.unbordered, hno]
    simp only [List.length_append, Nat.zero_add, Nat.add_mul, Nat.one_mul]
    omega

theorem Fresh.length_replaceAll (h : Fresh table sub) (new t : Text) :
    (replaceAll sub new t).length + occurrences sub t * sub.length = t.length + occurrences sub t * new.length := by
  have hlength := h.nil.length_replaceEach_concat new t
  rwa [replaceEach_nil, ← replaceAll_eq_replaceEach_concat] at hlength

/-- The pass for the table leaves every occurrence of the text, and may bring forth others. -/
theorem Fresh.occurrences_le (h : Fresh table sub) (t : Text) :
    occurrences sub t ≤ occurrences sub (replaceEach table t) := by
  induction t using h.pass_induction sub with
  | stop t hno => rw [hno]; exact Nat.zero_le _
  | go a b long hno ih =>
    rw [occurrences_around h.ne_nil h.unbordered, occurrences_around h.ne_nil h.unbordered, hno]
    omega

/-- Where no occurrence came forth, one more pass gives what the pass for the longer table gives. -/
theorem Fresh.replaceAll_replaceEach (h : Fresh table sub) (new t : Text)
    (hsame : occurrences sub (replaceEach table t) = occurrences sub t) :
    replaceAll sub new (replaceEach table t) = replaceEach (table ++ [(sub, new)]) t := by
  revert hsame
  induction t using h.pass_induction new with
  | stop t hno =>
    intro hsame
    exact replaceAll_of_not_occursIn (occurrences_eq_zero_iff.1 (hsame.trans hno))
  | go a b long hno ih =>
    intro hsame
    have hle := h.occurrences_le b
    rw [occurrences_around h.ne_nil h.unbordered, occurrences_around h.ne_nil h.unbordered, hno] at hsame
    have ha : occurrences sub (replaceEach table a) = 0 := by omega
    rw [h.replaceAll_around, replaceAll_of_not_occursIn (occurrences_eq_zero_iff.1 ha), ih (by omega)]

/-- An entry that replaces a text by itself changes nothing. -/
theorem Fresh.replaceEach_concat_self (h : Fresh table sub) (t : Text) :
    replaceEach (table ++ [(sub, sub)]) t = replaceEach table t := by
  induction t using h.pass_induction sub with
  | stop t hno => rfl
  | go a b long hno ih => rw [ih]

theorem Fresh.replaceAll_self (h : Fresh table sub) (t : Text) : replaceAll sub sub t = t := by
  rw [replaceAll_eq_replaceEach_concat, h.nil.replaceEach_concat_self, replaceEach_nil]

section SameLength

variable (h : Fresh table sub) (hlength : new.length = sub.length)

include h hlength

theorem Fresh.length_replaceAll_eq (t : Text) : (replaceAll sub new t).length = t.length := by
  have := h.length_replaceAll new t
  rw [hlength] at this
  omega

/-- A pass that changes nothing puts in what it takes out, or finds nothing. -/
theorem Fresh.eq_or_of_replaceAll_eq_self (hself : replaceAll sub new t = t) :
    new = sub ∨ occurrences sub t = 0 := by
  cases hcut : cut? sub t with
  | none =>
    rw [occurrences_eq_zero_iff, ← cut?_isSome, hcut]
    exact .inr rfl
  | some parts =>
    obtain ⟨a, b⟩ := parts
    obtain ⟨rfl, -⟩ := cut?_eq_some_iff.1 hcut
    rw [List.append_assoc, h.replaceAll_around] at hself
    have hrest := (List.append_inj hself (h.length_replaceAll_eq hlength a)).2
    exact .inl (List.append_inj hrest hlength).1

/-- One more pass that gives what the pass for the longer table gives found no new occurrence, or changed nothing. -/
theorem Fresh.eq_or_of_replaceAll_replaceEach (t : Text)
    (heq : replaceAll sub new (replaceEach table t) = replaceEach (table ++ [(sub, new)]) t) :
    new = sub ∨ occurrences sub (replaceEach table t) = occurrences sub t := by
  revert heq
  induction t using h.pass_induction new with
  | stop t hno =>
    intro heq
    rw [hno]
    exact h.eq_or_of_replaceAll_eq_self hlength heq
  | go a b long hno ih =>
    intro heq
    rw [h.replaceAll_around] at heq
    obtain ⟨hfront, hrest⟩ := List.append_inj heq (h.length_replaceAll_eq hlength _)
    have hbehind := List.append_cancel_left hrest
    rcases h.eq_or_of_replaceAll_eq_self hlength hfront with hnew | ha
    · exact .inl hnew
    · rcases ih hbehind with hnew | hb
      · exact .inl hnew
      · rw [occurrences_around h.ne_nil h.unbordered, occurrences_around h.ne_nil h.unbordered, ha, hb, hno]
        exact .inr rfl

end SameLength

/--
One more pass behind a pass for a table gives what one pass for the longer table gives exactly if it puts in what it
takes out, or the pass for the table brought forth no occurrence of the text.
-/
theorem replaceAll_replaceEach_iff (h : Fresh table sub) (new t : Text) :
    replaceAll sub new (replaceEach table t) = replaceEach (table ++ [(sub, new)]) t ↔
      new = sub ∨ occurrences sub (replaceEach table t) = occurrences sub t := by
  constructor
  · intro heq
    by_cases hlength : new.length = sub.length
    · exact h.eq_or_of_replaceAll_replaceEach hlength t heq
    · -- each further occurrence would change the length once more
      have hone := h.length_replaceAll new (replaceEach table t)
      have hall := h.length_replaceEach_concat new t
      rw [heq] at hone
      obtain ⟨k, hk⟩ := Nat.exists_eq_add_of_le (h.occurrences_le t)
      rw [hk, Nat.add_mul, Nat.add_mul] at hone
      have hmore : k * sub.length = k * new.length := by omega
      rcases Nat.eq_zero_or_pos k with hzero | hpos
      · rw [hzero] at hk
        exact .inr hk
      · exact absurd (Nat.eq_of_mul_eq_mul_left hpos hmore).symm hlength
  · rintro (rfl | hsame)
    · rw [h.replaceAll_self, h.replaceEach_concat_self]
    · exact h.replaceAll_replaceEach new t hsame

end LogDiagram.Text
