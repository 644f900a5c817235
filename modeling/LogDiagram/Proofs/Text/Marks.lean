import Mathlib.Data.List.Pairwise
import LogDiagram.Proofs.Text.Substituting

/-!
# Replacing marks

A mark is a text whose first character stands nowhere else in it. Marks of which none starts another one share no
piece, so one pass for a table of marks and one pass for each of them can differ only where a mark comes forth from
what is put in. That takes an unfinished mark in front of a place where another one is replaced.

* `Text.IsMark`, `Text.IsMark.unbordered`, `Text.IsMark.apart`: marks do not overlap;
* `Text.occurrences_replaceEach_of_isMark`: where no unfinished mark stands in front of another one, plain texts bring
  forth no mark;
* `Text.IsMarkTable`, `Text.HasNoOpenMark`: tables of marks with plain texts, and texts without such places;
* `Text.foldl_replaceAll_of_perm`: then one pass after the other, in any order, gives what the one pass gives.
-/

namespace LogDiagram.Text

variable {start : Char} {mark other sub new t u : Text} {table order front : List (Text × Text)}

/-! ## Marks -/

/-- The text starts with the character, which stands nowhere else in it. -/
def IsMark (start : Char) (mark : Text) : Prop := mark.head? = some start ∧ start ∉ mark.tail

instance (start : Char) (mark : Text) : Decidable (IsMark start mark) := inferInstanceAs (Decidable (_ ∧ _))

theorem IsMark.exists_eq_cons (h : IsMark start mark) : ∃ rest, mark = start :: rest ∧ start ∉ rest := by
  obtain ⟨hhead, htail⟩ := h
  cases mark with
  | nil => cases hhead
  | cons c rest => exact ⟨rest, by rw [Option.some.inj hhead], htail⟩

theorem IsMark.ne_nil (h : IsMark start mark) : mark ≠ [] := by
  obtain ⟨rest, rfl, -⟩ := h.exists_eq_cons
  exact List.cons_ne_nil _ _

/-- An end of a mark that some mark starts with is the whole mark. -/
theorem IsMark.eq_of_end_of_start (h : IsMark start mark) (h' : IsMark start other) (hu : u ≠ []) (hend : u <:+ mark)
    (hstart : u <+: other) : u = mark := by
  obtain ⟨rest, rfl, hno⟩ := h.exists_eq_cons
  obtain ⟨rest', rfl, -⟩ := h'.exists_eq_cons
  obtain ⟨c, u, rfl⟩ := List.exists_cons_of_ne_nil hu
  rw [List.cons_prefix_cons] at hstart
  rcases List.suffix_cons_iff.1 hend with hall | hin
  · exact hall
  · rw [hstart.1] at hin
    exact absurd (hin.subset List.mem_cons_self) hno

theorem IsMark.unbordered (h : IsMark start mark) : Unbordered mark := by
  intro u hstart hend
  by_cases hu : u = []
  · exact .inl hu
  · exact .inr (h.eq_of_end_of_start h hu hend hstart)

/-- A mark stands in another one only as its start. -/
theorem IsMark.prefix_of_infix (h : IsMark start mark) (h' : IsMark start other) (hin : mark <:+: other) :
    mark <+: other := by
  obtain ⟨a, b, hab⟩ := hin
  have hend : mark ++ b <:+ other := ⟨a, by rw [← hab, List.append_assoc]⟩
  obtain ⟨rest, hmark, -⟩ := h.exists_eq_cons
  obtain ⟨rest', hother, hno⟩ := h'.exists_eq_cons
  rw [hother] at hend
  rcases List.suffix_cons_iff.1 hend with hall | hin
  · exact ⟨b, hall.trans hother.symm⟩
  · rw [hmark] at hin
    exact absurd (hin.subset List.mem_cons_self) hno

/-- Marks of which neither starts the other one share no piece. -/
theorem IsMark.apart (h : IsMark start mark) (h' : IsMark start other) (hne : ¬mark <+: other)
    (hne' : ¬other <+: mark) : Apart mark other where
  not_infix hin := hne (h.prefix_of_infix h' hin)
  not_infix' hin := hne' (h'.prefix_of_infix h hin)
  eq_nil_of_end_start u hend hstart := by
    by_contra hu
    exact hne (h.eq_of_end_of_start h' hu hend hstart ▸ hstart)
  eq_nil_of_start_end u hstart hend := by
    by_contra hu
    exact hne' (h'.eq_of_end_of_start h hu hend hstart ▸ hstart)

/-! ## Marks that come forth -/

/-- A pass copies what stands in front of the first text that it finds. -/
theorem exists_copied (table : List (Text × Text)) (t : Text) :
    ∃ copied rest, t = copied ++ rest ∧ replaceEach table t = copied ++ replaceEach table rest ∧
      (rest = [] ∨ ∃ entry ∈ table, entry.1 <+: rest) := by
  induction t with
  | nil => exact ⟨[], [], rfl, rfl, .inl rfl⟩
  | cons c t ih =>
    cases hfirst : entryInFront? table (c :: t) with
    | some entry =>
      obtain ⟨hmem, hprefix⟩ := mem_of_entryInFront?_eq_some hfirst
      exact ⟨[], c :: t, rfl, rfl, .inr ⟨entry, hmem, hprefix⟩⟩
    | none =>
      obtain ⟨copied, rest, ht, hpass, hrest⟩ := ih
      refine ⟨c :: copied, rest, by rw [ht, List.cons_append], ?_, hrest⟩
      rw [replaceEach_of_entryInFront?_eq_none hfirst, hpass, List.cons_append]

/-- A mark does not start in a text without its first character. -/
theorem IsMark.occurrences_append_of_not_mem (h : IsMark start mark) {plain : Text} (hplain : start ∉ plain)
    (t : Text) : occurrences mark (plain ++ t) = occurrences mark t := by
  obtain ⟨rest, hmark, -⟩ := h.exists_eq_cons
  have hnone : occurrences mark plain = 0 := by
    rw [occurrences_eq_zero_iff, occursIn_eq_false_iff, hmark]
    exact fun hin => hplain (hin.subset List.mem_cons_self)
  have hseam : ¬Straddles mark plain t := by
    rintro ⟨u, v, hu, -, hs, hend, -⟩
    obtain ⟨c, u, rfl⟩ := List.exists_cons_of_ne_nil hu
    rw [hmark, List.cons_append, List.cons.injEq] at hs
    exact hplain (hs.1 ▸ hend.subset List.mem_cons_self)
  rw [occurrences_append h.ne_nil hseam, hnone, Nat.zero_add]

/-- The text of no entry stands directly behind a start of `mark` that is not finished. -/
def NotOpened (table : List (Text × Text)) (mark t : Text) : Prop :=
  ∀ entry ∈ table, ∀ u, u <+: mark → u ≠ [] → u ≠ mark → ¬u ++ entry.1 <:+: t

instance (table : List (Text × Text)) (mark t : Text) : Decidable (NotOpened table mark t) :=
  decidable_of_iff (∀ entry ∈ table, ∀ u ∈ mark.inits, u ≠ [] → u ≠ mark → ¬occursIn (u ++ entry.1) t = true)
    (by simp only [NotOpened, List.mem_inits, occursIn_iff_isInfix])

theorem NotOpened.of_suffix {s : Text} (h : NotOpened table mark t) (hs : s <:+ t) : NotOpened table mark s :=
  fun entry hmem u hu hnil hall hin => h entry hmem u hu hnil hall (hin.trans hs.isInfix)

/-- In front of a character that is copied, a mark can only be finished by what stood there. -/
theorem prefix_of_prefix_replaceEach {c : Char} (hopen : NotOpened table mark (c :: t))
    (h : mark <+: c :: replaceEach table t) : mark <+: c :: t := by
  obtain ⟨copied, rest, rfl, hpass, hrest⟩ := exists_copied table t
  rw [hpass, ← List.cons_append] at h
  rw [← List.cons_append] at hopen ⊢
  rcases List.prefix_or_prefix_of_prefix h (List.prefix_append (c :: copied) _) with hin | hout
  · exact hin.trans (List.prefix_append _ _)
  · rcases hrest with rfl | ⟨entry, hmem, after, rfl⟩
    · exact h
    · -- the copied piece is a start of the mark, and the text of an entry stands behind it
      by_cases hall : c :: copied = mark
      · rw [hall]
        exact List.prefix_append _ _
      · exact absurd ⟨[], after, by simp⟩ (hopen entry hmem (c :: copied) hout (List.cons_ne_nil _ _) hall)

/-- Where no unfinished mark stands in front of the text of an entry, plain texts bring forth no mark. -/
theorem occurrences_replaceEach_of_isMark (hfresh : Fresh table mark) (hmark : IsMark start mark)
    (hplain : ∀ entry ∈ table, start ∉ entry.2) (hopen : NotOpened table mark t) :
    occurrences mark (replaceEach table t) = occurrences mark t := by
  induction t using replaceEach_induction hfresh.entries_ne_nil with
  | nil => rfl
  | copy c t hcopied ih =>
    have hstart : mark.isPrefixOf (c :: replaceEach table t) = mark.isPrefixOf (c :: t) := by
      rw [Bool.eq_iff_iff, List.isPrefixOf_iff_prefix, List.isPrefixOf_iff_prefix]
      refine ⟨prefix_of_prefix_replaceEach hopen, ?_⟩
      rintro ⟨rest, hrest⟩
      have hpass := hfresh.replaceEach_around [] rest
      rw [List.nil_append, hrest, replaceEach_of_entryInFront?_eq_none hcopied] at hpass
      exact ⟨_, hpass.symm⟩
    rw [replaceEach_of_entryInFront?_eq_none hcopied, occurrences, occurrences, hstart,
      ih (hopen.of_suffix (List.suffix_cons c t))]
  | put entry rest hmem hentry ih =>
    obtain ⟨hne, happart⟩ := hfresh.entries entry hmem
    have hnone : occurrences mark entry.1 = 0 :=
      occurrences_eq_zero_iff.2 (occursIn_eq_false_iff.2 happart.not_infix')
    have hseam : ¬Straddles mark entry.1 rest := happart.symm.not_straddles_behind (a := [])
    rw [replaceEach_of_entryInFront?_eq_some hne hentry, hmark.occurrences_append_of_not_mem (hplain entry hmem),
      occurrences_append hmark.ne_nil hseam, hnone, Nat.zero_add, ih (hopen.of_suffix (List.suffix_append entry.1 rest))]

/-! ## One pass for each mark -/

/-- The text of neither entry starts that of the other one. -/
def StartApart (entry entry' : Text × Text) : Prop := ¬entry.1 <+: entry'.1 ∧ ¬entry'.1 <+: entry.1

instance : Std.Symm StartApart := ⟨fun _ _ ⟨h, h'⟩ => ⟨h', h⟩⟩

instance (entry entry' : Text × Text) : Decidable (StartApart entry entry') := inferInstanceAs (Decidable (_ ∧ _))

/-- A table of marks, of which none starts another one, and of texts without the first character of the marks. -/
structure IsMarkTable (start : Char) (table : List (Text × Text)) : Prop where
  isMark : ∀ entry ∈ table, IsMark start entry.1
  plain : ∀ entry ∈ table, start ∉ entry.2
  pairwise : table.Pairwise StartApart

theorem IsMarkTable.of_perm (h : IsMarkTable start table) (hperm : order.Perm table) : IsMarkTable start order where
  isMark entry hmem := h.isMark entry (hperm.mem_iff.1 hmem)
  plain entry hmem := h.plain entry (hperm.mem_iff.1 hmem)
  pairwise := (hperm.pairwise_iff fun h => symm h).2 h.pairwise

theorem IsMarkTable.of_concat {entry : Text × Text} (h : IsMarkTable start (front ++ [entry])) :
    IsMarkTable start front where
  isMark other hmem := h.isMark other (List.mem_append_left _ hmem)
  plain other hmem := h.plain other (List.mem_append_left _ hmem)
  pairwise := (List.pairwise_append.1 h.pairwise).1

/-- The last mark of a table may be added to the others. -/
theorem IsMarkTable.fresh {entry : Text × Text} (h : IsMarkTable start (front ++ [entry])) : Fresh front entry.1 := by
  have hmark : IsMark start entry.1 := h.isMark entry (List.mem_append_right _ List.mem_cons_self)
  refine ⟨hmark.ne_nil, hmark.unbordered, fun other hmem => ?_⟩
  have hother : IsMark start other.1 := h.isMark other (List.mem_append_left _ hmem)
  obtain ⟨hne, hne'⟩ := (List.pairwise_append.1 h.pairwise).2.2 other hmem entry List.mem_cons_self
  exact ⟨hother.ne_nil, hother.apart hmark hne hne'⟩

/-- Of a table of marks at most one stands in front of a text. -/
theorem IsMarkTable.entryInFront?_eq_some_iff (h : IsMarkTable start table) {entry : Text × Text} :
    entryInFront? table t = some entry ↔ entry ∈ table ∧ entry.1 <+: t := by
  refine ⟨mem_of_entryInFront?_eq_some, ?_⟩
  rintro ⟨hmem, hprefix⟩
  cases hfirst : entryInFront? table t with
  | none => exact absurd hprefix (entryInFront?_eq_none_iff.1 hfirst entry hmem)
  | some first =>
    obtain ⟨hfirstMem, hfirstPrefix⟩ := mem_of_entryInFront?_eq_some hfirst
    by_contra hne
    have hdistinct : first ≠ entry := fun heq => hne (congrArg some heq)
    obtain ⟨hno, hno'⟩ := h.pairwise.forall hfirstMem hmem hdistinct
    rcases List.prefix_or_prefix_of_prefix hfirstPrefix hprefix with hin | hin
    · exact hno hin
    · exact hno' hin

/-- The order of a table of marks does not matter. -/
theorem IsMarkTable.replaceEach_of_perm (h : IsMarkTable start table) (hperm : order.Perm table) (t : Text) :
    replaceEach order t = replaceEach table t := by
  have hsame : ∀ t, entryInFront? order t = entryInFront? table t := by
    intro t
    apply Option.ext
    intro entry
    rw [(h.of_perm hperm).entryInFront?_eq_some_iff, h.entryInFront?_eq_some_iff, hperm.mem_iff]
  have hfrom : ∀ skip, replaceEachFrom order skip t = replaceEachFrom table skip t := by
    induction t with
    | nil => intro skip; cases skip <;> rfl
    | cons c t ih =>
      intro skip
      cases skip with
      | succ skip => exact ih skip
      | zero =>
        rw [replaceEachFrom, replaceEachFrom, hsame]
        cases entryInFront? table (c :: t) with
        | none => simp only [ih]
        | some entry => simp only [ih]
  exact hfrom 0

/-- No mark of the table stands directly behind a start of one that is not finished. -/
def HasNoOpenMark (table : List (Text × Text)) (t : Text) : Prop := ∀ entry ∈ table, NotOpened table entry.1 t

instance (table : List (Text × Text)) (t : Text) : Decidable (HasNoOpenMark table t) :=
  inferInstanceAs (Decidable (∀ entry ∈ table, _))

/-- One pass after the other gives what one pass for all of them gives. The induction adds the last entry. -/
theorem IsMarkTable.foldl_replaceAll (h : IsMarkTable start table) (hopen : HasNoOpenMark table t) :
    table.foldl (fun t entry => replaceAll entry.1 entry.2 t) t = replaceEach table t := by
  induction table using List.reverseRecOn with
  | nil => exact (replaceEach_nil t).symm
  | append_singleton front entry ih =>
    have hfront : HasNoOpenMark front t := fun other hmem entry' hmem' =>
      hopen other (List.mem_append_left _ hmem) entry' (List.mem_append_left _ hmem')
    have hlast : NotOpened front entry.1 t := fun other hmem =>
      hopen entry (List.mem_append_right _ List.mem_cons_self) other (List.mem_append_left _ hmem)
    have hmark : IsMark start entry.1 := h.isMark entry (List.mem_append_right _ List.mem_cons_self)
    have hsame : occurrences entry.1 (replaceEach front t) = occurrences entry.1 t :=
      occurrences_replaceEach_of_isMark h.fresh hmark h.of_concat.plain hlast
    rw [List.foldl_append, List.foldl_cons, List.foldl_nil, ih h.of_concat hfront]
    exact h.fresh.replaceAll_replaceEach entry.2 t hsame

/-- One pass after the other, in any order, gives what one pass for all of them gives. -/
theorem IsMarkTable.foldl_replaceAll_of_perm (h : IsMarkTable start table) (hopen : HasNoOpenMark table t)
    (hperm : order.Perm table) :
    order.foldl (fun t entry => replaceAll entry.1 entry.2 t) t = replaceEach table t := by
  have horder : HasNoOpenMark order t := fun entry hmem other hmem' =>
    hopen entry (hperm.mem_iff.1 hmem) other (hperm.mem_iff.1 hmem')
  rw [(h.of_perm hperm).foldl_replaceAll horder, h.replaceEach_of_perm hperm]

end LogDiagram.Text
