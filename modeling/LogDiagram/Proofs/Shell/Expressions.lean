import LogDiagram.Shell.Expression

/-!
# What fits a regular expression

`Expression.Fits` says which part of a text an expression stands for, and `Expression.ends_covers` that the search behind an
expression goes on from exactly the ends of these parts. Expressions with references are left out: what they stand for
depends on the way in which a group fitted, and of several ways to one position the search keeps the first one only.

A repetition goes on round by round from the positions that were new in the last round. `Expression.Saturates` is what every
round keeps, so that nothing is missing when no position is new (`Expression.iterate_covers`).
-/

namespace LogDiagram.Shell

namespace Expression

variable {mode : MatchMode} {subject : Text}

/-- So many steps in a row. -/
inductive Rounds (step : Nat → Nat → Prop) : Nat → Nat → Nat → Prop
  | zero (i : Nat) : Rounds step 0 i i
  | succ {n i j k : Nat} : Rounds step n i j → step j k → Rounds step (n + 1) i k

/-- The character in front of a position. -/
def before (subject : Text) (i : Nat) : Option Char := if i = 0 then none else subject[i - 1]?

/-- The part of a text is one character that is meant. -/
def OneChar (subject : Text) (isMeant : Char → Bool) (i j : Nat) : Prop :=
  ∃ c, subject[i]? = some c ∧ isMeant c = true ∧ j = i + 1

/-- An expression stands for the part of a text between two positions. -/
def Fits (mode : MatchMode) (subject : Text) : Expression → Nat → Nat → Prop
  | empty, i, j => j = i
  | char c, i, j => OneChar subject (sameChar mode c) i j
  | anyChar, i, j => OneChar subject (fun _ => true) i j
  | set isNegated members, i, j =>
    let has (c : Char) : Bool := members.any (GlobMember.has c)
    OneChar subject (fun c => (has c || (mode.ignoresCase && (has c.toLower || has c.toUpper))) != isNegated) i j
  | start, i, j => j = i ∧ (i = 0 ∨ mode.hasLines = true ∧ before subject i = some '\n')
  | finish, i, j => j = i ∧ (i = subject.length ∨ mode.hasLines = true ∧ subject[i]? = some '\n')
  | textStart, i, j => j = i ∧ i = 0
  | textEnd, i, j => j = i ∧ i = subject.length
  | edge isWordBefore isWordAfter, i, j =>
    j = i ∧ (before subject i).any isWordChar = isWordBefore ∧ subject[i]?.any isWordChar = isWordAfter
  | boundary isNegated, i, j =>
    j = i ∧ ((before subject i).any isWordChar != subject[i]?.any isWordChar) = !isNegated
  | group _ inner, i, j => Fits mode subject inner i j
  | reference _, _, _ => False
  | sequence first second, i, k => ∃ j, Fits mode subject first i j ∧ Fits mode subject second j k
  | either first second, i, j => Fits mode subject first i j ∨ Fits mode subject second i j
  | repeated inner least greatest, i, j =>
    ∃ n, least ≤ n ∧ (∀ most ∈ greatest, n ≤ most) ∧ Rounds (Fits mode subject inner) n i j

/-- No part of an expression stands for what a group fitted. -/
def NoReferences : Expression → Prop
  | reference _ => False
  | group _ inner => inner.NoReferences
  | repeated inner _ _ => inner.NoReferences
  | sequence first second => first.NoReferences ∧ second.NoReferences
  | either first second => first.NoReferences ∧ second.NoReferences
  | _ => True

/-! ## Rounds -/

section

variable {step : Nat → Nat → Prop} {n m i j k : Nat}

theorem Rounds.succ_iff : Rounds step (n + 1) i k ↔ ∃ j, Rounds step n i j ∧ step j k := by
  constructor
  · rintro (_ | ⟨h, hstep⟩)
    exact ⟨_, h, hstep⟩
  · rintro ⟨j, h, hstep⟩
    exact h.succ hstep

theorem Rounds.zero_iff : Rounds step 0 i j ↔ j = i := by
  constructor
  · rintro ⟨⟩
    rfl
  · rintro rfl
    exact .zero j

theorem Rounds.cons (hstep : step i j) (h : Rounds step n j k) : Rounds step (n + 1) i k := by
  induction h with
  | zero j => exact (Rounds.zero i).succ hstep
  | succ _ hlast ih => exact (ih hstep).succ hlast

theorem Rounds.exists_front (h : Rounds step n i k) (hm : m ≤ n) : ∃ j, Rounds step m i j := by
  induction h with
  | zero i => exact ⟨i, (Nat.le_zero.mp hm) ▸ .zero i⟩
  | @succ n _ _ _ hfront hlast ih =>
    rcases Nat.le_succ_iff.mp hm with hm | rfl
    · exact ih hm
    · exact ⟨_, hfront.succ hlast⟩

theorem Rounds.le (hstep : ∀ {i j}, step i j → i ≤ j) (h : Rounds step n i j) : i ≤ j := by
  induction h with
  | zero i => exact Nat.le_refl i
  | succ _ hlast ih => exact Nat.le_trans ih (hstep hlast)

end

theorem Rounds.oneChar_cons {isMeant : Char → Bool} {n i k : Nat} :
    Rounds (OneChar subject isMeant) (n + 1) i k ↔
      ∃ c, subject[i]? = some c ∧ isMeant c = true ∧ Rounds (OneChar subject isMeant) n (i + 1) k := by
  constructor
  · intro h
    induction n generalizing k with
    | zero =>
      obtain ⟨j, hfront, c, hc, hmeant, rfl⟩ := succ_iff.mp h
      obtain rfl := zero_iff.mp hfront
      exact ⟨c, hc, hmeant, .zero _⟩
    | succ n ih =>
      obtain ⟨j, hfront, hlast⟩ := succ_iff.mp h
      obtain ⟨c, hc, hmeant, hrest⟩ := ih hfront
      exact ⟨c, hc, hmeant, hrest.succ hlast⟩
  · rintro ⟨c, hc, hmeant, h⟩
    exact h.cons ⟨c, hc, hmeant, rfl⟩

theorem Rounds.oneChar_eq {isMeant : Char → Bool} {n i j : Nat} (h : Rounds (OneChar subject isMeant) n i j) :
    j = i + n := by
  induction h with
  | zero i => rfl
  | succ _ hlast ih =>
    obtain ⟨_, _, _, rfl⟩ := hlast
    rw [ih, Nat.add_assoc]

theorem Rounds.oneChar_le {isMeant : Char → Bool} {n i j : Nat} (h : Rounds (OneChar subject isMeant) n i j)
    (hi : i ≤ subject.length) : j ≤ subject.length := by
  cases h with
  | zero => exact hi
  | succ _ hlast =>
    obtain ⟨c, hc, -, rfl⟩ := hlast
    obtain ⟨hlt, -⟩ := List.getElem?_eq_some_iff.mp hc
    exact hlt

/-- What fits ends where it starts, or behind it. -/
theorem Fits.le : ∀ {expression : Expression} {i j : Nat}, Fits mode subject expression i j → i ≤ j
  | empty, _, _, h => Nat.le_of_eq h.symm
  | char _, i, _, ⟨_, _, _, h⟩ => h ▸ Nat.le_succ i
  | anyChar, i, _, ⟨_, _, _, h⟩ => h ▸ Nat.le_succ i
  | set _ _, i, _, ⟨_, _, _, h⟩ => h ▸ Nat.le_succ i
  | start, _, _, h => Nat.le_of_eq h.1.symm
  | finish, _, _, h => Nat.le_of_eq h.1.symm
  | textStart, _, _, h => Nat.le_of_eq h.1.symm
  | textEnd, _, _, h => Nat.le_of_eq h.1.symm
  | edge _ _, _, _, h => Nat.le_of_eq h.1.symm
  | boundary _, _, _, h => Nat.le_of_eq h.1.symm
  | group _ inner, _, _, h => Fits.le (show Fits mode subject inner _ _ from h)
  | sequence _ _, _, _, ⟨_, hfirst, hsecond⟩ => Nat.le_trans hfirst.le hsecond.le
  | either _ _, _, _, .inl h => h.le
  | either _ _, _, _, .inr h => h.le
  | repeated _ _ _, _, _, ⟨_, _, _, h⟩ => h.le Fits.le

/-! ## Places in a text -/

/-- A place knows what is around it. -/
structure Place.IsIn (subject : Text) (place : Place) : Prop where
  count_le : place.count ≤ subject.length
  previous : place.previous = before subject place.count
  rest : place.rest = subject.drop place.count

/-- Places are at the positions that are meant, and at all of them. -/
structure Covers (subject : Text) (places : List Place) (isMeant : Nat → Prop) : Prop where
  sound : ∀ place ∈ places, place.IsIn subject ∧ isMeant place.count
  complete : ∀ j, isMeant j → ∃ place ∈ places, place.count = j

variable {places more : List Place} {isMeant isMeant' : Nat → Prop} {place : Place}

namespace Covers

theorem congr (h : Covers subject places isMeant) (hiff : ∀ j, isMeant j ↔ isMeant' j) :
    Covers subject places isMeant' :=
  ⟨fun place hplace => ⟨(h.sound place hplace).1, (hiff _).mp (h.sound place hplace).2⟩,
    fun j hj => h.complete j ((hiff j).mpr hj)⟩

theorem nil : Covers subject [] fun _ => False := ⟨nofun, nofun⟩

theorem singleton (h : place.IsIn subject) : Covers subject [place] fun j => j = place.count := by
  constructor
  · intro other hother
    obtain rfl := List.mem_singleton.mp hother
    exact ⟨h, rfl⟩
  · rintro j rfl
    exact ⟨place, List.mem_singleton_self place, rfl⟩

/-- A place that stays where it is, if there is a reason to. -/
theorem ite_singleton (h : place.IsIn subject) {test : Bool} {holds : Prop} (hiff : test = true ↔ holds) :
    Covers subject (if test then [place] else []) fun j => j = place.count ∧ holds := by
  cases htest : test with
  | true => exact (singleton h).congr fun j => by simp [← hiff, htest]
  | false => exact nil.congr fun j => by simp [← hiff, htest]

theorem append (h : Covers subject places isMeant) (h' : Covers subject more isMeant') :
    Covers subject (places ++ more) fun j => isMeant j ∨ isMeant' j := by
  constructor
  · intro place hplace
    rcases List.mem_append.mp hplace with hplace | hplace
    · exact ⟨(h.sound place hplace).1, .inl (h.sound place hplace).2⟩
    · exact ⟨(h'.sound place hplace).1, .inr (h'.sound place hplace).2⟩
  · rintro j (hj | hj)
    · obtain ⟨place, hplace, hcount⟩ := h.complete j hj
      exact ⟨place, List.mem_append_left _ hplace, hcount⟩
    · obtain ⟨place, hplace, hcount⟩ := h'.complete j hj
      exact ⟨place, List.mem_append_right _ hplace, hcount⟩

theorem flatMap {f : Place → List Place} {leads : Nat → Nat → Prop} (h : Covers subject places isMeant)
    (hf : ∀ place, place.IsIn subject → Covers subject (f place) (leads place.count)) :
    Covers subject (places.flatMap f) fun k => ∃ j, isMeant j ∧ leads j k := by
  constructor
  · intro after hafter
    obtain ⟨place, hplace, hafter⟩ := List.mem_flatMap.mp hafter
    obtain ⟨hin, hmeant⟩ := h.sound place hplace
    exact ⟨((hf place hin).sound after hafter).1, _, hmeant, ((hf place hin).sound after hafter).2⟩
  · rintro k ⟨j, hj, hk⟩
    obtain ⟨place, hplace, rfl⟩ := h.complete j hj
    obtain ⟨after, hafter, hcount⟩ := (hf place (h.sound place hplace).1).complete k hk
    exact ⟨after, List.mem_flatMap.mpr ⟨place, hplace, hafter⟩, hcount⟩

theorem filter (h : Covers subject places isMeant) {test : Place → Bool} (keeps : Nat → Prop)
    (htest : ∀ place ∈ places, test place = true ↔ keeps place.count) :
    Covers subject (places.filter test) fun j => isMeant j ∧ keeps j := by
  constructor
  · intro place hplace
    obtain ⟨hplace, hkept⟩ := List.mem_filter.mp hplace
    exact ⟨(h.sound place hplace).1, (h.sound place hplace).2, (htest place hplace).mp hkept⟩
  · rintro j ⟨hj, hkept⟩
    obtain ⟨place, hplace, rfl⟩ := h.complete j hj
    exact ⟨place, List.mem_filter.mpr ⟨hplace, (htest place hplace).mpr hkept⟩, rfl⟩

/-- Other places at the same positions will do. -/
theorem of_sameCounts (h : Covers subject places isMeant) (hsub : more ⊆ places)
    (hcounts : ∀ place ∈ places, ∃ other ∈ more, other.count = place.count) : Covers subject more isMeant := by
  refine ⟨fun place hplace => h.sound place (hsub hplace), fun j hj => ?_⟩
  obtain ⟨place, hplace, rfl⟩ := h.complete j hj
  exact hcounts place hplace

end Covers

/-- What `distinct` does with one place. -/
def withNew (done : List Place) (place : Place) : List Place :=
  if done.any fun other => other.count == place.count then done else place :: done

theorem distinct_eq (places : List Place) : distinct places = (places.foldl withNew []).reverse := rfl

theorem mem_of_mem_foldl_withNew {done : List Place} (h : place ∈ places.foldl withNew done) :
    place ∈ done ∨ place ∈ places := by
  induction places generalizing done with
  | nil => exact .inl h
  | cons first places ih =>
    rcases ih h with hdone | hmem
    · rw [withNew] at hdone
      split at hdone
      · exact .inl hdone
      · rcases List.mem_cons.mp hdone with rfl | hdone
        · exact .inr List.mem_cons_self
        · exact .inl hdone
    · exact .inr (List.mem_cons_of_mem _ hmem)

theorem exists_mem_withNew (done : List Place) (place : Place) : ∃ other ∈ withNew done place, other.count = place.count := by
  rw [withNew]
  split
  case isTrue hany =>
    obtain ⟨other, hother, hcount⟩ := List.any_eq_true.mp hany
    exact ⟨other, hother, eq_of_beq hcount⟩
  case isFalse => exact ⟨place, List.mem_cons_self, rfl⟩

theorem subset_withNew (done : List Place) (place : Place) : done ⊆ withNew done place := by
  rw [withNew]
  split
  · exact List.Subset.refl done
  · exact List.subset_cons_self place done

theorem subset_foldl_withNew (places done : List Place) : done ⊆ places.foldl withNew done := by
  induction places generalizing done with
  | nil => exact List.Subset.refl done
  | cons first places ih => exact List.Subset.trans (subset_withNew done first) (ih _)

theorem exists_mem_foldl_withNew (done : List Place) (h : place ∈ places) :
    ∃ other ∈ places.foldl withNew done, other.count = place.count := by
  induction places generalizing done with
  | nil => exact nomatch h
  | cons first places ih =>
    rcases List.mem_cons.mp h with rfl | h
    · obtain ⟨other, hother, hcount⟩ := exists_mem_withNew done place
      exact ⟨other, subset_foldl_withNew places _ hother, hcount⟩
    · exact ih _ h

theorem distinct_subset (places : List Place) : distinct places ⊆ places := by
  intro place hplace
  rw [distinct_eq, List.mem_reverse] at hplace
  simpa using mem_of_mem_foldl_withNew hplace

theorem exists_mem_distinct (h : place ∈ places) : ∃ other ∈ distinct places, other.count = place.count := by
  obtain ⟨other, hother, hcount⟩ := exists_mem_foldl_withNew [] h
  exact ⟨other, by rwa [distinct_eq, List.mem_reverse], hcount⟩

theorem Covers.distinct (h : Covers subject places isMeant) : Covers subject (distinct places) isMeant :=
  h.of_sameCounts (distinct_subset places) fun _ hplace => exists_mem_distinct hplace

theorem Covers.furthestFirst (h : Covers subject places isMeant) : Covers subject (furthestFirst places) isMeant := by
  have hmem (place : Place) : place ∈ Expression.furthestFirst places ↔ place ∈ places := List.mem_mergeSort
  exact h.of_sameCounts (fun place hplace => (hmem place).mp hplace)
    fun place hplace => ⟨place, (hmem place).mpr hplace, rfl⟩

namespace Place.IsIn

variable {c : Char} {rest : Text}

theorem getElem? (h : place.IsIn subject) : subject[place.count]? = place.rest.head? := by
  rw [h.rest, List.head?_drop]

theorem next (h : place.IsIn subject) (hrest : place.rest = c :: rest) : (place.next c rest).IsIn subject := by
  have hc : subject[place.count]? = some c := by rw [h.getElem?, hrest, List.head?_cons]
  obtain ⟨hlt, -⟩ := List.getElem?_eq_some_iff.mp hc
  refine ⟨hlt, hc.symm, ?_⟩
  rw [h.rest] at hrest
  show rest = subject.drop (place.count + 1)
  rw [← List.drop_drop, hrest, List.drop_one, List.tail_cons]

theorem previous_isNone (h : place.IsIn subject) : place.previous.isNone = true ↔ place.count = 0 := by
  have := h.count_le
  rw [h.previous, before]
  split
  case isTrue h0 => simp [h0]
  case isFalse h0 =>
    simp only [Option.isNone_iff_eq_none, List.getElem?_eq_none_iff, h0, iff_false]
    omega

theorem rest_isEmpty (h : place.IsIn subject) : place.rest.isEmpty = true ↔ place.count = subject.length := by
  have := h.count_le
  rw [h.rest, List.isEmpty_iff, List.drop_eq_nil_iff]
  omega

end Place.IsIn

/-! ## Single characters -/

/-- One character is taken if it is meant. -/
theorem covers_oneChar (h : place.IsIn subject) (isMeant : Char → Bool) :
    Covers subject (match place.rest with
      | c :: rest => if isMeant c then [place.next c rest] else []
      | [] => []) (OneChar subject isMeant place.count) := by
  have hc := h.getElem?
  split
  case h_1 c rest hrest =>
    rw [hrest, List.head?_cons] at hc
    split
    case isTrue hmeant =>
      exact (Covers.singleton (h.next hrest)).congr fun j => by simp [OneChar, hc, hmeant, Place.next]
    case isFalse hmeant => exact Covers.nil.congr fun j => by simp [OneChar, hc, hmeant]
  case h_2 hrest => exact Covers.nil.congr fun j => by simp [OneChar, hc, hrest]

theorem fits_of_single? {expression : Expression} {isMeant : Char → Bool} (h : single? mode expression = some isMeant) :
    Fits mode subject expression = OneChar subject isMeant := by
  cases expression with
  | char c =>
    obtain rfl := Option.some.inj h
    rfl
  | anyChar =>
    obtain rfl := Option.some.inj h
    rfl
  | set isNegated members =>
    obtain rfl := Option.some.inj h
    rfl
  | _ => exact nomatch h

theorem mem_runSingle (isMeant : Char → Bool) : ∀ (limit : Nat) (done : List Place) (place other : Place),
    other ∈ runSingle isMeant limit done place ↔ other ∈ done ∨ other ∈ runSingle isMeant limit [] place
  | 0, done, place, other => by simp [runSingle, or_comm]
  | limit + 1, done, place, other => by
    unfold runSingle
    split
    case h_1 c rest hrest =>
      split
      case isTrue =>
        rw [mem_runSingle isMeant limit (place :: done), mem_runSingle isMeant limit [place]]
        simp [or_left_comm, or_assoc]
      case isFalse => simp [or_comm]
    case h_2 => simp [or_comm]

/-- A run takes characters up to some number of them. -/
theorem runSingle_covers (isMeant : Char → Bool) : ∀ (limit : Nat) {place : Place}, place.IsIn subject →
    Covers subject (runSingle isMeant limit [] place)
      fun j => ∃ n, n ≤ limit ∧ Rounds (OneChar subject isMeant) n place.count j
  | 0, place, h => (Covers.singleton h).congr fun j => by simp [Rounds.zero_iff]
  | limit + 1, place, h => by
    have hstop (hnone : ∀ c, subject[place.count]? = some c → isMeant c = false) :
        Covers subject [place] fun j => ∃ n, n ≤ limit + 1 ∧ Rounds (OneChar subject isMeant) n place.count j := by
      refine (Covers.singleton h).congr fun j => ⟨?_, ?_⟩
      · rintro rfl
        exact ⟨0, Nat.zero_le _, .zero _⟩
      · rintro ⟨_ | n, -, hrounds⟩
        · exact Rounds.zero_iff.mp hrounds
        · obtain ⟨c, hc, hmeant, -⟩ := Rounds.oneChar_cons.mp hrounds
          simp [hnone c hc] at hmeant
    have hc := h.getElem?
    unfold runSingle
    split
    case h_1 c rest hrest =>
      rw [hrest, List.head?_cons] at hc
      split
      case isTrue hmeant =>
        have hmore := runSingle_covers isMeant limit (h.next hrest)
        have hall := (Covers.singleton h).append hmore
        refine (hall.congr fun j => ?_).of_sameCounts ?_ ?_
        · constructor
          · rintro (rfl | ⟨n, hn, hrounds⟩)
            · exact ⟨0, Nat.zero_le _, .zero _⟩
            · exact ⟨n + 1, Nat.succ_le_succ hn, Rounds.oneChar_cons.mpr ⟨c, hc, hmeant, hrounds⟩⟩
          · rintro ⟨_ | n, hn, hrounds⟩
            · exact .inl (Rounds.zero_iff.mp hrounds)
            · obtain ⟨d, -, -, hrounds⟩ := Rounds.oneChar_cons.mp hrounds
              exact .inr ⟨n, Nat.le_of_succ_le_succ hn, hrounds⟩
        · intro other hother
          simpa using (mem_runSingle isMeant limit [place] _ other).mp hother
        · intro other hother
          exact ⟨other, (mem_runSingle isMeant limit [place] _ other).mpr (by simpa using hother), rfl⟩
      case isFalse hmeant =>
        refine hstop fun d hd => ?_
        obtain rfl : c = d := Option.some.inj (hc.symm.trans hd)
        simpa using hmeant
    case h_2 hrest =>
      rw [hrest] at hc
      exact hstop fun d hd => by simp [hc] at hd

/-! ## Repetitions -/

section

variable {further : Place → List Place} {leads : Nat → Nat → Prop} {least : Nat} {greatest : Option Nat} {i round : Nat}
  {found frontier : List Place}

/-- Some allowed number of rounds leads from a position to another one. -/
def Within (leads : Nat → Nat → Prop) (least most i j : Nat) : Prop := ∃ n, least ≤ n ∧ n ≤ most ∧ Rounds leads n i j

/--
What holds in every round behind the least number of them: all positions that were reached so far are known, and only those
at the frontier can lead to new ones.
-/
structure Saturates (subject : Text) (leads : Nat → Nat → Prop) (least i round : Nat) (found frontier : List Place) :
    Prop where
  covers : Covers subject (found ++ frontier) (Within leads least round i)
  closed : ∀ place ∈ found, ∀ k, leads place.count k → ∃ other ∈ found ++ frontier, other.count = k
  far : ∀ place ∈ frontier, i + (round - least) ≤ place.count

/-- If nothing is left to go on from, then no number of rounds leads to a new position. -/
theorem Saturates.covers_all (h : Saturates subject leads least i round found []) (hround : least ≤ round)
    (hgreatest : ∀ most ∈ greatest, round ≤ most) :
    Covers subject found fun j => ∃ n, least ≤ n ∧ (∀ most ∈ greatest, n ≤ most) ∧ Rounds leads n i j := by
  have hcovers : Covers subject found (Within leads least round i) := by simpa using h.covers
  have hall : ∀ n, least ≤ n → ∀ j, Rounds leads n i j → ∃ place ∈ found, place.count = j := by
    intro n hn
    induction hn with
    | refl => exact fun j hj => hcovers.complete j ⟨least, Nat.le_refl _, hround, hj⟩
    | step _ ih =>
      intro k hk
      obtain ⟨j, hj, hlast⟩ := Rounds.succ_iff.mp hk
      obtain ⟨place, hplace, rfl⟩ := ih j hj
      simpa using h.closed place hplace k hlast
  constructor
  · intro place hplace
    obtain ⟨hin, n, hn, hmost, hrounds⟩ := hcovers.sound place hplace
    exact ⟨hin, n, hn, fun most h => Nat.le_trans hmost (hgreatest most h), hrounds⟩
  · rintro j ⟨n, hn, -, hrounds⟩
    exact hall n hn j hrounds

/-- One more round, in which places that bring nothing new may be left out. -/
theorem Saturates.goOn (h : Saturates subject leads least i round found frontier) (hround : least ≤ round)
    (hfurther : ∀ place, place.IsIn subject → Covers subject (further place) (leads place.count))
    (hle : ∀ {j k}, leads j k → j ≤ k) {fresh : List Place}
    (hsub : ∀ after ∈ fresh, ∃ place ∈ frontier, after ∈ further place ∧ after.count ≠ place.count)
    (hcounts : ∀ place ∈ frontier, ∀ after ∈ further place, after.count ≠ place.count →
      ∃ other ∈ (found ++ frontier) ++ fresh, other.count = after.count) :
    Saturates subject leads least i (round + 1) (found ++ frontier) fresh := by
  have hclosed : ∀ place ∈ found ++ frontier, ∀ k, leads place.count k →
      ∃ other ∈ (found ++ frontier) ++ fresh, other.count = k := by
    intro place hplace k hk
    rcases List.mem_append.mp hplace with hfound | hfrontier
    · obtain ⟨other, hother, hcount⟩ := h.closed place hfound k hk
      exact ⟨other, List.mem_append_left _ hother, hcount⟩
    · obtain ⟨after, hafter, rfl⟩ := (hfurther place (h.covers.sound place hplace).1).complete k hk
      by_cases hsame : after.count = place.count
      · exact ⟨place, List.mem_append_left _ hplace, hsame.symm⟩
      · exact hcounts place hfrontier after hafter hsame
  refine ⟨⟨fun after hafter => ?_, ?_⟩, hclosed, fun after hafter => ?_⟩
  · rcases List.mem_append.mp hafter with hafter | hafter
    · obtain ⟨hin, n, hn, hmost, hrounds⟩ := h.covers.sound after hafter
      exact ⟨hin, n, hn, Nat.le_succ_of_le hmost, hrounds⟩
    · obtain ⟨place, hplace, hafter, -⟩ := hsub after hafter
      obtain ⟨hin, n, hn, hmost, hrounds⟩ := h.covers.sound place (List.mem_append_right _ hplace)
      obtain ⟨hin', hlast⟩ := (hfurther place hin).sound after hafter
      exact ⟨hin', n + 1, Nat.le_succ_of_le hn, Nat.succ_le_succ hmost, hrounds.succ hlast⟩
  · rintro k ⟨n, hn, hmost, hrounds⟩
    rcases Nat.le_succ_iff.mp hmost with hmost | rfl
    · obtain ⟨place, hplace, hcount⟩ := h.covers.complete k ⟨n, hn, hmost, hrounds⟩
      exact ⟨place, List.mem_append_left _ hplace, hcount⟩
    · obtain ⟨j, hj, hlast⟩ := Rounds.succ_iff.mp hrounds
      obtain ⟨place, hplace, rfl⟩ := h.covers.complete j ⟨round, hround, Nat.le_refl _, hj⟩
      exact hclosed place hplace k hlast
  · obtain ⟨place, hplace, hafter, hne⟩ := hsub after hafter
    have hin := (h.covers.sound place (List.mem_append_right _ hplace)).1
    have := hle ((hfurther place hin).sound after hafter).2
    have := h.far place hplace
    omega

/-- Behind the least number of rounds a repetition finds all positions: each round leads on, and the text ends. -/
theorem iterate_covers_behind (hfurther : ∀ place, place.IsIn subject → Covers subject (further place) (leads place.count))
    (hle : ∀ {j k}, leads j k → j ≤ k) : ∀ {fuel round : Nat} {found frontier : List Place}, least ≤ round →
    (∀ most ∈ greatest, round ≤ most) → subject.length + least < i + fuel + round →
    Saturates subject leads least i round found frontier →
    Covers subject (iterate further least greatest fuel round found frontier)
      fun j => ∃ n, least ≤ n ∧ (∀ most ∈ greatest, n ≤ most) ∧ Rounds leads n i j
  | 0, round, found, frontier, hround, hgreatest, hfuel, h => by
    -- A place at the frontier would be behind the end of the text.
    obtain rfl : frontier = [] := by
      refine List.eq_nil_iff_forall_not_mem.mpr fun place hplace => ?_
      have := h.far place hplace
      have := (h.covers.sound place (List.mem_append_right _ hplace)).1.count_le
      omega
    exact h.covers_all hround hgreatest
  | fuel + 1, round, found, frontier, hround, hgreatest, hfuel, h => by
    rw [iterate, if_neg (Nat.not_lt.mpr hround)]
    split
    case isTrue hstop =>
      rcases (Bool.or_eq_true ..).mp hstop with hempty | hmost
      · obtain rfl := List.isEmpty_iff.mp hempty
        rw [List.append_nil]
        exact h.covers_all hround hgreatest
      · cases greatest with
        | none => simp at hmost
        | some most =>
          obtain rfl : most = round := Nat.le_antisymm (by simpa using hmost) (hgreatest most rfl)
          exact h.covers.congr fun j => by simp [Within]
    case isFalse hgo =>
      refine iterate_covers_behind hfurther hle (Nat.le_succ_of_le hround) ?_ (by omega) (h.goOn hround hfurther hle ?_ ?_)
      · rintro most rfl
        simpa [Nat.succ_le_iff] using (not_or.mp (mt (Bool.or_eq_true ..).mpr hgo)).2
      · intro after hafter
        obtain ⟨place, hplace, hafter⟩ := List.mem_flatMap.mp (distinct_subset _ (List.mem_filter.mp hafter).1)
        obtain ⟨hafter, hkept⟩ := List.mem_filter.mp hafter
        exact ⟨place, hplace, hafter, by simpa [Nat.not_lt.mpr hround] using hkept⟩
      · intro place hplace after hafter hne
        have hall : after ∈ frontier.flatMap fun place =>
            (further place).filter fun after => after.count != place.count || round < least :=
          List.mem_flatMap.mpr ⟨place, hplace, List.mem_filter.mpr ⟨hafter, by simp [hne]⟩⟩
        obtain ⟨other, hother, hcount⟩ := exists_mem_distinct hall
        rw [← hcount]
        -- Another place at this position may be known already.
        cases hknown : (found ++ frontier).any fun known => known.count == other.count && known.groups == other.groups with
        | true =>
          obtain ⟨known, hmem, hsame⟩ := List.any_eq_true.mp hknown
          exact ⟨known, List.mem_append_left _ hmem, eq_of_beq ((Bool.and_eq_true ..).mp hsame).1⟩
        | false => exact ⟨other, List.mem_append_right _ (List.mem_filter.mpr ⟨hother, by simp [hknown]⟩), rfl⟩

/-- **A repetition finds the ends of all allowed numbers of rounds, and no others.** -/
theorem iterate_covers (hfurther : ∀ place, place.IsIn subject → Covers subject (further place) (leads place.count))
    (hle : ∀ {j k}, leads j k → j ≤ k) : ∀ {fuel round : Nat} {frontier : List Place}, round ≤ least →
    (∀ most ∈ greatest, round ≤ most) → subject.length + least < i + fuel + round →
    i ≤ subject.length → Covers subject frontier (Rounds leads round i) →
    Covers subject (iterate further least greatest fuel round [] frontier)
      fun j => ∃ n, least ≤ n ∧ (∀ most ∈ greatest, n ≤ most) ∧ Rounds leads n i j
  | 0, _, _, _, _, _, _, _ => by omega
  | fuel + 1, round, frontier, hround, hgreatest, hfuel, hi, h => by
    by_cases hbefore : round < least
    case neg =>
      obtain rfl : round = least := Nat.le_antisymm hround (Nat.not_lt.mp hbefore)
      refine iterate_covers_behind hfurther hle (Nat.le_refl _) hgreatest hfuel ⟨?_, nofun, fun place hplace => ?_⟩
      · refine h.congr fun j => ⟨fun hj => ⟨round, Nat.le_refl _, Nat.le_refl _, hj⟩, ?_⟩
        rintro ⟨n, hn, hn', hj⟩
        obtain rfl := Nat.le_antisymm hn hn'
        exact hj
      · rw [Nat.sub_self]
        exact (h.sound place hplace).2.le hle
    case pos =>
      rw [iterate, if_pos hbefore]
      split
      case isTrue hstop =>
        -- No number of rounds is allowed, or the least one leads nowhere.
        refine Covers.nil.congr fun j => ⟨False.elim, ?_⟩
        rintro ⟨n, hn, hmost, hrounds⟩
        rcases (Bool.or_eq_true ..).mp hstop with hempty | hgreatest
        · obtain ⟨k, hk⟩ := hrounds.exists_front (Nat.le_trans hround hn)
          obtain ⟨place, hplace, -⟩ := h.complete k hk
          simp [List.isEmpty_iff.mp hempty] at hplace
        · obtain ⟨most, hmem, hle⟩ := Option.any_eq_true _ _ |>.mp hgreatest
          have := hmost most hmem
          have := of_decide_eq_true hle
          omega
      case isFalse hgo =>
        refine iterate_covers hfurther hle hbefore ?_ (by omega) hi ?_
        · rintro most rfl
          simpa [Nat.succ_le_iff] using (not_or.mp (mt (Bool.or_eq_true ..).mpr hgo)).2
        · have hall (places : List Place) : places.filter (fun _ => true) = places := List.filter_eq_self.mpr fun _ _ => rfl
          simp only [hbefore, decide_true, Bool.or_true, Bool.true_or, hall]
          exact (h.flatMap hfurther).distinct.congr fun j => Rounds.succ_iff.symm

end

/-! ## All expressions -/

/-- What groups fitted says nothing about where places are. -/
theorem Covers.withGroups (h : Covers subject places isMeant) (groups : Place → List (Nat × Nat × Nat)) :
    Covers subject (places.map fun place => { place with groups := groups place }) isMeant := by
  constructor
  · intro after hafter
    obtain ⟨place, hplace, rfl⟩ := List.mem_map.mp hafter
    obtain ⟨⟨hle, hprevious, hrest⟩, hmeant⟩ := h.sound place hplace
    exact ⟨⟨hle, hprevious, hrest⟩, hmeant⟩
  · intro j hj
    obtain ⟨place, hplace, hcount⟩ := h.complete j hj
    exact ⟨_, List.mem_map.mpr ⟨place, hplace, rfl⟩, hcount⟩

theorem lineStart_iff (h : place.IsIn subject) :
    (place.previous.isNone || (mode.hasLines && place.previous == some '\n')) = true ↔
      place.count = 0 ∨ mode.hasLines = true ∧ before subject place.count = some '\n' := by
  rw [Bool.or_eq_true, h.previous_isNone, h.previous, Bool.and_eq_true, beq_iff_eq]

theorem lineEnd_iff (h : place.IsIn subject) :
    (place.rest.isEmpty || (mode.hasLines && place.rest.head? == some '\n')) = true ↔
      place.count = subject.length ∨ mode.hasLines = true ∧ subject[place.count]? = some '\n' := by
  rw [Bool.or_eq_true, h.rest_isEmpty, h.getElem?, Bool.and_eq_true, beq_iff_eq]

/-- Single characters are repeated in one run. -/
theorem runSingle_covers_repeated (h : place.IsIn subject) (isMeant : Char → Bool) (least : Nat) (greatest : Option Nat) :
    Covers subject ((runSingle isMeant (greatest.getD place.rest.length) [] place).filter fun after =>
        after.count ≥ place.count + least) fun j =>
      ∃ n, least ≤ n ∧ (∀ most ∈ greatest, n ≤ most) ∧ Rounds (OneChar subject isMeant) n place.count j := by
  refine ((runSingle_covers isMeant _ h).filter (fun j => place.count + least ≤ j) ?_).congr fun j => ?_
  · exact fun after _ => by simp
  constructor
  · rintro ⟨⟨n, hn, hrounds⟩, hleast⟩
    have := hrounds.oneChar_eq
    refine ⟨n, by omega, ?_, hrounds⟩
    rintro most rfl
    exact hn
  · rintro ⟨n, hn, hmost, hrounds⟩
    have hj := hrounds.oneChar_eq
    refine ⟨⟨n, ?_, hrounds⟩, by omega⟩
    cases greatest with
    | some most => exact hmost most rfl
    | none =>
      have := hrounds.oneChar_le h.count_le
      rw [Option.getD_none, h.rest, List.length_drop]
      omega

/-- **The search goes on from exactly the positions up to which an expression fits.** -/
theorem ends_covers : ∀ (expression : Expression), expression.NoReferences → ∀ {place : Place}, place.IsIn subject →
    Covers subject (ends mode subject expression place) (Fits mode subject expression place.count)
  | empty, _, _, h => Covers.singleton h
  | char c, _, _, h => covers_oneChar h (sameChar mode c)
  | anyChar, _, _, h => covers_oneChar h fun _ => true
  | set isNegated members, _, place, h => by
    obtain ⟨isMeant, hsingle⟩ : ∃ isMeant, single? mode (set isNegated members) = some isMeant := ⟨_, rfl⟩
    have hset := covers_oneChar h isMeant
    rw [fits_of_single? hsingle, ends, hsingle]
    cases hrest : place.rest with
    | nil => simpa only [hrest] using hset
    | cons c rest => simpa only [hrest] using hset
  | start, _, _, h => Covers.ite_singleton h (lineStart_iff h)
  | finish, _, _, h => Covers.ite_singleton h (lineEnd_iff h)
  | textStart, _, _, h => Covers.ite_singleton h h.previous_isNone
  | textEnd, _, _, h => Covers.ite_singleton h h.rest_isEmpty
  | edge isWordBefore isWordAfter, _, _, h => Covers.ite_singleton h (by simp [h.previous, h.getElem?])
  | boundary isNegated, _, _, h => Covers.ite_singleton h (by rw [h.previous, h.getElem?, bne_iff_ne, Bool.eq_not])
  | group number inner, hplain, _, h => (ends_covers inner hplain h).withGroups _
  | sequence first second, ⟨hfirst, hsecond⟩, _, h =>
    ((ends_covers first hfirst h).flatMap fun _ hplace => ends_covers second hsecond hplace).distinct
  | either first second, ⟨hfirst, hsecond⟩, _, h =>
    ((ends_covers first hfirst h).append (ends_covers second hsecond h)).furthestFirst.distinct
  | repeated inner least greatest, hplain, place, h => by
    rw [ends]
    split
    case h_1 isMeant hsingle =>
      refine (runSingle_covers_repeated h isMeant least greatest).congr fun j => ?_
      rw [Fits, fits_of_single? hsingle]
    case h_2 =>
      refine (iterate_covers (fun place hplace => ends_covers inner hplain hplace) Fits.le
        (Nat.zero_le _) (fun _ _ => Nat.zero_le _) ?_ h.count_le ?_).furthestFirst.distinct
      · rw [h.rest, List.length_drop]
        have := h.count_le
        omega
      · exact (Covers.singleton h).congr fun j => Rounds.zero_iff.symm

end Expression

end LogDiagram.Shell
