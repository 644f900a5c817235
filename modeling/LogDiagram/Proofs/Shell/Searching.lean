import LogDiagram.Proofs.Shell.Expressions
import LogDiagram.Shell.Search
import Mathlib.Data.List.Induction

/-!
# What a search finds

The part of a text that is found for an expression is the first one that is wanted, and the longest one of those that start
there (`Expression.findAt?_eq_some`); nothing is found only if no part is wanted (`Expression.findAt?_eq_none`). So a
search for lines selects exactly those with a part that one of its expressions stands for (`Query.selects_iff`), and if the
expressions are plain texts then those that hold one of the texts (`Query.selects_texts`).
-/

namespace LogDiagram.Shell

namespace Expression

variable {mode : MatchMode} {subject : Text} {places : List Place} {expression : Expression} {isWanted : Nat → Nat → Bool}

/-! ## The first and longest part -/

theorem exists_foldl_further (places : List Place) : ∀ best : Place,
    ∃ place, places.foldl further (some best) = some place ∧ (place = best ∨ place ∈ places) ∧
      best.count ≤ place.count ∧ ∀ other ∈ places, other.count ≤ place.count := by
  induction places with
  | nil => exact fun best => ⟨best, rfl, .inl rfl, Nat.le_refl _, nofun⟩
  | cons first places ih =>
    intro best
    obtain ⟨next, hnext, hbest, hfirst, hmem⟩ : ∃ next, further (some best) first = some next ∧
        best.count ≤ next.count ∧ first.count ≤ next.count ∧ (next = best ∨ next = first) := by
      by_cases hlt : best.count < first.count
      · exact ⟨first, by simp [further, hlt], Nat.le_of_lt hlt, Nat.le_refl _, .inr rfl⟩
      · exact ⟨best, by simp [further, hlt], Nat.le_refl _, Nat.not_lt.mp hlt, .inl rfl⟩
    obtain ⟨place, hplace, hin, hle, hall⟩ := ih next
    refine ⟨place, by rw [List.foldl_cons, hnext, hplace], ?_, Nat.le_trans hbest hle, ?_⟩
    · rcases hin with rfl | hin
      · exact hmem.imp_right fun h => List.mem_cons.mpr (.inl h)
      · exact .inr (List.mem_cons_of_mem _ hin)
    · intro other hother
      rcases List.mem_cons.mp hother with rfl | hother
      · exact Nat.le_trans hfirst hle
      · exact hall other hother

theorem furthest?_eq_some {place : Place} (h : furthest? places = some place) :
    place ∈ places ∧ ∀ other ∈ places, other.count ≤ place.count := by
  cases places with
  | nil => simp [furthest?] at h
  | cons first places =>
    obtain ⟨best, hbest, hin, hle, hall⟩ := exists_foldl_further places first
    obtain rfl : best = place := Option.some.inj (hbest.symm.trans h)
    refine ⟨List.mem_cons.mpr hin, fun other hother => ?_⟩
    rcases List.mem_cons.mp hother with rfl | hother
    · exact hle
    · exact hall other hother

theorem furthest?_eq_none (h : furthest? places = none) : places = [] := by
  cases places with
  | nil => rfl
  | cons first places =>
    obtain ⟨best, hbest, -⟩ := exists_foldl_further places first
    exact nomatch hbest.symm.trans h

/-- What is found is a part that is wanted: none starts further in front, and none that starts there goes on longer. -/
structure IsFirstLongest (mode : MatchMode) (subject : Text) (expression : Expression) (isWanted : Nat → Nat → Bool)
    (least : Nat) (found : Match) : Prop where
  least_le : least ≤ found.first
  last_le : found.last ≤ subject.length
  fits : Fits mode subject expression found.first found.last
  wanted : isWanted found.first found.last = true
  isFirst : ∀ i j, least ≤ i → i < found.first → Fits mode subject expression i j → isWanted i j = false
  isLongest : ∀ j, Fits mode subject expression found.first j → isWanted found.first j = true → j ≤ found.last


/-- The place at which a search starts. -/
theorem isIn_start {i : Nat} (hi : i ≤ subject.length) : Place.IsIn subject ⟨before subject i, i, subject.drop i, []⟩ :=
  ⟨hi, rfl, rfl⟩

/-- The places behind the parts from a position on that are wanted. -/
def wantedEnds (mode : MatchMode) (subject : Text) (expression : Expression) (isWanted : Nat → Nat → Bool) (i : Nat) :
    List Place :=
  (ends mode subject expression ⟨before subject i, i, subject.drop i, []⟩).filter fun place => isWanted i place.count

/-- What the search does at one position: it takes the longest part there, or it goes on. -/
theorem findAt?_eq (i : Nat) :
    findAt? mode subject expression isWanted (before subject i) i (subject.drop i) =
      match furthest? (wantedEnds mode subject expression isWanted i) with
      | some place => some ⟨i, place.count, place.groups⟩
      | none =>
        if i < subject.length then
          findAt? mode subject expression isWanted (before subject (i + 1)) (i + 1) (subject.drop (i + 1))
        else none := by
  by_cases hlt : i < subject.length
  · have hbefore : before subject (i + 1) = some subject[i] := by simp [before, hlt]
    rw [if_pos hlt, hbefore, wantedEnds, List.drop_eq_getElem_cons hlt, findAt?.eq_def]
    cases h : furthest? _ <;> simp only [h]
  · rw [if_neg hlt, wantedEnds, List.drop_eq_nil_of_le (Nat.not_lt.mp hlt), findAt?.eq_def]
    cases h : furthest? _ <;> simp only [h]

theorem wantedEnds_covers (hplain : expression.NoReferences) {i : Nat} (hi : i ≤ subject.length) :
    Covers subject (wantedEnds mode subject expression isWanted i)
      fun j => Fits mode subject expression i j ∧ isWanted i j = true :=
  (ends_covers expression hplain (isIn_start hi)).filter (fun j => isWanted i j = true) fun _ _ => Iff.rfl

/-- The search from a position on: either it finds the best part, or there is none. -/
theorem findAt?_spec (mode : MatchMode) (isWanted : Nat → Nat → Bool) (hplain : expression.NoReferences) {i : Nat} (hi : i ≤ subject.length) :
    (∃ found, findAt? mode subject expression isWanted (before subject i) i (subject.drop i) = some found ∧
      IsFirstLongest mode subject expression isWanted i found) ∨
    findAt? mode subject expression isWanted (before subject i) i (subject.drop i) = none ∧
      ∀ k j, i ≤ k → k ≤ subject.length → Fits mode subject expression k j → isWanted k j = false := by
  have hcovers : Covers subject (wantedEnds mode subject expression isWanted i) _ := wantedEnds_covers hplain hi
  rw [findAt?_eq]
  cases hfound : furthest? (wantedEnds mode subject expression isWanted i) with
  | some place =>
    obtain ⟨hplace, hlongest⟩ := furthest?_eq_some hfound
    obtain ⟨hin, hfits, hwanted⟩ := hcovers.sound place hplace
    refine .inl ⟨⟨i, place.count, place.groups⟩, rfl, Nat.le_refl _, hin.count_le, hfits, hwanted, ?_, ?_⟩
    · exact fun k _ hk hlt => absurd hlt (Nat.not_lt.mpr hk)
    · intro j hj hwanted
      obtain ⟨other, hother, rfl⟩ := hcovers.complete j ⟨hj, hwanted⟩
      exact hlongest other hother
  | none =>
    have hhere : ∀ j, Fits mode subject expression i j → isWanted i j = false := by
      refine fun j hj => Bool.eq_false_iff.mpr fun hwanted => ?_
      rw [furthest?_eq_none hfound] at hcovers
      obtain ⟨other, hother, -⟩ := hcovers.complete j ⟨hj, hwanted⟩
      exact nomatch hother
    by_cases hlt : i < subject.length
    case neg =>
      refine .inr ⟨if_neg hlt, fun k j hk hk' => ?_⟩
      obtain rfl : k = i := by omega
      exact hhere j
    case pos =>
      dsimp only
      rw [if_pos hlt]
      rcases findAt?_spec mode isWanted hplain hlt with ⟨found, hfound, h⟩ | ⟨hnone, h⟩
      · refine .inl ⟨found, hfound, Nat.le_of_succ_le h.least_le, h.last_le, h.fits, h.wanted, fun k j hk hk' => ?_,
          h.isLongest⟩
        rcases Nat.eq_or_lt_of_le hk with rfl | hk
        · exact hhere j
        · exact h.isFirst k j hk hk'
      · refine .inr ⟨hnone, fun k j hk hk' => ?_⟩
        rcases Nat.eq_or_lt_of_le hk with rfl | hk
        · exact hhere j
        · exact h k j hk hk'
termination_by subject.length - i

/-- **What is found from a position on is the first part that is wanted, and the longest one that starts there.** -/
theorem findAt?_eq_some (hplain : expression.NoReferences) {i : Nat} (hi : i ≤ subject.length) {found : Match}
    (h : findAt? mode subject expression isWanted (before subject i) i (subject.drop i) = some found) :
    IsFirstLongest mode subject expression isWanted i found := by
  rcases findAt?_spec mode isWanted hplain hi with ⟨other, hother, hbest⟩ | ⟨hnone, -⟩
  · obtain rfl : other = found := Option.some.inj (hother.symm.trans h)
    exact hbest
  · exact nomatch hnone.symm.trans h

/-- **Nothing is found from a position on if and only if no part is wanted.** -/
theorem findAt?_eq_none (hplain : expression.NoReferences) {i : Nat} (hi : i ≤ subject.length) :
    findAt? mode subject expression isWanted (before subject i) i (subject.drop i) = none ↔
      ∀ k j, i ≤ k → k ≤ subject.length → Fits mode subject expression k j → isWanted k j = false := by
  rcases findAt?_spec mode isWanted hplain hi with ⟨found, hfound, hbest⟩ | ⟨hnone, hall⟩
  · have hmid := hbest.fits.le
    constructor
    · exact fun hnone => nomatch hnone.symm.trans hfound
    · intro hall
      have := hall _ _ hbest.least_le (Nat.le_trans hmid hbest.last_le) hbest.fits
      exact nomatch this.symm.trans hbest.wanted
  · exact ⟨fun _ => hall, fun _ => hnone⟩

theorem isSome_findAt?_iff (hplain : expression.NoReferences) :
    (findAt? mode subject expression isWanted none 0 subject).isSome = true ↔
      ∃ i j, i ≤ subject.length ∧ Fits mode subject expression i j ∧ isWanted i j = true := by
  have hnone : findAt? mode subject expression isWanted (before subject 0) 0 (subject.drop 0) = none ↔ _ :=
    findAt?_eq_none hplain (Nat.zero_le subject.length)
  rw [before, if_pos rfl, List.drop_zero] at hnone
  rw [Option.isSome_iff_ne_none, ne_eq, hnone]
  simp

end Expression

/-- **A search selects the lines with a part that one of the expressions stands for, or else all the others.** -/
theorem Query.selects_iff (query : Query) (line : Text)
    (hplain : ∀ expression ∈ query.expressions, expression.NoReferences) :
    query.selects line = true ↔
      ((∃ expression ∈ query.expressions, ∃ i j, i ≤ line.length ∧ expression.Fits query.mode line i j ∧
        accepts query.extent line i j = true) ↔ query.isInverse = false) := by
  have hany : (query.expressions.any fun expression =>
      (Expression.findAt? query.mode line expression (accepts query.extent line) none 0 line).isSome) = true ↔
      ∃ expression ∈ query.expressions, ∃ i j, i ≤ line.length ∧ expression.Fits query.mode line i j ∧
        accepts query.extent line i j = true := by
    rw [List.any_eq_true]
    exact exists_congr fun expression => and_congr_right fun hmem => Expression.isSome_findAt?_iff (hplain expression hmem)
  rw [← hany, selects]
  generalize query.expressions.any _ = isFound
  cases isFound <;> cases query.isInverse <;> decide

/-! ## Texts as expressions -/

namespace Expression

variable {t : Text} {c : Char} {i j k : Nat}

theorem ofText_concat (t : Text) (c : Char) :
    ofText (t ++ [c]) = if ofText t = .empty then .char c else .sequence (ofText t) (.char c) := by
  rw [ofText, List.foldl_append]
  rfl

theorem noReferences_ofText (t : Text) : (ofText t).NoReferences := by
  induction t using List.reverseRecOn with
  | nil => trivial
  | append_singleton t c ih =>
    rw [ofText_concat]
    split
    · trivial
    · exact ⟨ih, trivial⟩

theorem fits_ofText_concat :
    Fits mode subject (ofText (t ++ [c])) i k ↔
      ∃ j, Fits mode subject (ofText t) i j ∧ OneChar subject (sameChar mode c) j k := by
  rw [ofText_concat]
  split
  case isTrue hempty => simp [hempty, Fits]
  case isFalse => rfl

/-- A text stands for its own characters, one behind the other. -/
theorem fits_ofText_iff :
    Fits mode subject (ofText t) i j ↔
      j = i + t.length ∧ ∀ n c, t[n]? = some c → ∃ d, subject[i + n]? = some d ∧ sameChar mode c d = true := by
  induction t using List.reverseRecOn generalizing j with
  | nil => simp [ofText, Fits]
  | append_singleton t c ih =>
    rw [fits_ofText_concat]
    constructor
    · rintro ⟨_, hfront, d, hd, hsame, rfl⟩
      obtain ⟨rfl, hall⟩ := ih.mp hfront
      refine ⟨by simp [Nat.add_assoc], fun n e hn => ?_⟩
      rcases Nat.lt_trichotomy n t.length with hlt | rfl | hgt
      · exact hall n e (by rwa [List.getElem?_append_left hlt] at hn)
      · obtain rfl : c = e := by simpa using hn
        exact ⟨d, hd, hsame⟩
      · simp [List.getElem?_append_right (Nat.le_of_lt hgt), Nat.sub_ne_zero_of_lt hgt] at hn
    · rintro ⟨rfl, hall⟩
      obtain ⟨d, hd, hsame⟩ := hall t.length c (by simp)
      refine ⟨i + t.length, ih.mpr ⟨rfl, fun n e hn => hall n e ?_⟩, d, hd, hsame, by simp [Nat.add_assoc]⟩
      obtain ⟨hlt, -⟩ := List.getElem?_eq_some_iff.mp hn
      rwa [List.getElem?_append_left hlt]

/-- Where capital letters matter, a text stands for nothing but itself. -/
theorem fits_ofText_iff_prefix (hcase : mode.ignoresCase = false) :
    Fits mode subject (ofText t) i j ↔ j = i + t.length ∧ t <+: subject.drop i := by
  have hsame (c d : Char) : sameChar mode c d = true ↔ d = c := by
    rw [sameChar, hcase, Bool.false_and, Bool.or_false, beq_iff_eq, eq_comm]
  rw [fits_ofText_iff, List.prefix_iff_getElem?]
  refine and_congr_right fun _ => ⟨fun h n hn => ?_, fun h n c hn => ?_⟩
  · obtain ⟨d, hd, hdc⟩ := h n _ (List.getElem?_eq_getElem hn)
    rw [List.getElem?_drop, hd, (hsame _ _).mp hdc]
  · obtain ⟨hlt, rfl⟩ := List.getElem?_eq_some_iff.mp hn
    exact ⟨t[n], by rw [← h n hlt, List.getElem?_drop], (hsame _ _).mpr rfl⟩

end Expression

/-- A search for texts selects the lines that hold one of them. -/
theorem Query.selects_texts (texts : List Text) (hasLines : Bool) (line : Text) :
    (Query.mk (texts.map Expression.ofText) ⟨false, hasLines⟩ .anywhere false).selects line = true ↔
      ∃ t ∈ texts, t <:+: line := by
  have hfits (t : Text) (i j : Nat) : (Expression.ofText t).Fits ⟨false, hasLines⟩ line i j ↔
      j = i + t.length ∧ t <+: line.drop i := Expression.fits_ofText_iff_prefix rfl
  rw [selects_iff]
  · simp only [List.mem_map, exists_exists_and_eq_and, iff_true, accepts, and_true, hfits]
    refine exists_congr fun t => and_congr_right fun _ => ⟨?_, ?_⟩
    · rintro ⟨i, _, -, -, h⟩
      exact h.isInfix.trans (List.drop_suffix i line).isInfix
    · rintro ⟨front, back, rfl⟩
      exact ⟨front.length, _, by simp, rfl, by simp⟩
  · intro expression hmem
    obtain ⟨t, -, rfl⟩ := List.mem_map.mp hmem
    exact Expression.noReferences_ofText t

end LogDiagram.Shell
