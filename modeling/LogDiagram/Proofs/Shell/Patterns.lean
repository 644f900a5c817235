import LogDiagram.Shell.Pattern

/-!
# What fits a pattern

`Glob.Fits` says what the pieces of a pattern stand for, one rule for each kind of piece, and `Glob.fits_iff` that
`Glob.fits` decides it. Patterns behind each other part a text between them (`Glob.fits_append_iff`), and what was quoted
stands for itself (`Glob.fits_ofField_fixed`). A cut at an end of a text takes the longest or the shortest part that fits
(`Glob.withoutEnd_takes_best`, `Glob.withoutStart_takes_best`), so a script that cuts `*/` off the start of a path is left
with the last name on it (`Glob.withoutStart_directories`).
-/

namespace LogDiagram.Shell.Glob

/-- The pieces of a pattern take one part of a text after the other. -/
inductive Fits : Glob → Text → Prop
  | nil : Fits [] []
  | anyText {rest : Glob} {t : Text} (taken : Text) : Fits rest t → Fits (.anyText :: rest) (taken ++ t)
  | anyChar {rest : Glob} {t : Text} (c : Char) : Fits rest t → Fits (.anyChar :: rest) (c :: t)
  | char {rest : Glob} {t : Text} (c : Char) : Fits rest t → Fits (.char c :: rest) (c :: t)
  | set {rest : Glob} {t : Text} {isNegated : Bool} {members : List GlobMember} (c : Char) :
      members.any (GlobMember.has c) = !isNegated → Fits rest t → Fits (.set isNegated members :: rest) (c :: t)

/-! ## The test -/

theorem anySuffix_eq_true {f : Text → Bool} : ∀ {t : Text},
    anySuffix f t = true ↔ ∃ taken rest, t = taken ++ rest ∧ f rest = true
  | [] => by
    constructor
    · intro h
      exact ⟨[], [], rfl, h⟩
    · rintro ⟨taken, rest, ht, h⟩
      obtain ⟨-, rfl⟩ := List.nil_eq_append_iff.mp ht
      exact h
  | c :: t => by
    simp only [anySuffix, Bool.or_eq_true, anySuffix_eq_true (t := t)]
    constructor
    · rintro (h | ⟨taken, rest, rfl, h⟩)
      · exact ⟨[], c :: t, rfl, h⟩
      · exact ⟨c :: taken, rest, rfl, h⟩
    · rintro ⟨taken, rest, ht, h⟩
      cases taken with
      | nil => exact .inl (by rw [ht]; exact h)
      | cons d taken =>
        obtain ⟨rfl, rfl⟩ := List.cons_eq_cons.mp ht
        exact .inr ⟨taken, rest, rfl, h⟩

theorem Fits.of_fits : ∀ {glob : Glob} {t : Text}, glob.fits t = true → glob.Fits t
  | [], t, h => by
    rw [fits, List.isEmpty_iff] at h
    subst h
    exact .nil
  | .anyText :: rest, t, h => by
    rw [fits] at h
    obtain ⟨taken, left, rfl, hleft⟩ := anySuffix_eq_true.mp h
    exact .anyText taken (of_fits hleft)
  | .anyChar :: rest, c :: t, h => by
    rw [fits] at h
    exact .anyChar c (of_fits h)
  | .char c :: rest, d :: t, h => by
    simp only [fits, Bool.and_eq_true, beq_iff_eq] at h
    obtain ⟨rfl, h⟩ := h
    exact .char c (of_fits h)
  | .set isNegated members :: rest, c :: t, h => by
    rw [fits, Bool.and_eq_true, bne_iff_ne] at h
    obtain ⟨hc, h⟩ := h
    exact .set c (Bool.eq_not_of_ne hc) (of_fits h)
  | .anyChar :: _, [], h | .char _ :: _, [], h | .set _ _ :: _, [], h => by simp [fits] at h

theorem Fits.fits {glob : Glob} {t : Text} (h : glob.Fits t) : glob.fits t = true := by
  induction h with
  | nil => rfl
  | anyText taken _ ih =>
    rw [Glob.fits]
    exact anySuffix_eq_true.mpr ⟨taken, _, rfl, ih⟩
  | anyChar c _ ih => simpa [Glob.fits] using ih
  | char c _ ih => simpa [Glob.fits] using ih
  | set c hc _ ih => simp [Glob.fits, hc, ih]

/-- **The test finds exactly the texts whose parts the pieces take.** -/
theorem fits_iff {glob : Glob} {t : Text} : glob.fits t = true ↔ glob.Fits t := ⟨Fits.of_fits, Fits.fits⟩

/-! ## Patterns that are put together -/

theorem Fits.append {glob more : Glob} {t u : Text} (h : glob.Fits t) (hu : more.Fits u) :
    Fits (glob ++ more) (t ++ u) := by
  induction h with
  | nil => exact hu
  | anyText taken _ ih =>
    rw [List.append_assoc]
    exact .anyText taken ih
  | anyChar c _ ih => exact .anyChar c ih
  | char c _ ih => exact .char c ih
  | set c hc _ ih => exact .set c hc ih

theorem Fits.split : ∀ {glob more : Glob} {t : Text}, Fits (glob ++ more) t →
    ∃ front back, t = front ++ back ∧ glob.Fits front ∧ more.Fits back
  | [], _, t, h => ⟨[], t, rfl, .nil, h⟩
  | _ :: _, _, _, .anyText taken h => by
    obtain ⟨front, back, rfl, hf, hb⟩ := split h
    exact ⟨taken ++ front, back, (List.append_assoc ..).symm, .anyText taken hf, hb⟩
  | _ :: _, _, _, .anyChar c h => by
    obtain ⟨front, back, rfl, hf, hb⟩ := split h
    exact ⟨c :: front, back, rfl, .anyChar c hf, hb⟩
  | _ :: _, _, _, .char c h => by
    obtain ⟨front, back, rfl, hf, hb⟩ := split h
    exact ⟨c :: front, back, rfl, .char c hf, hb⟩
  | _ :: _, _, _, .set c hc h => by
    obtain ⟨front, back, rfl, hf, hb⟩ := split h
    exact ⟨c :: front, back, rfl, .set c hc hf, hb⟩

/-- One pattern behind another takes what is left by it. -/
theorem fits_append_iff {glob more : Glob} {t : Text} :
    Fits (glob ++ more) t ↔ ∃ front back, t = front ++ back ∧ glob.Fits front ∧ more.Fits back := by
  constructor
  · exact Fits.split
  · rintro ⟨front, back, rfl, hf, hb⟩
    exact hf.append hb

/-- A pattern of plain characters is fitted by its own text only. -/
theorem fits_chars_iff {literal : Text} : ∀ {t : Text}, Fits (literal.map .char) t ↔ t = literal := by
  induction literal with
  | nil =>
    intro t
    constructor
    · rintro ⟨⟩
      rfl
    · rintro rfl
      exact .nil
  | cons c literal ih =>
    intro t
    constructor
    · rintro (_ | _ | _ | ⟨_, h⟩)
      rw [ih.mp h]
    · rintro rfl
      exact .char c (ih.mpr rfl)

/-- Characters that were quoted make a pattern that only their own text fits, whatever they mean elsewhere. -/
theorem fits_ofField_fixed {literal t : Text} :
    Fits (ofField (literal.map fun c => (c, true))) t ↔ t = literal := by
  have hread : ∀ (literal : Text) (fuel : Nat), literal.length < fuel →
      read fuel (literal.map fun c => (c, true)) = literal.map .char := by
    intro literal
    induction literal with
    | nil =>
      rintro (_ | fuel) h
      · simp at h
      · rfl
    | cons c literal ih =>
      rintro (_ | fuel) h
      · simp at h
      · simp only [List.map_cons, read, if_true, ih fuel (by simpa using h)]
  rw [ofField, hread literal _ (by simp), fits_chars_iff]

/-! ## What is taken off a text -/

/-- A length is the best of those with a property: the greatest one, or the least one. -/
def IsBest (isLongest : Bool) (hasIt : Nat → Prop) (n : Nat) : Prop :=
  hasIt n ∧ ∀ m, hasIt m → if isLongest then m ≤ n else n ≤ m

theorem mem_lengths {isLongest : Bool} {t : Text} {n : Nat} : n ∈ lengths isLongest t ↔ n ≤ t.length := by
  have hrange : n ∈ List.range (t.length + 1) ↔ n ≤ t.length := List.mem_range.trans Nat.lt_succ_iff
  cases isLongest with
  | false => exact hrange
  | true => exact List.mem_reverse.trans hrange

/-- The lengths are tried from the best one on. -/
theorem lengths_pairwise (isLongest : Bool) (t : Text) :
    (lengths isLongest t).Pairwise fun n m => if isLongest then m ≤ n else n ≤ m := by
  cases isLongest with
  | false => exact List.pairwise_lt_range.imp fun h => by simpa using Nat.le_of_lt h
  | true =>
    show (List.range (t.length + 1)).reverse.Pairwise _
    rw [List.pairwise_reverse]
    exact List.pairwise_lt_range.imp fun h => by simpa using Nat.le_of_lt h

theorem isBest_of_find? {isLongest : Bool} {t : Text} {p : Nat → Bool} {n : Nat}
    (h : (lengths isLongest t).find? p = some n) :
    n ≤ t.length ∧ IsBest isLongest (fun m => m ≤ t.length ∧ p m = true) n := by
  obtain ⟨hn, front, back, hlengths, hfront⟩ := List.find?_eq_some_iff_append.mp h
  have hmem : n ≤ t.length := mem_lengths.mp (List.mem_of_find?_eq_some h)
  refine ⟨hmem, ⟨hmem, hn⟩, fun m hm => ?_⟩
  have hm' : m ∈ front ++ n :: back := hlengths ▸ mem_lengths.mpr hm.1
  have hsorted := lengths_pairwise isLongest t
  rw [hlengths, List.pairwise_append] at hsorted
  rcases List.mem_append.mp hm' with hm' | hm'
  · have := hfront m hm'
    simp [hm.2] at this
  rcases List.mem_cons.mp hm' with rfl | hm'
  · split <;> exact Nat.le_refl _
  · exact List.rel_of_pairwise_cons hsorted.2.1 hm'

/-- **A cut at the end takes the best part that fits, and nothing if no end of the text fits.** -/
theorem withoutEnd_takes_best (glob : Glob) (isLongest : Bool) (t : Text) :
    (∃ front back, t = front ++ back ∧ glob.withoutEnd isLongest t = front ∧
      IsBest isLongest (fun n => ∃ front back, t = front ++ back ∧ back.length = n ∧ glob.Fits back) back.length) ∨
    (∀ front back, t = front ++ back → ¬ glob.Fits back) ∧ glob.withoutEnd isLongest t = t := by
  unfold withoutEnd
  cases h : (lengths isLongest t).find? fun n => glob.fits (t.drop (t.length - n)) with
  | none =>
    refine .inr ⟨fun front back ht hfits => ?_, rfl⟩
    have := List.find?_eq_none.mp h back.length (mem_lengths.mpr (by simp [ht]))
    simp [ht, hfits.fits] at this
  | some n =>
    obtain ⟨hn, ⟨-, hfits⟩, hbest⟩ := isBest_of_find? h
    have hlength : (t.drop (t.length - n)).length = n := by simp; omega
    refine .inl ⟨t.take (t.length - n), t.drop (t.length - n), (List.take_append_drop ..).symm, rfl, ?_, ?_⟩
    · exact ⟨_, _, (List.take_append_drop ..).symm, rfl, fits_iff.mp hfits⟩
    · rintro m ⟨front, back, rfl, rfl, hback⟩
      rw [hlength]
      exact hbest back.length ⟨by simp, by simpa using hback.fits⟩

/-- **A cut at the start takes the best part that fits, and nothing if no start of the text fits.** -/
theorem withoutStart_takes_best (glob : Glob) (isLongest : Bool) (t : Text) :
    (∃ front back, t = front ++ back ∧ glob.withoutStart isLongest t = back ∧
      IsBest isLongest (fun n => ∃ front back, t = front ++ back ∧ front.length = n ∧ glob.Fits front) front.length) ∨
    (∀ front back, t = front ++ back → ¬ glob.Fits front) ∧ glob.withoutStart isLongest t = t := by
  unfold withoutStart
  cases h : (lengths isLongest t).find? fun n => glob.fits (t.take n) with
  | none =>
    refine .inr ⟨fun front back ht hfits => ?_, rfl⟩
    have := List.find?_eq_none.mp h front.length (mem_lengths.mpr (by simp [ht]))
    simp [ht, hfits.fits] at this
  | some n =>
    obtain ⟨hn, ⟨-, hfits⟩, hbest⟩ := isBest_of_find? h
    have hlength : (t.take n).length = n := by simp; omega
    refine .inl ⟨t.take n, t.drop n, (List.take_append_drop ..).symm, rfl, ?_, ?_⟩
    · exact ⟨_, _, (List.take_append_drop ..).symm, rfl, fits_iff.mp hfits⟩
    · rintro m ⟨front, back, rfl, rfl, hfront⟩
      rw [hlength]
      exact hbest front.length ⟨by simp, by simpa using hfront.fits⟩

/-- The pattern `*/`, cut off the start of a path as far as it goes, leaves the last name on the path. -/
theorem withoutStart_directories (directory name : Text) (hname : '/' ∉ name) :
    withoutStart (ofField [('*', false), ('/', false)]) true (directory ++ '/' :: name) = name := by
  show withoutStart [.anyText, .char '/'] true (directory ++ '/' :: name) = name
  have hstart : Fits [.anyText, .char '/'] (directory ++ ['/']) := .anyText directory (.char '/' .nil)
  have hpath : directory ++ '/' :: name = (directory ++ ['/']) ++ name := by simp
  rw [hpath]
  rcases withoutStart_takes_best [.anyText, .char '/'] true ((directory ++ ['/']) ++ name) with
    ⟨front, back, ht, hcut, ⟨front', back', ht', hlength, hfits⟩, hbest⟩ | ⟨hnone, -⟩
  · -- The cut is at least as long as the one behind the last slash, and it ends in a slash itself.
    have hlong : (directory ++ ['/']).length ≤ front.length := hbest _ ⟨_, _, rfl, rfl, hstart⟩
    obtain ⟨rfl, rfl⟩ : front' = front ∧ back' = back := List.append_inj (ht'.symm.trans ht) hlength
    obtain ⟨more, rfl⟩ : directory ++ ['/'] <+: front' :=
      List.prefix_of_prefix_length_le (List.prefix_append _ name) (ht ▸ List.prefix_append front' back') hlong
    have hmore : name = more ++ back' := by
      rw [List.append_assoc _ more] at ht
      exact List.append_cancel_left ht
    rcases List.eq_nil_or_concat more with rfl | ⟨more, c, rfl⟩
    · rw [hcut, hmore, List.nil_append]
    · have hfits : Fits ([.anyText] ++ ['/'].map .char) (directory ++ ['/'] ++ more.concat c) := hfits
      obtain ⟨taken, ending, hsplit, -, hending⟩ := hfits.split
      obtain rfl := fits_chars_iff.mp hending
      rw [List.concat_eq_append, ← List.append_assoc] at hsplit
      obtain ⟨-, hc⟩ := List.append_inj' hsplit rfl
      obtain rfl : c = '/' := by simpa using hc
      exact absurd (by simp [hmore]) hname
  · exact absurd hstart (hnone _ _ rfl)

end LogDiagram.Shell.Glob
