import Mathlib.Data.List.Basic
import Mathlib.Data.List.Induction
import LogDiagram.Diagram.PairCheck

/-!
# What the pair check finds

A line is an event of a pair if it holds one of the three texts of the pair. A source line is answered if the first
event behind it holds the answer and is no source itself.

* `PairSpec.withErrors` is a list with the error lines where they belong, said source by source;
* `PairSpec.unansweredCount` is the number of sources without an answer;
* `annotate_eq_withErrors`: the check with its marker and its late insertions writes just that list and gives just that
  number. The invariant `Follows` links the marker to the sources that have no event behind them yet.
-/

namespace LogDiagram.PairSpec

variable (pair : PairSpec)

/-! ## Events and answers -/

/-- A line that holds one of the texts of the pair. -/
def isEvent (line : Text) : Bool :=
  pair.source.occursIn line || pair.pairsWith.occursIn line || pair.before.occursIn line

/-- An event that answers. -/
def isAnswer (line : Text) : Bool := pair.pairsWith.occursIn line && !pair.source.occursIn line

/-- The line at place `i` is a source. -/
def isSourceAt (lines : List Text) (i : Nat) : Bool := lines[i]?.any pair.source.occursIn

/-- The place of the first event behind place `i`. -/
def nextEvent? (lines : List Text) (i : Nat) : Option Nat :=
  ((lines.drop (i + 1)).findIdx? pair.isEvent).map (· + (i + 1))

/-- The first event behind place `i` is an answer. -/
def isAnsweredAt (lines : List Text) (i : Nat) : Bool :=
  (pair.nextEvent? lines i).any fun j => lines[j]?.any pair.isAnswer

/-- The line at place `i` is a source without an answer. -/
def isUnansweredAt (lines : List Text) (i : Nat) : Bool := pair.isSourceAt lines i && !pair.isAnsweredAt lines i

/-- The line at place `i` is a source with no event behind it. -/
def isPendingAt (lines : List Text) (i : Nat) : Bool := pair.isSourceAt lines i && (pair.nextEvent? lines i).isNone

/-- How many sources have no answer. -/
def unansweredCount (lines : List Text) : Nat := (List.range lines.length).countP (pair.isUnansweredAt lines)

/-- How many sources without an answer have their first event at place `j`. -/
def errorsBefore (lines : List Text) (j : Nat) : Nat :=
  (List.range lines.length).countP fun i => pair.isUnansweredAt lines i && pair.nextEvent? lines i == some j

/-- The lines, each behind one error for every source without an answer whose first event it is. -/
def withErrorsBetween (lines : List Text) : List Text :=
  lines.zipIdx.flatMap fun (line, j) => List.replicate (pair.errorsBefore lines j) pair.error ++ [line]

/-- The list with its errors: those in front of events, and one at the end if some source has no event behind it. -/
def withErrors (lines : List Text) : List Text :=
  pair.withErrorsBetween lines ++ if (List.range lines.length).any (pair.isPendingAt lines) then [pair.error] else []

/-- How many sources have no event behind them. -/
def pendingCount (lines : List Text) : Nat := (List.range lines.length).countP (pair.isPendingAt lines)

variable {pair}

theorem isEvent_of_isAnswer {line : Text} (h : pair.isAnswer line = true) : pair.isEvent line = true := by
  simp only [isAnswer, Bool.and_eq_true] at h
  simp [isEvent, h.1]

theorem isEvent_of_source {line : Text} (h : pair.source.occursIn line = true) : pair.isEvent line = true := by
  simp [isEvent, h]

theorem isAnswer_of_source {line : Text} (h : pair.source.occursIn line = true) : pair.isAnswer line = false := by
  simp [isAnswer, h]

/-- The first event behind a place: an event, and none in between. -/
theorem nextEvent?_eq_some_iff {lines : List Text} {i j : Nat} :
    pair.nextEvent? lines i = some j ↔
      i < j ∧ (∃ line, lines[j]? = some line ∧ pair.isEvent line) ∧
        ∀ k line, i < k → k < j → lines[k]? = some line → ¬pair.isEvent line := by
  rw [nextEvent?, Option.map_eq_some_iff]
  constructor
  · rintro ⟨d, hd, rfl⟩
    obtain ⟨hlt, hp, hno⟩ := List.findIdx?_eq_some_iff_getElem.1 hd
    rw [List.length_drop] at hlt
    refine ⟨by omega, ⟨lines[d + (i + 1)], List.getElem?_eq_getElem (by omega), ?_⟩, fun k line hik hkj hk => ?_⟩
    · simpa [List.getElem_drop, Nat.add_comm] using hp
    · obtain ⟨hk', rfl⟩ := List.getElem?_eq_some_iff.1 hk
      have := hno (k - (i + 1)) (by omega)
      simpa [List.getElem_drop, show i + 1 + (k - (i + 1)) = k by omega] using this
  · rintro ⟨hij, ⟨line, hline, he⟩, hno⟩
    obtain ⟨hj, rfl⟩ := List.getElem?_eq_some_iff.1 hline
    refine ⟨j - (i + 1), List.findIdx?_eq_some_iff_getElem.2 ⟨by rw [List.length_drop]; omega, ?_, fun k hk => ?_⟩,
      by omega⟩
    · simpa [List.getElem_drop, show i + 1 + (j - (i + 1)) = j by omega] using he
    · rw [List.getElem_drop]
      exact hno _ _ (by omega) (by omega) (List.getElem?_eq_getElem (by omega))

/-! ## One more line -/

section Append

variable {done : List Text} {line : Text} {i j : Nat}

theorem isSourceAt_append (h : i < done.length) : pair.isSourceAt (done ++ [line]) i = pair.isSourceAt done i := by
  simp only [isSourceAt, List.getElem?_append_left h]

theorem isSourceAt_last : pair.isSourceAt (done ++ [line]) done.length = pair.source.occursIn line := by
  simp [isSourceAt]

theorem nextEvent?_append (h : i < done.length) :
    pair.nextEvent? (done ++ [line]) i =
      (pair.nextEvent? done i).or (if pair.isEvent line then some done.length else none) := by
  have hlen : done.length - (i + 1) + (i + 1) = done.length := by omega
  simp only [nextEvent?, List.drop_append_of_le_length (Nat.succ_le_of_lt h), List.findIdx?_append, List.length_drop]
  cases (done.drop (i + 1)).findIdx? pair.isEvent <;> cases he : pair.isEvent line <;> simp [he, hlen]

theorem nextEvent?_last : pair.nextEvent? (done ++ [line]) done.length = none := by simp [nextEvent?]

theorem lt_length_of_nextEvent?_eq_some {lines : List Text} (h : pair.nextEvent? lines i = some j) :
    j < lines.length := by
  obtain ⟨-, ⟨line, hline, -⟩, -⟩ := nextEvent?_eq_some_iff.1 h
  exact (List.getElem?_eq_some_iff.1 hline).1

theorem isPendingAt_append (h : i < done.length) :
    pair.isPendingAt (done ++ [line]) i = (pair.isPendingAt done i && !pair.isEvent line) := by
  simp only [isPendingAt, isSourceAt_append h, nextEvent?_append h]
  cases pair.nextEvent? done i <;> cases pair.isEvent line <;> simp

/-- Nothing is inserted behind the last line. -/
theorem errorsBefore_of_length_le {lines : List Text} (h : lines.length ≤ j) : pair.errorsBefore lines j = 0 := by
  rw [errorsBefore, List.countP_eq_zero]
  intro i _ hi
  simp only [Bool.and_eq_true, beq_iff_eq] at hi
  have := lt_length_of_nextEvent?_eq_some hi.2
  omega

/-- An event that does not answer leaves the sources unanswered that waited for it; all others are as they were. -/
theorem isUnansweredAt_append (h : i < done.length) :
    pair.isUnansweredAt (done ++ [line]) i =
      (pair.isUnansweredAt done i && !(pair.isPendingAt done i && pair.isAnswer line)) := by
  have he : pair.isAnswer line = true → pair.isEvent line = true := isEvent_of_isAnswer
  simp only [isUnansweredAt, isPendingAt, isAnsweredAt, isSourceAt_append h, nextEvent?_append h]
  cases hn : pair.nextEvent? done i with
  | some j => simp [List.getElem?_append_left (lt_length_of_nextEvent?_eq_some hn)]
  | none => cases ha : pair.isAnswer line <;> cases hl : pair.isEvent line <;> simp_all

theorem isUnansweredAt_last :
    pair.isUnansweredAt (done ++ [line]) done.length = pair.source.occursIn line := by
  simp [isUnansweredAt, isAnsweredAt, isSourceAt_last, nextEvent?_last]

theorem isUnansweredAt_of_isPendingAt {lines : List Text} (h : pair.isPendingAt lines i = true) :
    pair.isUnansweredAt lines i = true := by
  simp only [isPendingAt, Bool.and_eq_true, Option.isNone_iff_eq_none] at h
  simp [isUnansweredAt, isAnsweredAt, h.1, h.2]

theorem countP_range_append {p q : Nat → Bool} (h : ∀ i < done.length, p i = q i) :
    (List.range (done ++ [line]).length).countP p =
      (List.range done.length).countP q + if p done.length then 1 else 0 := by
  rw [List.length_append, List.length_singleton, List.range_succ, List.countP_append, List.countP_singleton,
    List.countP_congr fun i hi => by rw [h i (List.mem_range.1 hi)]]

/-- Behind a source one source waits, behind another event none, and every other line leaves the waiting ones. -/
theorem pendingCount_append :
    pair.pendingCount (done ++ [line]) =
      if pair.isEvent line then (if pair.source.occursIn line then 1 else 0) else pair.pendingCount done := by
  have hs : pair.source.occursIn line = true → pair.isEvent line = true := isEvent_of_source
  rw [pendingCount, countP_range_append fun i hi => isPendingAt_append hi, isPendingAt, isSourceAt_last,
    nextEvent?_last]
  cases he : pair.isEvent line <;> cases h : pair.source.occursIn line <;> simp_all [pendingCount]

/-- An answer settles the sources that waited for it, and a source is not answered yet. -/
theorem unansweredCount_append (pair : PairSpec) (done : List Text) (line : Text) :
    pair.unansweredCount (done ++ [line]) + (if pair.isAnswer line then pair.pendingCount done else 0) =
      pair.unansweredCount done + if pair.source.occursIn line then 1 else 0 := by
  rw [unansweredCount, countP_range_append fun i hi => isUnansweredAt_append hi, isUnansweredAt_last]
  cases pair.isAnswer line with
  | false => simp [unansweredCount]
  | true =>
    have hsplit := List.countP_eq_countP_filter_add (List.range done.length) (pair.isUnansweredAt done)
      (pair.isPendingAt done)
    have hpending : ((fun i => pair.isUnansweredAt done i && pair.isPendingAt done i) : Nat → Bool) =
        pair.isPendingAt done := by
      funext i
      cases h : pair.isPendingAt done i with
      | false => simp
      | true => simp [isUnansweredAt_of_isPendingAt h]
    rw [List.countP_filter, List.countP_filter, hpending] at hsplit
    simp only [Bool.and_true, if_true, unansweredCount, pendingCount, hsplit]
    omega

theorem errorsBefore_append_of_lt (h : j < done.length) :
    pair.errorsBefore (done ++ [line]) j = pair.errorsBefore done j := by
  have hne : (some done.length == some j) = false := by simp; omega
  rw [errorsBefore, countP_range_append (q := fun i => pair.isUnansweredAt done i && pair.nextEvent? done i == some j),
    nextEvent?_last]
  · simp [errorsBefore]
  · intro i hi
    rw [isUnansweredAt_append hi, nextEvent?_append hi, isPendingAt]
    cases pair.nextEvent? done i with
    | some k => simp
    | none => cases pair.isEvent line <;> simp [hne]

/-- In front of a new line stand the errors of the sources that waited for it, unless it answers. -/
theorem errorsBefore_append_last :
    pair.errorsBefore (done ++ [line]) done.length =
      if pair.isEvent line && !pair.isAnswer line then pair.pendingCount done else 0 := by
  rw [errorsBefore, countP_range_append (q := fun i =>
    pair.isPendingAt done i && (pair.isEvent line && !pair.isAnswer line)), nextEvent?_last]
  · cases pair.isEvent line && !pair.isAnswer line <;> simp [pendingCount]
  · intro i hi
    rw [isUnansweredAt_append hi, nextEvent?_append hi]
    cases hn : pair.nextEvent? done i with
    | some k =>
      have hk : (some k == some done.length) = false := by
        have := lt_length_of_nextEvent?_eq_some hn
        simp; omega
      simp [hk, isPendingAt, hn]
    | none => cases hp : pair.isPendingAt done i <;> cases pair.isEvent line <;>
        simp_all [isPendingAt, isUnansweredAt, isAnsweredAt]

end Append

/-! ## The invariant of the check -/

/-- What a check of the lines so far knows of them. -/
structure Follows (pair : PairSpec) (done : List Text) (check : Check) : Prop where
  /-- The marker is set as long as a source waits, and one source waits at most. -/
  pending : pair.pendingCount done = if check.waiting.isSome then 1 else 0
  /-- Every source without an answer has its error or waits. -/
  count : check.errorPlaces.length + pair.pendingCount done = pair.unansweredCount done
  /-- Every error has its place in the list. -/
  size : (pair.withErrorsBetween done).length = done.length + check.errorPlaces.length
  /-- Inserted late, the errors stand where the scan meant them, whatever lines come after. -/
  placed : ∀ rest, pair.insertErrors check.errorPlaces (done ++ rest) = pair.withErrorsBetween done ++ rest

/-- What a line does to the marker and to the places of errors. -/
theorem step_eq (check : Check) (line : Text) (place : Nat) :
    pair.step check (line, place) =
      ⟨if pair.isEvent line then (if pair.source.occursIn line then some place else none) else check.waiting,
        if check.waiting.isSome && (pair.isEvent line && !pair.isAnswer line) then place :: check.errorPlaces
        else check.errorPlaces⟩ := by
  obtain ⟨waiting, places⟩ := check
  cases waiting <;> cases hs : pair.source.occursIn line <;> cases hp : pair.pairsWith.occursIn line <;>
    cases hb : pair.before.occursIn line <;> simp [step, isEvent, isAnswer, hs, hp, hb]

theorem withErrorsBetween_append (done : List Text) (line : Text) :
    pair.withErrorsBetween (done ++ [line]) = pair.withErrorsBetween done ++
      (List.replicate (if pair.isEvent line && !pair.isAnswer line then pair.pendingCount done else 0) pair.error ++
        [line]) := by
  rw [withErrorsBetween, List.zipIdx_append, List.flatMap_append]
  congr 1
  · refine List.flatMap_congr fun ⟨earlier, j⟩ hentry => ?_
    have hlt : j < done.length := by simpa using List.snd_lt_of_mem_zipIdx hentry
    simp only [errorsBefore_append_of_lt hlt]
  · simp [errorsBefore_append_last]

theorem insertErrors_cons (place : Nat) (places : List Nat) (lines : List Text) :
    pair.insertErrors (place :: places) lines = pair.insertErrors places (lines.insertIdx place pair.error) := rfl

/-- An error inserted behind the lines of the first list stands between the two lists. -/
theorem insertIdx_append_length (x : Text) : ∀ done rest : List Text,
    (done ++ rest).insertIdx done.length x = done ++ x :: rest
  | [], _ => rfl
  | _ :: done, rest => by simp [insertIdx_append_length x done rest]

theorem follows_start : Follows pair [] .start := ⟨rfl, rfl, rfl, fun _ => rfl⟩

/-- One line keeps the invariant. -/
theorem Follows.step {done : List Text} {check : Check} (h : Follows pair done check) (line : Text) :
    Follows pair (done ++ [line]) (pair.step check (line, done.length)) := by
  obtain ⟨hpending, hcount, hsize, hplaced⟩ := h
  have hcount' := unansweredCount_append pair done line
  rw [step_eq]
  refine ⟨?_, ?_, ?_, fun rest => ?_⟩
  · rw [pendingCount_append, hpending]
    cases pair.isEvent line <;> cases pair.source.occursIn line <;> simp
  · have hanswer : pair.isAnswer line = true → pair.isEvent line = true := isEvent_of_isAnswer
    have hsource : pair.source.occursIn line = true → pair.isEvent line = true := isEvent_of_source
    have hno : pair.source.occursIn line = true → pair.isAnswer line = false := isAnswer_of_source
    rw [pendingCount_append]
    grind
  · rw [withErrorsBetween_append, List.length_append, hsize, hpending]
    cases hw : check.waiting.isSome <;> cases hf : pair.isEvent line && !pair.isAnswer line <;> simp <;> omega
  · rw [withErrorsBetween_append, hpending]
    cases hw : check.waiting.isSome with
    | false => simpa using hplaced (line :: rest)
    | true =>
      cases hf : pair.isEvent line && !pair.isAnswer line with
      | false => simpa using hplaced (line :: rest)
      | true => simpa [insertErrors_cons, insertIdx_append_length] using hplaced (pair.error :: line :: rest)

/-- The check of a whole list has the invariant. -/
theorem follows_check (pair : PairSpec) (lines : List Text) : Follows pair lines (pair.check lines) := by
  induction lines using List.reverseRecOn with
  | nil => exact follows_start
  | append_singleton done line ih =>
    have hstep : pair.check (done ++ [line]) = pair.step (pair.check done) (line, done.length) := by
      simp [check, List.zipIdx_append]
    rw [hstep]
    exact ih.step line

/-! ## The written list -/

theorem withErrors_eq (lines : List Text) :
    pair.withErrors lines = pair.withErrorsBetween lines ++
      if (pair.check lines).waiting.isSome then [pair.error] else [] := by
  have hpending := (follows_check pair lines).pending
  have hany : (List.range lines.length).any (pair.isPendingAt lines) = (pair.check lines).waiting.isSome := by
    rw [Bool.eq_iff_iff, List.any_eq_true, ← List.countP_pos_iff]
    rw [pendingCount] at hpending
    cases hw : (pair.check lines).waiting.isSome <;> simp [hpending, hw]
  rw [withErrors, hany]

/-- Two sources without an answer never wait for the same event. -/
theorem errorsBefore_le_one (lines : List Text) (j : Nat) : pair.errorsBefore lines j ≤ 1 := by
  induction lines using List.reverseRecOn with
  | nil => simp [errorsBefore]
  | append_singleton done line ih =>
    rcases Nat.lt_trichotomy j done.length with h | rfl | h
    · rw [errorsBefore_append_of_lt h]; exact ih
    · rw [errorsBefore_append_last]
      have := (follows_check pair done).pending
      split <;> grind
    · rw [errorsBefore_of_length_le (by rw [List.length_append]; exact h)]
      exact Nat.zero_le 1

theorem insertErrors_check (lines rest : List Text) :
    pair.insertErrors (pair.check lines).errorPlaces (lines ++ rest) = pair.withErrorsBetween lines ++ rest :=
  (follows_check pair lines).placed rest

theorem annotate_fst (lines : List Text) : (pair.annotate lines).1 = pair.withErrors lines := by
  rw [withErrors_eq, annotate]
  cases (pair.check lines).waiting with
  | some place => exact insertErrors_check lines [pair.error]
  | none => simpa using insertErrors_check lines []

theorem annotate_snd (lines : List Text) : (pair.annotate lines).2 = pair.unansweredCount lines := by
  obtain ⟨hpending, hcount, -, -⟩ := follows_check pair lines
  rw [← hcount, hpending, annotate]
  cases (pair.check lines).waiting <;> rfl

/-- The list grows by the number of the errors. -/
theorem length_annotate (pair : PairSpec) (lines : List Text) :
    (pair.annotate lines).1.length = lines.length + (pair.annotate lines).2 := by
  have hsize := (follows_check pair lines).size
  rw [annotate_fst, withErrors_eq, List.length_append, hsize, annotate]
  cases (pair.check lines).waiting <;> simp [Nat.add_assoc]

/-- The last of several pairs sees the errors of all others. -/
theorem annotateAll_append (pairs : List PairSpec) (pair : PairSpec) (lines : List Text) :
    annotateAll (pairs ++ [pair]) lines =
      ((pair.annotate (annotateAll pairs lines).1).1,
        (annotateAll pairs lines).2 + (pair.annotate (annotateAll pairs lines).1).2) := by
  simp [annotateAll]

/-- With several pairs the list grows by the number of all their errors. -/
theorem length_annotateAll (pairs : List PairSpec) (lines : List Text) :
    (annotateAll pairs lines).1.length = lines.length + (annotateAll pairs lines).2 := by
  induction pairs using List.reverseRecOn with
  | nil => rfl
  | append_singleton pairs pair ih =>
    rw [annotateAll_append, length_annotate, ih]
    exact Nat.add_assoc _ _ _

theorem annotate_snd_eq_zero_iff (lines : List Text) :
    (pair.annotate lines).2 = 0 ↔ (pair.annotate lines).1 = lines := by
  constructor
  · intro h
    rw [annotate] at h ⊢
    cases hw : (pair.check lines).waiting with
    | some place => simp [hw] at h
    | none =>
      simp only [hw] at h ⊢
      rw [List.eq_nil_of_length_eq_zero h]
      rfl
  · intro h
    have := length_annotate pair lines
    rw [h] at this
    omega

/--
The pair check writes every line where it was, one error in front of the first event behind each source that it leaves
unanswered, and one error at the end if a source has no event behind it. It counts the sources without an answer.
-/
theorem annotate_eq_withErrors (pair : PairSpec) (lines : List Text) :
    (pair.annotate lines).1 = pair.withErrors lines ∧ (pair.annotate lines).2 = pair.unansweredCount lines ∧
      (∀ j, pair.errorsBefore lines j ≤ 1) ∧
      (pair.annotate lines).1.length = lines.length + (pair.annotate lines).2 ∧
      ((pair.annotate lines).2 = 0 ↔ (pair.annotate lines).1 = lines) :=
  ⟨annotate_fst lines, annotate_snd lines, errorsBefore_le_one lines, length_annotate pair lines,
    annotate_snd_eq_zero_iff lines⟩

/-- The first source is followed by another one, the second by its answer, and the third by nothing. -/
example : (⟨['q'], ['a'], ['q'], ['!']⟩ : PairSpec).annotate [['q'], ['q'], ['a'], ['q'], ['-']] =
    ([['q'], ['!'], ['q'], ['a'], ['q'], ['-'], ['!']], 2) := by decide

end LogDiagram.PairSpec
