import LogDiagram.Proofs.Buffer.Push

/-!
# The tallies of a whole run

Counting pushes may append a line, or count at the first equal line or at the last line, also at one that was kept
without a tally. Whatever the mix, no occurrence is lost and none is counted twice.

* `lines_ofPushes`, `prefix_lines_ofPushes`: the kept lines are those whose push was answered with yes, and they stay
  where they are;
* `tallies_push`: all that a push does to the tallies; from it `Conserves.push` and for every run `conserves_ofPushes`;
* `fillIn?_of_perm`: filling in the tallies finds each of its lines, and the order does not matter;
* `tallies_conserved`: all of this together.
-/

namespace LogDiagram.OutputBuffer

variable {buffer : OutputBuffer} {policy : DuplicatePolicy} {t : Text} {i j n : Nat} {pushes : List Push}

/-! ## The kept lines -/

theorem length_answers (pushes : List Push) : (answers pushes).length = pushes.length := by
  induction pushes using List.reverseRecOn with
  | nil => rfl
  | append_singleton pushes push ih =>
    rw [answers_append, List.length_append, List.length_append, ih]
    rfl

/-- The kept lines are those whose push was answered with yes, in the order of the pushes. -/
theorem lines_ofPushes (pushes : List Push) :
    (ofPushes pushes).lines = ((pushes.zip (answers pushes)).filter (·.2)).map (·.1.1) := by
  induction pushes using List.reverseRecOn with
  | nil => rfl
  | append_singleton pushes push ih =>
    rw [ofPushes_append, lines_push, answers_append, List.zip_append (length_answers pushes).symm, List.filter_append,
      List.map_append, ← ih, push_snd]
    cases (ofPushes pushes).drops push.2 push.1 <;> simp

/-- Later pushes leave the kept lines where they are. -/
theorem prefix_lines_ofPushes (before rest : List Push) :
    (ofPushes before).lines <+: (ofPushes (before ++ rest)).lines := by
  induction rest using List.reverseRecOn with
  | nil => simp
  | append_singleton rest push ih =>
    rw [← List.append_assoc, ofPushes_append, lines_push]
    split
    · exact ih
    · exact ih.trans (List.prefix_append _ _)

/-! ## What a push does to the tallies -/

/-- A counting policy finds a line that counts what it drops. -/
theorem exists_counterOf? (hd : buffer.drops policy t = true) (hcounting : policy.isCounting = true) :
    ∃ i, buffer.counterOf? policy t = some i := by
  cases policy with
  | keep | removeAll | removeContinuous => cases hcounting
  | count =>
    have hmem : t ∈ buffer.lines := (drops_everywhere (.inr rfl)).1 hd
    rw [counterOf?_count, ← Option.isSome_iff_exists, List.isSome_idxOf?]
    exact hmem
  | countContinuous => exact ⟨_, counterOf?_countContinuous hd⟩

theorem counterOf?_of_not_isCounting (h : policy.isCounting = false) : buffer.counterOf? policy t = none := by
  cases policy with
  | keep | removeAll | removeContinuous => rfl
  | count | countContinuous => cases h

/-- A push whose policy does not count leaves the tallies; any other counts once more at one of the lines then kept. -/
theorem tallies_push (hnew : buffer.tally? buffer.lines.length = none) (t : Text) (policy : DuplicatePolicy) :
    policy.isCounting = false ∧ (buffer.push t policy).1.tallies = buffer.tallies ∨
      policy.isCounting = true ∧ ∃ i < (buffer.push t policy).1.lines.length,
        (buffer.push t policy).1.tallies = (buffer.countAt i).tallies := by
  rw [lines_push]
  cases hd : buffer.drops policy t with
  | false =>
    simp only [push, hd, Bool.false_eq_true, if_false, append]
    cases hcounting : policy.isCounting with
    | false => exact .inl ⟨rfl, rfl⟩
    | true =>
      refine .inr ⟨rfl, buffer.lines.length, by simp, ?_⟩
      rw [countAt, hnew]
      simp [setTally, lines]
  | true =>
    simp only [push, hd, if_true]
    cases hcounting : policy.isCounting with
    | false => exact .inl ⟨rfl, by rw [counterOf?_of_not_isCounting hcounting]⟩
    | true =>
      obtain ⟨i, hi⟩ := exists_counterOf? hd hcounting
      refine .inr ⟨rfl, i, ?_, by rw [hi]⟩
      exact (List.getElem?_eq_some_iff.1 (getElem?_of_counterOf? hd hi)).1

/-! ## The invariant of the tallies -/

/-- No line has two tallies, every tally belongs to a kept line and is not zero, and all of them sum up to `total`. -/
structure Conserves (total : Nat) (buffer : OutputBuffer) : Prop where
  distinct : (buffer.tallies.map (·.1)).Nodup
  placed : ∀ entry ∈ buffer.tallies, entry.1 < buffer.lines.length ∧ 1 ≤ entry.2
  sum : (buffer.tallies.map (·.2)).sum = total

theorem conserves_empty : Conserves 0 empty := ⟨List.nodup_nil, fun _ h => (List.not_mem_nil h).elim, rfl⟩

theorem Conserves.tally?_length (h : Conserves n buffer) : buffer.tally? buffer.lines.length = none := by
  rw [tally?, List.lookup_eq_none_iff]
  intro entry hmem
  have := (h.placed entry hmem).1
  exact bne_iff_ne.2 (by omega)

/-- Counting once more at a line replaces its tally by the next number. -/
theorem tallies_countAt : (buffer.countAt i).tallies =
    (i, (buffer.tally? i).getD 0 + 1) :: buffer.tallies.filter fun entry => entry.1 != i := rfl

theorem distinct_countAt (h : (buffer.tallies.map (·.1)).Nodup) : ((buffer.countAt i).tallies.map (·.1)).Nodup := by
  rw [tallies_countAt, List.map_cons, List.nodup_cons]
  refine ⟨?_, h.sublist (List.filter_sublist.map _)⟩
  intro hmem
  obtain ⟨entry, hentry, heq⟩ := List.mem_map.1 hmem
  exact bne_iff_ne.1 (List.mem_filter.1 hentry).2 heq

theorem sum_countAt (h : (buffer.tallies.map (·.1)).Nodup) :
    ((buffer.countAt i).tallies.map (·.2)).sum = (buffer.tallies.map (·.2)).sum + 1 := by
  rw [tallies_countAt, List.map_cons, List.sum_cons, ← sum_filter_ne h i, tally?]
  omega

/-- One push adds one to the sum if its policy counts, and nothing otherwise. -/
theorem Conserves.push (h : Conserves n buffer) (push : Push) :
    Conserves (n + if push.2.isCounting then 1 else 0) (buffer.push push.1 push.2).1 := by
  obtain ⟨t, policy⟩ := push
  have hlength : buffer.lines.length ≤ (buffer.push t policy).1.lines.length := by
    rw [length_push buffer (t, policy)]
    exact Nat.le_add_right _ _
  rcases tallies_push h.tally?_length t policy with ⟨hno, heq⟩ | ⟨hcounting, i, hi, heq⟩
  · rw [if_neg (by rw [hno]; exact Bool.false_ne_true)]
    refine ⟨by rw [heq]; exact h.distinct, fun entry hmem => ?_, by rw [heq]; exact h.sum⟩
    rw [heq] at hmem
    exact ⟨Nat.lt_of_lt_of_le (h.placed entry hmem).1 hlength, (h.placed entry hmem).2⟩
  · rw [if_pos hcounting]
    refine ⟨by rw [heq]; exact distinct_countAt h.distinct, fun entry hmem => ?_,
      by rw [heq, sum_countAt h.distinct, h.sum]⟩
    rw [heq, tallies_countAt] at hmem
    rcases List.mem_cons.1 hmem with rfl | hmem
    · exact ⟨hi, Nat.le_add_left 1 _⟩
    · have hplaced := h.placed entry (List.mem_filter.1 hmem).1
      exact ⟨Nat.lt_of_lt_of_le hplaced.1 hlength, hplaced.2⟩

/-- In every run the tallies sum up to the number of the counting pushes. -/
theorem conserves_ofPushes (pushes : List Push) :
    Conserves (pushes.countP fun push => push.2.isCounting) (ofPushes pushes) := by
  induction pushes using List.reverseRecOn with
  | nil => exact conserves_empty
  | append_singleton pushes push ih =>
    rw [ofPushes_append, List.countP_append, List.countP_singleton]
    exact ih.push push

/-! ## Filling in the tallies -/

/-- The lines with tallies filled in, in the given order; nothing if there is no line at the place of a tally. -/
def fillIn? (kept : Array Text) (order : List (Nat × Nat)) : Option (Array Text) :=
  order.foldlM (fun kept entry =>
    if h : entry.1 < kept.size then some (kept.set entry.1 (kept[entry.1].fillCount entry.2)) else none) kept

/-- A line with its tally, if it has one. -/
def withTally (tally? : Option Nat) (line : Text) : Text := tally?.elim line line.fillCount

theorem withTally_none : withTally none = fun line => line := rfl

theorem fillIn?_cons {kept : Array Text} (entry : Nat × Nat) (order : List (Nat × Nat)) (h : entry.1 < kept.size) :
    fillIn? kept (entry :: order) = fillIn? (kept.set entry.1 (kept[entry.1].fillCount entry.2)) order := by
  rw [fillIn?, List.foldlM_cons, dif_pos h, Option.bind_eq_bind, Option.bind_some]
  rfl

/-- If each tally has a line and no line has two, every line gets its own tally. -/
theorem fillIn?_eq_some {order : List (Nat × Nat)} (hdistinct : (order.map (·.1)).Nodup) (kept : Array Text)
    (hplaced : ∀ entry ∈ order, entry.1 < kept.size) :
    ∃ filled, fillIn? kept order = some filled ∧ ∀ j,
      filled[j]? = kept[j]?.map (withTally (order.lookup j)) := by
  induction order generalizing kept with
  | nil => exact ⟨kept, rfl, fun j => by rw [List.lookup_nil, withTally_none, Option.map_id']⟩
  | cons entry order ih =>
    obtain ⟨i, n⟩ := entry
    rw [List.map_cons, List.nodup_cons] at hdistinct
    have hi : i < kept.size := hplaced (i, n) List.mem_cons_self
    obtain ⟨filled, hfilled, hlines⟩ := ih hdistinct.2 (kept.set i (kept[i].fillCount n)) fun entry hmem => by
      rw [Array.size_set]
      exact hplaced entry (List.mem_cons_of_mem _ hmem)
    refine ⟨filled, by rw [fillIn?_cons _ _ hi, hfilled], fun j => ?_⟩
    rw [hlines, List.lookup_cons]
    by_cases hj : j = i
    · -- behind its own tally a line has no other one
      subst hj
      simp [lookup_of_not_mem hdistinct.1, hi, withTally]
    · simp [beq_eq_false_iff_ne.2 hj, Ne.symm hj]

/-- The pass that looks for no place beyond the lines gives the same. -/
theorem fillIn?_eq_foldl {order : List (Nat × Nat)} (kept : Array Text)
    (hplaced : ∀ entry ∈ order, entry.1 < kept.size) :
    fillIn? kept order =
      some (order.foldl (fun kept (i, n) => kept.modify i fun line => line.fillCount n) kept) := by
  induction order generalizing kept with
  | nil => rfl
  | cons entry order ih =>
    obtain ⟨i, n⟩ := entry
    have hi : i < kept.size := hplaced (i, n) List.mem_cons_self
    have hset : kept.modify i (fun line => line.fillCount n) = kept.set i (kept[i].fillCount n) := by
      apply Array.ext
      · simp
      · intro j _ _
        rw [Array.getElem_modify, Array.getElem_set]
        split
        · next heq => subst heq; rfl
        · rfl
    rw [fillIn?_cons _ _ hi, List.foldl_cons]
    simp only [hset]
    refine ih _ fun entry hmem => ?_
    rw [Array.size_set]
    exact hplaced entry (List.mem_cons_of_mem _ hmem)

/-- Each kept line with its tally, if it has one. -/
def linesWithTallies (buffer : OutputBuffer) : List Text :=
  buffer.lines.mapIdx fun i line => withTally (buffer.tally? i) line

/-- In whatever order the tallies are filled in, each finds its line, and no line gets another tally than its own. -/
theorem fillIn?_of_perm (h : Conserves n buffer) {order : List (Nat × Nat)} (hperm : order.Perm buffer.tallies) :
    (fillIn? buffer.kept order).map Array.toList = some buffer.linesWithTallies := by
  have hdistinct : (order.map (·.1)).Nodup := (hperm.map (·.1)).nodup_iff.2 h.distinct
  have hplaced : ∀ entry ∈ order, entry.1 < buffer.kept.size := fun entry hmem =>
    (h.placed entry (hperm.mem_iff.1 hmem)).1
  obtain ⟨filled, hfilled, hlines⟩ := fillIn?_eq_some hdistinct buffer.kept hplaced
  rw [hfilled, Option.map_some, Option.some.injEq]
  apply List.ext_getElem?
  intro j
  rw [Array.getElem?_toList, hlines, lookup_eq_of_perm hperm hdistinct, linesWithTallies, List.getElem?_mapIdx, lines,
    Array.getElem?_toList]
  rfl

theorem finish_eq (h : Conserves n buffer) : buffer.finish = buffer.linesWithTallies := by
  have hplaced : ∀ entry ∈ buffer.tallies, entry.1 < buffer.kept.size := fun entry hmem => (h.placed entry hmem).1
  have hfilled := fillIn?_of_perm h (List.Perm.refl _)
  rw [fillIn?_eq_foldl _ hplaced, Option.map_some, Option.some.injEq] at hfilled
  exact hfilled

/-! ## Whole runs -/

/--
In any run of pushes the kept lines are those whose push was answered with yes, and later pushes leave them where they
are. No line has two tallies, each tally belongs to a kept line and is at least one, and their sum is the number of the
counting pushes. Filled in in any order, each tally finds its line; the result is the list of the kept lines, each with
its tally if it has one.
-/
theorem tallies_conserved (pushes : List Push) :
    (ofPushes pushes).lines = ((pushes.zip (answers pushes)).filter (·.2)).map (·.1.1) ∧
      (∀ before rest, pushes = before ++ rest → (ofPushes before).lines <+: (ofPushes pushes).lines) ∧
      ((ofPushes pushes).tallies.map (·.1)).Nodup ∧
      (∀ entry ∈ (ofPushes pushes).tallies, entry.1 < (ofPushes pushes).lines.length ∧ 1 ≤ entry.2) ∧
      ((ofPushes pushes).tallies.map (·.2)).sum = pushes.countP (fun push => push.2.isCounting) ∧
      (∀ order, order.Perm (ofPushes pushes).tallies →
        (fillIn? (ofPushes pushes).kept order).map Array.toList = some (ofPushes pushes).linesWithTallies) ∧
      (ofPushes pushes).finish = (ofPushes pushes).linesWithTallies := by
  have h := conserves_ofPushes pushes
  refine ⟨lines_ofPushes pushes, ?_, h.distinct, h.placed, h.sum, fun order hperm => fillIn?_of_perm h hperm,
    finish_eq h⟩
  rintro before rest rfl
  exact prefix_lines_ofPushes before rest

/-- A line that was kept without a tally, one that was counted from the start, and one that was kept again. -/
theorem tallies_conserved_three_lines :
    let line : Text := "x${count}".toList
    let pushes : List Push :=
      [(line, .keep), (['o'], .count), (line, .count), (['o'], .countContinuous), (line, .countContinuous)]
    let order := [(0, 1), (1, 2), (2, 1)]
    order.Perm (ofPushes pushes).tallies ∧ ((ofPushes pushes).tallies.map (·.2)).sum = 4 ∧
      (fillIn? (ofPushes pushes).kept order).map Array.toList = some ["x1".toList, ['o'], "x1".toList] := by
  intro line pushes order
  have htallies : (ofPushes pushes).tallies = [(2, 1), (1, 2), (0, 1)] := by decide +kernel
  have hperm : order.Perm (ofPushes pushes).tallies := by
    rw [htallies]
    decide
  have hlines : (ofPushes pushes).linesWithTallies = ["x1".toList, ['o'], "x1".toList] := by decide +kernel
  obtain ⟨-, -, -, -, hsum, hfill, -⟩ := tallies_conserved pushes
  refine ⟨hperm, hsum.trans (by decide), ?_⟩
  rw [← hlines]
  exact hfill order hperm

end LogDiagram.OutputBuffer
