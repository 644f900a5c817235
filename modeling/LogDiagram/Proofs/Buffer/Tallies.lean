import LogDiagram.Proofs.Buffer.Push

/-!
# What a tally counts

Pushes of many texts under all policies may be mixed. Seen from one text `t`:

* pushed under `removeAll` and `count` only, it is kept once, where its first push put it, and its tally is the number
  of its `count` pushes (`KeptOnce`);
* pushed under `removeContinuous` and `countContinuous` only, no two neighbours are `t`, and the tally of each copy is
  the number of `countContinuous` pushes of `t` while that copy was the last line (`Span`, `CountedInSpans`);
* pushes of other texts never touch it.

Main statement: `tallies_of_pushes`.
-/

namespace LogDiagram.OutputBuffer

variable {buffer : OutputBuffer} {policy : DuplicatePolicy} {t u : Text} {k n : Nat}

/-- The tally after `n` counted occurrences; without one there is no tally. -/
def tallyOf (n : Nat) : Option Nat := if n = 0 then none else some n

theorem counted_tallyOf (n : Nat) : some ((tallyOf n).getD 0 + 1) = tallyOf (n + 1) := by
  cases n <;> simp [tallyOf]

/-! ## Texts that are kept once -/

/-- The only copy of `t` is the `k`-th line, and it was counted `n` times. -/
structure KeptOnce (buffer : OutputBuffer) (t : Text) (k n : Nat) : Prop where
  places : ∀ j, buffer.lines[j]? = some t ↔ j = k
  tally : buffer.tally? k = tallyOf n

/-- The policies that drop a line wherever it was kept before. -/
def DropsEverywhere (policy : DuplicatePolicy) : Prop := policy = .removeAll ∨ policy = .count

theorem keptOnce_first (hp : DropsEverywhere policy) (hnew : t ∉ buffer.lines)
    (htally : buffer.tally? buffer.lines.length = none) :
    KeptOnce (buffer.push t policy).1 t buffer.lines.length ([(t, policy)].count (t, .count)) := by
  have hd : buffer.drops policy t = false := by
    rw [← Bool.not_eq_true, drops_everywhere hp]; exact hnew
  refine ⟨fun j => ?_, ?_⟩
  · rw [lines_push, hd, if_neg Bool.false_ne_true, getElem?_concat_eq_some_iff]
    exact ⟨fun hj => (hj.resolve_left fun h => hnew (List.mem_of_getElem? h)).1, fun hj => .inr ⟨hj, rfl⟩⟩
  · rw [tally?_push_of_not_drops hd, htally]
    rcases hp with rfl | rfl <;> simp [DuplicatePolicy.isCounting, tallyOf]

theorem KeptOnce.counterOf?_count (h : KeptOnce buffer t k n) : buffer.counterOf? .count t = some k := by
  obtain ⟨hk, hat⟩ := List.getElem?_eq_some_iff.1 ((h.places k).2 rfl)
  rw [OutputBuffer.counterOf?_count, List.idxOf?_eq_some_iff]
  refine ⟨hk, hat, fun j hj heq => ?_⟩
  have := (h.places j).1 (List.getElem?_eq_some_iff.2 ⟨by omega, heq⟩)
  omega

/-- A push of the text itself is dropped, and counted at the only copy. -/
theorem KeptOnce.push_self (h : KeptOnce buffer t k n) (hp : DropsEverywhere policy) :
    KeptOnce (buffer.push t policy).1 t k (n + [(t, policy)].count (t, .count)) := by
  have hd : buffer.drops policy t = true := (drops_everywhere hp).2 (List.mem_of_getElem? ((h.places k).2 rfl))
  refine ⟨fun j => by rw [lines_push, hd, if_pos rfl, h.places], ?_⟩
  rw [tally?_push_of_drops hd, h.tally]
  rcases hp with rfl | rfl
  · simp [counterOf?]
  · rw [if_pos h.counterOf?_count, counted_tallyOf]
    simp

theorem KeptOnce.push_other (h : KeptOnce buffer t k n) (hne : u ≠ t) : KeptOnce (buffer.push u policy).1 t k n := by
  have hat := (h.places k).2 rfl
  refine ⟨fun j => ⟨fun hj => ?_, fun hj => hj ▸ getElem?_lines_push hat⟩, by rw [tally?_push_of_ne hne hat, h.tally]⟩
  rw [lines_push] at hj
  split at hj
  · exact (h.places j).1 hj
  · rcases getElem?_concat_eq_some_iff.1 hj with hj | ⟨-, rfl⟩
    · exact (h.places j).1 hj
    · exact absurd rfl hne

variable {pushes before : List Push}

/-- From its first push on, a text that is dropped everywhere is kept once. -/
theorem keptOnce_ofPushes (hnew : ∀ push ∈ before, push.1 ≠ t) (hp : DropsEverywhere policy) (rest : List Push)
    (hrest : ∀ push ∈ rest, push.1 = t → DropsEverywhere push.2) :
    KeptOnce (ofPushes (before ++ (t, policy) :: rest)) t (ofPushes before).lines.length
      (((t, policy) :: rest).count (t, .count)) := by
  induction rest using List.reverseRecOn with
  | nil =>
    rw [ofPushes_append]
    refine keptOnce_first hp (fun hmem => ?_) (tally?_ofPushes_of_length_le (Nat.le_refl _))
    obtain ⟨q, hq⟩ := mem_of_mem_lines_ofPushes hmem
    exact hnew _ hq rfl
  | append_singleton rest push ih =>
    obtain ⟨u, q⟩ := push
    have hkept := ih fun push hmem => hrest push (List.mem_append_left _ hmem)
    rw [← List.cons_append, ← List.append_assoc, ofPushes_append, List.count_append]
    by_cases hu : u = t
    · subst hu
      exact hkept.push_self (hrest _ (by simp) rfl)
    · have hcount : [(u, q)].count (t, .count) = 0 := by simp [hu]
      rw [hcount, Nat.add_zero]
      exact hkept.push_other hu

/-! ## Texts that are counted while they are last -/

/--
The pushes fall into those before the `k`-th line came, the push that appended it, those during which it was the last
line, and those from the next appended line on.
-/
structure Span (pushes : List Push) (k : Nat) (before : List Push) (first : Push) (during after : List Push) :
    Prop where
  split : pushes = before ++ first :: (during ++ after)
  start : (ofPushes before).lines.length = k
  appended : ((ofPushes before).push first.1 first.2).2 = true
  lasts : (ofPushes (before ++ first :: during)).lines.length = k + 1
  ended : ∀ next ∈ after.head?, ((ofPushes (before ++ first :: during)).push next.1 next.2).2 = true

section Span

variable {first push : Push} {during after : List Push}

theorem length_le_length_ofPushes (before : List Push) :
    ∀ rest : List Push, (ofPushes before).lines.length ≤ (ofPushes (before ++ rest)).lines.length := by
  intro rest
  induction rest using List.reverseRecOn with
  | nil => simp
  | append_singleton rest push ih =>
    rw [← List.append_assoc, ofPushes_append, length_push]
    omega

/-- The line is still the last one exactly if nothing came after its span. -/
theorem Span.after_eq_nil_iff (h : Span pushes k before first during after) :
    after = [] ↔ k + 1 = (ofPushes pushes).lines.length := by
  obtain ⟨rfl, hstart, happ, hlast, hended⟩ := h
  constructor
  · rintro rfl
    rw [List.append_nil, hlast]
  · intro hlen
    cases after with
    | nil => rfl
    | cons next rest =>
      have hnext := hended next rfl
      have hgrow := length_push (ofPushes (before ++ first :: during)) next
      rw [← ofPushes_append, hlast, hnext] at hgrow
      have hle := length_le_length_ofPushes (before ++ first :: during ++ [next]) rest
      simp only [List.append_assoc, List.cons_append, List.nil_append] at hle hgrow
      rw [← hlen, hgrow] at hle
      simp only [if_true] at hle
      omega

/-- The span of a new last line. -/
theorem span_new (hp : ((ofPushes pushes).push push.1 push.2).2 = true) :
    Span (pushes ++ [push]) (ofPushes pushes).lines.length pushes push [] [] := by
  refine ⟨by simp, rfl, hp, ?_, by simp⟩
  rw [ofPushes_append, length_push, hp, if_pos rfl]

/-- A push that appends a line ends the last span. -/
theorem Span.append_kept (h : Span pushes k before first during [])
    (hp : ((ofPushes pushes).push push.1 push.2).2 = true) :
    Span (pushes ++ [push]) k before first during [push] := by
  obtain ⟨rfl, hstart, happ, hlast, -⟩ := h
  refine ⟨by simp, hstart, happ, hlast, fun next hnext => ?_⟩
  obtain rfl : push = next := by simpa using hnext
  simpa using hp

/-- A dropped push belongs to the last span. -/
theorem Span.append_dropped (h : Span pushes k before first during [])
    (hp : ((ofPushes pushes).push push.1 push.2).2 = false) :
    Span (pushes ++ [push]) k before first (during ++ [push]) [] := by
  obtain ⟨rfl, hstart, happ, hlast, -⟩ := h
  rw [List.append_nil] at hp
  refine ⟨by simp, hstart, happ, ?_, by simp⟩
  rw [← List.cons_append, ← List.append_assoc, ofPushes_append, length_push, hlast, hp]
  rfl

/-- Later pushes do not touch a span that has ended. -/
theorem Span.append_after (h : Span pushes k before first during after) (hne : after ≠ []) :
    Span (pushes ++ [push]) k before first during (after ++ [push]) := by
  obtain ⟨rfl, hstart, happ, hlast, hended⟩ := h
  refine ⟨by simp, hstart, happ, hlast, fun next hnext => hended next ?_⟩
  rwa [List.head?_append_of_ne_nil _ hne] at hnext

end Span

/-- The policies that drop a line only behind an equal one. -/
def DropsContinuous (policy : DuplicatePolicy) : Prop := policy = .removeContinuous ∨ policy = .countContinuous

/-- Each copy of `t` has a span, and its tally is the number of the counting pushes of `t` in it. -/
def CountedInSpans (pushes : List Push) (t : Text) : Prop :=
  ∀ k, (ofPushes pushes).lines[k]? = some t →
    ∃ before policy during after, Span pushes k before (t, policy) during after ∧
      (ofPushes pushes).tally? k = tallyOf (((t, policy) :: during).count (t, .countContinuous))

/-- A dropped push counts for a copy of `t` if it is a counting push of `t` and the copy is the last line. -/
theorem tally?_push_continuous (hp : u = t → DropsContinuous policy) (hd : buffer.drops policy u = true)
    (hk : buffer.lines[k]? = some t) (htally : buffer.tally? k = tallyOf n) :
    (buffer.push u policy).1.tally? k =
      tallyOf (n + if k + 1 = buffer.lines.length then [(u, policy)].count (t, .countContinuous) else 0) := by
  by_cases hu : u = t
  · subst hu
    have hlt := (List.getElem?_eq_some_iff.1 hk).1
    rw [tally?_push_of_drops hd, htally]
    rcases hp rfl with rfl | rfl
    · simp [counterOf?]
    · rw [counterOf?_countContinuous hd]
      by_cases hlast : k + 1 = buffer.lines.length
      · rw [if_pos (by rw [← hlast]; rfl), if_pos hlast, counted_tallyOf]
        simp
      · rw [if_neg (by rw [Option.some.injEq]; omega), if_neg hlast, Nat.add_zero]
  · have hcount : [(u, policy)].count (t, .countContinuous) = 0 := by simp [hu]
    rw [tally?_push_of_ne hu hk, htally, hcount, ite_self, Nat.add_zero]

/-- One push keeps the count. -/
theorem CountedInSpans.append {pushes : List Push} (h : CountedInSpans pushes t) (push : Push)
    (hp : push.1 = t → DropsContinuous push.2) : CountedInSpans (pushes ++ [push]) t := by
  obtain ⟨u, q⟩ := push
  intro k hk
  rw [ofPushes_append] at hk ⊢
  cases hd : (ofPushes pushes).drops q u with
  | false =>
    have happ : ((ofPushes pushes).push u q).2 = true := by rw [push_snd, hd]; rfl
    rw [lines_push, hd, if_neg Bool.false_ne_true, getElem?_concat_eq_some_iff] at hk
    rcases hk with hk | ⟨rfl, rfl⟩
    · obtain ⟨before, policy, during, after, hspan, htally⟩ := h k hk
      have hlt := (List.getElem?_eq_some_iff.1 hk).1
      refine ⟨before, policy, during, after ++ [(u, q)], ?_, ?_⟩
      · cases after with
        | nil => exact hspan.append_kept happ
        | cons next rest => exact hspan.append_after (by simp)
      · rw [tally?_push_of_not_drops hd, if_neg fun hc => by omega, htally]
    · refine ⟨pushes, q, [], [], span_new happ, ?_⟩
      rw [tally?_push_of_not_drops hd, tally?_ofPushes_of_length_le (Nat.le_refl _)]
      rcases hp rfl with h | h <;> simp only at h <;> subst h <;> simp [DuplicatePolicy.isCounting, tallyOf]
  | true =>
    have hdrop : ((ofPushes pushes).push u q).2 = false := by rw [push_snd, hd]; rfl
    rw [lines_push, hd, if_pos rfl] at hk
    obtain ⟨before, policy, during, after, hspan, htally⟩ := h k hk
    have htally' := tally?_push_continuous hp hd hk htally
    cases after with
    | nil =>
      refine ⟨before, policy, during ++ [(u, q)], [], hspan.append_dropped hdrop, ?_⟩
      rw [htally', if_pos (hspan.after_eq_nil_iff.1 rfl), ← List.cons_append, List.count_append]
    | cons next rest =>
      have hnot : k + 1 ≠ (ofPushes pushes).lines.length := fun hc =>
        List.cons_ne_nil next rest (hspan.after_eq_nil_iff.2 hc)
      refine ⟨before, policy, during, next :: rest ++ [(u, q)], hspan.append_after (List.cons_ne_nil next rest), ?_⟩
      rw [htally', if_neg hnot, Nat.add_zero]

/-- Every run keeps the count. -/
theorem countedInSpans_ofPushes (pushes : List Push) (hp : ∀ push ∈ pushes, push.1 = t → DropsContinuous push.2) :
    CountedInSpans pushes t := by
  induction pushes using List.reverseRecOn with
  | nil =>
    intro k hk
    cases hk
  | append_singleton pushes push ih =>
    exact (ih fun earlier hmem => hp earlier (List.mem_append_left _ hmem)).append push (hp push (by simp))

/-- No copy of such a text stands behind another one. -/
theorem not_adjacent_ofPushes (pushes : List Push) (hp : ∀ push ∈ pushes, push.1 = t → DropsContinuous push.2)
    (k : Nat) :
    ¬((ofPushes pushes).lines[k]? = some t ∧ (ofPushes pushes).lines[k + 1]? = some t) := by
  induction pushes using List.reverseRecOn with
  | nil =>
    rintro ⟨hk, -⟩
    cases hk
  | append_singleton pushes push ih =>
    obtain ⟨u, q⟩ := push
    have hno := ih fun earlier hmem => hp earlier (List.mem_append_left _ hmem)
    rw [ofPushes_append, lines_push]
    cases hd : (ofPushes pushes).drops q u with
    | true => exact hno
    | false =>
      rw [if_neg Bool.false_ne_true, getElem?_concat_eq_some_iff, getElem?_concat_eq_some_iff]
      rintro ⟨hk | ⟨hk, -⟩, hk' | ⟨hk', rfl⟩⟩
      · exact hno ⟨hk, hk'⟩
      · -- The copy before would be the last line, behind which the push is dropped.
        have hdrop : (ofPushes pushes).lines.getLast? = some u → (ofPushes pushes).drops q u = true :=
          (drops_continuous (hp (u, q) (by simp) rfl)).2
        rw [List.getLast?_eq_getElem?, ← hk', Nat.add_sub_cancel] at hdrop
        rw [hdrop hk] at hd
        cases hd
      · have := (List.getElem?_eq_some_iff.1 hk').1
        omega
      · omega

/-! ## Mixed runs -/

/-- A text that was pushed was pushed a first time. -/
theorem exists_first_push {pushes : List Push} (ht : ∃ policy, (t, policy) ∈ pushes) :
    ∃ before first rest, pushes = before ++ (t, first) :: rest ∧ ∀ push ∈ before, push.1 ≠ t := by
  obtain ⟨policy, hmem⟩ := ht
  have hsome : (pushes.find? fun push => push.1 == t).isSome := by
    rw [List.find?_isSome]
    exact ⟨_, hmem, beq_self_eq_true t⟩
  obtain ⟨⟨u, first⟩, hfind⟩ := Option.isSome_iff_exists.1 hsome
  obtain ⟨hu, before, rest, rfl, hbefore⟩ := List.find?_eq_some_iff_append.1 hfind
  obtain rfl : u = t := by simpa using hu
  exact ⟨before, first, rest, rfl, fun push hp => by simpa using hbefore push hp⟩

/--
In any run of pushes: (a) a text pushed under `removeAll` and `count` only is kept once, where its first push put it,
with the number of its `count` pushes as tally; (b) of a text pushed under `removeContinuous` and `countContinuous`
only no two copies are neighbours, and each copy has as tally the number of the `countContinuous` pushes in its span;
(c) a push under `keep` is appended; and no push of another text moves the text or changes its tallies.
-/
theorem tallies_of_pushes (pushes : List Push) (t : Text) (ht : ∃ policy, (t, policy) ∈ pushes) :
    ((∀ push ∈ pushes, push.1 = t → push.2 = .removeAll ∨ push.2 = .count) →
      ∃ before first rest, pushes = before ++ (t, first) :: rest ∧ (∀ push ∈ before, push.1 ≠ t) ∧
        (∀ j, (ofPushes pushes).lines[j]? = some t ↔ j = (ofPushes before).lines.length) ∧
        (ofPushes pushes).tally? (ofPushes before).lines.length = tallyOf (pushes.count (t, .count))) ∧
    ((∀ push ∈ pushes, push.1 = t → push.2 = .removeContinuous ∨ push.2 = .countContinuous) →
      (∀ k, ¬((ofPushes pushes).lines[k]? = some t ∧ (ofPushes pushes).lines[k + 1]? = some t)) ∧
        ∀ k, (ofPushes pushes).lines[k]? = some t →
          ∃ before first during after, Span pushes k before (t, first) during after ∧
            (ofPushes pushes).tally? k = tallyOf (((t, first) :: during).count (t, .countContinuous))) ∧
    (∀ before rest, pushes = before ++ (t, .keep) :: rest →
      ((ofPushes before).push t .keep).2 = true ∧
        (ofPushes (before ++ [(t, .keep)])).lines = (ofPushes before).lines ++ [t]) ∧
    ∀ before u policy rest, pushes = before ++ (u, policy) :: rest → u ≠ t →
      ∀ k, (ofPushes before).lines[k]? = some t →
        (ofPushes (before ++ [(u, policy)])).lines[k]? = some t ∧
          (ofPushes (before ++ [(u, policy)])).tally? k = (ofPushes before).tally? k := by
  refine ⟨fun hp => ?_, fun hp => ?_, fun before rest _ => ?_, fun before u policy rest _ hne k hk => ?_⟩
  · obtain ⟨before, first, rest, rfl, hbefore⟩ := exists_first_push ht
    have hkept := keptOnce_ofPushes hbefore (hp (t, first) (by simp) rfl) rest fun push hmem =>
      hp push (List.mem_append_right _ (List.mem_cons_of_mem _ hmem))
    have hcount : before.count (t, .count) = 0 :=
      List.count_eq_zero_of_not_mem fun hmem => hbefore _ hmem rfl
    refine ⟨before, first, rest, rfl, hbefore, hkept.places, ?_⟩
    rw [hkept.tally, List.count_append, hcount, Nat.zero_add]
  · exact ⟨not_adjacent_ofPushes pushes hp, countedInSpans_ofPushes pushes hp⟩
  · rw [ofPushes_append, lines_push, push_snd]
    exact ⟨rfl, rfl⟩
  · rw [ofPushes_append]
    exact ⟨getElem?_lines_push hk, tally?_push_of_ne hne hk⟩

/-- Two texts in one run: one is counted wherever it comes, the other one only while it is the last line. -/
theorem tallies_of_pushes_two_texts :
    let pushes : List Push := [(['a'], .count), (['b'], .removeContinuous), (['b'], .countContinuous),
      (['a'], .removeAll), (['c'], .keep), (['b'], .countContinuous), (['a'], .count)]
    (∃ policy, (['a'], policy) ∈ pushes) ∧ (∃ policy, (['b'], policy) ∈ pushes) ∧
      (∃ before first rest, pushes = before ++ (['a'], first) :: rest ∧ (∀ push ∈ before, push.1 ≠ ['a']) ∧
        (∀ j, (ofPushes pushes).lines[j]? = some ['a'] ↔ j = (ofPushes before).lines.length) ∧
        (ofPushes pushes).tally? (ofPushes before).lines.length = some 2) ∧
      ∀ k, (ofPushes pushes).lines[k]? = some ['b'] →
        ∃ before first during after, Span pushes k before (['b'], first) during after ∧
          (ofPushes pushes).tally? k = tallyOf (((['b'], first) :: during).count (['b'], .countContinuous)) :=
  ⟨⟨.count, by decide⟩, ⟨.removeContinuous, by decide⟩, (tallies_of_pushes _ _ ⟨.count, by decide⟩).1 (by decide),
    ((tallies_of_pushes _ _ ⟨.removeContinuous, by decide⟩).2.1 (by decide)).2⟩

/-- Both copies of the second text have a tally of their own. -/
example : (ofPushes [(['a'], .count), (['b'], .removeContinuous), (['b'], .countContinuous), (['a'], .removeAll),
    (['c'], .keep), (['b'], .countContinuous), (['a'], .count)]).tallies = [(0, 2), (3, 1), (1, 1)] := by decide +kernel

end LogDiagram.OutputBuffer
