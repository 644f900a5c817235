import LogDiagram.Proofs.Results
import LogDiagram.Shell.Arithmetic

/-!
# Numbers of 64 bits in scripts

A script calculates with whole numbers of 64 bits. Every operator keeps to them (`Formula.combine_inRange`), so every
expression that a script can write has one of them as its value (`Formula.value_inRange`): what comes out of variables
does too, or it is refused. What an assignment gives a variable is what the variable stands for afterwards
(`Formula.numberOf_assigned`).
-/

namespace LogDiagram.Shell

/-- A whole number of 64 bits. -/
def InRange (n : Int) : Prop := -greatestNumber - 1 ≤ n ∧ n ≤ greatestNumber

theorem inRange_toInt (x : BitVec 64) : InRange x.toInt := by
  have hleast : -greatestNumber - 1 ≤ x.toInt := x.le_toInt
  have hgreatest : x.toInt < greatestNumber + 1 := x.toInt_lt
  exact ⟨hleast, Int.le_of_lt_add_one hgreatest⟩

/-- A number that starts over where the numbers end is read off its bits. -/
theorem wrapped_eq_toInt (n : Int) : wrapped n = (Formula.bits n).toInt := (BitVec.toInt_ofInt n).symm

theorem inRange_wrapped (n : Int) : InRange (wrapped n) := by
  rw [wrapped_eq_toInt]
  exact inRange_toInt _

theorem inRange_truth (holds : Bool) : InRange (Formula.truth holds) := by
  cases holds <;> exact ⟨by decide, by decide⟩

/-- The remainder of a division is no further from zero than the number that is divided. -/
theorem inRange_tmod {a : Int} (h : InRange a) (b : Int) : InRange (a.tmod b) := by
  have habs : (a.tmod b).natAbs ≤ a.natAbs := by
    rw [Int.natAbs_tmod]
    exact Nat.mod_le _ _
  rcases Int.le_total 0 a with ha | ha
  · have := Int.tmod_nonneg b ha
    unfold InRange at *
    omega
  · have : a.tmod b ≤ 0 := by
      have := Int.tmod_nonneg b (a := -a) (by omega)
      rw [Int.neg_tmod] at this
      omega
    unfold InRange at *
    omega

namespace Formula

/-- **An operator between numbers of 64 bits gives such a number, or none.** -/
theorem combine_inRange {operator : Operator} {a b n : Int} (ha : InRange a) (h : combine operator a b = .ok n) :
    InRange n := by
  cases operator with
  | add | subtract | multiply =>
    obtain rfl : _ = n := Except.ok.inj h
    exact inRange_wrapped _
  | divide =>
    rw [combine] at h
    split at h
    · cases h
    · obtain rfl : _ = n := Except.ok.inj h
      exact inRange_wrapped _
  | remainder =>
    rw [combine] at h
    split at h
    · cases h
    · obtain rfl : _ = n := Except.ok.inj h
      exact inRange_tmod ha b
  | shiftLeft | shiftRight | bitAnd | bitXor | bitOr =>
    obtain rfl : _ = n := Except.ok.inj h
    exact inRange_toInt _
  | less | lessOrEqual | greater | greaterOrEqual | equal | unequal | both | either =>
    obtain rfl : _ = n := Except.ok.inj h
    exact inRange_truth _

/-! ## What is written -/

theorem inRange_literal (t : Text) : InRange (literal t).1 := by
  have hle : (literal t).1 ≤ greatestNumber.toNat := Nat.min_le_right _ _
  have : greatestNumber = 2 ^ 63 - 1 := rfl
  unfold InRange
  omega

theorem inRange_of_wholeNumber? {t : Text} {n : Int} (h : wholeNumber? t = some n) : InRange n := by
  simp only [wholeNumber?, Option.ite_none_right_eq_some, Option.some.injEq] at h
  obtain ⟨⟨-, hrange⟩, rfl⟩ := h
  exact hrange

/-- A variable stands for a number of 64 bits, if for any. -/
theorem inRange_of_numberOf {session : Session} {name : Text} {n : Int} (h : numberOf session name = .ok n) :
    InRange n := by
  unfold numberOf at h
  split at h
  · obtain rfl := Except.ok.inj h
    exact ⟨by decide, by decide⟩
  · obtain rfl := Except.ok.inj h
    exact ⟨by decide, by decide⟩
  · split at h
    · obtain rfl := Except.ok.inj h
      exact inRange_of_wholeNumber? ‹_›
    · cases h

/-- The numbers in an expression are of 64 bits. -/
def Bounded : Formula → Prop
  | .number n => InRange n
  | .variable _ => True
  | .signed _ operand => operand.Bounded
  | .combined _ left right => left.Bounded ∧ right.Bounded
  | .choice condition yes no => condition.Bounded ∧ yes.Bounded ∧ no.Bounded
  | .assigned _ _ value => value.Bounded

/-- What is found, if anything, is such an expression. -/
def FindsBounded (found : Found) : Prop := ∀ {formula rest}, found = .ok (formula, rest) → formula.Bounded

/-- The readers find such expressions with the given fuel. -/
structure ReadersBounded (fuel : Nat) : Prop where
  whole : ∀ t, FindsBounded (readWhole fuel t)
  level : ∀ n t, FindsBounded (readLevel fuel n t)
  more : ∀ n t {first : Formula}, first.Bounded → FindsBounded (readMore fuel n first t)
  operand : ∀ t, FindsBounded (readOperand fuel t)

theorem readersBounded_zero : ReadersBounded 0 :=
  ⟨fun _ _ _ => nofun, fun _ _ _ _ => nofun, fun _ _ _ _ _ _ => nofun, fun _ _ _ => nofun⟩

variable {fuel : Nat}

namespace ReadersBounded

theorem readWhole_succ (readers : ReadersBounded fuel) (t : Text) : FindsBounded (readWhole (fuel + 1) t) := by
  intro formula rest h
  rw [readWhole] at h
  dsimp only at h
  split at h
  · obtain ⟨⟨value, after⟩, hvalue, h⟩ := bind_eq_ok_iff.mp h
    obtain ⟨rfl, -⟩ := Prod.mk.inj (Except.ok.inj h)
    show value.Bounded
    exact readers.whole _ hvalue
  · obtain ⟨⟨condition, after⟩, hcondition, h⟩ := bind_eq_ok_iff.mp h
    dsimp only at h
    split at h
    · obtain ⟨⟨yes, after⟩, hyes, h⟩ := bind_eq_ok_iff.mp h
      dsimp only at h
      split at h
      · obtain ⟨⟨no, after⟩, hno, h⟩ := bind_eq_ok_iff.mp h
        obtain ⟨rfl, -⟩ := Prod.mk.inj (Except.ok.inj h)
        exact ⟨readers.level _ _ hcondition, readers.whole _ hyes, readers.whole _ hno⟩
      · cases h
    · obtain ⟨rfl, -⟩ := Prod.mk.inj (Except.ok.inj h)
      exact readers.level _ _ hcondition

theorem readLevel_succ (readers : ReadersBounded fuel) (n : Nat) (t : Text) :
    FindsBounded (readLevel (fuel + 1) n t) := by
  intro formula rest h
  cases n with
  | zero =>
    rw [readLevel] at h
    exact readers.operand _ h
  | succ n =>
    rw [readLevel] at h
    obtain ⟨⟨first, after⟩, hfirst, h⟩ := bind_eq_ok_iff.mp h
    exact readers.more _ _ (readers.level _ _ hfirst) h

theorem readMore_succ (readers : ReadersBounded fuel) (n : Nat) (t : Text) {first : Formula} (hfirst : first.Bounded) :
    FindsBounded (readMore (fuel + 1) n first t) := by
  intro formula rest h
  rw [readMore] at h
  cases hoperator : operator? (levels.getD n []) (skip t) with
  | none =>
    rw [hoperator] at h
    obtain ⟨rfl, -⟩ := Prod.mk.inj (Except.ok.inj h)
    exact hfirst
  | some found =>
    rw [hoperator] at h
    obtain ⟨⟨second, after⟩, hsecond, h⟩ := bind_eq_ok_iff.mp h
    have hcombined : (combined found.1 first second).Bounded := ⟨hfirst, readers.level _ _ hsecond⟩
    exact readers.more _ _ hcombined h

theorem readOperand_succ (readers : ReadersBounded fuel) (t : Text) : FindsBounded (readOperand (fuel + 1) t) := by
  have hsigned (sign : Sign) (t : Text) : FindsBounded
      ((readOperand fuel (skip t)).map fun found => (.signed sign found.1, found.2)) := by
    intro formula rest h
    obtain ⟨⟨operand, after⟩, hoperand, h⟩ := map_eq_ok_iff.mp h
    obtain ⟨rfl, -⟩ := Prod.mk.inj h
    show operand.Bounded
    exact readers.operand _ hoperand
  intro formula rest h
  unfold readOperand at h
  dsimp only at h
  split at h
  · obtain ⟨⟨inner, after⟩, hinner, h⟩ := bind_eq_ok_iff.mp h
    dsimp only at h
    split at h
    · obtain ⟨rfl, -⟩ := Prod.mk.inj (Except.ok.inj h)
      exact readers.whole _ hinner
    · cases h
  · exact hsigned _ _ h
  · exact hsigned _ _ h
  · exact hsigned _ _ h
  · exact hsigned _ _ h
  · split at h
    · obtain ⟨rfl, -⟩ := Prod.mk.inj (Except.ok.inj h)
      exact inRange_literal _
    · split at h
      · obtain ⟨rfl, -⟩ := Prod.mk.inj (Except.ok.inj h)
        exact trivial
      · cases h
  · cases h

end ReadersBounded

theorem readersBounded : ∀ fuel, ReadersBounded fuel
  | 0 => readersBounded_zero
  | fuel + 1 =>
    have readers := readersBounded fuel
    ⟨readers.readWhole_succ, readers.readLevel_succ, readers.readMore_succ, readers.readOperand_succ⟩

/-- A script writes only expressions with numbers of 64 bits. -/
theorem bounded_of_read {t : Text} {formula : Formula} (h : Formula.read t = .ok formula) : formula.Bounded := by
  obtain ⟨⟨found, rest⟩, hfound, h⟩ := bind_eq_ok_iff.mp h
  dsimp only at h
  split at h
  · obtain rfl := Except.ok.inj h
    exact (readersBounded _).whole _ hfound
  · cases h

/-! ## Values -/

/-- **The value of an expression that a script writes is a whole number of 64 bits.** -/
theorem value_inRange {formula : Formula} (hbounded : formula.Bounded) : ∀ {session after : Session} {n : Int},
    formula.value session = .ok (n, after) → InRange n := by
  induction formula with
  | number m =>
    intro session after n h
    obtain ⟨rfl, -⟩ := Prod.mk.inj (Except.ok.inj h)
    exact hbounded
  | «variable» name =>
    intro session after n h
    obtain ⟨m, hm, h⟩ := map_eq_ok_iff.mp h
    obtain ⟨rfl, -⟩ := Prod.mk.inj h
    exact inRange_of_numberOf hm
  | signed sign operand ih =>
    intro session after n h
    obtain ⟨⟨m, session⟩, hm, h⟩ := bind_eq_ok_iff.mp h
    obtain ⟨rfl, -⟩ := Prod.mk.inj (Except.ok.inj h)
    have hm := ih hbounded hm
    cases sign with
    | plus => exact hm
    | minus => exact inRange_wrapped _
    | complement =>
      unfold InRange at *
      dsimp only
      omega
    | negation => exact inRange_truth _
  | combined operator left right ihLeft ihRight =>
    intro session after n h
    obtain ⟨⟨a, session⟩, ha, h⟩ := bind_eq_ok_iff.mp h
    dsimp only at h
    split at h
    · obtain ⟨rfl, -⟩ := Prod.mk.inj (Except.ok.inj h)
      exact inRange_truth false
    · split at h
      · obtain ⟨rfl, -⟩ := Prod.mk.inj (Except.ok.inj h)
        exact inRange_truth true
      · obtain ⟨⟨b, session⟩, -, h⟩ := bind_eq_ok_iff.mp h
        obtain ⟨c, hc, h⟩ := bind_eq_ok_iff.mp h
        obtain ⟨rfl, -⟩ := Prod.mk.inj (Except.ok.inj h)
        exact combine_inRange (ihLeft hbounded.1 ha) hc
  | choice condition yes no ihCondition ihYes ihNo =>
    intro session after n h
    obtain ⟨⟨m, session⟩, hm, h⟩ := bind_eq_ok_iff.mp h
    dsimp only at h
    split at h
    · exact ihYes hbounded.2.1 h
    · exact ihNo hbounded.2.2 h
  | assigned name operator operand ih =>
    intro session after n h
    obtain ⟨⟨m, session⟩, hm, h⟩ := bind_eq_ok_iff.mp h
    cases operator with
    | none =>
      obtain ⟨rfl, -⟩ := Prod.mk.inj (Except.ok.inj h)
      exact ih hbounded hm
    | some operator =>
      obtain ⟨old, hold, h⟩ := bind_eq_ok_iff.mp h
      obtain ⟨c, hc, h⟩ := bind_eq_ok_iff.mp h
      obtain ⟨rfl, -⟩ := Prod.mk.inj (Except.ok.inj h)
      exact combine_inRange (inRange_of_numberOf hold) hc

/-! ## Assignments -/

theorem isDigit_of_mem_ofNat {n : Nat} {c : Char} (h : c ∈ Text.ofNat n) : c.isDigit = true :=
  Nat.isDigit_of_mem_toDigits (by decide) (by decide) h

theorem exists_ofNat (n : Nat) : ∃ c rest, Text.ofNat n = c :: rest ∧ c.isDigit = true := by
  obtain ⟨c, rest, h⟩ := List.exists_cons_of_ne_nil (Nat.toDigits_ne_nil (n := n) (b := 10))
  exact ⟨c, rest, h, isDigit_of_mem_ofNat (h ▸ List.mem_cons_self)⟩

/-- The numeral of a positive number does not start with a zero, which would make it one of base 8. -/
theorem head?_ofNat_ne_zero {n : Nat} (hn : n ≠ 0) : (Text.ofNat n).head? ≠ some '0' := by
  induction n using Nat.strongRecOn with
  | ind n ih =>
    by_cases hless : n < 10
    · have hall : ∀ n < 10, n ≠ 0 → (Text.ofNat n).head? ≠ some '0' := by decide
      exact hall n hless hn
    · have hfront := ih (n / 10) (by omega) (by omega)
      obtain ⟨c, rest, hdigits, -⟩ := exists_ofNat (n / 10)
      have hsplit : Text.ofNat n = Text.ofNat (n / 10) ++ [(n % 10).digitChar] :=
        Nat.toDigits_of_base_le (by decide) (by omega)
      rw [hsplit, hdigits]
      rw [hdigits] at hfront
      exact hfront

theorem toNat_of_isDigit {c : Char} (h : c.isDigit = true) : 48 ≤ c.toNat ∧ c.toNat ≤ 57 := by
  simp only [Char.isDigit, Bool.and_eq_true, decide_eq_true_eq] at h
  exact ⟨UInt32.le_iff_toNat_le.mp h.1, UInt32.le_iff_toNat_le.mp h.2⟩

theorem isBlankChar_of_isDigit {c : Char} (h : c.isDigit = true) : isBlankChar c = false := by
  have hge := (toNat_of_isDigit h).1
  refine Bool.eq_false_iff.mpr fun hblank => ?_
  simp only [isBlankChar, Bool.or_eq_true, beq_iff_eq, Bool.and_eq_true, decide_eq_true_eq] at hblank
  rcases hblank with rfl | ⟨-, hle⟩
  · exact absurd h (by decide)
  · have : c.toNat ≤ 13 := UInt32.le_iff_toNat_le.mp hle
    omega

theorem digitIn?_ten {c : Char} (h : c.isDigit = true) : digitIn? 10 c = some (c.toNat - '0'.toNat) := by
  have hle := (toNat_of_isDigit h).2
  have hzero : '0'.toNat = 48 := rfl
  simp only [digitIn?, h, if_true]
  rw [if_pos (by omega)]

theorem numeral_ofNat (n : Nat) : numeral 10 (Text.ofNat n) = (n, (Text.ofNat n).length, []) := by
  have hdigits : (Text.ofNat n).takeWhile (fun c => (digitIn? 10 c).isSome) = Text.ofNat n := by
    have hall : ∀ c ∈ Text.ofNat n, (digitIn? 10 c).isSome = true := by
      intro c hc
      rw [digitIn?_ten (isDigit_of_mem_ofNat hc), Option.isSome_some]
    have hfront : (Text.ofNat n ++ []).takeWhile (fun c => (digitIn? 10 c).isSome) = Text.ofNat n ++ [] :=
      List.takeWhile_append_of_pos hall
    rwa [List.append_nil] at hfront
  have hvalue : ∀ (t : Text) (start : Nat), (∀ c ∈ t, c.isDigit = true) →
      t.foldl (fun n c => n * 10 + (digitIn? 10 c).getD 0) start = Nat.ofDigitChars 10 t start := by
    intro t
    induction t with
    | nil => exact fun start _ => rfl
    | cons c t ih =>
      intro start ht
      rw [List.foldl_cons, ih _ fun d hd => ht d (List.mem_cons_of_mem _ hd),
        digitIn?_ten (ht c List.mem_cons_self), Nat.ofDigitChars_cons, Nat.mul_comm start]
      rfl
  have hfold := hvalue (Text.ofNat n) 0 fun c => isDigit_of_mem_ofNat
  simp only [numeral, hdigits, List.drop_length]
  rw [hfold, Text.ofNat, Nat.ofDigitChars_toDigits (by decide) (by decide)]

theorem unsignedNumber_ofNat (n : Nat) : unsignedNumber (Text.ofNat n) = (n, []) := by
  by_cases hn : n = 0
  · subst hn
    rfl
  · have hhead := head?_ofNat_ne_zero hn
    unfold unsignedNumber
    split
    · rename_i h
      rw [h] at hhead
      simp at hhead
    · rw [numeral_ofNat]

theorem splitSign_ofNat (n : Nat) : splitSign (Text.ofNat n) = (false, Text.ofNat n) := by
  obtain ⟨c, rest, hdigits, hc⟩ := exists_ofNat n
  rw [hdigits]
  unfold splitSign
  split
  · rename_i h
    obtain ⟨rfl, -⟩ := List.cons.inj h
    exact absurd hc (by decide)
  · rename_i h
    obtain ⟨rfl, -⟩ := List.cons.inj h
    exact absurd hc (by decide)
  · rfl

/-- The numeral of a number of 64 bits writes it. -/
theorem wholeNumber?_ofInt {n : Int} (hn : InRange n) : wholeNumber? (Text.ofInt n) = some n := by
  have hdigit (n : Nat) : (Text.ofNat n).head?.any Char.isDigit = true := by
    obtain ⟨c, rest, hdigits, hc⟩ := exists_ofNat n
    simpa [hdigits] using hc
  unfold InRange at hn
  cases n with
  | ofNat n =>
    have hblank : (Text.ofNat n).dropWhile isBlankChar = Text.ofNat n := by
      obtain ⟨c, rest, hdigits, hc⟩ := exists_ofNat n
      rw [hdigits, List.dropWhile_cons_of_neg (by simp [isBlankChar_of_isDigit hc])]
    simp only [wholeNumber?, Text.ofInt, hblank, splitSign_ofNat, unsignedNumber_ofNat, hdigit]
    exact if_pos ⟨rfl, hn⟩
  | negSucc n =>
    have hblank : (Text.ofInt (.negSucc n)).dropWhile isBlankChar = '-' :: Text.ofNat (n + 1) := by
      rw [Text.ofInt, List.dropWhile_cons_of_neg (by decide)]
    simp only [wholeNumber?, hblank, splitSign, unsignedNumber_ofNat, hdigit]
    exact if_pos ⟨rfl, hn⟩

/-- A text that was assigned is the value of the variable, unless the assignment was the end of the shell. -/
theorem textOf?_assign {session : Session} {name value : Text} (hrun : (session.assign name value).isRunning = true) :
    (session.assign name value).textOf? name = some value := by
  unfold Session.assign at hrun ⊢
  cases hbinding : session.binding? name with
  | none => simp [Session.textOf?, Session.binding?, Session.setBinding]
  | some binding =>
    cases hfixed : binding.isFixed with
    | true =>
      simp only [hbinding, hfixed, if_true] at hrun
      cases hrun
    | false =>
      simp only [hfixed, Bool.false_eq_true, if_false]
      split <;> simp [Session.textOf?, Session.binding?, Session.setBinding]

/-- **What an assignment in an expression gives a variable is what the variable stands for afterwards.** -/
theorem numberOf_assigned {session after : Session} {name : Text} {operator : Option Operator} {formula : Formula}
    {n : Int} (hbounded : formula.Bounded) (h : (assigned name operator formula).value session = .ok (n, after))
    (hrun : after.isRunning = true) : numberOf after name = .ok n := by
  have hn : InRange n := value_inRange (show (assigned name operator formula).Bounded from hbounded) h
  obtain ⟨before, rfl⟩ : ∃ before : Session, after = before.assign name (Text.ofInt n) := by
    obtain ⟨⟨m, session⟩, -, h⟩ := bind_eq_ok_iff.mp h
    cases operator with
    | none =>
      obtain ⟨rfl, rfl⟩ := Prod.mk.inj (Except.ok.inj h)
      exact ⟨session, rfl⟩
    | some operator =>
      obtain ⟨old, -, h⟩ := bind_eq_ok_iff.mp h
      obtain ⟨c, -, h⟩ := bind_eq_ok_iff.mp h
      obtain ⟨rfl, rfl⟩ := Prod.mk.inj (Except.ok.inj h)
      exact ⟨session, rfl⟩
  have hwritten := wholeNumber?_ofInt hn
  rw [numberOf, textOf?_assign hrun]
  split
  · contradiction
  · rename_i hempty
    rw [Option.some.inj hempty] at hwritten
    cases hwritten
  · rename_i value _ hvalue
    obtain rfl := Option.some.inj hvalue
    rw [hwritten]

end Formula

end LogDiagram.Shell
