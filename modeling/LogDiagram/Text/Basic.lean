/-!
# Texts

A text is a list of Unicode scalar values. This file holds the vocabulary the rest of the library searches and
measures texts with.

* `Text.occursIn`: a text stands somewhere in another one;
* `Text.cut?`: a text cut at the first place where another one stands in it;
* `Text.utf8Size`: the number of bytes of a text in UTF-8;
* `Text.joined`: texts put together with a separator between them.

Main statements: `occursIn_iff` (an occurrence is a decomposition `a ++ sub ++ b`) and `cut?_eq_some_iff` (a cut is the
decomposition whose front part is shortest).
-/

namespace LogDiagram

/-- A text: its Unicode scalar values in order. -/
abbrev Text := List Char

namespace Text

/-! ## Occurrences -/

/-- What follows `sub` in a text that starts with it. -/
def afterPrefix? : (sub line : Text) → Option Text
  | [], line => some line
  | _ :: _, [] => none
  | c :: sub, d :: line => if c = d then afterPrefix? sub line else none

/-- `sub` stands somewhere in `line`; the empty text stands in every text. -/
def occursIn (sub : Text) : Text → Bool
  | [] => sub.isEmpty
  | c :: rest => (afterPrefix? sub (c :: rest)).isSome || occursIn sub rest

/-- The search behind `cut?`; `before` holds the passed characters, last one first. -/
def cutFrom (sub before : Text) : Text → Option (Text × Text)
  | [] => if sub.isEmpty then some (before.reverse, []) else none
  | c :: rest =>
    match afterPrefix? sub (c :: rest) with
    | some after => some (before.reverse, after)
    | none => cutFrom sub (c :: before) rest

/-- What stands before and what stands after the first occurrence of `sub` in a text. -/
def cut? (sub line : Text) : Option (Text × Text) := cutFrom sub [] line

theorem afterPrefix?_eq_some_iff : ∀ {sub line rest : Text}, afterPrefix? sub line = some rest ↔ line = sub ++ rest
  | [], line, rest => by simp [afterPrefix?]
  | c :: sub, [], rest => by simp [afterPrefix?]
  | c :: sub, d :: line, rest => by
    rw [afterPrefix?]
    split
    · next h => rw [afterPrefix?_eq_some_iff]; simp [h]
    · next h => simp [Ne.symm h]

theorem afterPrefix?_isSome_iff {sub line : Text} : (afterPrefix? sub line).isSome ↔ ∃ rest, line = sub ++ rest := by
  simp only [Option.isSome_iff_exists, afterPrefix?_eq_some_iff]

theorem occursIn_iff {sub : Text} : ∀ {line : Text}, occursIn sub line ↔ ∃ a b, line = a ++ sub ++ b
  | [] => by simp [occursIn, List.isEmpty_iff]
  | c :: rest => by
    rw [occursIn, Bool.or_eq_true, occursIn_iff, afterPrefix?_isSome_iff]
    constructor
    · rintro (⟨b, h⟩ | ⟨a, b, h⟩)
      · exact ⟨[], b, by simp [h]⟩
      · exact ⟨c :: a, b, by simp [h]⟩
    · rintro ⟨_ | ⟨d, a⟩, b, h⟩
      · exact .inl ⟨b, by simpa using h⟩
      · simp only [List.cons_append, List.cons.injEq] at h
        exact .inr ⟨a, b, by simpa using h.2⟩

theorem occursIn_nil (line : Text) : occursIn [] line = true := occursIn_iff.2 ⟨[], line, rfl⟩

theorem cutFrom_eq_some_iff {sub before line x y : Text} :
    cutFrom sub before line = some (x, y) ↔
      ∃ a, x = before.reverse ++ a ∧ line = a ++ sub ++ y ∧
        ∀ a' b', line = a' ++ sub ++ b' → a.length ≤ a'.length := by
  induction line generalizing before with
  | nil =>
    cases sub with
    | nil =>
      simp only [cutFrom, List.isEmpty_nil, if_true, Option.some.injEq, Prod.mk.injEq, List.append_nil,
        List.nil_eq, List.append_eq_nil_iff]
      constructor
      · rintro ⟨rfl, rfl⟩; exact ⟨[], by simp⟩
      · rintro ⟨a, rfl, ⟨rfl, rfl⟩, _⟩; simp
    | cons d s => simp [cutFrom]
  | cons c rest ih =>
    rw [cutFrom]
    cases h : afterPrefix? sub (c :: rest) with
    | some after =>
      rw [afterPrefix?_eq_some_iff] at h
      simp only [Option.some.injEq, Prod.mk.injEq]
      constructor
      · rintro ⟨rfl, rfl⟩
        exact ⟨[], by simp, by simpa using h, by simp⟩
      · rintro ⟨a, rfl, hl, hmin⟩
        obtain rfl : a = [] := by simpa using hmin [] after (by simpa using h)
        rw [h, List.nil_append, List.append_cancel_left_eq] at hl
        simp [hl]
    | none =>
      have hno : ∀ b, c :: rest ≠ sub ++ b := fun b hb => by
        rw [afterPrefix?_eq_some_iff.2 hb] at h
        cases h
      show cutFrom sub (c :: before) rest = some (x, y) ↔ _
      rw [ih]
      constructor
      · rintro ⟨a, hx, hr, hmin⟩
        refine ⟨c :: a, by simpa using hx, by simp [hr], ?_⟩
        rintro (_ | ⟨d, a'⟩) b' h'
        · exact absurd (by simpa using h') (hno b')
        · simp only [List.cons_append, List.cons.injEq] at h'
          simpa using hmin a' b' (by simpa using h'.2)
      · rintro ⟨_ | ⟨d, a⟩, hx, hr, hmin⟩
        · exact absurd (by simpa using hr) (hno y)
        · simp only [List.cons_append, List.cons.injEq] at hr
          obtain ⟨rfl, hr⟩ := hr
          refine ⟨a, by simpa using hx, by simpa using hr, fun a' b' h' => ?_⟩
          simpa using hmin (c :: a') b' (by simp [h'])

/-- A cut is the decomposition around an occurrence that starts earliest. -/
theorem cut?_eq_some_iff {sub line a b : Text} :
    cut? sub line = some (a, b) ↔
      line = a ++ sub ++ b ∧ ∀ a' b', line = a' ++ sub ++ b' → a.length ≤ a'.length := by
  rw [cut?, cutFrom_eq_some_iff]
  constructor
  · rintro ⟨a', h, hl⟩
    obtain rfl : a = a' := by simpa using h
    exact hl
  · exact fun h => ⟨a, by simp, h⟩

theorem cutFrom_isSome {sub : Text} : ∀ {before line : Text}, (cutFrom sub before line).isSome = occursIn sub line
  | before, [] => by simp only [cutFrom, occursIn]; split <;> simp_all
  | before, c :: rest => by
    rw [cutFrom, occursIn]
    cases h : afterPrefix? sub (c :: rest) with
    | some after => simp
    | none => simpa using cutFrom_isSome

/-- A text can be cut exactly where the other one occurs. -/
theorem cut?_isSome {sub line : Text} : (cut? sub line).isSome = occursIn sub line := cutFrom_isSome

/-! ## Measures and joins -/

/-- A text unless it is empty. -/
def nonempty? (t : Text) : Option Text := if t.isEmpty then none else some t

theorem nonempty?_eq (t : Text) : nonempty? t = if t = [] then none else some t := by
  simp only [nonempty?, List.isEmpty_iff]

/-- The number of bytes of a text in UTF-8. -/
def utf8Size (t : Text) : Nat := t.foldl (fun n c => n + c.utf8Size) 0

theorem utf8Size_append (t t' : Text) : utf8Size (t ++ t') = utf8Size t + utf8Size t' := by
  have hshift : ∀ (t : Text) (n : Nat), t.foldl (fun n c => n + c.utf8Size) n = n + utf8Size t := by
    intro t
    induction t with
    | nil => exact fun n => rfl
    | cons c t ih =>
      intro n
      rw [utf8Size, List.foldl_cons, List.foldl_cons, ih, ih]
      omega
  rw [utf8Size, List.foldl_append, hshift]
  rfl

/-- The texts in order with `sep` between neighbours. -/
def joined (sep : Text) (parts : List Text) : Text := (parts.intersperse sep).flatten

/-- The pieces between the occurrences of one character; there is always one piece more than occurrences. -/
def splitAtChar (sep : Char) (t : Text) : List Text :=
  let (piece, done) := t.foldl (fun (piece, done) c =>
    if c = sep then ([], piece.reverse :: done) else (c :: piece, done)) (([], []) : Text × List Text)
  (piece.reverse :: done).reverse

/-- A text is not behind another one in the order of scalar values. -/
def isUpTo (t other : Text) : Bool := !List.lex other t fun c d => c.toNat < d.toNat

/-- ASCII capitals to small letters; every other character stays. -/
def asciiLower (t : Text) : Text := t.map Char.toLower

/-- The decimal numeral of a natural number. -/
def ofNat (n : Nat) : Text := Nat.toDigits 10 n

/-- The decimal numeral of an integer. -/
def ofInt : Int → Text
  | .ofNat n => ofNat n
  | .negSucc n => '-' :: ofNat (n + 1)

end Text

end LogDiagram
