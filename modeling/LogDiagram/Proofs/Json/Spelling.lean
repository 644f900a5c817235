import LogDiagram.Json.Reader

/-!
# How values are written in JSON

The grammar of the format, on texts and apart from every reader.

* `Json.IsString` and `Json.WritesString`: what stands between the quotes of a string, and what it means. A string may
  hold half a surrogate pair; then it is well formed, but means nothing;
* `Json.IsNumeral`: numbers;
* `Json.Enclosed`: items between brackets, with commas between them and white space anywhere around them;
* `Json.IsValue`: all well-formed values, of any depth.
-/

namespace LogDiagram.Json

/-- White space between tokens. -/
def IsSpace (t : Text) : Prop := ∀ c ∈ t, isSpacing c = true

instance (t : Text) : Decidable (IsSpace t) := decidable_of_iff (t.all isSpacing = true) List.all_eq_true

/-! ## Strings -/

/-- A character that stands for itself in a string. -/
def IsPlain (c : Char) : Prop := c ≠ '"' ∧ c ≠ '\\' ∧ 0x20 ≤ c.toNat

instance (c : Char) : Decidable (IsPlain c) := inferInstanceAs (Decidable (_ ∧ _))

/-- What may stand between the quotes of a string. -/
inductive IsString : Text → Prop
  | nil : IsString []
  | plain {c : Char} {w : Text} : IsPlain c → IsString w → IsString (c :: w)
  | escape {e c : Char} {w : Text} : escaped? e = some c → IsString w → IsString ('\\' :: e :: w)
  | unit {a b c d : Char} {n : Nat} {w : Text} : hexUnit? a b c d = some n → IsString w →
    IsString ('\\' :: 'u' :: a :: b :: c :: d :: w)

/-- What stands between the quotes of a string with a meaning, and the text that it means. -/
inductive WritesString : (meaning : Text) → (written : Text) → Prop
  | nil : WritesString [] []
  | plain {c : Char} {t w : Text} : IsPlain c → WritesString t w → WritesString (c :: t) (c :: w)
  | escape {e c : Char} {t w : Text} : escaped? e = some c → WritesString t w → WritesString (c :: t) ('\\' :: e :: w)
  /-- A character by its number. -/
  | unit {a b c d : Char} {n : Nat} {t w : Text} : hexUnit? a b c d = some n → n < 0xD800 ∨ 0xE000 ≤ n →
    WritesString t w → WritesString (Char.ofNat n :: t) ('\\' :: 'u' :: a :: b :: c :: d :: w)
  /-- A character by the two halves of its surrogate pair. -/
  | pair {a b c d a' b' c' d' : Char} {high low : Nat} {t w : Text} :
    hexUnit? a b c d = some high → 0xD800 ≤ high → high < 0xDC00 →
    hexUnit? a' b' c' d' = some low → 0xDC00 ≤ low → low < 0xE000 → WritesString t w →
    WritesString (Char.ofNat (0x10000 + (high - 0xD800) * 0x400 + (low - 0xDC00)) :: t)
      ('\\' :: 'u' :: a :: b :: c :: d :: '\\' :: 'u' :: a' :: b' :: c' :: d' :: w)

/-- A text between quotes. -/
def quote (w : Text) : Text := '"' :: (w ++ ['"'])

/-- Plain characters write themselves. -/
theorem writesString_of_isPlain {t : Text} (h : t.all (fun c => IsPlain c) = true) : WritesString t t := by
  induction t with
  | nil => exact .nil
  | cons c t ih =>
    rw [List.all_cons, Bool.and_eq_true, decide_eq_true_eq] at h
    exact .plain h.1 (ih h.2)

/-! ## Numbers -/

/-- One digit or more. -/
def IsDigits (t : Text) : Prop := t ≠ [] ∧ ∀ c ∈ t, c.isDigit = true

instance (t : Text) : Decidable (IsDigits t) :=
  decidable_of_iff (t ≠ [] ∧ t.all Char.isDigit = true) (and_congr Iff.rfl List.all_eq_true)

/-- What may stand behind the digits in front of the point. -/
def IsFraction (t : Text) : Prop := t = [] ∨ ∃ ds, IsDigits ds ∧ t = '.' :: ds

/-- A power of ten. -/
def IsScale (t : Text) : Prop :=
  t = [] ∨ ∃ mark ∈ ['e', 'E'], ∃ sign ∈ [[], ['+'], ['-']], ∃ ds, IsDigits ds ∧ t = mark :: (sign ++ ds)

/-- A number. Only zero starts with a zero. -/
inductive IsNumeral : Text → Prop
  | intro {sign whole fraction scale : Text} : sign ∈ [[], ['-']] → IsDigits whole →
    (whole.head? = some '0' → whole = ['0']) → IsFraction fraction → IsScale scale →
    IsNumeral (sign ++ (whole ++ (fraction ++ scale)))

/-! ## Lists and objects -/

/-- Items with commas between them, and white space around each. -/
inductive Listed : List Text → Text → Prop
  | one {before item after : Text} : IsSpace before → IsSpace after → Listed [item] (before ++ (item ++ after))
  | cons {before item after t : Text} {items : List Text} : IsSpace before → IsSpace after → Listed items t →
    Listed (item :: items) (before ++ (item ++ (after ++ ',' :: t)))

/-- Items between two brackets. -/
inductive Enclosed (opening closing : Char) : List Text → Text → Prop
  | none {between : Text} : IsSpace between → Enclosed opening closing [] (opening :: (between ++ [closing]))
  | some {items : List Text} {t : Text} : Listed items t → Enclosed opening closing items (opening :: (t ++ [closing]))

theorem listed_joined (item : Text) (items : List Text) :
    Listed (item :: items) (Text.joined [','] (item :: items)) := by
  have hspace : IsSpace [] := by decide
  induction items generalizing item with
  | nil =>
    have htext : Text.joined [','] [item] = [] ++ (item ++ []) := by simp [Text.joined]
    rw [htext]
    exact .one hspace hspace
  | cons next items ih =>
    have htext : Text.joined [','] (item :: next :: items) =
        [] ++ (item ++ ([] ++ ',' :: Text.joined [','] (next :: items))) := by simp [Text.joined]
    rw [htext]
    exact .cons hspace hspace (ih next)

/-- Items may stand without white space around them. -/
theorem enclosed_joined (opening closing : Char) (items : List Text) :
    Enclosed opening closing items (opening :: (Text.joined [','] items ++ [closing])) := by
  cases items with
  | nil => exact .none (by decide : IsSpace [])
  | cons item items => exact .some (listed_joined item items)

/-- A member of an object: what stands between the quotes of its key, and its value, with white space around the colon
between them. -/
structure Member where
  key : Text
  beforeColon : Text
  afterColon : Text
  value : Text
  beforeColon_isSpace : IsSpace beforeColon := by decide
  afterColon_isSpace : IsSpace afterColon := by decide

/-- A member as it is written. -/
def Member.text (m : Member) : Text := quote m.key ++ (m.beforeColon ++ ':' :: (m.afterColon ++ m.value))

/-- The well-formed values. -/
inductive IsValue : Text → Prop
  | word {t : Text} : t ∈ ["null".toList, "true".toList, "false".toList] → IsValue t
  | numeral {t : Text} : IsNumeral t → IsValue t
  | string {w : Text} : IsString w → IsValue (quote w)
  | array {items : List Text} {t : Text} : Enclosed '[' ']' items t → (∀ item ∈ items, IsValue item) → IsValue t
  | object {members : List Member} {t : Text} : Enclosed '\x7b' '\x7d' (members.map Member.text) t →
    (∀ m ∈ members, IsString m.key) → (∀ m ∈ members, IsValue m.value) → IsValue t

end LogDiagram.Json
