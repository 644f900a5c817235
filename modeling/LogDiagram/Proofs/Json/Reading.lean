import Mathlib.Data.List.TakeDrop
import Mathlib.Data.List.TakeWhile
import LogDiagram.Json.Decoder
import LogDiagram.Proofs.Json.Spelling
import LogDiagram.Proofs.Lists.InStep

/-!
# Well-formed values are read

* `Reads`: a text is read as a value, whatever follows that cannot be a part of it;
* `readString_of_writesString`, `readsNumber_of_parts`: the scanners of strings and numbers take what is written;
* `reads_array`, `reads_object`: lists and objects are read item by item, each with the rest of the text behind it;
* `reads_of_isValue`: every well-formed value is read as a value that may be skipped;
* `decode_of_reads`: what a decoder makes of a value is what a whole text decodes to.
-/

namespace LogDiagram.Json

variable {s : OpenString} {t rest w ws : Text} {n fuel : Nat} {a b c d e : Char}

/-! ## White space -/

theorem skipSpacing_append (h : IsSpace ws) (t : Text) : skipSpacing (ws ++ t) = skipSpacing t :=
  List.dropWhile_append_of_pos h

theorem skipSpacing_cons (h : isSpacing c = false) (t : Text) : skipSpacing (c :: t) = c :: t := by
  rw [skipSpacing, List.dropWhile_cons_of_neg (by rw [h]; exact Bool.false_ne_true)]

/-- White space in front of a value does not count. -/
theorem readValue_append (h : IsSpace ws) (fuel : Nat) (t : Text) : readValue fuel (ws ++ t) = readValue fuel t := by
  cases fuel with
  | zero => rfl
  | succ fuel => rw [readValue, readValue, skipSpacing_append h]

/-- What is in front of a text that starts with something else is white space. -/
theorem exists_append_skipSpacing (t : Text) : ∃ ws, IsSpace ws ∧ t = ws ++ skipSpacing t :=
  ⟨t.takeWhile isSpacing, fun _ hc => List.mem_takeWhile_imp hc, List.takeWhile_append_dropWhile.symm⟩

theorem readItems_skipSpacing (fuel : Nat) (done : List Json) (t : Text) :
    readItems fuel done (skipSpacing t) = readItems fuel done t := by
  obtain ⟨ws, hws, ht⟩ := exists_append_skipSpacing t
  cases fuel with
  | zero => rfl
  | succ fuel =>
    have hvalue : readValue fuel t = readValue fuel (skipSpacing t) := by
      conv_lhs => rw [ht]
      exact readValue_append hws fuel _
    rw [readItems, readItems, hvalue]

/-! ## What may follow a value -/

/-- A number cannot go on with the text. -/
def Ends (t : Text) : Prop := ∀ c ∈ t.head?, c.isDigit = false ∧ c ≠ '.' ∧ c ≠ 'e' ∧ c ≠ 'E'

theorem ends_nil : Ends [] := by
  intro c hc
  cases hc

theorem ends_cons (h : c.isDigit = false ∧ c ≠ '.' ∧ c ≠ 'e' ∧ c ≠ 'E') : Ends (c :: t) := by
  intro d hd
  obtain rfl : c = d := by simpa using hd
  exact h

theorem ends_append (hws : IsSpace ws) (ht : Ends t) : Ends (ws ++ t) := by
  cases ws with
  | nil => exact ht
  | cons c ws =>
    have hc : isSpacing c = true := hws c List.mem_cons_self
    simp only [isSpacing, Bool.or_eq_true, decide_eq_true_eq] at hc
    apply ends_cons
    rcases hc with ((rfl | rfl) | rfl) | rfl <;> decide

/-- A text starts like a value: with no white space, and not with a closing bracket. -/
def Starts (t : Text) : Prop := ∃ c u, t = c :: u ∧ isSpacing c = false ∧ c ≠ ']'

/-- A text is read as a value, and what follows is left. -/
structure Reads (t : Text) (json : Json) : Prop where
  starts : Starts t
  read : ∀ fuel rest, t.length ≤ fuel → Ends rest → readValue fuel (t ++ rest) = (json, some rest)

/-- A value takes a step for its first character. -/
theorem reads_cons {json : Json} (hspace : isSpacing c = false) (hne : c ≠ ']')
    (h : ∀ fuel rest, t.length ≤ fuel → Ends rest → readValue (fuel + 1) (c :: (t ++ rest)) = (json, some rest)) :
    Reads (c :: t) json := by
  refine ⟨⟨c, t, rfl, hspace, hne⟩, fun fuel rest hfuel hrest => ?_⟩
  cases fuel with
  | zero => simp at hfuel
  | succ fuel => exact h fuel rest (Nat.le_of_succ_le_succ hfuel) hrest

/-! ## Strings -/

theorem readStringFrom_plain (h : IsPlain c) : readStringFrom s (c :: t) = readStringFrom (s.push c) t := by
  obtain ⟨hquote, hslash, hcontrol⟩ := h
  rw [readStringFrom]
  · rw [if_neg (by omega)]
  all_goals simp_all

theorem readStringFrom_escape (h : escaped? e = some c) :
    readStringFrom s ('\\' :: e :: t) = readStringFrom (s.push c) t := by
  have hu : e ≠ 'u' := by
    rintro rfl
    simp [escaped?] at h
  rw [readStringFrom, h]
  all_goals simp_all

theorem readStringFrom_unit (h : hexUnit? a b c d = some n) :
    readStringFrom s ('\\' :: 'u' :: a :: b :: c :: d :: t) = readStringFrom (s.pushUnit n) t := by
  rw [readStringFrom, h]

theorem readStringFrom_quote : readStringFrom s ('"' :: t) = (s.close, some t) := by
  rw [readStringFrom]

/-- The characters read so far, all of them with a meaning. -/
def OpenString.ofText (done : Text) : OpenString := ⟨done.reverse, none, true⟩

theorem OpenString.push_ofText (done : Text) (c : Char) : (ofText done).push c = ofText (done ++ [c]) := by
  simp [OpenString.push, ofText]

theorem OpenString.close_ofText (done : Text) : (ofText done).close = .string done := by
  simp [OpenString.close, ofText]

theorem OpenString.pushUnit_ofText (done : Text) (h : n < 0xD800 ∨ 0xE000 ≤ n) :
    (ofText done).pushUnit n = ofText (done ++ [Char.ofNat n]) := by
  have hhigh : ¬(0xD800 ≤ n ∧ n < 0xDC00) := by omega
  have hlow : ¬(0xDC00 ≤ n ∧ n < 0xE000) := by omega
  have hunit : (ofText done).pushUnit n = (ofText done).push (Char.ofNat n) := by
    simp only [OpenString.pushUnit, ofText, if_neg hhigh, if_neg hlow]
  rw [hunit, push_ofText]

/-- Two halves of a pair make one character. -/
theorem OpenString.pushUnit_pushUnit_ofText (done : Text) {high low : Nat} (hhigh : 0xD800 ≤ high ∧ high < 0xDC00)
    (hlow : 0xDC00 ≤ low ∧ low < 0xE000) :
    ((ofText done).pushUnit high).pushUnit low =
      ofText (done ++ [Char.ofNat (0x10000 + (high - 0xD800) * 0x400 + (low - 0xDC00))]) := by
  simp only [OpenString.pushUnit, ofText, if_pos hhigh, if_pos hlow]
  simp

theorem readStringFrom_of_writesString {meaning : Text} (h : WritesString meaning w) (done rest : Text) :
    readStringFrom (.ofText done) (w ++ '"' :: rest) = (.string (done ++ meaning), some rest) := by
  induction h generalizing done with
  | nil => rw [List.nil_append, readStringFrom_quote, OpenString.close_ofText, List.append_nil]
  | plain hc _ ih => rw [List.cons_append, readStringFrom_plain hc, OpenString.push_ofText, ih, List.append_assoc]; rfl
  | escape he _ ih =>
    simp only [List.cons_append]
    rw [readStringFrom_escape he, OpenString.push_ofText, ih, List.append_assoc]
    rfl
  | unit hn hsingle _ ih =>
    simp only [List.cons_append]
    rw [readStringFrom_unit hn, OpenString.pushUnit_ofText _ hsingle, ih, List.append_assoc]
    rfl
  | pair hhigh hhigh₁ hhigh₂ hlow hlow₁ hlow₂ _ ih =>
    simp only [List.cons_append]
    rw [readStringFrom_unit hhigh, readStringFrom_unit hlow,
      OpenString.pushUnit_pushUnit_ofText _ ⟨hhigh₁, hhigh₂⟩ ⟨hlow₁, hlow₂⟩, ih, List.append_assoc]
    rfl

/-- A string is read as the text that it means. -/
theorem readString_of_writesString {meaning : Text} (h : WritesString meaning w) (rest : Text) :
    readString (w ++ '"' :: rest) = (.string meaning, some rest) :=
  readStringFrom_of_writesString h [] rest

/-- A string is read as a value that may be skipped, whether it has a meaning or not. -/
theorem readString_of_isString (h : IsString w) :
    ∃ json : Json, json.skipFault? = none ∧ ∀ rest, readString (w ++ '"' :: rest) = (json, some rest) := by
  have hsome : ∀ s : OpenString, ∃ s' : OpenString,
      ∀ rest, readStringFrom s (w ++ '"' :: rest) = (s'.close, some rest) := by
    induction h with
    | nil => exact fun s => ⟨s, fun _ => readStringFrom_quote⟩
    | plain hc _ ih =>
      intro s
      obtain ⟨s', hs⟩ := ih (s.push _)
      exact ⟨s', fun rest => (readStringFrom_plain hc).trans (hs rest)⟩
    | escape he _ ih =>
      intro s
      obtain ⟨s', hs⟩ := ih (s.push _)
      exact ⟨s', fun rest => (readStringFrom_escape he).trans (hs rest)⟩
    | unit hn _ ih =>
      intro s
      obtain ⟨s', hs⟩ := ih (s.pushUnit _)
      exact ⟨s', fun rest => (readStringFrom_unit hn).trans (hs rest)⟩
  obtain ⟨s', hs⟩ := hsome .empty
  refine ⟨s'.close, ?_, hs⟩
  rw [OpenString.close]
  split <;> rfl

theorem readValue_quote (fuel : Nat) (t : Text) : readValue (fuel + 1) ('"' :: t) = readString t := by
  rw [readValue, skipSpacing_cons (by decide)]
  rfl

theorem reads_quote {json : Json} (h : ∀ rest, readString (w ++ '"' :: rest) = (json, some rest)) :
    Reads (quote w) json := by
  refine reads_cons (by decide) (by decide) fun fuel rest _ _ => ?_
  rw [readValue_quote, List.append_assoc]
  exact h rest

/-! ## Words and numbers -/

theorem readWord_append (value : Json) (word rest : Text) :
    readWord value word (word ++ rest) = (value, some rest) := by
  induction word with
  | nil => rfl
  | cons c word ih => rw [List.cons_append, readWord, if_pos rfl, ih]

theorem reads_null : Reads "null".toList .null := by
  refine reads_cons (by decide) (by decide) fun fuel rest _ _ => ?_
  rw [readValue, skipSpacing_cons (by decide)]
  exact readWord_append .null ['u', 'l', 'l'] rest

theorem reads_boolean (value : Bool) : Reads (if value then "true".toList else "false".toList) (.boolean value) := by
  cases value with
  | true =>
    refine reads_cons (by decide) (by decide) fun fuel rest _ _ => ?_
    rw [readValue, skipSpacing_cons (by decide)]
    exact readWord_append (.boolean true) ['r', 'u', 'e'] rest
  | false =>
    refine reads_cons (by decide) (by decide) fun fuel rest _ _ => ?_
    rw [readValue, skipSpacing_cons (by decide)]
    exact readWord_append (.boolean false) ['a', 'l', 's', 'e'] rest

/-- The digits in front of a text that starts with none. -/
theorem digits_append {ds : Text} (hds : ∀ c ∈ ds, c.isDigit = true) (hrest : ∀ c ∈ rest.head?, c.isDigit = false) :
    digits (ds ++ rest) = (ds, rest) := by
  have hstop : rest.takeWhile Char.isDigit = [] ∧ rest.dropWhile Char.isDigit = rest := by
    cases rest with
    | nil => exact ⟨rfl, rfl⟩
    | cons c rest =>
      have hc : c.isDigit = false := hrest c rfl
      simp [hc]
  rw [digits, List.span_eq_takeWhile_dropWhile, List.takeWhile_append_of_pos hds, List.dropWhile_append_of_pos hds,
    hstop.1, hstop.2, List.append_nil]

/-- A number is read from some point on as a value that does not depend on what follows. -/
def ReadsNumber (reading : Text → Reading) (t : Text) : Prop :=
  ∃ parts : NumberParts, ∀ rest, Ends rest → reading (t ++ rest) = (parts.value, some rest)

theorem readsNumber_exponent (parts : NumberParts) {sign ds : Text} (hsign : sign ∈ [[], ['+'], ['-']])
    (hds : IsDigits ds) : ReadsNumber (readExponent parts) (sign ++ ds) := by
  obtain ⟨hne, hdigits⟩ := hds
  have hsplit : ∀ rest, Ends rest → digits (ds ++ rest) = (ds, rest) := fun rest hrest =>
    digits_append hdigits fun c hc => (hrest c hc).1
  obtain ⟨c, ds, rfl⟩ := List.exists_cons_of_ne_nil hne
  have hc : c.isDigit = true := hdigits c List.mem_cons_self
  let n : Int := (c :: ds).foldl (fun n d => n * 10 + (d.toNat - '0'.toNat)) 0
  simp only [List.mem_cons, List.not_mem_nil, or_false] at hsign
  rcases hsign with rfl | rfl | rfl
  · have hplus : c ≠ '+' := by rintro rfl; simp at hc
    have hminus : c ≠ '-' := by rintro rfl; simp at hc
    refine ⟨{ parts with exponent := some n }, fun rest hrest => ?_⟩
    rw [List.nil_append, readExponent]
    · simp only [hsplit rest hrest]
      rfl
    · intro rest' heq
      exact hplus (List.cons.inj heq).1
    · intro rest' heq
      exact hminus (List.cons.inj heq).1
  · refine ⟨{ parts with exponent := some n }, fun rest hrest => ?_⟩
    have hrestSplit := hsplit rest hrest
    simp only [readExponent, List.cons_append, List.nil_append] at hrestSplit ⊢
    simp only [hrestSplit]
    rfl
  · refine ⟨{ parts with exponent := some (-n) }, fun rest hrest => ?_⟩
    have hrestSplit := hsplit rest hrest
    simp only [readExponent, List.cons_append, List.nil_append] at hrestSplit ⊢
    simp only [hrestSplit]
    rfl

theorem readsNumber_scale (parts : NumberParts) {scale : Text} (h : IsScale scale) :
    ReadsNumber (readScale parts) scale := by
  rcases h with rfl | ⟨mark, hmark, sign, hsign, ds, hds, rfl⟩
  · refine ⟨parts, fun rest hrest => ?_⟩
    rw [List.nil_append, readScale]
    · rintro rest' rfl
      exact (hrest 'e' rfl).2.2.1 rfl
    · rintro rest' rfl
      exact (hrest 'E' rfl).2.2.2 rfl
  · obtain ⟨parts', hread⟩ := readsNumber_exponent parts hsign hds
    refine ⟨parts', fun rest hrest => ?_⟩
    simp only [List.mem_cons, List.not_mem_nil, or_false] at hmark
    rcases hmark with rfl | rfl
    · rw [List.cons_append, readScale]
      exact hread rest hrest
    · rw [List.cons_append, readScale]
      exact hread rest hrest

/-- A power of ten starts with no digit and no point. -/
theorem head_of_isScale {scale : Text} (h : IsScale scale) (hrest : Ends rest) :
    ∀ c ∈ (scale ++ rest).head?, c.isDigit = false ∧ c ≠ '.' := by
  intro c hc
  rcases h with rfl | ⟨mark, hmark, sign, -, ds, -, rfl⟩
  · exact ⟨(hrest c hc).1, (hrest c hc).2.1⟩
  · obtain rfl : mark = c := by simpa using hc
    simp only [List.mem_cons, List.not_mem_nil, or_false] at hmark
    rcases hmark with rfl | rfl <;> decide

theorem readsNumber_fraction (parts : NumberParts) {fraction scale : Text} (hfraction : IsFraction fraction)
    (hscale : IsScale scale) : ReadsNumber (readFraction parts) (fraction ++ scale) := by
  rcases hfraction with rfl | ⟨ds, ⟨hne, hdigits⟩, rfl⟩
  · obtain ⟨parts', hread⟩ := readsNumber_scale parts hscale
    refine ⟨parts', fun rest hrest => ?_⟩
    rw [List.nil_append, readFraction]
    · exact hread rest hrest
    · intro rest' heq
      exact (head_of_isScale hscale hrest '.' (by rw [heq]; rfl)).2 rfl
  · obtain ⟨parts', hread⟩ := readsNumber_scale { parts with fraction := some ds } hscale
    refine ⟨parts', fun rest hrest => ?_⟩
    have hsplit : digits (ds ++ (scale ++ rest)) = (ds, scale ++ rest) :=
      digits_append hdigits fun c hc => (head_of_isScale hscale hrest c hc).1
    obtain ⟨c, ds, rfl⟩ := List.exists_cons_of_ne_nil hne
    rw [List.append_assoc, List.cons_append, readFraction]
    simp only [hsplit]
    exact hread rest hrest

/-- What follows the digits in front of a point starts with no digit. -/
theorem head_of_isFraction {fraction scale : Text} (hfraction : IsFraction fraction) (hscale : IsScale scale)
    (hrest : Ends rest) : ∀ c ∈ (fraction ++ (scale ++ rest)).head?, c.isDigit = false := by
  intro c hc
  rcases hfraction with rfl | ⟨ds, -, rfl⟩
  · exact (head_of_isScale hscale hrest c hc).1
  · obtain rfl : '.' = c := by simpa using hc
    decide

theorem readsNumber_of_parts (negative : Bool) {whole fraction scale : Text} (hwhole : IsDigits whole)
    (hzero : whole.head? = some '0' → whole = ['0']) (hfraction : IsFraction fraction) (hscale : IsScale scale) :
    ReadsNumber (readNumber negative) (whole ++ (fraction ++ scale)) := by
  obtain ⟨hne, hdigits⟩ := hwhole
  obtain ⟨parts, hread⟩ := readsNumber_fraction ⟨negative, whole, none, none⟩ hfraction hscale
  refine ⟨parts, fun rest hrest => ?_⟩
  have hsplit : digits (whole ++ (fraction ++ scale) ++ rest) = (whole, fraction ++ scale ++ rest) := by
    rw [List.append_assoc, List.append_assoc]
    exact digits_append hdigits (head_of_isFraction hfraction hscale hrest)
  rw [readNumber, hsplit]
  split
  · next heq => exact absurd (Prod.mk.inj heq).1 hne
  · next heq => exact absurd (Prod.mk.inj heq).1 hne
  · next heq =>
    -- a zero with another digit behind it
    have hcons := (Prod.mk.inj heq).1
    have hsingle := hzero (by rw [hcons]; rfl)
    rw [hcons] at hsingle
    simp at hsingle
  · next heq =>
    obtain ⟨rfl, rfl⟩ := Prod.mk.inj heq
    exact hread rest hrest

theorem skipFault?_value (parts : NumberParts) : parts.value.skipFault? = none := by
  rw [NumberParts.value]
  simp only
  split
  · rfl
  · split <;> rfl

theorem readValue_minus (fuel : Nat) (t : Text) : readValue (fuel + 1) ('-' :: t) = readNumber true t := by
  rw [readValue, skipSpacing_cons (by decide)]
  rfl

theorem isSpacing_of_isDigit (h : c.isDigit = true) : isSpacing c = false := by
  cases hs : isSpacing c with
  | false => rfl
  | true =>
    simp only [isSpacing, Bool.or_eq_true, decide_eq_true_eq] at hs
    rcases hs with ((rfl | rfl) | rfl) | rfl <;> simp at h

theorem readValue_digit (h : c.isDigit = true) (fuel : Nat) (t : Text) :
    readValue (fuel + 1) (c :: t) = readNumber false (c :: t) := by
  rw [readValue, skipSpacing_cons (isSpacing_of_isDigit h)]
  -- a digit is none of the other characters that a value may start with
  split
  · next heq => cases heq
  case h_9 => next heq =>
    obtain ⟨rfl, rfl⟩ := List.cons.inj heq
    rw [if_pos h]
  all_goals next heq =>
    obtain ⟨rfl, -⟩ := List.cons.inj heq
    simp at h

/-- A number is read as a value that may be skipped, whether it is in range or not. -/
theorem reads_of_isNumeral (h : IsNumeral t) : ∃ json : Json, Reads t json ∧ json.skipFault? = none := by
  obtain @⟨sign, whole, fraction, scale, hsign, hwhole, hzero, hfraction, hscale⟩ := h
  simp only [List.mem_cons, List.not_mem_nil, or_false] at hsign
  rcases hsign with rfl | rfl
  · obtain ⟨parts, hread⟩ := readsNumber_of_parts false hwhole hzero hfraction hscale
    refine ⟨parts.value, ?_, skipFault?_value parts⟩
    obtain ⟨c, ds, rfl⟩ := List.exists_cons_of_ne_nil hwhole.1
    have hc : c.isDigit = true := hwhole.2 c List.mem_cons_self
    have hne : c ≠ ']' := by
      rintro rfl
      simp at hc
    refine reads_cons (isSpacing_of_isDigit hc) hne fun fuel rest _ hrest => ?_
    rw [readValue_digit hc]
    exact hread rest hrest
  · obtain ⟨parts, hread⟩ := readsNumber_of_parts true hwhole hzero hfraction hscale
    refine ⟨parts.value, reads_cons (by decide) (by decide) fun fuel rest _ hrest => ?_, skipFault?_value parts⟩
    rw [readValue_minus]
    exact hread rest hrest

/-! ## Lists -/

section Lists

variable {items : List Text} {values : List Json}

/-- What the reader of a list does behind an item; `done` holds the items up to it, last one first. -/
def afterItem (fuel : Nat) (done : List Json) (t : Text) : Reading :=
  match skipSpacing t with
  | [] => (array done.reverse (some .unfinished), none)
  | ']' :: rest => (array done.reverse none, some rest)
  | ',' :: rest => readItems fuel done rest
  | _ => (array done.reverse (some .malformed), none)

theorem afterItem_append (h : IsSpace ws) (fuel : Nat) (done : List Json) (t : Text) :
    afterItem fuel done (ws ++ t) = afterItem fuel done t := by
  rw [afterItem, afterItem, skipSpacing_append h]

theorem afterItem_comma (fuel : Nat) (done : List Json) (t : Text) :
    afterItem fuel done (',' :: t) = readItems fuel done t := by
  rw [afterItem, skipSpacing_cons (by decide)]
  rfl

theorem afterItem_closing (fuel : Nat) (done : List Json) (t : Text) :
    afterItem fuel done (']' :: t) = (array done.reverse none, some t) := by
  rw [afterItem, skipSpacing_cons (by decide)]
  rfl

/-- An item is read, and then what follows it. -/
theorem readItems_item {before item : Text} {value : Json} (hbefore : IsSpace before) (hitem : Reads item value)
    (hrest : Ends rest) (hfuel : item.length ≤ fuel) (done : List Json) :
    readItems (fuel + 1) done (before ++ (item ++ rest)) = afterItem fuel (value :: done) rest := by
  have hread : readValue fuel (before ++ (item ++ rest)) = (value, some rest) := by
    rw [readValue_append hbefore]
    exact hitem.read fuel rest hfuel hrest
  rw [readItems, hread]
  rfl

/-- Items with commas between them are read one by one, and then what follows the last one. -/
theorem readItems_listed (h : Listed items t) (hvalues : List.Forall₂ Reads items values) {k : Nat}
    (hfuel : t.length + 1 + k ≤ fuel) (done : List Json) (hrest : Ends rest) :
    ∃ fuel', k ≤ fuel' ∧ readItems fuel done (t ++ rest) = afterItem fuel' (values.reverse ++ done) rest := by
  induction h generalizing values done fuel with
  | @one before item after hbefore hafter =>
    obtain ⟨value, _, hitem, hnil, rfl⟩ := List.forall₂_cons_left_iff.1 hvalues
    obtain rfl := List.forall₂_nil_left_iff.1 hnil
    obtain ⟨fuel, rfl⟩ : ∃ k, fuel = k + 1 := ⟨fuel - 1, by omega⟩
    simp only [List.length_append] at hfuel
    refine ⟨fuel, by omega, ?_⟩
    rw [List.append_assoc, List.append_assoc, readItems_item hbefore hitem (ends_append hafter hrest) (by omega),
      afterItem_append hafter, List.reverse_singleton, List.singleton_append]
  | @cons before item after t items hbefore hafter _ ih =>
    obtain ⟨value, values, hitem, hitems, rfl⟩ := List.forall₂_cons_left_iff.1 hvalues
    obtain ⟨fuel, rfl⟩ : ∃ k, fuel = k + 1 := ⟨fuel - 1, by omega⟩
    simp only [List.length_append, List.length_cons] at hfuel
    have hlarge : t.length + 1 + k ≤ fuel := by omega
    obtain ⟨fuel', hk, hread⟩ := ih hitems hlarge (value :: done)
    refine ⟨fuel', hk, ?_⟩
    have htext : before ++ (item ++ (after ++ ',' :: t)) ++ rest =
        before ++ (item ++ (after ++ ',' :: (t ++ rest))) := by simp
    have hends : Ends (after ++ ',' :: (t ++ rest)) := ends_append hafter (ends_cons (by decide))
    rw [htext, readItems_item hbefore hitem hends (by omega), afterItem_append hafter, afterItem_comma, hread,
      List.reverse_cons, List.append_assoc, List.singleton_append]

/-- What a reader finds behind the opening bracket is how the first of several items starts. -/
theorem skipSpacing_of_listed {P : Char → Prop} (h : Listed items t)
    (hitems : ∀ item ∈ items, ∃ c u, item = c :: u ∧ isSpacing c = false ∧ P c) (rest : Text) :
    ∃ c u, skipSpacing (t ++ rest) = c :: u ∧ P c := by
  have hfirst : ∀ {before item u : Text}, IsSpace before → (∃ c v, item = c :: v ∧ isSpacing c = false ∧ P c) →
      ∃ c v, skipSpacing (before ++ (item ++ u)) = c :: v ∧ P c := by
    rintro before _ u hbefore ⟨c, v, rfl, hspace, hc⟩
    rw [skipSpacing_append hbefore, List.cons_append, skipSpacing_cons hspace]
    exact ⟨c, _, rfl, hc⟩
  cases h with
  | one hbefore hafter =>
    rw [List.append_assoc, List.append_assoc]
    exact hfirst hbefore (hitems _ List.mem_cons_self)
  | cons hbefore hafter _ =>
    rw [List.append_assoc, List.append_assoc]
    exact hfirst hbefore (hitems _ List.mem_cons_self)

/-- Behind a bracket that is not closed at once the items are read. -/
theorem readValue_bracket {v : Text} (hskip : skipSpacing t = c :: v) (hne : c ≠ ']') (fuel : Nat) :
    readValue (fuel + 1) ('[' :: t) = readItems fuel [] t := by
  rw [readValue, skipSpacing_cons (by decide)]
  simp only [hskip]
  split
  · next heq => cases heq
  · next heq => exact absurd (List.cons.inj heq).1 hne
  · rw [← hskip, readItems_skipSpacing]

/-- The items behind a bracket are read, and then what follows the last one. -/
theorem readValue_listed (h : Listed items t) (hvalues : List.Forall₂ Reads items values) {k : Nat}
    (hfuel : t.length + 1 + k ≤ fuel) (hrest : Ends rest) :
    ∃ fuel', k ≤ fuel' ∧ readValue (fuel + 1) ('[' :: (t ++ rest)) = afterItem fuel' values.reverse rest := by
  obtain ⟨fuel', hk, hread⟩ := readItems_listed h hvalues hfuel [] hrest
  obtain ⟨c, v, hskip, hne⟩ := skipSpacing_of_listed h
    (forall_mem_of_forall₂_left hvalues fun _ _ hreads => hreads.starts) rest
  exact ⟨fuel', hk, by rw [readValue_bracket hskip hne, hread, List.append_nil]⟩

/-- A list is read item by item. -/
theorem reads_array (h : Enclosed '[' ']' items t) (hvalues : List.Forall₂ Reads items values) :
    Reads t (.array values none) := by
  cases h with
  | @none between hbetween =>
    obtain rfl := List.forall₂_nil_left_iff.1 hvalues
    refine reads_cons (by decide) (by decide) fun fuel rest _ _ => ?_
    rw [readValue, skipSpacing_cons (by decide), List.append_assoc]
    simp only [skipSpacing_append hbetween, List.singleton_append, skipSpacing_cons (by decide : isSpacing ']' = false)]
  | @some items t hlisted =>
    refine reads_cons (by decide) (by decide) fun fuel rest hfuel _ => ?_
    have hlength : t.length + 1 ≤ fuel := by simpa using hfuel
    have hends : Ends (']' :: rest) := ends_cons (by decide)
    obtain ⟨_, -, hread⟩ := readValue_listed hlisted hvalues (k := 0) hlength hends
    rw [List.append_assoc, List.singleton_append, hread, afterItem_closing, List.reverse_reverse]

end Lists

/-! ## Objects -/

section Objects

variable {m : Member} {members : List Member} {entry : Json × Json} {entries : List (Json × Json)}

/-- The key and the value of a member are read. -/
structure ReadsMember (m : Member) (entry : Json × Json) : Prop where
  key : ∀ rest, readString (m.key ++ '"' :: rest) = (entry.1, some rest)
  value : Reads m.value entry.2

/-- What the reader of an object does behind a member; `done` holds the members up to it, last one first. -/
def afterMember (fuel : Nat) (done : List (Json × Json)) (t : Text) : Reading :=
  match skipSpacing t with
  | [] => (object done.reverse (some .unfinished), none)
  | '\x7d' :: rest => (object done.reverse none, some rest)
  | ',' :: rest => readMembers fuel done (skipSpacing rest)
  | _ => (object done.reverse (some .malformed), none)

theorem afterMember_append (h : IsSpace ws) (fuel : Nat) (done : List (Json × Json)) (t : Text) :
    afterMember fuel done (ws ++ t) = afterMember fuel done t := by
  rw [afterMember, afterMember, skipSpacing_append h]

theorem afterMember_comma (fuel : Nat) (done : List (Json × Json)) (t : Text) :
    afterMember fuel done (',' :: t) = readMembers fuel done (skipSpacing t) := by
  rw [afterMember, skipSpacing_cons (by decide)]
  rfl

theorem afterMember_closing (fuel : Nat) (done : List (Json × Json)) (t : Text) :
    afterMember fuel done ('\x7d' :: t) = (object done.reverse none, some t) := by
  rw [afterMember, skipSpacing_cons (by decide)]
  rfl

/-- A member is read, and then what follows it. -/
theorem readMembers_member (h : ReadsMember m entry) (hrest : Ends rest) (hfuel : m.value.length ≤ fuel)
    (done : List (Json × Json)) :
    readMembers (fuel + 1) done (m.text ++ rest) = afterMember fuel (entry :: done) rest := by
  have htext : m.text ++ rest =
      '"' :: (m.key ++ '"' :: (m.beforeColon ++ ':' :: (m.afterColon ++ (m.value ++ rest)))) := by
    simp [Member.text, quote]
  rw [htext, readMembers]
  simp only [h.key, skipSpacing_append m.beforeColon_isSpace, skipSpacing_cons (by decide : isSpacing ':' = false),
    readValue_append m.afterColon_isSpace, h.value.read fuel _ hfuel hrest]
  rfl

theorem skipSpacing_member {before : Text} (hbefore : IsSpace before) (m : Member) (u : Text) :
    skipSpacing (before ++ (m.text ++ u)) = m.text ++ u := by
  have htext : m.text ++ u = '"' :: (m.key ++ '"' :: (m.beforeColon ++ ':' :: (m.afterColon ++ m.value)) ++ u) := by
    simp [Member.text, quote]
  rw [skipSpacing_append hbefore, htext, skipSpacing_cons (by decide)]

/-- Members with commas between them are read one by one, and then what follows the last one. -/
theorem readMembers_listed (h : Listed (members.map Member.text) t)
    (hentries : List.Forall₂ ReadsMember members entries) {k : Nat} (hfuel : t.length + 1 + k ≤ fuel)
    (done : List (Json × Json)) (hrest : Ends rest) :
    ∃ fuel', k ≤ fuel' ∧
      readMembers fuel done (skipSpacing (t ++ rest)) = afterMember fuel' (entries.reverse ++ done) rest := by
  induction hentries generalizing t done fuel with
  | nil => cases h
  | @cons m entry members entries hm hentries ih =>
    obtain ⟨fuel, rfl⟩ : ∃ k, fuel = k + 1 := ⟨fuel - 1, by omega⟩
    have hvalue : m.value.length ≤ m.text.length := by
      simp only [Member.text, List.length_append, List.length_cons]
      omega
    rw [List.map_cons] at h
    generalize hitems : members.map Member.text = items at h
    cases h with
    | @one before _ after hbefore hafter =>
      obtain rfl := List.map_eq_nil_iff.1 hitems
      obtain rfl := List.forall₂_nil_left_iff.1 hentries
      simp only [List.length_append] at hfuel
      refine ⟨fuel, by omega, ?_⟩
      rw [List.append_assoc, List.append_assoc, skipSpacing_member hbefore,
        readMembers_member hm (ends_append hafter hrest) (by omega), afterMember_append hafter,
        List.reverse_singleton, List.singleton_append]
    | @cons before _ after t _ hbefore hafter hlisted =>
      simp only [List.length_append, List.length_cons] at hfuel
      rw [← hitems] at hlisted
      have hlarge : t.length + 1 + k ≤ fuel := by omega
      obtain ⟨fuel', hk, hread⟩ := ih hlisted hlarge (entry :: done)
      refine ⟨fuel', hk, ?_⟩
      have htext : before ++ (m.text ++ (after ++ ',' :: t)) ++ rest =
          before ++ (m.text ++ (after ++ ',' :: (t ++ rest))) := by simp
      have hends : Ends (after ++ ',' :: (t ++ rest)) := ends_append hafter (ends_cons (by decide))
      rw [htext, skipSpacing_member hbefore, readMembers_member hm hends (by omega), afterMember_append hafter,
        afterMember_comma, hread, List.reverse_cons, List.append_assoc, List.singleton_append]

/-- Behind a brace that is not closed at once the members are read. -/
theorem readValue_brace {v : Text} (hskip : skipSpacing t = '"' :: v) (fuel : Nat) :
    readValue (fuel + 1) ('\x7b' :: t) = readMembers fuel [] (skipSpacing t) := by
  rw [readValue, skipSpacing_cons (by decide)]
  simp only [hskip]
  rfl

/-- The members behind a brace are read, and then what follows the last one. -/
theorem readValue_listed_members (h : Listed (members.map Member.text) t)
    (hentries : List.Forall₂ ReadsMember members entries) {k : Nat} (hfuel : t.length + 1 + k ≤ fuel)
    (hrest : Ends rest) :
    ∃ fuel', k ≤ fuel' ∧ readValue (fuel + 1) ('\x7b' :: (t ++ rest)) = afterMember fuel' entries.reverse rest := by
  have hquote : ∀ item ∈ members.map Member.text, ∃ c u, item = c :: u ∧ isSpacing c = false ∧ c = '"' := by
    intro item hitem
    obtain ⟨m, -, rfl⟩ := List.mem_map.1 hitem
    exact ⟨'"', _, rfl, by decide, rfl⟩
  obtain ⟨fuel', hk, hread⟩ := readMembers_listed h hentries hfuel [] hrest
  obtain ⟨_, v, hskip, rfl⟩ := skipSpacing_of_listed h hquote rest
  exact ⟨fuel', hk, by rw [readValue_brace hskip, hread, List.append_nil]⟩

/-- An object is read member by member. -/
theorem reads_object (h : Enclosed '\x7b' '\x7d' (members.map Member.text) t)
    (hentries : List.Forall₂ ReadsMember members entries) : Reads t (.object entries none) := by
  generalize hitems : members.map Member.text = items at h
  cases h with
  | @none between hbetween =>
    obtain rfl := List.map_eq_nil_iff.1 hitems
    obtain rfl := List.forall₂_nil_left_iff.1 hentries
    refine reads_cons (by decide) (by decide) fun fuel rest _ _ => ?_
    rw [readValue, skipSpacing_cons (by decide), List.append_assoc]
    simp only [skipSpacing_append hbetween, List.singleton_append,
      skipSpacing_cons (by decide : isSpacing '\x7d' = false)]
  | @some _ t hlisted =>
    rw [← hitems] at hlisted
    refine reads_cons (by decide) (by decide) fun fuel rest hfuel _ => ?_
    have hlength : t.length + 1 ≤ fuel := by simpa using hfuel
    have hends : Ends ('\x7d' :: rest) := ends_cons (by decide)
    obtain ⟨_, -, hread⟩ := readValue_listed_members hlisted hentries (k := 0) hlength hends
    rw [List.append_assoc, List.singleton_append, hread, afterMember_closing, List.reverse_reverse]

end Objects

/-! ## All values -/

theorem skipItems?_of_forall {values : List Json} (h : ∀ value ∈ values, value.skipFault? = none) :
    skipItems? values = none := by
  induction values with
  | nil => rw [skipItems?]
  | cons value values ih =>
    rw [skipItems?, h value List.mem_cons_self]
    exact ih fun v hv => h v (List.mem_cons_of_mem _ hv)

theorem skipMembers?_of_forall {entries : List (Json × Json)}
    (h : ∀ entry ∈ entries, entry.1.skipFault? = none ∧ entry.2.skipFault? = none) : skipMembers? entries = none := by
  induction entries with
  | nil => rw [skipMembers?]
  | cons entry entries ih =>
    obtain ⟨hkey, hvalue⟩ := h entry List.mem_cons_self
    rw [skipMembers?, hkey, hvalue]
    exact ih fun e he => h e (List.mem_cons_of_mem _ he)

/-- Every well-formed value is read as a value that may be skipped. -/
theorem reads_of_isValue (h : IsValue t) : ∃ json : Json, Reads t json ∧ json.skipFault? = none := by
  induction h with
  | word ht =>
    simp only [List.mem_cons, List.not_mem_nil, or_false] at ht
    rcases ht with rfl | rfl | rfl
    · exact ⟨.null, reads_null, rfl⟩
    · exact ⟨.boolean true, reads_boolean true, rfl⟩
    · exact ⟨.boolean false, reads_boolean false, rfl⟩
  | numeral ht => exact reads_of_isNumeral ht
  | string hw =>
    obtain ⟨json, hskip, hread⟩ := readString_of_isString hw
    exact ⟨json, reads_quote hread, hskip⟩
  | array henclosed _ ih =>
    obtain ⟨values, hvalues⟩ := exists_forall₂ ih
    refine ⟨.array values none, reads_array henclosed (hvalues.imp fun _ _ h => h.1), ?_⟩
    have hskip : skipItems? values = none :=
      skipItems?_of_forall (forall_mem_of_forall₂_right hvalues fun _ _ h => h.2)
    rw [Json.skipFault?, hskip]
    rfl
  | @object members t henclosed hkeys _ ih =>
    have hmember : ∀ m ∈ members, ∃ entry : Json × Json,
        ReadsMember m entry ∧ entry.1.skipFault? = none ∧ entry.2.skipFault? = none := by
      intro m hm
      obtain ⟨key, hkeySkip, hkey⟩ := readString_of_isString (hkeys m hm)
      obtain ⟨value, hvalue, hvalueSkip⟩ := ih m hm
      exact ⟨(key, value), ⟨hkey, hvalue⟩, hkeySkip, hvalueSkip⟩
    obtain ⟨entries, hentries⟩ := exists_forall₂ hmember
    refine ⟨.object entries none, reads_object henclosed (hentries.imp fun _ _ h => h.1), ?_⟩
    have hskip : skipMembers? entries = none :=
      skipMembers?_of_forall (forall_mem_of_forall₂_right hentries fun _ _ h => h.2)
    rw [Json.skipFault?, hskip]
    rfl

/-- What a decoder makes of a value is what a text with that value decodes to. -/
theorem decode_of_reads {α : Type} {decoder : Decoder α} {json : Json} {value : α} {before after : Text}
    (h : Reads t json) (hvalue : decoder json = .ok value) (hbefore : IsSpace before) (hafter : IsSpace after) :
    decode decoder (before ++ (t ++ after)) = .ok value := by
  have hlength : t.length ≤ 2 * (before ++ (t ++ after)).length + 2 := by
    simp only [List.length_append]
    omega
  have hends : Ends after := by simpa using ends_append hafter ends_nil
  have hread : read (before ++ (t ++ after)) = (json, some after) := by
    rw [read, readValue_append hbefore]
    exact h.read _ after hlength hends
  have hrest : after.all isSpacing = true := List.all_eq_true.2 hafter
  rw [decode, hread]
  simp only [hvalue, Option.getD_some, hrest, if_true]

end LogDiagram.Json
