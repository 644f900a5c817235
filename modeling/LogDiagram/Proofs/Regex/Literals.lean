import LogDiagram.Proofs.Config.Defects
import LogDiagram.Proofs.Lists.InStep
import LogDiagram.Proofs.Text.Replacing

/-!
# Regular expressions that are plain texts

An entry without marks is deleted by as a text. It could as well be read as a regular expression: without marks, every
character stands for itself, wherever it stands.

* `Regex.isIn_text`: a search for a text finds it exactly where it stands;
* `Regex.read?_of_isPlain`: an entry without marks, groups and counts is read as the text that it is;
* `LineDeletion.literals_delete_like_regexes`: both ways to read such entries delete the same lines.
-/

namespace LogDiagram

namespace Regex

variable {t line : Text} {c : Char}

/-! ## Searching for a text -/

theorem contains_single (c d : Char) : (CharSet.single c).contains d.toNat = (d == c) := by
  rw [CharSet.single, Unicode.Ranges.single, Unicode.Ranges.contains, Unicode.Ranges.contains, Bool.or_false,
    Bool.eq_iff_iff]
  simp only [Bool.and_eq_true, decide_eq_true_iff, beq_iff_eq, ← Char.toNat_inj]
  omega

theorem length_places (line : Text) : (places line).length = line.length + 1 := by simp [places]

/-- Behind a place stands the character with its number. -/
theorem after_places (i : Nat) (h : i < (places t).length) : (places t)[i].after = t[i]? := by
  rw [length_places] at h
  simp only [places, List.getElem_zipWith]
  rcases Nat.lt_or_ge i t.length with hi | hi
  · rw [List.getElem_append_left (by simpa using hi), List.getElem_map, List.getElem?_eq_getElem hi]
  · obtain rfl : i = t.length := by omega
    simp

/-- The marks of the places that have a front part of the given kind before them. -/
def Marks.ofFronts (kind : Text → Bool) (line : Text) : Marks := line.inits.map kind

/-- A mark goes over a character to the front part that ends with it. -/
theorem stepOver_ofFronts (kind : Text → Bool) (c : Char) (line : Text) :
    (Marks.ofFronts kind line).stepOver (CharSet.single c) (places line) =
      Marks.ofFronts (fun front => front.getLast? == some c && kind front.dropLast) line := by
  apply List.ext_getElem
  · simp [Marks.stepOver, Marks.only, Marks.ofFronts, length_places]
  intro i _ hi
  simp only [Marks.stepOver, Marks.only, Marks.ofFronts, List.getElem_dropLast, List.getElem_map, List.getElem_inits]
  cases i with
  | zero => simp
  | succ i =>
    have hi : i < line.length := by simpa [Marks.ofFronts] using hi
    simp only [List.getElem_cons_succ, List.getElem_zipWith, after_places, List.getElem_map, List.getElem_inits]
    rw [List.getElem?_eq_getElem hi, List.take_succ_eq_append_getElem hi, List.getLast?_concat, List.dropLast_concat,
      Option.any_some, contains_single, Bool.and_comm]
    rfl

/-- A text with one more character ends a front part that ends with the character, if the text ended it before. -/
theorem concat_suffix_iff (s front : Text) (c : Char) :
    s ++ [c] <:+ front ↔ front.getLast? = some c ∧ s <:+ front.dropLast := by
  constructor
  · rintro ⟨before, rfl⟩
    rw [← List.append_assoc, List.getLast?_concat, List.dropLast_concat]
    exact ⟨rfl, List.suffix_append before s⟩
  · rintro ⟨hlast, before, hbefore⟩
    obtain ⟨front, rfl⟩ := List.getLast?_eq_some_iff.1 hlast
    rw [List.dropLast_concat] at hbefore
    exact ⟨before, by rw [← hbefore, List.append_assoc]⟩

/-- A text leads from all places to those before which it stands. -/
theorem reach_text (t line : Text) :
    (text t).reach (places line) ((places line).map fun _ => true) = Marks.ofFronts (fun front => t <:+ front) line := by
  rw [reach]
  induction t using List.reverseRecOn with
  | nil =>
    refine List.ext_getElem (by simp [Marks.ofFronts, length_places]) fun i _ _ => ?_
    simp [Marks.ofFronts]
  | append_singleton s c ih =>
    rw [List.foldl_concat, ih, stepOver_ofFronts]
    congr 1
    funext front
    rw [Bool.eq_iff_iff]
    simp [concat_suffix_iff]

/-- A text is found exactly where it stands. -/
theorem isIn_text (t line : Text) : (text t).isIn line = t.occursIn line := by
  rw [Bool.eq_iff_iff, Text.occursIn_iff_isInfix, List.infix_iff_suffix_prefix, isIn]
  simp only [reach_text, Marks.isAny, Marks.ofFronts, List.any_map, List.any_eq_true, List.mem_inits,
    Function.comp_apply, id_eq, decide_eq_true_iff]
  exact exists_congr fun front => and_comm

/-! ## Reading a text without marks -/

/-- The expression that stands for a text and nothing else. -/
def ofText : Text → Regex
  | [] => empty
  | t => text t

theorem isIn_ofText (t line : Text) : (ofText t).isIn line = t.occursIn line := by
  cases t with
  | nil => exact isIn_text [] line
  | cons c t => exact isIn_text (c :: t) line

end Regex

/-- The characters that make groups and counted repetitions. An entry is not read as an expression for them alone. -/
def LineDeletion.groupMarks : List Char := ['(', ')', '\x7b', '\x7d']

/-- An entry of characters that stand for themselves, also in a regular expression. -/
def LineDeletion.IsPlain (entry : Text) : Prop := ∀ c ∈ entry, c ∉ regexMarks ∧ c ∉ groupMarks

instance (entry : Text) : Decidable (LineDeletion.IsPlain entry) := List.decidableBAll _ entry

namespace Regex

namespace Parser

open LineDeletion (IsPlain regexMarks groupMarks)

variable {t : Text} {c : Char} {kept : Kept}

/-- The item of a character that stands for itself. -/
def charItem (c : Char) : Item := .part (text [c]) 0

/-- A character that is no mark is one more item, whatever stands around it. -/
theorem readGroup_of_plain {fuel : Nat} {group : OpenGroup} {rest : Text} (h : c ∉ regexMarks ∧ c ∉ groupMarks) :
    readGroup (fuel + 1) .default kept group (c :: rest) =
      readGroup fuel .default kept (group.push (charItem c)) rest := by
  simp only [regexMarks, groupMarks, List.mem_cons, List.not_mem_nil, or_false, not_or] at h
  obtain ⟨⟨hbracket, hbackslash, hcaret, hdollar, hdot, hbar, hquestion, hstar, hplus⟩, hopen, hclose, hbrace, -⟩ := h
  have hrepetition : isRepetition c = false := by simp [isRepetition, hquestion, hstar, hplus, hbrace]
  have hpart : readPart .default (c :: rest) = some (charItem c, rest) := by
    rw [readPart]
    · rfl
    all_goals assumption
  rw [readGroup, show Flags.default.skip (c :: rest) = c :: rest from rfl]
  simp only [hrepetition, hpart, Bool.false_eq_true, if_false]

/-- A text without marks is read to its end, character by character. -/
theorem readGroup_of_isPlain (h : IsPlain t) (items : List Item) :
    readGroup (t.length + 1) .default kept ⟨[], items⟩ t =
      some ⟨(OpenGroup.mk [] ((t.map charItem).reverse ++ items)).close, kept, []⟩ := by
  induction t generalizing items with
  | nil =>
    rw [readGroup]
    rfl
  | cons c t ih =>
    obtain ⟨hc, ht⟩ := List.forall_mem_cons.1 h
    rw [List.length_cons, readGroup_of_plain hc, OpenGroup.push, ih ht]
    simp

/-- Characters side by side are one text. -/
theorem joinTexts_chars (t : Text) : joinTexts (t.map fun c => text [c]) = if t.isEmpty then [] else [text t] := by
  induction t with
  | nil => rfl
  | cons c t ih =>
    rw [List.map_cons, joinTexts, ih]
    cases t <;> rfl

theorem sequence_chars (t : Text) : Regex.sequence (t.map fun c => text [c]) = ofText t := by
  have hparts : (t.map fun c => text [c]).flatMap parts = t.map fun c => text [c] := by
    rw [List.flatMap_map]
    exact List.map_eq_flatMap.symm
  rw [Regex.sequence, hparts, joinTexts_chars]
  cases t <;> rfl

/-- Items without levels of their own make one level at most. -/
theorem depthOf_le_one {items : List Item} (h : ∀ item ∈ items, item.depth = 0) : Item.depthOf items ≤ 1 := by
  have hfold : items.foldl (fun d item => max d item.depth) 0 = 0 := by
    induction items with
    | nil => rfl
    | cons item items ih =>
      obtain ⟨hitem, hitems⟩ := List.forall_mem_cons.1 h
      rw [List.foldl_cons, hitem, Nat.max_self, ih hitems]
  rw [Item.depthOf.eq_def]
  split
  · exact Nat.zero_le 1
  · next item => exact Nat.le_trans (Nat.le_of_eq (h item List.mem_cons_self)) (Nat.zero_le 1)
  · rw [hfold]

/-- The whole text is one sequence, and the only alternative. -/
theorem close_chars (t : Text) :
    ∃ depth ≤ 1, (OpenGroup.mk [] (t.map charItem).reverse).close = .part (ofText t) depth := by
  have hdepth : ∀ item ∈ (t.map charItem).reverse, item.depth = 0 := by simp [charItem, Item.depth]
  have hsequence : (OpenGroup.mk [] (t.map charItem).reverse).sequence =
      .part (ofText t) (Item.depthOf (t.map charItem).reverse) := by
    rw [OpenGroup.sequence, List.reverse_reverse, List.filterMap_map, ← sequence_chars]
    congr 2
    exact congrFun List.filterMap_eq_map t
  refine ⟨_, depthOf_le_one hdepth, ?_⟩
  rw [OpenGroup.close, OpenGroup.alternate, hsequence]
  cases t <;> rfl

end Parser

/-- A text without marks is read as itself. -/
theorem read?_of_isPlain {t : Text} (h : LineDeletion.IsPlain t) : read? t = some (ofText t) := by
  obtain ⟨depth, hdepth, hclose⟩ := Parser.close_chars t
  rw [read?, Parser.OpenGroup.empty, Parser.readGroup_of_isPlain h, List.append_nil, hclose]
  exact if_pos (Nat.le_trans hdepth (by decide))

end Regex

namespace LineDeletion

variable {entry : Text} {entries : List Text}

/-- An entry without marks is no regular expression. -/
theorem ofEntry_of_isPlain (h : IsPlain entry) : ofEntry entry = .ok (literal entry) := by
  have hmarks : entry.any regexMarks.contains = false := by
    simpa using fun c hc => (h c hc).1
  rw [ofEntry, hmarks]
  rfl

/-- Entries without marks are accepted, all of them as texts. -/
theorem ofEntries_of_isPlain (h : ∀ entry ∈ entries, IsPlain entry) :
    ofEntries entries = .ok (entries.map literal) := by
  have haccepted : List.Forall₂ (fun entry d => ofEntry entry = .ok d)
      ((located "delete_lines" entries).map fun entry => entry.2) (entries.map literal) := by
    rw [map_located "delete_lines" fun entry : Text => entry, List.map_id', List.forall₂_map_right_iff]
    exact List.forall₂_same.2 fun entry hentry => ofEntry_of_isPlain (h entry hentry)
  exact checkEntries_eq_ok_iff.2 (List.forall₂_map_left_iff.1 haccepted)

/-- What deletes each line alike leaves the same lines. -/
theorem deleteFrom_congr {deletions deletions' : List LineDeletion}
    (h : List.Forall₂ (fun d d' => ∀ line, d.isFor line = d'.isFor line) deletions deletions') (lines : List Text) :
    deleteFrom deletions lines = deleteFrom deletions' lines := by
  have hany : ∀ line, (deletions.any fun d => d.isFor line) = deletions'.any fun d => d.isFor line := by
    intro line
    induction h with
    | nil => rfl
    | cons hd _ ih => rw [List.any_cons, List.any_cons, hd line, ih]
  simp only [deleteFrom, hany]

/--
Entries without marks, groups and counts are taken as texts. Each of them can be read as a regular expression, too, and
this finds a match in exactly the lines in which the text stands. So a log loses the same lines, and as many of them,
in both ways. (Only the size of the expression is left aside.)
-/
theorem literals_delete_like_regexes (h : ∀ entry ∈ entries, IsPlain entry) :
    ofEntries entries = .ok (entries.map literal) ∧
      ∃ regexes : List Regex,
        List.Forall₂ (fun entry r => Regex.read? entry = some r ∧
          ∀ line, (literal entry).isFor line = (regex entry r).isFor line) entries regexes ∧
        ∀ lines, deleteFrom (entries.map literal) lines = deleteFrom (List.zipWith regex entries regexes) lines := by
  have hread : ∀ entry ∈ entries, Regex.read? entry = some (Regex.ofText entry) ∧
      ∀ line, (literal entry).isFor line = (regex entry (Regex.ofText entry)).isFor line :=
    fun entry hentry => ⟨Regex.read?_of_isPlain (h entry hentry), fun line => (Regex.isIn_ofText entry line).symm⟩
  refine ⟨ofEntries_of_isPlain h, entries.map Regex.ofText, ?_, fun lines => deleteFrom_congr ?_ lines⟩
  · exact List.forall₂_map_right_iff.2 (List.forall₂_same.2 hread)
  · rw [List.zipWith_map_right, List.zipWith_self, List.forall₂_map_left_iff, List.forall₂_map_right_iff]
    exact List.forall₂_same.2 fun entry hentry => (hread entry hentry).2

/-- Marks of sets of characters stand for themselves outside of a set: such entries delete in both ways alike. -/
theorem literals_delete_like_regexes_set_marks :
    deleteFrom [regex "&&]".toList (.text "&&]".toList), regex "#-~".toList (.text "#-~".toList)]
        ["a&&]".toList, "&&".toList, "# - ~".toList, "##-~~".toList] =
      (["&&".toList, "# - ~".toList], 2) := by
  obtain ⟨-, regexes, hregexes, hlines⟩ := literals_delete_like_regexes
    (show ∀ entry ∈ ["&&]".toList, "#-~".toList], IsPlain entry by decide)
  obtain _ | ⟨⟨hr, -⟩, _ | ⟨⟨hs, -⟩, _ | _⟩⟩ := hregexes
  obtain rfl := Option.some.inj (hr.symm.trans (show _ = some (.text "&&]".toList) by decide))
  obtain rfl := Option.some.inj (hs.symm.trans (show _ = some (.text "#-~".toList) by decide))
  exact (hlines _).symm.trans (by decide)

/-- With a group it is another matter: as a text, the parentheses have to stand in the line. -/
example : (literal "(a)".toList).isFor "a".toList = false ∧
    (Regex.read? "(a)".toList).map (fun r => r.isIn "a".toList) = some true := by decide

end LineDeletion

end LogDiagram
