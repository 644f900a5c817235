import LogDiagram.Proofs.Bytes.Damaged
import LogDiagram.Proofs.Bytes.Offsets
import LogDiagram.Proofs.Shell.Quoting

/-!
# Command lines that are handed to the machine

The machine takes the bytes of a command line for characters. That loses nothing (`Text.ofPlain_toPlain`) and leaves quotes
where they are (`scriptLine_toPlain`), so a command line of quoted texts starts a program with exactly the bytes of these
texts (`machine_scriptLine`).
-/

namespace LogDiagram

/-! ## Plain texts -/

namespace Bytes

variable {t : Text}

theorem ofPlain_toPlain (bs : Bytes) : ofPlain (toPlain bs) = bs := by
  have hbyte (b : UInt8) : UInt8.ofNat (Char.ofNat b.toNat).toNat = b := by
    rw [toNat_ofNat (.inl (Nat.lt_trans b.toNat_lt (by decide))), UInt8.ofNat_toNat]
  simp [ofPlain, toPlain, Function.comp_def, hbyte]

theorem ofText_of_ascii (h : ∀ c ∈ t, c.toNat < 128) : ofText t = ofPlain t := by
  induction t with
  | nil => rfl
  | cons c t ih =>
    have hc : String.utf8EncodeChar c = [UInt8.ofNat c.toNat] := by
      have hle : c.toNat ≤ 0x7F := Nat.lt_succ_iff.mp (h c List.mem_cons_self)
      have hchar := utf8EncodeChar_ofNat (n := c.toNat) c.valid
      rwa [if_pos hle, Char.ofNat_toNat] at hchar
    rw [ofText_cons, hc, ih fun d hd => h d (List.mem_cons_of_mem c hd)]
    rfl

theorem toPlain_ofPlain_of_ascii (h : ∀ c ∈ t, c.toNat < 128) : toPlain (ofPlain t) = t := by
  induction t with
  | nil => rfl
  | cons c t ih =>
    have hc : (UInt8.ofNat c.toNat).toNat = c.toNat :=
      UInt8.toNat_ofNat_of_lt' (Nat.lt_trans (h c List.mem_cons_self) (by decide))
    have hrest := ih fun d hd => h d (List.mem_cons_of_mem c hd)
    rw [ofPlain, toPlain] at hrest
    rw [ofPlain, toPlain, List.map_cons, List.map_cons, hrest, hc, Char.ofNat_toNat]

end Bytes

namespace Text

/-- A plain text has one character for each byte; a text of ASCII, which is its own plain text, is no exception. -/
theorem toPlain_eq (t : Text) : t.toPlain = Bytes.toPlain (Bytes.ofText t) := by
  unfold toPlain
  split
  · rename_i h
    have hascii : ∀ c ∈ t, c.toNat < 128 := by simpa using h
    rw [Bytes.ofText_of_ascii hascii, Bytes.toPlain_ofPlain_of_ascii hascii]
  · rfl

/-- **What a text becomes for the machine stands for that text.** -/
theorem ofPlain_toPlain (t : Text) : t.toPlain.ofPlain = t := by
  rw [toPlain_eq]
  unfold ofPlain
  split
  · rename_i h
    have hascii : ∀ c ∈ Bytes.toPlain (Bytes.ofText t), c.toNat < 128 := by simpa using h
    rw [← Bytes.toTextLossy_ofText (Bytes.toPlain _), Bytes.ofText_of_ascii hascii, Bytes.ofPlain_toPlain,
      Bytes.toTextLossy_ofText]
  · rw [Bytes.ofPlain_toPlain, Bytes.toTextLossy_ofText]

theorem toPlain_append (t more : Text) : (t ++ more).toPlain = t.toPlain ++ more.toPlain := by
  rw [toPlain_eq, toPlain_eq, toPlain_eq, Bytes.ofText_append, Bytes.toPlain, List.map_append]
  rfl

theorem toPlain_cons (c : Char) (t : Text) : toPlain (c :: t) = toPlain [c] ++ t.toPlain := toPlain_append [c] t

/-- No byte of another character is taken for a quote. -/
theorem quote_not_mem_toPlain {c : Char} (hc : c ≠ '\'') : '\'' ∉ toPlain [c] := by
  intro hmem
  rw [toPlain_eq, Bytes.toPlain, List.mem_map] at hmem
  obtain ⟨b, hb, hquote⟩ := hmem
  obtain rfl : b = 39 := by
    have hnumber : (Char.ofNat b.toNat).toNat = 39 := congrArg Char.toNat hquote
    rw [Bytes.toNat_ofNat (.inl (Nat.lt_trans b.toNat_lt (by decide)))] at hnumber
    exact UInt8.toNat_inj.mp hnumber
  obtain ⟨first, rest, hbytes, -, hrest⟩ := Bytes.exists_utf8EncodeChar_eq c
  rw [Bytes.ofText, List.flatMap_singleton, hbytes] at hb
  rcases List.mem_cons.mp hb with rfl | hb
  · obtain ⟨lead, others, hread, hnext⟩ := Bytes.nextChar_utf8EncodeChar c
    rw [hbytes] at hread
    obtain ⟨rfl, rfl⟩ := List.cons.inj hread
    have hchar : some '\'' = some c := congrArg Prod.fst (hnext [])
    exact hc (Option.some.inj hchar).symm
  · exact absurd (hrest 39 hb) (by decide)

end Text

/-! ## Quotes -/

namespace Shell

theorem quotedText_toPlain (t : Text) : Text.toPlain (t.flatMap quotedChar) = t.toPlain.flatMap quotedChar := by
  induction t with
  | nil => rfl
  | cons c t ih =>
    rw [List.flatMap_cons, Text.toPlain_append, ih, Text.toPlain_cons, List.flatMap_append]
    congr 1
    by_cases hc : c = '\''
    · subst hc
      rfl
    · have hplain : ∀ d ∈ Text.toPlain [c], quotedChar d = [d] := by
        intro d hd
        rw [quotedChar, if_neg]
        rintro rfl
        exact Text.quote_not_mem_toPlain hc hd
      rw [quotedChar, if_neg hc, List.flatMap_congr hplain]
      simp

theorem scriptQuoted_toPlain (t : Text) : Text.toPlain (scriptQuoted t) = scriptQuoted t.toPlain := by
  rw [scriptQuoted_eq, scriptQuoted_eq, Text.toPlain_cons, Text.toPlain_append, quotedText_toPlain]
  rfl

theorem behindBlank_toPlain (words : List Text) :
    Text.toPlain (behindBlank words) = behindBlank (words.map Text.toPlain) := by
  induction words with
  | nil => rfl
  | cons t words ih =>
    have hcons (t : Text) (words : List Text) : behindBlank (t :: words) = ' ' :: (scriptQuoted t ++ behindBlank words) :=
      rfl
    rw [hcons, List.map_cons, hcons, Text.toPlain_cons, Text.toPlain_append, scriptQuoted_toPlain, ih]
    rfl

/-- A line of quoted texts is for the machine the line of their plain texts. -/
theorem scriptLine_toPlain (t : Text) (words : List Text) :
    Text.toPlain (scriptLine (t :: words)) = scriptLine (t.toPlain :: words.map Text.toPlain) := by
  rw [scriptLine_cons, scriptLine_cons, Text.toPlain_append, scriptQuoted_toPlain, behindBlank_toPlain]

/-! ## The machine -/

/--
**A command line of quoted texts makes the machine start the program that the first one names, with the plain texts of the
others as its arguments.** What it leaves is what that program leaves of a new shell, which then ends.
-/
theorem machine_scriptLine (bindings : List (Text × Text)) (tree : FileTree) {name : Text} {arguments : List Text}
    (hname : isBuiltinName name.toPlain = false)
    (hrefused : refusedArguments? [scriptLine (name :: arguments)] = none) :
    (machine bindings).shell (scriptLine (name :: arguments)) tree =
      .ok (runOf tree (((launchIn (runFuel - 2) ((name :: arguments).map Text.toPlain)
        (sessionIn bindings tree)).stopIfFailed.answerSignals
          ⟨Command.run (runFuel - 2), interpretFrom (runFuel - 2) true, launchIn (runFuel - 2)⟩).finish interpreter)) := by
  have hfuel : runFuel = runFuel - 2 + 2 := rfl
  have hrun : interpreter.interpret (Text.toPlain (scriptLine (name :: arguments))) (sessionIn bindings tree) =
      (launchIn (runFuel - 2) ((name :: arguments).map Text.toPlain)
        (sessionIn bindings tree)).stopIfFailed.answerSignals
          ⟨Command.run (runFuel - 2), interpretFrom (runFuel - 2) true, launchIn (runFuel - 2)⟩ := by
    show interpretFrom runFuel true _ _ = _
    rw [scriptLine_toPlain, hfuel]
    exact interpretFrom_scriptLine rfl hname rfl rfl rfl (runFuel - 2) true
  obtain ⟨body, hbody⟩ := exists_scriptLine name arguments
  show runLine bindings _ tree = _
  rw [runLine, hrefused]
  dsimp only
  rw [hrun, hbody]
  rfl

end Shell

end LogDiagram
