import LogDiagram.Proofs.Bytes.Damaged
import LogDiagram.Proofs.Text.Lines

/-!
# Lines of damaged bytes

The lines of stored bytes can be told from the bytes themselves: `Bytes.lines` splits them at line feeds. Reading the
whole and splitting the text gives the same as splitting the bytes and reading each piece on its own
(`Bytes.lines_toTextLossy`), since a line feed and a carriage return are read where these bytes stand and nowhere else,
whatever stands around them.
-/

namespace LogDiagram.Bytes

variable {bs piece before : Bytes}

/-- The byte of a line feed. -/
def lineFeed : UInt8 := 0x0A

/-- The byte of a carriage return. -/
def carriageReturn : UInt8 := 0x0D

/-- Bytes without one carriage return at their end. -/
def withoutReturn (piece : Bytes) : Bytes := if piece.getLast? = some carriageReturn then piece.dropLast else piece

/--
The pieces between line feeds. A piece that a line feed ends loses a carriage return at its end; behind the last line
feed stands a piece only if it is not empty.
-/
def lines (bs : Bytes) : List Bytes :=
  let pieces := bs.splitOn lineFeed
  pieces.dropLast.map withoutReturn ++ pieces.getLast?.toList.filter (!·.isEmpty)

/-- Each line feed ends a line, whatever stands in front of it and behind it. -/
theorem lines_append_lineFeed (before after : Bytes) :
    lines (before ++ lineFeed :: after) = (before.splitOn lineFeed).map withoutReturn ++ lines after := by
  have hne := List.splitOn_ne_nil lineFeed after
  simp only [lines]
  rw [List.splitOn_append_cons_self, List.dropLast_append_of_ne_nil hne, List.map_append, List.append_assoc,
    List.getLast?_append, List.getLast?_eq_some_getLast hne, Option.some_or]

theorem lines_of_not_mem (h : lineFeed ∉ piece) : lines piece = [piece].filter (!·.isEmpty) := by
  simp only [lines]
  rw [List.splitOn_eq_singleton h]
  rfl

/-- The bytes in front of the first line feed are the first line. -/
theorem lines_append (h : lineFeed ∉ piece) (rest : Bytes) :
    lines (piece ++ lineFeed :: rest) = withoutReturn piece :: lines rest := by
  rw [lines_append_lineFeed, List.splitOn_eq_singleton h]
  rfl

/-- A piece stands behind whole lines: nothing is in front of it, or a line feed. -/
theorem lines_append_of_isWhole (h : before = [] ∨ before.getLast? = some lineFeed) (rest : Bytes) :
    lines (before ++ rest) = lines before ++ lines rest := by
  rcases h with rfl | h
  · rfl
  · obtain ⟨front, rfl⟩ := List.getLast?_eq_some_iff.1 h
    rw [List.append_assoc, List.singleton_append, lines_append_lineFeed, lines_append_lineFeed front [],
      List.append_assoc]
    rfl

/-! ## Line ends that are read -/

theorem toTextLossy_append_lineFeed (piece rest : Bytes) :
    toTextLossy (piece ++ lineFeed :: rest) = toTextLossy piece ++ '\n' :: toTextLossy rest := by
  rw [toTextLossy_append piece (show isContinuation lineFeed = false from rfl), toTextLossy_cons]
  rfl

theorem toTextLossy_concat_carriageReturn (piece : Bytes) :
    toTextLossy (piece ++ [carriageReturn]) = toTextLossy piece ++ ['\r'] :=
  toTextLossy_append piece (show isContinuation carriageReturn = false from rfl) []

theorem not_mem_toTextLossy (h : lineFeed ∉ piece) : '\n' ∉ toTextLossy piece :=
  fun hmem => h (mem_of_mem_toTextLossy rfl hmem)

/-- A carriage return is taken off the text exactly if it is taken off the bytes. -/
theorem endedLine_toTextLossy (piece : Bytes) :
    Text.endedLine (toTextLossy piece).reverse = toTextLossy (withoutReturn piece) := by
  by_cases hreturn : piece.getLast? = some carriageReturn
  · obtain ⟨front, rfl⟩ := List.getLast?_eq_some_iff.1 hreturn
    rw [withoutReturn, if_pos hreturn, List.dropLast_concat, toTextLossy_concat_carriageReturn, List.reverse_append]
    exact List.reverse_reverse (toTextLossy front)
  · rw [withoutReturn, if_neg hreturn, Text.endedLine_reverse_eq_iff]
    exact fun hlast => hreturn (getLast?_of_getLast?_toTextLossy rfl hlast)

/-- The lines of the text are the lines of the bytes, each read on its own. -/
theorem lines_toTextLossy (bs : Bytes) : Text.lines (toTextLossy bs) = (lines bs).map toTextLossy := by
  by_cases hmem : lineFeed ∈ bs
  · obtain ⟨piece, rest, hbs, hpiece⟩ := List.eq_append_cons_of_mem hmem
    have ih := lines_toTextLossy rest
    rw [hbs, toTextLossy_append_lineFeed, Text.lines_append (not_mem_toTextLossy hpiece), endedLine_toTextLossy, ih,
      lines_append hpiece, List.map_cons]
  · rw [Text.lines_of_not_mem (not_mem_toTextLossy hmem), lines_of_not_mem hmem]
    cases bs with
    | nil => rfl
    | cons b bs =>
      show [toTextLossy (b :: bs)].filter _ = [toTextLossy (b :: bs)]
      rw [toTextLossy_cons]
      rfl
termination_by bs.length
decreasing_by rw [hbs, List.length_append, List.length_cons]; omega

end LogDiagram.Bytes
