import LogDiagram.Bytes.Utf8

/-!
# Bytes as characters

Programs that know nothing of Unicode take each byte for a character. A plain text is a text as they see it: each of its
characters stands for the byte with the same number.

* `Bytes.toPlain` and `Bytes.ofPlain` take bytes to plain texts and back;
* `Text.toPlain` and `Text.ofPlain` do so with the bytes of a text in UTF-8.
-/

namespace LogDiagram

namespace Bytes

def toPlain (content : Bytes) : Text := content.map fun b => Char.ofNat b.toNat

def ofPlain (t : Text) : Bytes := t.map fun c => UInt8.ofNat c.toNat

end Bytes

namespace Text

/-- A text as programs see it that take each byte for a character. -/
def toPlain (t : Text) : Text := if t.all fun c => c.toNat < 128 then t else Bytes.toPlain (Bytes.ofText t)

/-- The text whose bytes are the characters of a plain text; what is no text in it is marked. -/
def ofPlain (t : Text) : Text := if t.all fun c => c.toNat < 128 then t else Bytes.toTextLossy (Bytes.ofPlain t)

end Text

end LogDiagram
