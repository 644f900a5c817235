import LogDiagram.Text.Basic
import LogDiagram.Unicode.Newest

/-!
# Texts between quotes

`Text.quoted` writes a text so that every character of it can be seen: quotes and backslashes are marked by a backslash,
and characters without a visible form are given by number.
-/

namespace LogDiagram

/-- Letters that are not seen although they are letters: fillers of Korean syllables. -/
def invisibleLetters : Unicode.Ranges := [(0x115F, 0x1160), (0x3164, 0x3164), (0xFFA0, 0xFFA0)]

/-- A character that is seen by itself: written, and neither a filler nor joined to the one in front of it. -/
def isVisible (c : Char) : Bool :=
  c = ' ' ||
    (Unicode.Newest.written.get.contains c.toNat &&
      !Unicode.Newest.graphemeExtend.get.contains c.toNat && !invisibleLetters.contains c.toNat)

/-- A character as it stands between quotes. -/
def quotedChar (c : Char) : Text :=
  match c with
  | '\x00' => ['\\', '0']
  | '\t' => ['\\', 't']
  | '\r' => ['\\', 'r']
  | '\n' => ['\\', 'n']
  | '"' => ['\\', '"']
  | '\\' => ['\\', '\\']
  | c =>
    if isVisible c then [c]
    else '\\' :: 'u' :: '\x7b' :: (Nat.toDigits 16 c.toNat ++ ['\x7d'])

def Text.quoted (t : Text) : Text := '"' :: (t.flatMap quotedChar ++ ['"'])

end LogDiagram
