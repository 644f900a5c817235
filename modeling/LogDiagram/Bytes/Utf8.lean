import LogDiagram.Text.Basic

/-!
# UTF-8

Texts are stored as bytes in UTF-8. Bytes of a file need not be well formed: `Bytes.nextChar` reads one character or
finds the longest front part that could still have become one, and the two decoders differ in what they do with such a
part.

* `Bytes.ofText` writes a text;
* `Bytes.toText?` reads bytes that are well formed;
* `Bytes.toTextLossy` reads any bytes; a part that no character starts with becomes one U+FFFD.
-/

namespace LogDiagram

abbrev Bytes := List UInt8

namespace Bytes

/-- The bytes of a text in UTF-8. -/
def ofText (t : Text) : Bytes := t.flatMap String.utf8EncodeChar

/-- A byte inside a character. -/
def isContinuation (b : UInt8) : Bool := 0x80 ≤ b && b ≤ 0xBF

/-- The second bytes that may follow a first byte of a character of three bytes. -/
def isSecondOfThree (b c : UInt8) : Bool :=
  isContinuation c && (b != 0xE0 || 0xA0 ≤ c) && (b != 0xED || c ≤ 0x9F)

/-- The second bytes that may follow a first byte of a character of four bytes. -/
def isSecondOfFour (b c : UInt8) : Bool :=
  isContinuation c && (b != 0xF0 || 0x90 ≤ c) && (b != 0xF4 || c ≤ 0x8F)

/-- The character with the given leading bits and continuation bytes. -/
def charOf (lead : UInt8) (rest : List UInt8) : Char :=
  Char.ofNat (rest.foldl (fun n b => n * 64 + (b.toNat - 0x80)) lead.toNat)

/--
What the byte `b` with the bytes after it starts: a character, or nothing well formed, and how many of the bytes after
`b` belong to it.
-/
def nextChar (b : UInt8) (rest : Bytes) : Option Char × Nat :=
  if b < 0x80 then (some (Char.ofNat b.toNat), 0)
  else if 0xC2 ≤ b && b ≤ 0xDF then
    match rest with
    | c :: _ => if isContinuation c then (some (charOf (b - 0xC0) [c]), 1) else (none, 0)
    | [] => (none, 0)
  else if 0xE0 ≤ b && b ≤ 0xEF then
    match rest with
    | c :: rest =>
      if isSecondOfThree b c then
        match rest with
        | d :: _ => if isContinuation d then (some (charOf (b - 0xE0) [c, d]), 2) else (none, 1)
        | [] => (none, 1)
      else (none, 0)
    | [] => (none, 0)
  else if 0xF0 ≤ b && b ≤ 0xF4 then
    match rest with
    | c :: rest =>
      if isSecondOfFour b c then
        match rest with
        | d :: rest =>
          if isContinuation d then
            match rest with
            | e :: _ => if isContinuation e then (some (charOf (b - 0xF0) [c, d, e]), 3) else (none, 2)
            | [] => (none, 2)
          else (none, 1)
        | [] => (none, 1)
      else (none, 0)
    | [] => (none, 0)
  else (none, 0)

/-- The pass behind `toTextLossy`: `skip` bytes belong to the last character, `done` is the text so far, reversed. -/
def lossyFrom : (skip : Nat) → (done : Text) → Bytes → Text
  | _, done, [] => done.reverse
  | skip + 1, done, _ :: rest => lossyFrom skip done rest
  | 0, done, b :: rest =>
    let (c, extra) := nextChar b rest
    lossyFrom extra (c.getD '\uFFFD' :: done) rest

/-- The text of any bytes; every part that starts no character becomes one U+FFFD. -/
def toTextLossy (bs : Bytes) : Text := lossyFrom 0 [] bs

/-- The pass behind `toText?`. -/
def strictFrom : (skip : Nat) → (done : Text) → Bytes → Option Text
  | _, done, [] => some done.reverse
  | skip + 1, done, _ :: rest => strictFrom skip done rest
  | 0, done, b :: rest =>
    match nextChar b rest with
    | (some c, extra) => strictFrom extra (c :: done) rest
    | (none, _) => none

/-- The text of well-formed bytes. -/
def toText? (bs : Bytes) : Option Text := strictFrom 0 [] bs

end Bytes

end LogDiagram
