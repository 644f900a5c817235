import LogDiagram.Regex.CharSet

/-!
# Regular expressions

A `Regex` says which pieces of a line it stands for. A line is only asked whether it holds such a piece, so captures and
preferences are kept for no other end than to tell expressions apart.

* `Regex` is the expression, `Look` a condition on a place between two characters;
* `Regex.leastLength?` and `Regex.mostLength?` bound the lengths of its pieces.

Expressions are put together by the functions of `LogDiagram.Regex.Build`, which keep them short.
-/

namespace LogDiagram

open Unicode (Ranges)

namespace Regex

/-- Whether letters of all scripts make words, or those of ASCII only. -/
inductive Alphabet where
  | ascii
  | unicode
  deriving DecidableEq, Repr

def Alphabet.isWord : Alphabet → Char → Bool
  | .ascii, c => CharSet.asciiWord.contains c.toNat
  | .unicode, c => Unicode.Property.word.get.contains c.toNat

/-- A condition on a place in a line. -/
inductive Look where
  /-- Start of the text. -/
  | start
  /-- End of the text. -/
  | finish
  /-- Start of a line; a carriage return may end lines, too. -/
  | lineStart (returns : Bool)
  /-- End of a line; a carriage return may end lines, too. -/
  | lineEnd (returns : Bool)
  /-- A word starts or ends here. -/
  | wordEdge (letters : Alphabet)
  /-- No word starts or ends here. -/
  | notWordEdge (letters : Alphabet)
  /-- A word starts here. -/
  | wordStart (letters : Alphabet)
  /-- A word ends here. -/
  | wordEnd (letters : Alphabet)
  /-- No character of a word stands before. -/
  | noWordBefore (letters : Alphabet)
  /-- No character of a word stands behind. -/
  | noWordAfter (letters : Alphabet)
  deriving DecidableEq, Repr

/-- A place in a line: the characters on its two sides, none at the ends of the line. -/
structure Place where
  before : Option Char
  after : Option Char
  deriving DecidableEq, Repr

/-- The condition holds at the place. -/
def Look.holds (look : Look) (place : Place) : Bool :=
  let isWord (letters : Alphabet) (c : Option Char) := c.any letters.isWord
  match look with
  | .start => place.before.isNone
  | .finish => place.after.isNone
  | .lineStart false => place.before.isNone || place.before == some '\n'
  | .lineStart true =>
    place.before.isNone || place.before == some '\n' || (place.before == some '\r' && place.after != some '\n')
  | .lineEnd false => place.after.isNone || place.after == some '\n'
  | .lineEnd true =>
    place.after.isNone || place.after == some '\r' || (place.after == some '\n' && place.before != some '\r')
  | .wordEdge letters => isWord letters place.before != isWord letters place.after
  | .notWordEdge letters => isWord letters place.before == isWord letters place.after
  | .wordStart letters => !isWord letters place.before && isWord letters place.after
  | .wordEnd letters => isWord letters place.before && !isWord letters place.after
  | .noWordBefore letters => !isWord letters place.before
  | .noWordAfter letters => !isWord letters place.after

end Regex

/-- A regular expression. -/
inductive Regex where
  /-- The empty piece. -/
  | empty
  /-- The given text. -/
  | text (t : Text)
  /-- One character of a set. -/
  | one (set : Ranges)
  /-- The empty piece at a place where a condition holds. -/
  | look (look : Regex.Look)
  /-- A piece of the first and then a piece of the second expression. -/
  | andThen (first second : Regex)
  /-- A piece of one of the two expressions. -/
  | either (first second : Regex)
  /-- At least `least` and at most `most` pieces one after the other; `eager` if more of them are better. -/
  | repeated (body : Regex) (least : Nat) (most : Option Nat) (eager : Bool)
  /-- A piece that is kept under a number and maybe a name. -/
  | captured (index : Nat) (name : Option Text) (body : Regex)
  deriving DecidableEq, Repr

namespace Regex

/-- The number of characters that each piece has at least; none if there are no pieces. -/
def leastLength? : Regex → Option Nat
  | empty | look _ => some 0
  | text t => some t.length
  | one set => if set.isEmpty then none else some 1
  | andThen r s =>
    match r.leastLength?, s.leastLength? with
    | some n, some m => some (n + m)
    | _, _ => none
  | either r s =>
    match r.leastLength?, s.leastLength? with
    | some n, some m => some (min n m)
    | _, _ => none
  | repeated body least _ _ => body.leastLength?.map fun n => n * least
  | captured _ _ body => body.leastLength?

/-- The number of characters that each piece has at most; none if that is not known. -/
def mostLength? : Regex → Option Nat
  | empty | look _ => some 0
  | text t => some t.length
  | one set => if set.isEmpty then none else some 1
  | andThen r s =>
    match r.mostLength?, s.mostLength? with
    | some n, some m => some (n + m)
    | _, _ => none
  | either r s =>
    match r.mostLength?, s.mostLength? with
    | some n, some m => some (max n m)
    | _, _ => none
  | repeated body _ most _ =>
    match most, body.mostLength? with
    | some m, some n => some (n * m)
    | _, _ => none
  | captured _ _ body => body.mostLength?

/-- Every piece is empty. -/
def isEmptyOnly (r : Regex) : Bool := r.mostLength? == some 0

/-- No piece is empty. -/
def isNeverEmpty (r : Regex) : Bool := r.leastLength?.any fun n => 0 < n

end Regex

end LogDiagram
