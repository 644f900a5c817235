import LogDiagram.Text.Basic

/-!
# Patterns of a shell

A pattern is a text in which a star stands for any text, a question mark for any character and brackets for one of
several characters. A character that is fixed, because it was quoted, only stands for itself.

* `Glob.fits` tells whether a text fits a pattern;
* `Glob.withoutEnd` and `Glob.withoutStart` take off what fits one at the end or the start of a text.
-/

namespace LogDiagram.Shell

/-- A text that is being made into a pattern: characters, each with whether it stands only for itself. -/
abbrev Field := List (Char × Bool)

def Field.text (field : Field) : Text := field.map (·.1)

/-- Some characters inside brackets. -/
inductive GlobMember where
  | range (first last : Char)
  | named (name : Text)
  deriving DecidableEq, Repr

/-- A piece of a pattern. -/
inductive GlobItem where
  | char (c : Char)
  | anyChar
  | anyText
  | set (isNegated : Bool) (members : List GlobMember)
  deriving DecidableEq, Repr

/-- A pattern. -/
abbrev Glob := List GlobItem

/-- A character belongs to the characters with a name. -/
def isInClass (name : Text) (c : Char) : Bool :=
  let isPrinted := '!' ≤ c && c ≤ '~'
  match String.ofList name with
  | "alnum" => c.isAlphanum
  | "alpha" => c.isAlpha
  | "blank" => c == ' ' || c == '\t'
  | "cntrl" => c.toNat < 32 || c.toNat == 127
  | "digit" => c.isDigit
  | "graph" => isPrinted
  | "lower" => c.isLower
  | "print" => isPrinted || c == ' '
  | "punct" => isPrinted && !c.isAlphanum
  | "space" => c == ' ' || ('\t' ≤ c && c ≤ '\r')
  | "upper" => c.isUpper
  | "xdigit" => c.isDigit || ('a' ≤ c && c ≤ 'f') || ('A' ≤ c && c ≤ 'F')
  | _ => false

/-- The characters belong to some of the members. -/
def GlobMember.has (c : Char) : GlobMember → Bool
  | range first last => first ≤ c && c ≤ last
  | named name => isInClass name c

namespace Glob

/-- The name of characters in front of a field, behind a bracket and a colon. -/
def readClass? (field : Field) : Option (Text × Field) :=
  let (name, rest) := field.span fun c => c.1 != ':'
  match rest with
  | (':', false) :: (']', false) :: rest => some (Field.text name, rest)
  | _ => none

/-- The members of brackets up to the closing one; `fuel` bounds them. -/
def readMembers : (fuel : Nat) → (isFirst : Bool) → Field → Option (List GlobMember × Field)
  | 0, _, _ => none
  | _, _, [] => none
  | fuel + 1, isFirst, (c, isFixed) :: rest =>
    if c = ']' && !isFixed && !isFirst then some ([], rest)
    else
      let single (c : Char) (rest : Field) : Option (List GlobMember × Field) :=
        match rest with
        | ('-', false) :: (d, isFixed) :: after =>
          if d = ']' && !isFixed then
            (readMembers fuel false rest).map fun (members, rest) => (.range c c :: members, rest)
          else
            let (d, after) := match d, isFixed, after with
              | '\\', false, (d, _) :: after => (d, after)
              | d, _, after => (d, after)
            (readMembers fuel false after).map fun (members, rest) => (.range c d :: members, rest)
        | rest => (readMembers fuel false rest).map fun (members, rest) => (.range c c :: members, rest)
      match c, isFixed, rest with
      | '[', false, (':', false) :: inner =>
        match readClass? inner with
        | some (name, rest) => (readMembers fuel false rest).map fun (members, rest) => (.named name :: members, rest)
        | none => single c rest
      | '\\', false, (d, _) :: rest => single d rest
      | _, _, _ => single c rest

/-- The pattern that a field writes; `fuel` bounds its pieces. -/
def read : (fuel : Nat) → Field → Glob
  | 0, _ => []
  | _, [] => []
  | fuel + 1, (c, isFixed) :: rest =>
    if isFixed then .char c :: read fuel rest
    else
      match c, rest with
      | '*', _ => .anyText :: read fuel rest
      | '?', _ => .anyChar :: read fuel rest
      | '\\', (d, _) :: rest => .char d :: read fuel rest
      | '[', _ =>
        let (isNegated, inner) := match rest with
          | ('!', false) :: inner => (true, inner)
          | _ => (false, rest)
        match readMembers (inner.length + 1) true inner with
        | some (members, rest) => .set isNegated members :: read fuel rest
        | none => .char c :: read fuel rest
      | _, _ => .char c :: read fuel rest

def ofField (field : Field) : Glob := read (field.length + 1) field

/-- A function holds of a text or one that it ends with. -/
def anySuffix (f : Text → Bool) : Text → Bool
  | [] => f []
  | c :: rest => f (c :: rest) || anySuffix f rest

/-- A text fits a pattern. -/
def fits : Glob → Text → Bool
  | [], t => t.isEmpty
  | .anyText :: rest, t => anySuffix (fits rest) t
  | .anyChar :: rest, _ :: t => fits rest t
  | .char c :: rest, d :: t => c == d && fits rest t
  | .set isNegated members :: rest, c :: t => members.any (GlobMember.has c) != isNegated && fits rest t
  | _ :: _, [] => false

/-- The lengths of a text in the order in which they are tried. -/
def lengths (isLongest : Bool) (t : Text) : List Nat :=
  let all := List.range (t.length + 1)
  if isLongest then all.reverse else all

/-- A text without an end that fits a pattern. -/
def withoutEnd (glob : Glob) (isLongest : Bool) (t : Text) : Text :=
  match (lengths isLongest t).find? fun n => glob.fits (t.drop (t.length - n)) with
  | some n => t.take (t.length - n)
  | none => t

/-- A text without a start that fits a pattern. -/
def withoutStart (glob : Glob) (isLongest : Bool) (t : Text) : Text :=
  match (lengths isLongest t).find? fun n => glob.fits (t.take n) with
  | some n => t.drop n
  | none => t

end Glob

/-- A field may stand for the paths that fit it. -/
def Field.isPattern (field : Field) : Bool :=
  field.any fun (c, isFixed) => !isFixed && (c == '*' || c == '?' || c == '[')

end LogDiagram.Shell
