import LogDiagram.Shell.Pattern
import LogDiagram.Shell.Printing

/-!
# Replacing characters

The program that replaces, deletes or squeezes characters of its input. Its sets are lists of characters: ranges, named
classes and repetitions stand for several.

* `CharList.read` reads a set;
* `translateInput` is the program.
-/

namespace LogDiagram.Shell

inductive CharPiece where
  | char (c : Char)
  | range (first last : Char)
  | named (name : Text)
  /-- A character so many times, or as often as is needed. -/
  | repeated (c : Char) (count : Option Nat)
  deriving DecidableEq, Repr

namespace CharList

def everything : Text := (List.range 256).map Char.ofNat

def readChar : Text → Option (Char × Text)
  | [] => none
  | '\\' :: c :: rest =>
    match escape (c :: rest) with
    | ([d], after) => if c = 'e' then some ('e', rest) else some (d, after)
    | _ => some (c, rest)
  | c :: rest => some (c, rest)

/-- The pieces that a text writes; `fuel` bounds them. -/
def readFrom : (fuel : Nat) → Text → Except Text (List CharPiece)
  | 0, _ => .ok []
  | fuel + 1, t => do
    let single : Except Text (List CharPiece) :=
      match readChar t with
      | none => .ok []
      | some (c, '-' :: rest) =>
        match readChar rest with
        | some (d, rest) =>
          if c ≤ d then (readFrom fuel rest).map fun pieces => .range c d :: pieces
          else .error ("range-endpoints of ".toList ++ quoted [c, '-', d] ++
            " are in reverse collating sequence order".toList)
        | none => .ok [.char c, .char '-']
      | some (c, rest) => (readFrom fuel rest).map fun pieces => .char c :: pieces
    match t with
    | '[' :: ':' :: rest =>
      match Text.cut? [':', ']'] rest with
      | some (name, rest) => return .named name :: (← readFrom fuel rest)
      | none => single
    | '[' :: '=' :: c :: '=' :: ']' :: rest => return .char c :: (← readFrom fuel rest)
    | '[' :: rest =>
      match readChar rest with
      | some (c, '*' :: rest) =>
        match rest.span Char.isDigit with
        | (digits, ']' :: rest) =>
          let n := (numeral (if digits.head? = some '0' then 8 else 10) digits).1
          return .repeated c (if n = 0 then none else some n) :: (← readFrom fuel rest)
        | _ => single
      | _ => single
    | _ => single

def read (t : Text) : Except Text (List CharPiece) := readFrom (t.length + 1) t

/-- How many characters a piece stands for, as far as that is known. -/
def sizeOf : CharPiece → Nat
  | .char _ => 1
  | .range first last => last.toNat + 1 - first.toNat
  | .named name => (everything.filter (isInClass name)).length
  | .repeated _ count => count.getD 0

/-- The characters of pieces; a piece that is repeated as often as is needed fills them up to `size`. -/
def expand (size : Nat) (pieces : List CharPiece) : Text :=
  let known := (pieces.map sizeOf).foldl (· + ·) 0
  pieces.flatMap fun piece =>
    match piece with
    | .char c => [c]
    | .range first last => (List.range (last.toNat + 1 - first.toNat)).map fun i => Char.ofNat (first.toNat + i)
    | .named name => everything.filter (isInClass name)
    | .repeated c (some n) => List.replicate n c
    | .repeated c none => List.replicate (size - known) c

def isCase : CharPiece → Bool
  | .named name => name == "upper".toList || name == "lower".toList
  | _ => false

end CharList

/-- A text with one character in the place of several equal ones in a row. -/
def squeeze (isSqueezed : Char → Bool) (t : Text) : Text :=
  let (done, _) := t.foldl (fun (done, last) c =>
    if some c == last && isSqueezed c then (done, last) else (c :: done, some c)) (([] : Text), none)
  done.reverse

/-- Replaces, deletes or squeezes characters of the input. -/
def translateInput : Program := fun arguments session =>
  session.withArguments "tr" ⟨"cCdst", [("complement", 'c'), ("delete", 'd'), ("squeeze-repeats", 's'),
    ("truncate-set1", 't')], true⟩ 1
    (fun found session =>
      let has (letter : Char) : Bool := found.has letter
      let hint (session : Session) : Session := session.write 2 "Try 'tr --help' for more information.\n".toList
      let refuse (complaint : Text) : Session := session.complain "tr" complaint 1
      let isAlone := has 'd' && !has 's'
      let needsTwo := !has 'd' && !has 's' || (has 'd' && has 's')
      let explain (why : String) (session : Session) : Session := hint (session.write 2 (why.toList ++ ['\n']))
      match found.operands with
      | [] => hint (refuse "missing operand".toList)
      | [first] =>
        if needsTwo then
          explain (if has 'd' then "Two strings must be given when both deleting and squeezing repeats."
            else "Two strings must be given when translating.")
            (refuse ("missing operand after ".toList ++ quoted first))
        else run has session first none
      | [first, second] =>
        if isAlone then
          explain "Only one string may be given when deleting without squeezing repeats."
            (refuse ("extra operand ".toList ++ quoted second))
        else run has session first (some second)
      | _ :: _ :: extra :: _ => hint (refuse ("extra operand ".toList ++ quoted extra))) arguments
where
  /-- Does what is asked with one or two sets. -/
  run (has : Char → Bool) (session : Session) (first : Text) (second : Option Text) : Session :=
    let refuse (complaint : Text) : Session := session.complain "tr" complaint 1
    match CharList.read first, CharList.read (second.getD []) with
    | .error complaint, _ | _, .error complaint => refuse complaint
    | .ok pieces, .ok others =>
      let listed := CharList.expand 0 pieces
      let chosen := if has 'c' || has 'C' then CharList.everything.filter fun c => !listed.contains c else listed
      let target := CharList.expand chosen.length others
      let (input, session) := session.takeInput
      let input := input.toOption.getD []
      let isTranslating := second.isSome && !has 'd'
      if isTranslating && target.isEmpty && !has 't' then
        refuse "when not truncating set1, string2 must be non-empty".toList
      else if isTranslating && (others.any fun piece => match piece with
          | .named _ => !CharList.isCase piece
          | _ => false) then
        refuse "when translating, the only character classes that may appear in\nstring2 are 'upper' and 'lower'".toList
      else if isTranslating && others.any CharList.isCase && !pieces.any CharList.isCase then
        refuse "misaligned [:upper:] and/or [:lower:] construct".toList
      else
        let output :=
          if has 'd' then
            let kept := input.filter fun c => !chosen.contains c
            if has 's' then squeeze target.contains kept else kept
          else
            match second with
            | none => squeeze chosen.contains input
            | some _ =>
              let last := target.getLast?.getD ' '
              let chosen := if has 't' then chosen.take target.length else chosen
              let pairs := chosen.zipIdx.map fun (c, i) => (c, (target[i]?).getD last)
              -- Of several replacements of one character the last one counts.
              let table : Array Char := pairs.foldl (fun table (c, d) => table.setIfInBounds c.toNat d)
                CharList.everything.toArray
              let mapped := input.map fun c => (table[c.toNat]?).getD c
              if has 's' then squeeze target.contains mapped else mapped
        session.print output

end LogDiagram.Shell
