import LogDiagram.Regex.Build
import LogDiagram.Text.Blank
import LogDiagram.Text.Hexadecimal

/-!
# The parts of a regular expression that are one character or one place wide

`Flags` are the modes in which a part is read. `readEscape` reads what stands behind a backslash and `readCounts` the
numbers of a repetition in braces.
-/

namespace LogDiagram.Regex.Parser

open Unicode (Ranges)

/-- The modes in which an expression is read. -/
structure Flags where
  /-- Letters stand for all their cases (`i`). -/
  anyCase : Bool
  /-- `^` and `$` stand for the ends of lines (`m`). -/
  multiLine : Bool
  /-- `.` stands for ends of lines, too (`s`). -/
  dotAll : Bool
  /-- A carriage return may end a line (`R`). -/
  returns : Bool
  /-- Sets hold characters of all of Unicode (`u`). -/
  unicode : Bool
  /-- White space and comments do not count (`x`). -/
  extended : Bool
  /-- Fewer repetitions are better (`U`). -/
  reluctant : Bool
  deriving DecidableEq, Repr

/-- The modes at the start of an expression. -/
def Flags.default : Flags := ⟨false, false, false, false, true, false, false⟩

/-- A text behind white space and comments; a comment runs from a number sign to the end of the line. -/
def skipComments : (inComment : Bool) → Text → Text
  | _, [] => []
  | true, c :: rest => skipComments (c != '\n') rest
  | false, c :: rest =>
    if c = '#' then skipComments true rest
    else if isBlank c then skipComments false rest
    else c :: rest

/-- A text behind what does not count in the given modes. -/
def Flags.skip (flags : Flags) (t : Text) : Text := if flags.extended then skipComments false t else t

/-- The set whose members may come in any case if the modes say so. -/
def Flags.cased (flags : Flags) (set : Ranges) : Ranges :=
  if !flags.anyCase then set
  else if flags.unicode then set.anyCase
  else set.anyCase.inter Ranges.ascii

/-- A set as it stands in the text; without Unicode nothing outside ASCII can be meant, so no set is complemented. -/
def Flags.signed? (flags : Flags) (negated : Bool) (set : Ranges) : Option Ranges :=
  if !negated then some set else if flags.unicode then some set.compl else none

/-- The characters that `.` stands for; without Unicode it would stand for parts of characters. -/
def Flags.dot? (flags : Flags) : Option Ranges :=
  if !flags.unicode then none
  else if flags.dotAll then some Ranges.all
  else if flags.returns then some (CharSet.listed [('\n', '\n'), ('\r', '\r')]).compl
  else some (CharSet.single '\n').compl

/-- The place that `^` stands for. -/
def Flags.caret (flags : Flags) : Look := if flags.multiLine then .lineStart flags.returns else .start

/-- The place that `$` stands for. -/
def Flags.dollar (flags : Flags) : Look := if flags.multiLine then .lineEnd flags.returns else .finish

/-- The characters that make words. -/
def Flags.letters (flags : Flags) : Alphabet := if flags.unicode then .unicode else .ascii

inductive Atom where
  | char (c : Char)
  | set (set : Ranges)
  | look (look : Look)
  deriving DecidableEq, Repr

/-! ## Numbers -/

/-- The given number of digits, between which the modes may allow white space. -/
def takeDigits (flags : Flags) : (count : Nat) → Text → Option (Text × Text)
  | 0, t => some ([], t)
  | _ + 1, [] => none
  | count + 1, c :: rest => (takeDigits flags count (flags.skip rest)).map fun (ds, rest) => (c :: ds, rest)

/-- The text up to a closing brace without what does not count, and the text behind the brace. -/
def takeBraced (extended : Bool) : (inComment : Bool) → (done : Text) → Text → Option (Text × Text)
  | _, _, [] => none
  | true, done, c :: rest => takeBraced extended (c != '\n') done rest
  | false, done, c :: rest =>
    if extended && c = '#' then takeBraced extended true done rest
    else if extended && isBlank c then takeBraced extended false done rest
    else if c = '\x7d' then some (done.reverse, rest)
    else takeBraced extended false (c :: done) rest

/-- A character by its number, behind `x`, `u` or `U`: in braces, or with a fixed number of digits. -/
def readHex (flags : Flags) (width : Nat) (t : Text) : Option (Char × Text) :=
  match flags.skip t with
  | '\x7b' :: rest =>
    match takeBraced flags.extended false [] rest with
    | some (digits, rest) =>
      if digits.isEmpty then none else ((Text.hexNumber? digits).bind Text.scalar?).map fun c => (c, rest)
    | none => none
  | t =>
    match takeDigits flags width t with
    | some (digits, rest) =>
      match (Text.hexNumber? digits).bind Text.scalar? with
      | some c =>
        -- Two digits name a byte where characters have no numbers; a byte outside ASCII is only part of a character.
        if !flags.unicode && width = 2 && 0x80 ≤ c.toNat then none else some (c, rest)
      | none => none
    | none => none

/-- A decimal number of 32 bits; white space may stand around its digits. -/
def decimal? (t : Text) : Option Nat :=
  let digits := t.trimmed
  if digits.isEmpty || !digits.all Char.isDigit then none
  else
    let n := digits.foldl (fun n c => n * 10 + (c.toNat - '0'.toNat)) 0
    if n < Nat.pow 2 32 then some n else none

/-- The least and the greatest number of repetitions, behind an opening brace. -/
def readCounts (flags : Flags) (t : Text) : Option ((Nat × Option Nat) × Text) :=
  match takeBraced flags.extended false [] t with
  | none => none
  | some (inner, rest) =>
    match Text.splitAtChar ',' inner with
    | [count] => (decimal? count).map fun n => ((n, some n), rest)
    | [least, []] => (decimal? least).map fun n => ((n, none), rest)
    | [least, most] =>
      match decimal? least, decimal? most with
      | some n, some m => if n ≤ m then some ((n, some m), rest) else none
      | _, _ => none
    | _ => none

/-! ## Escapes -/

/-- A set named by a Unicode property, behind `p` or `P`. -/
def readProperty (flags : Flags) (negated : Bool) (t : Text) : Option (Ranges × Text) :=
  if !flags.unicode then none
  else
    let finish (negated : Bool) (set : Option Ranges) (rest : Text) : Option (Ranges × Text) :=
      match set.bind fun s => flags.signed? negated (flags.cased s) with
      | some s => some (s, rest)
      | none => none
    match flags.skip t with
    | [] => none
    | '\\' :: _ => none
    | '\x7b' :: rest =>
      match takeBraced flags.extended false [] rest with
      | none => none
      | some (name, rest) =>
        match Text.cut? ['!', '='] name, Text.cut? [':'] name, Text.cut? ['='] name with
        | some (name, value), _, _ => finish (!negated) (CharSet.propertyValue? name value) rest
        | none, some (name, value), _ => finish negated (CharSet.propertyValue? name value) rest
        | none, none, some (name, value) => finish negated (CharSet.propertyValue? name value) rest
        | none, none, none => finish negated (CharSet.property? name) rest
    | c :: rest => finish negated (CharSet.property? [c]) rest

def namedEdge? (letters : Alphabet) (name : Text) : Option Look :=
  match String.ofList name with
  | "start" => some (.wordStart letters)
  | "end" => some (.wordEnd letters)
  | "start-half" => some (.noWordBefore letters)
  | "end-half" => some (.noWordAfter letters)
  | _ => none

/-- The edge of a word, behind `b`. A brace that no name follows is left to be read as a repetition. -/
def readEdge (flags : Flags) (t : Text) : Option (Look × Text) :=
  match t with
  | '\x7b' :: rest =>
    match flags.skip rest with
    | [] => none
    | c :: _ =>
      if c.isAlpha || c = '-' then
        match takeBraced flags.extended false [] rest with
        | some (name, rest) => (namedEdge? flags.letters name).map fun edge => (edge, rest)
        | none => none
      else some (.wordEdge flags.letters, t)
  | _ => some (.wordEdge flags.letters, t)

/-- Characters that stand for themselves behind a backslash: those of ASCII that are no letters, digits or angles. -/
def isEscapable (c : Char) : Bool := c.toNat < 0x80 && !c.isAlphanum && c != '<' && c != '>'

def readEscape (flags : Flags) : Text → Option (Atom × Text)
  | [] => none
  | c :: rest =>
    let set (negated : Bool) (s : Thunk Ranges) (ascii : Ranges) : Option (Atom × Text) :=
      (flags.signed? negated (if flags.unicode then s.get else ascii)).map fun s => (.set s, rest)
    match c with
    | 'x' => (readHex flags 2 rest).map fun (c, rest) => (.char c, rest)
    | 'u' => (readHex flags 4 rest).map fun (c, rest) => (.char c, rest)
    | 'U' => (readHex flags 8 rest).map fun (c, rest) => (.char c, rest)
    | 'p' => (readProperty flags false rest).map fun (s, rest) => (.set s, rest)
    | 'P' => (readProperty flags true rest).map fun (s, rest) => (.set s, rest)
    | 'd' => set false Unicode.Property.digit CharSet.asciiDigit
    | 's' => set false Unicode.Property.space CharSet.asciiSpace
    | 'w' => set false Unicode.Property.word CharSet.asciiWord
    | 'D' => set true Unicode.Property.digit CharSet.asciiDigit
    | 'S' => set true Unicode.Property.space CharSet.asciiSpace
    | 'W' => set true Unicode.Property.word CharSet.asciiWord
    | 'a' => some (.char '\x07', rest)
    | 'f' => some (.char '\x0c', rest)
    | 't' => some (.char '\t', rest)
    | 'n' => some (.char '\n', rest)
    | 'r' => some (.char '\r', rest)
    | 'v' => some (.char '\x0b', rest)
    | 'A' => some (.look .start, rest)
    | 'z' => some (.look .finish, rest)
    | 'b' => (readEdge flags rest).map fun (edge, rest) => (.look edge, rest)
    | 'B' => some (.look (.notWordEdge flags.letters), rest)
    | '<' => some (.look (.wordStart flags.letters), rest)
    | '>' => some (.look (.wordEnd flags.letters), rest)
    | c => if isEscapable c then some (.char c, rest) else none

end LogDiagram.Regex.Parser
