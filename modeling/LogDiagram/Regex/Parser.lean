import LogDiagram.Regex.Parser.Brackets
import LogDiagram.Regex.Size.Expression
import LogDiagram.Unicode.Newest

/-!
# Reading regular expressions

An expression is written with characters, `.`, sets, conditions on places, groups, alternatives and repetitions. A
character without a meaning of its own stands for itself.

* `Regex.read?` reads an expression and refuses a text that is none or nests too deeply;
* `Regex.parse?` also refuses an expression that takes too much memory when it is compiled.
-/

namespace LogDiagram.Regex

namespace Parser

/-- A part of a sequence: an expression with the number of levels it nests, or a change of modes. -/
inductive Item where
  | part (regex : Regex) (depth : Nat)
  | modes
  deriving DecidableEq, Repr

namespace Item

/-- How many levels an item nests. -/
def depth : Item → Nat
  | part _ depth => depth
  | modes => 0

def regex? : Item → Option Regex
  | part regex _ => some regex
  | modes => none

/-- The levels of a list of items, which is a level of its own if it has several. -/
def depthOf (items : List Item) : Nat :=
  match items with
  | [] => 0
  | [item] => item.depth
  | items => 1 + items.foldl (fun d i => max d i.depth) 0

end Item

/-- The alternatives of a group that are read so far, last one first, and the items of the open one, last one first. -/
structure OpenGroup where
  alternatives : List Item
  items : List Item
  deriving DecidableEq, Repr

namespace OpenGroup

/-- Nothing read yet. -/
def empty : OpenGroup := ⟨[], []⟩

def push (group : OpenGroup) (item : Item) : OpenGroup := { group with items := item :: group.items }

def sequence (group : OpenGroup) : Item :=
  .part (Regex.sequence (group.items.reverse.filterMap Item.regex?)) (Item.depthOf group.items)

def alternate (group : OpenGroup) : OpenGroup := ⟨group.sequence :: group.alternatives, []⟩

def close (group : OpenGroup) : Item :=
  let alternatives := group.alternate.alternatives
  .part (Regex.choice (alternatives.reverse.filterMap Item.regex?)) (Item.depthOf alternatives)

/-- A repetition of the last item, which has to be an expression. -/
def repeat? (group : OpenGroup) (least : Nat) (most : Option Nat) (eager : Bool) : Option OpenGroup :=
  match group.items with
  | .part regex depth :: items =>
    some { group with items := .part (repetition regex least most eager) (depth + 1) :: items }
  | _ => none

end OpenGroup

def Flags.set? (flags : Flags) (letter : Char) (value : Bool) : Option Flags :=
  match letter with
  | 'i' => some { flags with anyCase := value }
  | 'm' => some { flags with multiLine := value }
  | 's' => some { flags with dotAll := value }
  | 'R' => some { flags with returns := value }
  | 'u' => some { flags with unicode := value }
  | 'x' => some { flags with extended := value }
  | 'U' => some { flags with reluctant := value }
  | _ => none

/--
The changes of modes behind a question mark, up to a colon or a closing parenthesis. Each letter comes once; those
behind a hyphen are switched off.
-/
def readFlags (flags : Flags) (seen : List Char) (afterHyphen : Bool) : Text → Option (Flags × List Char × Text)
  | [] => none
  | c :: rest =>
    if c = ':' || c = ')' then if afterHyphen then none else some (flags, seen, c :: rest)
    else if seen.contains c then none
    else if c = '-' then readFlags flags (c :: seen) true rest
    else
      match flags.set? c !(seen.contains '-') with
      | some flags => readFlags flags (c :: seen) false rest
      | none => none

def isLetter (c : Char) : Bool := Unicode.Newest.alphabetic.get.contains c.toNat

def isLetterOrNumber (c : Char) : Bool := isLetter c || Unicode.Newest.numbers.get.contains c.toNat

/-- A name for a group: a letter or low line, and then letters, numbers, low lines, dots and brackets. -/
def isGroupName : Text → Bool
  | [] => false
  | c :: rest =>
    (c = '_' || isLetter c) &&
      rest.all fun c => c = '_' || c = '.' || c = '[' || c = ']' || isLetterOrNumber c

inductive GroupStart where
  /-- Modes for the rest of the group around. -/
  | modes (flags : Flags)
  /-- A group with its own modes, whose pieces are not kept. -/
  | plain (flags : Flags)
  /-- A group whose pieces are kept, and its name. -/
  | kept (name : Option Text)
  deriving DecidableEq, Repr

def readGroupName (t : Text) : Option (GroupStart × Text) :=
  match Text.cut? ['>'] t with
  | some (name, rest) => if isGroupName name then some (.kept (some name), rest) else none
  | none => none

/-- What stands behind an opening parenthesis. Conditions on what stands ahead or behind are not known. -/
def readGroupStart (flags : Flags) (t : Text) : Option (GroupStart × Text) :=
  match flags.skip t with
  | '?' :: 'P' :: '<' :: rest => readGroupName rest
  | '?' :: '<' :: '=' :: _ => none
  | '?' :: '<' :: '!' :: _ => none
  | '?' :: '<' :: rest => readGroupName rest
  | '?' :: rest =>
    match readFlags flags [] false rest with
    | some (inner, seen, c :: rest) =>
      if c = ':' then some (.plain inner, rest)
      else if seen.isEmpty then none
      else some (.modes inner, rest)
    | _ => none
  | t => some (.kept none, t)

/-- Whether more repetitions are better: a question mark behind the repetition turns it round, and so do the modes. -/
def readPreference (flags : Flags) : Text → Bool × Text
  | '?' :: rest => (flags.reluctant, rest)
  | t => (!flags.reluctant, t)

/-- The groups whose pieces are kept: how many there are, and their names. -/
structure Kept where
  count : Nat
  names : List Text
  deriving DecidableEq, Repr

namespace Kept

def empty : Kept := ⟨0, []⟩

/-- One more group; no name may come twice. -/
def add? (kept : Kept) (name : Option Text) : Option Kept :=
  if name.any kept.names.contains then none else some ⟨kept.count + 1, name.toList ++ kept.names⟩

end Kept

/-- What was read of a group: its item, the groups up to its end and the text behind. -/
structure Reading where
  item : Item
  kept : Kept
  rest : Text
  deriving DecidableEq, Repr

def Atom.regex (flags : Flags) : Atom → Regex
  | .char c =>
    if flags.anyCase && (flags.unicode || c.toNat < 0x80) then ofSet (flags.cased (CharSet.single c)) else text [c]
  | .set s => ofSet s
  | .look l => .look l

/-- One part of a sequence: a set, an escape, a place, or a character that stands for itself. -/
def readPart (flags : Flags) : Text → Option (Item × Text)
  | [] => none
  | '[' :: rest => (readBrackets flags rest).map fun (set, rest) => (.part (ofSet set.set) set.depth, rest)
  | '\\' :: rest => (readEscape flags rest).map fun (atom, rest) => (.part (atom.regex flags) 0, rest)
  | '.' :: rest => flags.dot?.map fun s => (.part (ofSet s) 0, rest)
  | '^' :: rest => some (.part (.look flags.caret) 0, rest)
  | '$' :: rest => some (.part (.look flags.dollar) 0, rest)
  | c :: rest => some (.part (Atom.regex flags (.char c)) 0, rest)

/-- How often the item in front is repeated, and what follows. -/
def readRepetition (flags : Flags) : Text → Option ((Nat × Option Nat) × Text)
  | '?' :: rest => some ((0, some 1), rest)
  | '*' :: rest => some ((0, none), rest)
  | '+' :: rest => some ((1, none), rest)
  | '\x7b' :: rest => (readCounts flags rest).map fun (counts, rest) => (counts, flags.skip rest)
  | _ => none

def isRepetition (c : Char) : Bool := c = '?' || c = '*' || c = '+' || c = '\x7b'

/-- A group up to its closing parenthesis or the end of the text; `fuel` bounds its parts. -/
def readGroup : (fuel : Nat) → Flags → Kept → OpenGroup → Text → Option Reading
  | 0, _, _, _, _ => none
  | fuel + 1, flags, kept, group, t =>
    match flags.skip t with
    | [] => some ⟨group.close, kept, []⟩
    | ')' :: rest => some ⟨group.close, kept, ')' :: rest⟩
    | '|' :: rest => readGroup fuel flags kept group.alternate rest
    | '(' :: rest =>
      match readGroupStart flags rest with
      | none => none
      | some (.modes flags, rest) => readGroup fuel flags kept (group.push .modes) rest
      | some (.plain inner, rest) =>
        match readGroup fuel inner kept .empty rest with
        | some ⟨.part regex depth, kept, ')' :: rest⟩ =>
          readGroup fuel flags kept (group.push (.part regex (depth + 1))) rest
        | _ => none
      | some (.kept name, rest) =>
        match kept.add? name with
        | none => none
        | some inside =>
          match readGroup fuel flags inside .empty rest with
          | some ⟨.part regex depth, after, ')' :: rest⟩ =>
            readGroup fuel flags after (group.push (.part (.captured inside.count name regex) (depth + 1))) rest
          | _ => none
    | c :: rest =>
      if isRepetition c then
        match readRepetition flags (c :: rest) with
        | none => none
        | some ((least, most), rest) =>
          let (eager, rest) := readPreference flags rest
          match group.repeat? least most eager with
          | some group => readGroup fuel flags kept group rest
          | none => none
      else
        match readPart flags (c :: rest) with
        | some (item, rest) => readGroup fuel flags kept (group.push item) rest
        | none => none

/-- How many levels an expression may nest. -/
def depthLimit : Nat := 250

end Parser

/-- The expression that a text writes, whatever memory it takes. -/
def read? (t : Text) : Option Regex :=
  match Parser.readGroup (t.length + 1) .default .empty .empty t with
  | some ⟨.part regex depth, _, []⟩ => if depth ≤ Parser.depthLimit then some regex else none
  | _ => none

/-- The expression that a text writes. -/
def parse? (t : Text) : Option Regex := (read? t).filter Size.isWithinLimit

end LogDiagram.Regex
