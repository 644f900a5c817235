import LogDiagram.Shell.Pattern

/-!
# Regular expressions of the utilities

Programs that search lines know two notations of regular expressions, a basic and an extended one, which differ in what
needs a backslash. Of all places where an expression fits the first one counts, and of all that start there the longest.

* `Expression.read` reads an expression;
* `Expression.find?` finds the place where it fits.
-/

namespace LogDiagram.Shell

inductive Expression where
  | empty
  | char (c : Char)
  | anyChar
  | set (isNegated : Bool) (members : List GlobMember)
  /-- The start of the text, or of a line in it. -/
  | start
  /-- The end of the text, or of a line in it. -/
  | finish
  /-- The start of the text. -/
  | textStart
  /-- The end of the text. -/
  | textEnd
  /-- A place between a character of a word and one of none; the sides say which. -/
  | edge (isWordBefore isWordAfter : Bool)
  /-- A place where words do not start or end, or one where they do. -/
  | boundary (isNegated : Bool)
  | group (number : Nat) (inner : Expression)
  /-- What a group fits. -/
  | reference (number : Nat)
  | sequence (first second : Expression)
  | either (first second : Expression)
  | repeated (inner : Expression) (least : Nat) (greatest : Option Nat)
  deriving DecidableEq, Repr

structure Notation where
  isExtended : Bool
  /-- Letters behind a backslash stand for characters that cannot be seen. -/
  hasEscapes : Bool
  deriving DecidableEq, Repr

structure MatchMode where
  ignoresCase : Bool
  /-- Lines in the text have starts and ends. -/
  hasLines : Bool
  deriving DecidableEq, Repr

namespace Expression

/-! ## Reading -/

def isWordChar (c : Char) : Bool := c.isAlphanum || c == '_'

def wordMembers : List GlobMember := [.named "alnum".toList, .range '_' '_']

/-- The member in brackets that a class or a single character in marks writes, and what follows. -/
def readMarked? (t : Text) : Option (Except Text (GlobMember × Text)) :=
  let unmatched : Except Text (GlobMember × Text) := .error "Unmatched [, [^, [:, [., or [=".toList
  match t with
  | '[' :: ':' :: rest =>
    some (match Text.cut? [':', ']'] rest with
      | some (name, rest) => .ok (.named name, rest)
      | none => unmatched)
  | '[' :: '=' :: rest =>
    some (match rest with
      | c :: '=' :: ']' :: rest => .ok (.range c c, rest)
      | _ => unmatched)
  | '[' :: '.' :: rest =>
    some (match rest with
      | c :: '.' :: ']' :: rest => .ok (.range c c, rest)
      | _ => unmatched)
  | _ => none

/-- The character that a letter behind a backslash stands for. -/
def escaped? : Char → Option Char
  | 'n' => some '\n'
  | 't' => some '\t'
  | 'f' => some '\x0c'
  | 'v' => some '\x0b'
  | 'a' => some '\x07'
  | 'r' => some '\r'
  | _ => none

/-- The members of brackets up to the closing one; `fuel` bounds them. -/
def readMembers (hasEscapes : Bool) : (fuel : Nat) → (isFirst : Bool) → Text → Except Text (List GlobMember × Text)
  | 0, _, _ | _, _, [] => .error "Unmatched [, [^, [:, [., or [=".toList
  | fuel + 1, isFirst, c :: rest => do
    if c = ']' ∧ !isFirst then return ([], rest)
    match readMarked? (c :: rest) with
    | some marked =>
      let (member, rest) ← marked
      match member, rest with
      | .range a _, '-' :: d :: after =>
        if d = ']' then
          let (members, rest) ← readMembers hasEscapes fuel false rest
          return (member :: members, rest)
        else
          let (members, rest) ← readMembers hasEscapes fuel false after
          return (.range a d :: members, rest)
      | _, _ =>
        let (members, rest) ← readMembers hasEscapes fuel false rest
        return (member :: members, rest)
    | none =>
      let (c, rest) : Char × Text := match c, rest with
        | '\\', d :: after =>
          match if hasEscapes then escaped? d else none with
          | some e => (e, after)
          | none => (c, rest)
        | _, _ => (c, rest)
      match rest with
      | '-' :: d :: after =>
        if d = ']' then
          let (members, rest) ← readMembers hasEscapes fuel false rest
          return (.range c c :: members, rest)
        else if d.toNat < c.toNat then throw "Invalid range end".toList
        else
          let (members, rest) ← readMembers hasEscapes fuel false after
          return (.range c d :: members, rest)
      | _ =>
        let (members, rest) ← readMembers hasEscapes fuel false rest
        return (.range c c :: members, rest)

/-- The bounds in front of a closing brace, and what follows. -/
def readBounds (t : Text) : Option (Nat × Option Nat × Text) :=
  let (front, rest) := t.span Char.isDigit
  let number (digits : Text) : Nat := digits.foldl (fun n c => n * 10 + (c.toNat - '0'.toNat)) 0
  match rest with
  | ',' :: after =>
    let (back, rest) := after.span Char.isDigit
    some (number front, if back.isEmpty then none else some (number back), rest)
  | rest => if front.isEmpty then none else some (number front, some (number front), rest)

/-- How often the expression in front of a text is repeated, and what follows. -/
def readRepetition? (style : Notation) (t : Text) : Option (Except Text (Nat × Option Nat × Text)) :=
  let bounded (rest : Text) (closing : Text) : Option (Except Text (Nat × Option Nat × Text)) :=
    match readBounds rest with
    | some (least, greatest, rest) =>
      match Text.afterPrefix? closing rest with
      | some rest =>
        if greatest.any fun n => n < least then some (.error "Invalid content of \\\x7b\\\x7d".toList)
        else some (.ok (least, greatest, rest))
      | none => if style.isExtended then none else some (.error "Unmatched \\\x7b".toList)
    | none => if style.isExtended then none else some (.error "Invalid content of \\\x7b\\\x7d".toList)
  match style.isExtended, t with
  | _, '*' :: rest => some (.ok (0, none, rest))
  | true, '+' :: rest | false, '\\' :: '+' :: rest => some (.ok (1, none, rest))
  | true, '?' :: rest | false, '\\' :: '?' :: rest => some (.ok (0, some 1, rest))
  | true, '\x7b' :: rest => bounded rest ['\x7d']
  | false, '\\' :: '\x7b' :: rest => bounded rest ['\\', '\x7d']
  | _, _ => none

/-- What is known while an expression is read: how it is written, and how many groups were opened. -/
structure Reader where
  style : Notation
  groups : Nat
  /-- How many groups are open. -/
  depth : Nat

abbrev Found := Except Text (Expression × Reader × Text)

/-- The alternatives end here. -/
def atBar? (style : Notation) (t : Text) : Option Text :=
  match style.isExtended, t with
  | true, '|' :: rest | false, '\\' :: '|' :: rest => some rest
  | _, _ => none

/-- A group ends here. -/
def atClosing? (style : Notation) (t : Text) : Option Text :=
  match style.isExtended, t with
  | true, ')' :: rest | false, '\\' :: ')' :: rest => some rest
  | _, _ => none

/-- A group starts here. -/
def atOpening? (style : Notation) (t : Text) : Option Text :=
  match style.isExtended, t with
  | true, '(' :: rest | false, '\\' :: '(' :: rest => some rest
  | _, _ => none

def endsSequence (reader : Reader) (t : Text) : Bool :=
  t.isEmpty || (atBar? reader.style t).isSome ||
    ((atClosing? reader.style t).isSome && (reader.depth != 0 || reader.style.isExtended))

/-- What a letter behind a backslash means, apart from groups and repetitions. -/
def readEscape (reader : Reader) (c : Char) : Except Text Expression :=
  match c with
  | 'w' => .ok (.set false wordMembers)
  | 'W' => .ok (.set true wordMembers)
  | 's' => .ok (.set false [.named "space".toList])
  | 'S' => .ok (.set true [.named "space".toList])
  | 'b' => .ok (.boundary false)
  | 'B' => .ok (.boundary true)
  | '<' => .ok (.edge false true)
  | '>' => .ok (.edge true false)
  | '\'' => .ok .textEnd
  | c =>
    if c = Char.ofNat 0x60 then .ok .textStart
    else if '1' ≤ c ∧ c ≤ '9' then
      let n := c.toNat - '0'.toNat
      if n ≤ reader.groups then .ok (.reference n) else .error "Invalid back reference".toList
    else
      match if reader.style.hasEscapes then escaped? c else none with
      | some d => .ok (.char d)
      | none => .ok (.char c)

mutual

def readEither (fuel : Nat) (reader : Reader) (t : Text) : Found :=
  match fuel with
  | 0 => .error "Regular expression too big".toList
  | fuel + 1 => do
    let (first, reader, rest) ← readSequence fuel reader true .empty t
    match atBar? reader.style rest with
    | some rest =>
      let (second, reader, rest) ← readEither fuel reader rest
      return (.either first second, reader, rest)
    | none => return (first, reader, rest)

/-- Repeated expressions in a row behind those that were read. -/
def readSequence (fuel : Nat) (reader : Reader) (isFirst : Bool) (done : Expression) (t : Text) : Found :=
  match fuel with
  | 0 => .error "Regular expression too big".toList
  | fuel + 1 =>
    if endsSequence reader t then .ok (done, reader, t)
    else do
      let (single, reader, rest) ← readSingle fuel reader isFirst t
      let isAnchor := single == .start
      let (single, rest) ← if isAnchor && !reader.style.isExtended then pure (single, rest)
        else readRepeated fuel reader.style single rest
      let next := if done = .empty then single else .sequence done single
      readSequence fuel reader (isFirst && isAnchor && !reader.style.isExtended) next rest

def readRepeated (fuel : Nat) (style : Notation) (single : Expression) (t : Text) : Except Text (Expression × Text) :=
  match fuel with
  | 0 => .error "Regular expression too big".toList
  | fuel + 1 =>
    match readRepetition? style t with
    | none => .ok (single, t)
    | some found => do
      let (least, greatest, rest) ← found
      readRepeated fuel style (.repeated single least greatest) rest

def readSingle (fuel : Nat) (reader : Reader) (isFirst : Bool) (t : Text) : Found :=
  match fuel with
  | 0 => .error "Regular expression too big".toList
  | fuel + 1 =>
    let style := reader.style
    match atOpening? style t with
    | some rest => do
      let number := reader.groups + 1
      let (inner, after, rest) ←
        readEither fuel { reader with groups := number, depth := reader.depth + 1 } rest
      match atClosing? style rest with
      | some rest => return (.group number inner, { after with depth := reader.depth }, rest)
      | none => throw "Unmatched ( or \\(".toList
    | none =>
      match atClosing? style t with
      | some _ => .error "Unmatched ) or \\)".toList
      | none =>
        match t with
        | [] => .ok (.empty, reader, [])
        | ['\\'] => .error "Trailing backslash".toList
        | '\\' :: c :: rest =>
          if !style.isExtended && c = '\x7b' then .error "Invalid preceding regular expression".toList
          else do return (← readEscape reader c, reader, rest)
        | '[' :: rest => do
          let (isNegated, rest) : Bool × Text := match rest with
            | '^' :: rest => (true, rest)
            | rest => (false, rest)
          let (members, rest) ← readMembers style.hasEscapes (rest.length + 1) true rest
          return (.set isNegated members, reader, rest)
        | '.' :: rest => .ok (.anyChar, reader, rest)
        | '^' :: rest => if style.isExtended || isFirst then .ok (.start, reader, rest) else .ok (.char '^', reader, rest)
        | '$' :: rest =>
          if style.isExtended || endsSequence reader rest then .ok (.finish, reader, rest)
          else .ok (.char '$', reader, rest)
        | c :: rest => .ok (.char c, reader, rest)

end

def read (style : Notation) (t : Text) : Except Text Expression := do
  let (expression, _, rest) ← readEither (8 * (t.length + 2)) ⟨style, 0, 0⟩ t
  match rest with
  | [] => return expression
  | _ => throw "Unmatched ) or \\)".toList

def ofText (t : Text) : Expression := t.foldl (fun done c => if done = .empty then .char c else .sequence done (.char c)) .empty

/-! ## Fitting -/

/-- How far a text was read: the character before the place, its number, what follows, and where groups fitted. -/
structure Place where
  previous : Option Char
  count : Nat
  rest : Text
  groups : List (Nat × Nat × Nat)
  deriving DecidableEq, Repr

def Place.next (place : Place) (c : Char) (rest : Text) : Place :=
  { place with previous := some c, count := place.count + 1, rest }

def sameChar (mode : MatchMode) (c d : Char) : Bool := c == d || (mode.ignoresCase && c.toLower == d.toLower)

/-- One character fits an expression for one character; none for an expression for more. -/
def single? (mode : MatchMode) : Expression → Option (Char → Bool)
  | char c => some (sameChar mode c)
  | anyChar => some fun _ => true
  | set isNegated members =>
    some fun c =>
      let has (c : Char) : Bool := members.any (GlobMember.has c)
      (has c || (mode.ignoresCase && (has c.toLower || has c.toUpper))) != isNegated
  | _ => none

/-- The places behind single characters that fit, the furthest one first. -/
def runSingle (fits : Char → Bool) : (limit : Nat) → List Place → Place → List Place
  | 0, done, place => place :: done
  | limit + 1, done, place =>
    match place.rest with
    | c :: rest => if fits c then runSingle fits limit (place :: done) (place.next c rest) else place :: done
    | [] => place :: done

/-- Places without those whose number another one in front of them has. -/
def distinct (places : List Place) : List Place :=
  (places.foldl (fun done place =>
    if done.any fun other => other.count == place.count then done else place :: done) []).reverse

def furthestFirst (places : List Place) : List Place := places.mergeSort fun a b => a.count ≥ b.count

/-- The places that steps lead to from others; `fuel` bounds the rounds, and each place is passed once. -/
def iterate (step : Place → List Place) (least : Nat) (greatest : Option Nat) :
    (fuel : Nat) → (round : Nat) → (found frontier : List Place) → List Place
  | 0, _, found, _ => found
  | fuel + 1, round, found, frontier =>
    let found := if round < least then [] else found ++ frontier
    if frontier.isEmpty || greatest.any fun n => round ≥ n then found
    else
      let next := distinct (frontier.flatMap fun place =>
        (step place).filter fun after => after.count != place.count || round < least)
      let isNew (place : Place) : Bool :=
        round < least || !found.any fun other => other.count == place.count && other.groups == place.groups
      iterate step least greatest fuel (round + 1) found (next.filter isNew)

def groupText? (subject : Text) (place : Place) (number : Nat) : Option Text :=
  (place.groups.lookup number).map fun (first, last) => (subject.drop first).take (last - first)

/-- The places behind what fits an expression, the furthest one first. -/
def ends (mode : MatchMode) (subject : Text) : Expression → Place → List Place
  | empty, place => [place]
  | char c, place =>
    match place.rest with
    | d :: rest => if sameChar mode c d then [place.next d rest] else []
    | [] => []
  | anyChar, place =>
    match place.rest with
    | d :: rest => [place.next d rest]
    | [] => []
  | set isNegated members, place =>
    match place.rest, single? mode (set isNegated members) with
    | d :: rest, some fits => if fits d then [place.next d rest] else []
    | _, _ => []
  | start, place => if place.previous.isNone || (mode.hasLines && place.previous == some '\n') then [place] else []
  | finish, place => if place.rest.isEmpty || (mode.hasLines && place.rest.head? == some '\n') then [place] else []
  | textStart, place => if place.previous.isNone then [place] else []
  | textEnd, place => if place.rest.isEmpty then [place] else []
  | edge isWordBefore isWordAfter, place =>
    if place.previous.any isWordChar == isWordBefore && place.rest.head?.any isWordChar == isWordAfter then [place]
    else []
  | boundary isNegated, place =>
    if (place.previous.any isWordChar != place.rest.head?.any isWordChar) != isNegated then [place] else []
  | group number inner, place =>
    (ends mode subject inner place).map fun after =>
      { after with groups := (number, place.count, after.count) :: after.groups.filter (·.1 != number) }
  | reference number, place =>
    match groupText? subject place number with
    | none => []
    | some t =>
      let found := place.rest.take t.length
      if found.length = t.length ∧ (t.zip found).all fun (c, d) => sameChar mode c d then
        [{ place with
          previous := if t.isEmpty then place.previous else found.getLast?
          count := place.count + t.length
          rest := place.rest.drop t.length }]
      else []
  | sequence first second, place => distinct ((ends mode subject first place).flatMap (ends mode subject second))
  | either first second, place =>
    distinct (furthestFirst (ends mode subject first place ++ ends mode subject second place))
  | repeated inner least greatest, place =>
    match single? mode inner with
    | some fits =>
      (runSingle fits (greatest.getD place.rest.length) [] place).filter fun after => after.count ≥ place.count + least
    | none =>
      distinct (furthestFirst
        (iterate (ends mode subject inner) least greatest (place.rest.length + least + 2) 0 [] [place]))

/-- Where an expression fits. -/
structure Match where
  first : Nat
  last : Nat
  groups : List (Nat × Nat × Nat)
  deriving DecidableEq, Repr

namespace Match

/-- The text that a group fitted; the whole is group zero. -/
def text (subject : Text) (found : Match) (number : Nat) : Text :=
  let cut (first last : Nat) : Text := (subject.drop first).take (last - first)
  if number = 0 then cut found.first found.last
  else
    match found.groups.lookup number with
    | some (first, last) => cut first last
    | none => []

end Match

def further (best : Option Place) (place : Place) : Option Place :=
  match best with
  | some other => if place.count > other.count then some place else some other
  | none => some place

/-- The furthest one of some places, and the first one of several. -/
def furthest? (places : List Place) : Option Place := places.foldl further none

/-- The first place from some on where an expression fits in a way that is wanted, and the longest such way. -/
def findAt? (mode : MatchMode) (subject : Text) (expression : Expression) (isWanted : Nat → Nat → Bool) :
    (previous : Option Char) → (count : Nat) → (rest : Text) → Option Match
  | previous, count, rest =>
    let fitting := (ends mode subject expression ⟨previous, count, rest, []⟩).filter fun place =>
      isWanted count place.count
    match furthest? fitting, rest with
    | some place, _ => some ⟨count, place.count, place.groups⟩
    | none, c :: rest => findAt? mode subject expression isWanted (some c) (count + 1) rest
    | none, [] => none

/-- The first place from a character on where an expression fits. -/
def findFrom? (mode : MatchMode) (expression : Expression) (subject : Text) (first : Nat) : Option Match :=
  let previous := if first = 0 then none else subject[first - 1]?
  findAt? mode subject expression (fun _ _ => true) previous first (subject.drop first)

/-- The first place where an expression fits. -/
def find? (mode : MatchMode) (expression : Expression) (subject : Text) : Option Match :=
  findFrom? mode expression subject 0

/-- All places where an expression fits in a way that is wanted, one behind the other; `fuel` bounds them. -/
def findAll (mode : MatchMode) (expression : Expression) (isWanted : Nat → Nat → Bool) (subject : Text) :
    (fuel : Nat) → (first : Nat) → List Match
  | 0, _ => []
  | fuel + 1, first =>
    let previous := if first = 0 then none else subject[first - 1]?
    match findAt? mode subject expression isWanted previous first (subject.drop first) with
    | none => []
    | some found =>
      found :: findAll mode expression isWanted subject fuel
        (if found.last = found.first then found.last + 1 else found.last)

end Expression

end LogDiagram.Shell
