import LogDiagram.Number.Decimal
import LogDiagram.Shell.Arguments
import LogDiagram.Shell.Arithmetic
import LogDiagram.Text.Lines

/-!
# Programs for ordered lines

* `sortLines` prints lines in order: that of their bytes, of numbers in them, or of keys;
* `printDistinct` prints only one of several equal lines in a row;
* `compareSorted` tells which lines two ordered files have in common.
-/

namespace LogDiagram.Shell

/-! ## Comparing texts -/

/-- How two texts compare character by character. -/
def compareTexts : Text → Text → Ordering := List.compareLex (compareOn Char.toNat)

/-- A quotient with a sign, by which texts compare as numbers. -/
structure Rank where
  num : Int
  den : Nat
  deriving DecidableEq, Repr

def Rank.compare (a b : Rank) : Ordering := Ord.compare (a.num * b.den) (b.num * a.den)

/-- The number in front of a text; without one it is zero. -/
def plainRank (t : Text) : Rank × Text :=
  let t := behindBlanks t
  let (isNegative, t) := match t with
    | '-' :: rest => (true, rest)
    | _ => (false, t)
  let (whole, rest) := t.span Char.isDigit
  let (places, rest) : Text × Text := match rest with
    | '.' :: after => after.span Char.isDigit
    | _ => ([], rest)
  let n : Int := Decimal.ofDigits (whole ++ places)
  (⟨if isNegative then -n else n, Nat.pow 10 places.length⟩, rest)

def compareUnits (a b : Text) : Ordering :=
  let order (t : Text) : Int × Rank :=
    let (rank, rest) := plainRank t
    let unit : Int := match rest with
      | c :: _ => (("KMGTPEZYRQ".toList.findIdx? (· == c.toUpper)).map fun i => (i : Int) + 1).getD 0
      | [] => 0
    (if rank.num = 0 then 0 else if rank.num < 0 then -unit - 1 else unit + 1, rank)
  let (unitA, rankA) := order a
  let (unitB, rankB) := order b
  (compare unitA unitB).then (rankA.compare rankB)

/-- How two texts compare as numbers in any notation; what is no number comes first. -/
def compareGeneral (a b : Text) : Ordering :=
  let rank? (t : Text) : Option Rank :=
    (Decimal.read? (t.dropWhile isBlankChar)).map fun n => ⟨if n.isNegative then -(n.num : Int) else n.num, n.den⟩
  match rank? a, rank? b with
  | none, none => .eq
  | none, some _ => .lt
  | some _, none => .gt
  | some a, some b => a.compare b

/-- The number of the month that a text starts with, or zero. -/
def monthOf (t : Text) : Nat :=
  let name := String.ofList (((behindBlanks t).take 3).map Char.toUpper)
  ((["JAN", "FEB", "MAR", "APR", "MAY", "JUN", "JUL", "AUG", "SEP", "OCT", "NOV", "DEC"].findIdx? (· == name)).map
    (· + 1)).getD 0

def versionOrder (c : Char) : Int := if c.isAlpha then c.toNat else if c = '~' then -1 else c.toNat + 256

/-- How two texts without digits in front compare as parts of versions, and what follows the parts. -/
def compareWords : Text → Text → Ordering × Text × Text
  | c :: t, d :: other =>
    if c.isDigit && d.isDigit then (.eq, c :: t, d :: other)
    else
      let a := if c.isDigit then 0 else versionOrder c
      let b := if d.isDigit then 0 else versionOrder d
      if a = b then compareWords t other else (compare a b, [], [])
  | c :: t, [] => if c.isDigit then (.eq, c :: t, []) else (compare (versionOrder c) 0, [], [])
  | [], d :: other => if d.isDigit then (.eq, [], d :: other) else (compare 0 (versionOrder d), [], [])
  | [], [] => (.eq, [], [])

/-- How two texts compare as versions: numbers in them count as numbers. -/
def compareVersions : (fuel : Nat) → Text → Text → Ordering
  | 0, _, _ => .eq
  | fuel + 1, a, b =>
    match a, b with
    | [], [] => .eq
    | _, _ =>
      match compareWords a b with
      | (.eq, a, b) =>
        let (digitsA, restA) := a.span Char.isDigit
        let (digitsB, restB) := b.span Char.isDigit
        (compare (Decimal.ofDigits digitsA) (Decimal.ofDigits digitsB)).then (compareVersions fuel restA restB)
      | (order, _, _) => order

/-! ## Keys -/

/-- An end of a key: characters behind the start of a field. -/
structure KeyEnd where
  field : Nat
  char : Nat
  skipsBlanks : Bool
  deriving DecidableEq, Repr

/-- What lines are compared by. -/
structure SortKey where
  first : KeyEnd
  last : Option KeyEnd
  /-- The letters that say how. -/
  letters : List Char
  deriving DecidableEq, Repr

namespace SortKey

/-- The end of a key that a text writes, its letters, and what follows. -/
def readEnd? (t : Text) : Option (KeyEnd × List Char × Text) :=
  let (field, rest) := t.span Char.isDigit
  let (char, rest) : Option Nat × Text := match rest with
    | '.' :: after =>
      let (digits, after) := after.span Char.isDigit
      (digitsValue? digits, after)
    | _ => (some 0, rest)
  let (letters, rest) := rest.span Char.isAlpha
  match digitsValue? field, char with
  | some field, some char => some (⟨field, char, letters.contains 'b'⟩, letters, rest)
  | _, _ => none

def read? (t : Text) : Option SortKey := do
  let (first, letters, rest) ← readEnd? t
  let first := { first with char := if first.char = 0 then 1 else first.char }
  if first.field = 0 then none
  else
    match rest with
    | [] => return ⟨first, none, letters⟩
    | ',' :: rest =>
      let (last, more, rest) ← readEnd? rest
      if rest.isEmpty ∧ last.field ≠ 0 then return ⟨first, some last, letters ++ more⟩ else none
    | _ => none

/-- A text without so many fields in front; each has the blanks in front of it, or a separator behind it. -/
def dropFields (separator : Option Char) : (count : Nat) → Text → Text
  | 0, t => t
  | count + 1, t =>
    match separator with
    | some c => dropFields separator count ((t.dropWhile (· != c)).drop 1)
    | none =>
      let isBlank (c : Char) : Bool := c == ' ' || c == '\t'
      dropFields separator count ((t.dropWhile isBlank).dropWhile fun c => !isBlank c)

def part (separator : Option Char) (key : SortKey) (line : Text) : Text :=
  let start := dropFields separator (key.first.field - 1) line
  let start := if key.first.skipsBlanks then behindBlanks start else start
  let start := start.drop (key.first.char - 1)
  match key.last with
  | none => start
  | some last =>
    let rest :=
      if last.char = 0 then
        let before := dropFields separator (last.field - 1) line
        match separator with
        | some c => before.dropWhile (· != c)
        | none => dropFields none 1 before
      else
        let rest := dropFields separator (last.field - 1) line
        (if last.skipsBlanks then behindBlanks rest else rest).drop last.char
    start.take (start.length - rest.length)

/-- The letters that say how texts are compared. -/
def orderLetters : List Char := ['d', 'f', 'g', 'h', 'i', 'M', 'n', 'R', 'V', 'r', 'b']

def compareBy (letters : List Char) (a b : Text) : Ordering :=
  let has (c : Char) : Bool := letters.contains c
  let clean (t : Text) : Text :=
    let t := if has 'd' then t.filter fun c => c.isAlphanum || c == ' ' || c == '\t' else t
    let t := if has 'i' then t.filter fun c => ' ' ≤ c && c ≤ '~' else t
    if has 'f' then t.map Char.toUpper else t
  let order :=
    if has 'n' then (plainRank a).1.compare (plainRank b).1
    else if has 'h' then compareUnits a b
    else if has 'g' then compareGeneral a b
    else if has 'M' then compare (monthOf a) (monthOf b)
    else if has 'V' then compareVersions (a.length + b.length + 2) (clean a) (clean b)
    else compareTexts (clean a) (clean b)
  if has 'r' then order.swap else order

end SortKey

/-- How lines are compared: by keys, and by all of them in the end. -/
structure SortOrder where
  separator : Option Char
  keys : List SortKey
  /-- The letters that hold for all keys that have none. -/
  letters : List Char
  /-- Lines whose keys are equal are equal. -/
  isFinal : Bool

/-- How two lines compare by their keys. -/
def SortOrder.byKeys (order : SortOrder) (a b : Text) : Ordering :=
  match order.keys with
  | [] =>
    let strip (t : Text) : Text := if order.letters.contains 'b' then behindBlanks t else t
    SortKey.compareBy order.letters (strip a) (strip b)
  | keys =>
    keys.foldl (fun result key =>
      match result with
      | .eq =>
        let inherits := !key.letters.any SortKey.orderLetters.contains
        let letters := if inherits then order.letters else key.letters
        let key := if inherits && order.letters.contains 'b' then
            { key with first := { key.first with skipsBlanks := true },
                       last := key.last.map fun last => { last with skipsBlanks := true } }
          else key
        SortKey.compareBy letters (key.part order.separator a) (key.part order.separator b)
      | result => result) .eq

def SortOrder.compare (order : SortOrder) (a b : Text) : Ordering :=
  match order.byKeys a b with
  | .eq =>
    if order.isFinal then .eq
    else if order.letters.contains 'r' then (compareTexts a b).swap
    else compareTexts a b
  | result => result

/-- Elements without those that are equal to the one before. -/
def withoutRepeats {α : Type} (isEqual : α → α → Bool) : List α → List α
  | a :: b :: rest =>
    if isEqual a b then withoutRepeats isEqual (a :: rest) else a :: withoutRepeats isEqual (b :: rest)
  | elements => elements
termination_by elements => elements.length

/-- The first line that stands behind a greater one, with its number. -/
def firstDisorder? (isWrong : Text → Text → Bool) : (number : Nat) → List Text → Option (Nat × Text)
  | number, a :: b :: rest =>
    if isWrong a b then some (number + 1, b) else firstDisorder? isWrong (number + 1) (b :: rest)
  | _, _ => none

def sortLines : Program := fun arguments session =>
  session.withArguments "sort" ⟨"bcCdfghik:mMno:rRsS:t:T:uVz", [("reverse", 'r'), ("numeric-sort", 'n'), ("unique", 'u'),
    ("key", 'k'), ("field-separator", 't'), ("output", 'o'), ("ignore-case", 'f'), ("stable", 's'), ("check", 'c'),
    ("ignore-leading-blanks", 'b'), ("human-numeric-sort", 'h'), ("version-sort", 'V'), ("month-sort", 'M'),
    ("general-numeric-sort", 'g'), ("dictionary-order", 'd'), ("merge", 'm'), ("zero-terminated", 'z')], false⟩ 2
    (fun found session =>
      let refuse (complaint : Text) : Session := session.complain "sort" complaint 2
      let keys := (found.values 'k').map fun t => (t, SortKey.read? t)
      match keys.find? fun key => key.2.isNone with
      | some (t, _) => refuse ("invalid number at field start: invalid count at start of ".toList ++ quoted t)
      | none =>
        let separator := match found.value? 't' with
          | some ['\\', '0'] => some '\x00'
          | some (c :: _) => some c
          | _ => none
        if (found.value? 't').any fun t => t.length > 1 && t != ['\\', '0'] then
          refuse ("multi-character tab ".toList ++ quoted ((found.value? 't').getD []))
        else
          let letters := (found.options.map (·.1)).filter SortKey.orderLetters.contains
          let order : SortOrder := ⟨separator, keys.filterMap (·.2), letters, found.has 's' || found.has 'u'⟩
          let failure (path : Text) (cause : OsError) : Text :=
            if cause = .isDirectory then "read failed: ".toList ++ Session.fileFailure path cause
            else "cannot read: ".toList ++ Session.fileFailure path cause
          let (contents, session) := session.contentsOr failure "sort" found.operands
          if session.status != 0 then session.withStatus 2
          else
            let end_ := if found.has 'z' then '\x00' else '\n'
            let linesIn (content : Text) : List Text :=
              let pieces := Text.splitAtChar end_ content
              if pieces.getLast? = some [] then pieces.dropLast else pieces
            let parts := contents.map fun (_, content) => linesIn content
            let lines := parts.flatten
            if found.has 'c' || found.has 'C' then
              let isWrong (a b : Text) : Bool :=
                let result := order.compare a b
                result == .gt || (found.has 'u' && result == .eq)
              match firstDisorder? isWrong 1 lines with
              | none => session
              | some (number, line) =>
                if found.has 'C' then session.withStatus 1
                else session.complain "sort" ((found.operands.head?.getD ['-']) ++ ':' :: Text.ofNat number ++
                  ": disorder: ".toList ++ line) 1
            else
              let isUpTo (a b : Text) : Bool := order.compare a b != .gt
              let sorted := if found.has 'm' then parts.foldl (fun done part => done.merge part isUpTo) []
                else lines.mergeSort isUpTo
              let sorted := if found.has 'u' then withoutRepeats (fun a b => order.compare a b == .eq) sorted else sorted
              let output := sorted.flatMap fun line => line ++ [end_]
              match found.value? 'o' with
              | none => session.print output
              | some path =>
                match session.writeFile path output false with
                | .ok session => session
                | .error cause =>
                  session.complain "sort" ("open failed: ".toList ++ Session.fileFailure path cause) 2) arguments

/-! ## Distinct lines -/

/-- Prints only one of several equal lines in a row. -/
def printDistinct : Program := fun arguments session =>
  session.withArguments "uniq" ⟨"cdDuif:s:w:z", [("count", 'c'), ("repeated", 'd'), ("all-repeated", 'D'),
    ("unique", 'u'), ("ignore-case", 'i'), ("skip-fields", 'f'), ("skip-chars", 's'), ("check-chars", 'w')], false⟩ 1
    (fun found session =>
      let number (letter : Char) : Option Nat := (found.value? letter).bind digitsValue?
      let part (line : Text) : Text :=
        let t := (SortKey.dropFields none ((number 'f').getD 0) line).drop ((number 's').getD 0)
        let t := match number 'w' with
          | some n => t.take n
          | none => t
        if found.has 'i' then t.map Char.toLower else t
      let (contents, session) := session.contents "uniq" (found.operands.take 1)
      if session.status != 0 then session
      else
        let runs := (bareLines (contents.flatMap (·.2))).splitBy fun a b => part a == part b
        let isShown (run : List Text) : Bool :=
          (!(found.has 'd' || found.has 'D') || run.length > 1) && (!found.has 'u' || run.length = 1)
        let output := Text.ofLines ((runs.filter isShown).flatMap fun run =>
          if found.has 'D' then run
          else
            let line := run.head?.getD []
            let digits := Text.ofNat run.length
            [if found.has 'c' then List.replicate (7 - digits.length) ' ' ++ digits ++ ' ' :: line else line])
        match found.operands[1]? with
        | none => session.print output
        | some path =>
          match session.writeFile path output false with
          | .ok session => session
          | .error cause => session.refuse "uniq" path cause) arguments

/-! ## Two ordered files -/

/-- Two files that are merged: what was passed, and whether a file was found to be out of order. -/
structure Merger where
  /-- A line was found that only one file has. -/
  hasOdd : Bool
  isWrongLeft : Bool
  isWrongRight : Bool

/-- A line follows another one in a file; the order counts as soon as one file has a line that the other one lacks. -/
def Merger.isWrong (merger : Merger) (line : Text) (rest : List Text) : Bool :=
  merger.hasOdd && rest.head?.any fun next => compareTexts line next == .gt

/-- The lines of two ordered files, each with the column in which it is shown. -/
def mergeColumns : (fuel : Nat) → Merger → List Text → List Text → List (Nat × Text) × Merger
  | 0, merger, _, _ => ([], merger)
  | _, merger, [], [] => ([], merger)
  | fuel + 1, merger, a :: left, b :: right =>
    match compareTexts a b with
    | .eq =>
      let merger := { merger with
        isWrongLeft := merger.isWrongLeft || merger.isWrong a left
        isWrongRight := merger.isWrongRight || merger.isWrong b right }
      let (rest, merger) := mergeColumns fuel merger left right
      ((3, a) :: rest, merger)
    | .lt =>
      let merger := { merger with hasOdd := true }
      let merger := { merger with isWrongLeft := merger.isWrongLeft || merger.isWrong a left }
      let (rest, merger) := mergeColumns fuel merger left (b :: right)
      ((1, a) :: rest, merger)
    | .gt =>
      let merger := { merger with hasOdd := true }
      let merger := { merger with isWrongRight := merger.isWrongRight || merger.isWrong b right }
      let (rest, merger) := mergeColumns fuel merger (a :: left) right
      ((2, b) :: rest, merger)
  | fuel + 1, merger, a :: left, [] =>
    let merger := { merger with hasOdd := true }
    let (rest, merger) :=
      mergeColumns fuel { merger with isWrongLeft := merger.isWrongLeft || merger.isWrong a left } left []
    ((1, a) :: rest, merger)
  | fuel + 1, merger, [], b :: right =>
    let merger := { merger with hasOdd := true }
    let (rest, merger) :=
      mergeColumns fuel { merger with isWrongRight := merger.isWrongRight || merger.isWrong b right } [] right
    ((2, b) :: rest, merger)

/-- Prints the lines that only one of two ordered files has, and those that both have, in columns. -/
def compareSorted : Program := fun arguments session =>
  session.withArguments "comm" ⟨"123zn", [("nocheck-order", 'n')], false⟩ 1 (fun found session =>
    match found.operands with
    | [first, second] =>
      let (contents, session) := session.contents "comm" [first, second]
      match contents with
      | [(_, left), (_, right)] =>
        let left := bareLines left
        let right := bareLines right
        let hidden := ([1, 2, 3] : List Nat).filter fun n => found.has (Char.ofNat ('0'.toNat + n))
        let (merged, merger) := mergeColumns (left.length + right.length + 1) ⟨false, false, false⟩ left right
        let merged := merged.filter fun entry => !hidden.contains entry.1
        let session := session.print (Text.ofLines (merged.map fun (column, line) =>
          List.replicate ((([1, 2] : List Nat).filter fun n => n < column && !hidden.contains n).length) '\t' ++ line))
        if (merger.isWrongLeft || merger.isWrongRight) && !found.has 'n' then
          session.complain "comm" "input is not in sorted order".toList 1
        else session
      | _ => session
    | [] => session.missOperand "comm"
    | operands => session.complain "comm" ("missing operand after ".toList ++ quoted (operands.getLast?.getD [])) 1)
    arguments

end LogDiagram.Shell
