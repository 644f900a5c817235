import LogDiagram.Shell.Arguments
import LogDiagram.Text.Lines

/-!
# Programs for columns

* `cutLines` prints some columns of lines;
* `pasteLines` puts lines of files side by side;
* `joinLines` joins the lines of two files that have a field in common.
-/

namespace LogDiagram.Shell

/-! ## Some columns -/

/-- Positions from one on; without an end up to the last one. -/
structure Span where
  first : Nat
  last : Option Nat
  deriving DecidableEq, Repr

namespace Span

def has (position : Nat) (span : Span) : Bool :=
  span.first ≤ position && (match span.last with | some last => position ≤ last | none => true)

def read? (kind : String) (t : Text) : Except Text Span :=
  let invalid : Except Text Span := .error ("invalid ".toList ++ kind.toList ++ " value ".toList ++ quoted t)
  let (front, back) := t.span (· != '-')
  let number (digits : Text) (standard : Option Nat) : Except Text (Option Nat) :=
    if digits.isEmpty then .ok standard
    else
      match digitsValue? digits with
      | some n => .ok (some n)
      | none => .error []
  match number front (some 1), number (back.drop 1) none with
  | .ok (some first), .ok last =>
    let last := if back.isEmpty then some first else last
    if first = 0 ∨ last = some 0 then .error (kind.toList ++ "s are numbered from 1".toList)
    else if t = ['-'] then .error "invalid range with no endpoint: -".toList
    else if last.any fun last => last < first then .error "invalid decreasing range".toList
    else .ok ⟨first, last⟩
  | _, _ => invalid

def readAll (kind : String) (t : Text) : Except Text (List Span) :=
  (Text.splitAtChar ',' (t.map fun c => if c = ' ' ∨ c = '\t' then ',' else c)).mapM (read? kind)

end Span

/-- The elements at positions that are in some span, or in none; `mark` is put where a new span starts. -/
def select {α : Type} (spans : List Span) (isInverse : Bool) (mark : Option (List α)) (elements : List α) :
    List α :=
  let isIn (position : Nat) : Bool := (spans.any (Span.has position)) != isInverse
  let (done, _) := (elements.zipIdx 1).foldl (fun (done, isLater) (element, position) =>
    if !isIn position then (done, isLater)
    else
      let starts := isLater && (!isIn (position - 1) ||
        (spans.any fun span => span.first = position && !spans.any fun other =>
          other.first < position && Span.has position other))
      let done := if starts then (mark.getD []).reverse ++ done else done
      (element :: done, true)) (([] : List α), false)
  done.reverse

def cutLines : Program := fun arguments session =>
  session.withArguments "cut" ⟨"b:c:f:d:snzCO:", [("bytes", 'b'), ("characters", 'c'), ("fields", 'f'),
    ("delimiter", 'd'), ("only-delimited", 's'), ("complement", 'C'), ("output-delimiter", 'O')], false⟩ 1
    (fun found session =>
      let refuse (complaint : Text) : Session :=
        (session.complain "cut" complaint 1).write 2 "Try 'cut --help' for more information.\n".toList
      let lists := found.options.filter fun entry => ['b', 'c', 'f'].contains entry.1
      match lists with
      | [] => refuse "you must specify a list of bytes, characters, or fields".toList
      | _ :: _ :: _ => refuse "only one list may be specified".toList
      | [(letter, list)] =>
        let kind := if letter = 'f' then "field" else "byte/character position"
        let isInverse := found.has 'C'
        match Span.readAll kind list, found.value? 'd' with
        | .error complaint, _ => refuse complaint
        | .ok spans, delimiter =>
          if (delimiter.getD []).length > 1 then refuse "the delimiter must be a single character".toList
          else if delimiter.isSome && letter != 'f' then
            refuse "an input delimiter may be specified only when operating on fields".toList
          else if found.has 's' && letter != 'f' then
            refuse "suppressing non-delimited lines makes sense\n\tonly when operating on fields".toList
          else
            let delimiter := match delimiter with
              | some (c :: _) => c
              | some [] => '\x00'
              | none => '\t'
            let output := found.value? 'O'
            let (contents, session) := session.contents "cut" found.operands
            let cut (line : Text) : List Text :=
              if letter = 'f' then
                let fields := Text.splitAtChar delimiter line
                if fields.length = 1 then (if found.has 's' then [] else [line])
                else [Text.joined (output.getD [delimiter]) (select spans isInverse none fields)]
              else [select spans isInverse output line]
            session.print (Text.ofLines ((bareLines (contents.flatMap fun (_, content) =>
              if content.getLast?.any (· != '\n') then content ++ ['\n'] else content)).flatMap cut))) arguments

/-! ## Side by side -/

def readSeparators : Text → List Text
  | '\\' :: 'n' :: rest => ['\n'] :: readSeparators rest
  | '\\' :: 't' :: rest => ['\t'] :: readSeparators rest
  | '\\' :: '0' :: rest => [] :: readSeparators rest
  | '\\' :: c :: rest => [c] :: readSeparators rest
  | c :: rest => [c] :: readSeparators rest
  | [] => []

def joinedInTurn (separators : List Text) (parts : List Text) : Text :=
  let separators := if separators.isEmpty then [[]] else separators
  ((parts.zipIdx).flatMap fun (part, i) =>
    if i = 0 then part else (separators[(i - 1) % separators.length]?).getD [] ++ part)

/-- The next line of each of several files, and the lines that are left; files of one name share their lines. -/
def takeRow (paths : List Text) (stores : List (Text × List Text)) : List (Option Text) × List (Text × List Text) :=
  let (row, stores) := paths.foldl (fun (row, stores) path =>
    match stores.lookup path with
    | some (line :: rest) => (some line :: row, (path, rest) :: stores.filter fun entry => entry.1 != path)
    | _ => (none :: row, stores)) (([] : List (Option Text)), stores)
  (row.reverse, stores)

/-- The rows of several files until all of them end; `fuel` bounds the rows. -/
def rows (paths : List Text) : (fuel : Nat) → List (Text × List Text) → List (List Text)
  | 0, _ => []
  | fuel + 1, stores =>
    let (row, stores) := takeRow paths stores
    if row.all Option.isNone then [] else (row.map fun line => line.getD []) :: rows paths fuel stores

/-- Prints lines of files side by side, or all lines of each file on one line. -/
def pasteLines : Program := fun arguments session =>
  session.withArguments "paste" ⟨"d:sz", [("delimiters", 'd'), ("serial", 's')], false⟩ 1 (fun found session =>
    let separators := readSeparators ((found.value? 'd').getD ['\t'])
    let (contents, session) := session.contents "paste" found.operands
    if found.has 's' then
      session.print (Text.ofLines (contents.map fun (_, content) => joinedInTurn separators (bareLines content)))
    else if session.status != 0 then session
    else
      -- The input that stands in several columns gives each of them a line in turn; a file is read anew.
      let named := (contents.zipIdx).map fun ((path, content), i) =>
        if path = ['-'] then (path, content) else (path ++ '/' :: Text.ofNat i, content)
      let stores := named.foldr (fun (path, content) stores =>
        if stores.any fun entry => entry.1 == path && !content.isEmpty then
          (path, bareLines content) :: stores.filter fun entry => entry.1 != path
        else if stores.any fun entry => entry.1 == path then stores
        else (path, bareLines content) :: stores) ([] : List (Text × List Text))
      let limit := stores.foldl (fun n entry => max n entry.2.length) 0
      session.print (Text.ofLines ((rows (named.map (·.1)) (limit + 1) stores).map (joinedInTurn separators))))
    arguments

/-! ## Joins -/

/-- The fields of a line: between separators, or between blanks if there is none. -/
def lineColumns (separator : Option Char) (line : Text) : List Text :=
  match separator with
  | some c => Text.splitAtChar c line
  | none => (Text.splitAtChar ' ' (line.map fun c => if c = '\t' then ' ' else c)).filter fun field => !field.isEmpty

/-- A field of one of two lines, or the field that both have in common. -/
inductive JoinedField where
  | common
  | field (file number : Nat)
  deriving DecidableEq, Repr

def readJoinedFields? (t : Text) : Option (List JoinedField) :=
  (Text.splitAtChar ',' (t.map fun c => if c = ' ' then ',' else c)).mapM fun piece =>
    match piece with
    | ['0'] => some .common
    | file :: '.' :: digits =>
      if file = '1' ∨ file = '2' then (digitsValue? digits).map fun n => .field (file.toNat - '0'.toNat) n else none
    | _ => none

/-- The pairs of lines of two files with a common key, and the lines without a partner, in order of their keys. -/
def matchRows (key₁ key₂ : List Text → Text) :
    (fuel : Nat) → List (List Text) → List (List Text) → List (Option (List Text) × Option (List Text))
  | 0, _, _ => []
  | _, [], right => right.map fun row => (none, some row)
  | _, left, [] => left.map fun row => (some row, none)
  | fuel + 1, a :: left, b :: right =>
    if key₁ a = key₂ b then
      let (lefts, left) := (a :: left).span fun row => key₁ row == key₁ a
      let (rights, right) := (b :: right).span fun row => key₂ row == key₁ a
      (lefts.flatMap fun row => rights.map fun other => (some row, some other)) ++
        matchRows key₁ key₂ fuel left right
    else if Text.isUpTo (key₁ a) (key₂ b) then (some a, none) :: matchRows key₁ key₂ fuel left (b :: right)
    else (none, some b) :: matchRows key₁ key₂ fuel (a :: left) right

/-- Prints the lines of two files that have a field in common as one line. -/
def joinLines : Program := fun arguments session =>
  session.withArguments "join" (Grammar.ofLetters "1:2:j:t:a:v:o:e:i") 1 (fun found session =>
    match found.operands with
    | [first, second] =>
      let number (letter : Char) : Nat :=
        ((found.value? letter).bind digitsValue?).getD (((found.value? 'j').bind digitsValue?).getD 1)
      let separator := (found.value? 't').bind List.head?
      let (contents, session) := session.contents "join" [first, second]
      let table (i : Nat) : List (List Text) :=
        (bareLines ((contents[i]?).getD ([], [])).2).map (lineColumns separator)
      let fold (t : Text) : Text := if found.has 'i' then Text.asciiLower t else t
      let field (n : Nat) (row : List Text) : Text := (row[n - 1]?).getD []
      let left := table 0
      let right := table 1
      let matched := matchRows (fun row => fold (field (number '1') row)) (fun row => fold (field (number '2') row))
        (left.length + right.length + 1) left right
      let wants (t : Text) (letter : Char) : Bool := (found.values letter).contains t
      let onlyLone := found.has 'v'
      let filler := (found.value? 'e').getD []
      let others (n : Nat) (row : List Text) : List Text := row.eraseIdx (n - 1)
      let format := (found.value? 'o').bind readJoinedFields?
      let line (pair : Option (List Text) × Option (List Text)) : Text :=
        let key := match pair with
          | (some row, _) => field (number '1') row
          | (none, some row) => field (number '2') row
          | (none, none) => []
        let fields := match format with
          | some format => format.map fun wanted =>
            let value := match wanted, pair with
              | .common, _ => key
              | .field 1 n, (some row, _) => field n row
              | .field 2 n, (_, some row) => field n row
              | .field _ _, _ => []
            if value.isEmpty then filler else value
          | none =>
            key :: ((pair.1.map (others (number '1'))).getD [] ++ (pair.2.map (others (number '2'))).getD [])
        Text.joined [separator.getD ' '] fields
      let isShown (pair : Option (List Text) × Option (List Text)) : Bool :=
        match pair with
        | (some _, some _) => !onlyLone
        | (some _, none) => wants ['1'] 'a' || wants ['1'] 'v'
        | _ => wants ['2'] 'a' || wants ['2'] 'v'
      if session.status != 0 then session
      else session.print (Text.ofLines ((matched.filter isShown).map line))
    | [] => session.missOperand "join"
    | _ => session.complain "join" "two files are needed".toList 1) arguments

end LogDiagram.Shell
