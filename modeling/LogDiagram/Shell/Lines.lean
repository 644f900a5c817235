import LogDiagram.Shell.Arguments
import LogDiagram.Shell.Printing
import LogDiagram.Text.Lines

/-!
# Programs that print lines of files

Programs that print whole files or some of their lines, count what is in them, or put line numbers in front. Without a
file they read the input.
-/

namespace LogDiagram.Shell

/-! ## Whole files -/

/-- A text with a sign for each character that cannot be seen; ends of lines and tabs stay. -/
def visible (t : Text) : Text :=
  t.flatMap fun c =>
    let low (n : Nat) : Text :=
      if n < 32 then ['^', Char.ofNat (n + 64)] else if n = 127 then ['^', '?'] else [Char.ofNat n]
    if c = '\n' ∨ c = '\t' then [c]
    else if c.toNat < 128 then low c.toNat
    else 'M' :: '-' :: low (c.toNat - 128)

/-- A number in front of a line, filled up to so many characters. -/
def lineNumber (width n : Nat) : Text := filled false width (Text.ofNat n)

/-- Lines without those that are empty and stand behind an empty one. -/
def squeezed (lines : List Text) : List Text :=
  let (done, _) := lines.foldl (fun (done, wasEmpty) line =>
    let isEmpty := line == ['\n']
    (if isEmpty && wasEmpty then done else line :: done, isEmpty)) (([] : List Text), false)
  done.reverse

/-- Prints files one behind the other. -/
def concatenate : Program := fun arguments session =>
  session.withArguments "cat" ⟨"AbeEnstTuv", [("show-all", 'A'), ("number-nonblank", 'b'), ("show-ends", 'E'),
    ("number", 'n'), ("squeeze-blank", 's'), ("show-tabs", 'T'), ("show-nonprinting", 'v')], false⟩ 1
    (fun found session =>
      let has (letters : List Char) : Bool := letters.any found.has
      let (contents, session) := (if found.operands.isEmpty then [['-']] else found.operands).foldl
        (fun (contents, session) path =>
          let isOutput := match session.channel 1, session.tree.follow (Text.ofPlain path) true with
            | .file place position isAppending, .ok source => place == source && (isAppending || position != 0)
            | _, _ => false
          match session.readOrTake path with
          | (.ok content, session) =>
            if isOutput && !content.isEmpty then
              (contents, session.complain "cat" (path ++ ": input file is output file".toList) 1)
            else (content :: contents, session)
          | (.error cause, session) => (contents, session.complain "cat" (Session.fileFailure path cause) 1))
        (([] : List Text), session)
      let content := contents.reverse.flatten
      if found.options.all fun entry => entry.1 == 'u' then session.print content
      else
        let lines := linesOf content
        let lines := if has ['s'] then squeezed lines else lines
        let numbersFull := has ['b']
        let (shown, _) := lines.foldl (fun (shown, n) line =>
          let bare := bareLine line
          let isNumbered := (numbersFull && !bare.isEmpty) || (!numbersFull && has ['n'])
          let body := if has ['A', 'e', 't', 'v'] then visible bare else bare
          let body := if has ['A', 't', 'T'] then
              body.flatMap fun c => if c = '\t' then ['^', 'I'] else [c]
            else body
          let body := if has ['A', 'e', 'E'] && bare.length < line.length then body ++ ['$'] else body
          let number := if isNumbered then lineNumber 6 n ++ ['\t'] else []
          ((number ++ body ++ line.drop bare.length) :: shown, if isNumbered then n + 1 else n)) (([] : List Text), 1)
        session.print shown.reverse.flatten) arguments

/-- Prints files with their last lines first. -/
def concatenateBack : Program := fun arguments session =>
  session.withArguments "tac" (Grammar.ofLetters "brs:") 1 (fun found session =>
    let failure (path : Text) (cause : OsError) : Text :=
      if cause = .isDirectory then path ++ ": read error: Is a directory".toList
      else "failed to open ".toList ++ quoted path ++ " for reading: ".toList ++ cause.description
    let (contents, session) := session.contentsOr failure "tac" found.operands
    session.print (contents.flatMap fun (_, content) => (linesOf content).reverse.flatten)) arguments

def reverseLines : Program := fun arguments session =>
  session.withArguments "rev" (Grammar.ofLetters "") 1 (fun found session =>
    let failure (path : Text) (cause : OsError) : Text := "cannot open ".toList ++ Session.fileFailure path cause
    let (contents, session) := session.contentsOr failure "rev" found.operands
    session.print (contents.flatMap fun (_, content) => (linesOf content).flatMap fun line =>
      let bare := bareLine line
      bare.reverse ++ line.drop bare.length)) arguments

/-- Prints the input and writes it to files, too. -/
def printAndWrite : Program := fun arguments session =>
  session.withArguments "tee" ⟨"aip", [("append", 'a'), ("ignore-interrupts", 'i')], false⟩ 1 (fun found session =>
    let (input, session) := session.takeInput
    let content := input.toOption.getD []
    (session.print content).forEach found.operands fun path session =>
      match session.writeFile path content (found.has 'a') with
      | .ok session => session
      | .error cause => session.refuse "tee" path cause) arguments

/-! ## The first and the last lines -/

/-- How much of a file is asked for. -/
structure Portion where
  /-- Counted in bytes, not in lines. -/
  inBytes : Bool
  count : Nat
  /-- Counted from the other end. -/
  isInverse : Bool
  deriving DecidableEq, Repr

/-- The factors that letters behind a number stand for. -/
def multipliers : List (String × Nat) := [
  ("b", 512), ("k", 1024), ("K", 1024), ("kB", 1000), ("KB", 1000), ("KiB", 1024), ("M", Nat.pow 1024 2),
  ("MB", Nat.pow 1000 2), ("MiB", Nat.pow 1024 2), ("G", Nat.pow 1024 3), ("GB", Nat.pow 1000 3),
  ("GiB", Nat.pow 1024 3)]

/-- The number that digits write, with a factor behind them. -/
def scaledNumber? (t : Text) : Option Nat :=
  let (digits, unit) := t.span Char.isDigit
  match digitsValue? digits, unit with
  | some n, [] => some n
  | some n, unit => (multipliers.find? fun entry => entry.1.toList == unit).map fun entry => n * entry.2
  | none, _ => none

/-- The portion that a value of an option asks for; a sign may count from the other end. -/
def Portion.read? (inBytes : Bool) (inverseSign : Char) (t : Text) : Option Portion :=
  match t with
  | c :: rest =>
    if c = '-' ∨ c = '+' then (scaledNumber? rest).map fun n => ⟨inBytes, n, c = inverseSign⟩
    else (scaledNumber? t).map fun n => ⟨inBytes, n, false⟩
  | [] => none

def Portion.pieces (portion : Portion) (content : Text) : List Text :=
  if portion.inBytes then content.map fun c => [c] else linesOf content

/-- The first pieces of a content, all but the last ones, and what is left. -/
def Portion.first (portion : Portion) (content : Text) : Text × Text :=
  let pieces := portion.pieces content
  let count := if portion.isInverse then pieces.length - portion.count else portion.count
  ((pieces.take count).flatten, (pieces.drop count).flatten)

/-- The last pieces of a content, or all from some piece on. -/
def Portion.last (portion : Portion) (content : Text) : Text :=
  let pieces := portion.pieces content
  (pieces.drop (if portion.isInverse then portion.count - 1 else pieces.length - portion.count)).flatten

/-- The first argument as an option with a letter if it is a number behind a dash. -/
def withNumberOption (standard : Char) (signs : List Char) : List Text → List Text
  | (sign :: digits) :: rest =>
    let (number, letters) := digits.span Char.isDigit
    if signs.contains sign && !number.isEmpty && (letters.isEmpty || letters == ['c'] || letters == ['q']) then
      let value := if sign = '+' then '+' :: number else number
      (if letters == ['c'] then ['-', 'c'] else ['-', standard]) :: value ::
        (if letters == ['q'] then ['-', 'q'] :: rest else rest)
    else (sign :: digits) :: rest
  | arguments => arguments

/-- Prints portions of files, each with its name in front if there are several. -/
def printPortions (program : String) (inverseSign : Char) (signs : List Char)
    (cut : Portion → Text → Text × Text) : Program := fun arguments session =>
  session.withArguments program ⟨"n:c:qvzfFs:", [("lines", 'n'), ("bytes", 'c'), ("quiet", 'q'), ("silent", 'q'),
    ("verbose", 'v'), ("zero-terminated", 'z'), ("follow", 'f')], false⟩ 1
    (fun found session =>
      let asked := found.options.reverse.find? fun entry => entry.1 == 'n' || entry.1 == 'c'
      let (letter, value) := asked.getD ('n', ['1', '0'])
      match Portion.read? (letter == 'c') inverseSign value with
      | none =>
        let unit := if letter = 'c' then "bytes" else "lines"
        session.complain program ("invalid number of ".toList ++ unit.toList ++ ": ".toList ++ quoted value) 1
      | some portion =>
        let paths := if found.operands.isEmpty then [['-']] else found.operands
        let isNamed := match found.lastOf? ['q', 'v'] with
          | some letter => letter == 'v'
          | none => paths.length > 1
        let (session, _) := paths.foldl (fun ((session, isFirst) : Session × Bool) path =>
          let isTurning := path = ['-'] && session.turnsBack 0
          match session.readOrTake path with
          | (.error cause, session) => (session.complain program (Session.openFailure path cause) 1, isFirst)
          | (.ok content, session) =>
            let (shown, rest) := cut portion content
            let name := if path = ['-'] then "standard input".toList else path
            let title := if isNamed then
                (if isFirst then [] else ['\n']) ++ "==> ".toList ++ name ++ " <==\n".toList
              else []
            let session := if isTurning then session.withRest 0 rest else session
            (session.print (title ++ shown), false)) (session, true)
        session) (withNumberOption 'n' signs arguments)

def printFirst : Program := printPortions "head" '-' ['-'] fun portion content => portion.first content

def printLast : Program := printPortions "tail" '+' ['-', '+'] fun portion content => (portion.last content, [])

/-! ## Counting -/

/-- How many words a content holds; a word needs a character that can be seen. -/
def wordCount (content : Text) : Nat :=
  (content.foldl (fun (count, isInside) c =>
    if isBlankChar c then (count, false)
    else if '!' ≤ c && c ≤ '~' then (if isInside then count else count + 1, true)
    else (count, isInside)) (0, false)).1

def widestLine (content : Text) : Nat :=
  let (widest, width) := content.foldl (fun (widest, width) c =>
    if c = '\n' ∨ c = '\r' ∨ c = '\x0c' then (max widest width, 0)
    else if c = '\t' then (widest, width + (8 - width % 8))
    else if ' ' ≤ c && c ≤ '~' then (widest, width + 1)
    else (widest, width)) (0, 0)
  max widest width

/-- Counts lines, words, characters, bytes and the width of the longest line. -/
def countAll : Program := fun arguments session =>
  session.withArguments "wc" ⟨"lwcmL", [("lines", 'l'), ("words", 'w'), ("bytes", 'c'), ("chars", 'm'),
    ("max-line-length", 'L')], false⟩ 1
    (fun found session =>
      let letters := if found.options.isEmpty then ['l', 'w', 'c'] else found.options.map (·.1)
      let kinds := ['l', 'w', 'm', 'c', 'L'].filter letters.contains
      let paths := if found.operands.isEmpty then [['-']] else found.operands
      let measure (content : Text) : List Nat := kinds.map fun kind =>
        match kind with
        | 'l' => (content.filter (· == '\n')).length
        | 'w' => wordCount content
        | 'L' => widestLine content
        | _ => content.length
      let combine (a b : List Nat) : List Nat := (kinds.zip (a.zip b)).map fun (kind, a, b) =>
        if kind = 'L' then max a b else a + b
      -- What has no size of its own is given seven characters.
      let hasSize := paths.all fun path =>
        if path = ['-'] then session.turnsBack 0
        else match session.find path with
          | .ok (.file _) => true
          | .ok _ => false
          | .error _ => true
      let (counted, session) := paths.foldl (fun (counted, session) path =>
        match session.readOrTake path with
        | (.ok content, session) => ((path, some content) :: counted, session)
        | (.error cause, session) =>
          let session := session.refuse "wc" path cause
          (if cause = .isDirectory then (path, none) :: counted else counted, session))
        (([] : List (Text × Option Text)), session)
      let counted := counted.reverse
      let total := (counted.map fun (_, content) => (content.getD []).length).foldl (· + ·) 0
      let width :=
        if kinds.length = 1 ∧ paths.length = 1 then 1
        else if hasSize then (Text.ofNat total).length
        else max 7 (Text.ofNat total).length
      let say (session : Session) (counts : List Nat) (name : Text) : Session :=
        session.printLine (Text.joined [' '] (counts.map (lineNumber width)) ++
          (if name.isEmpty then [] else ' ' :: name))
      let rows := counted.map fun (path, content) => (path, measure (content.getD []))
      let session := rows.foldl (fun session (path, counts) =>
        say session counts (if found.operands.isEmpty then [] else path)) session
      if paths.length < 2 then session
      else say session (rows.foldl (fun sum row => combine sum row.2) (kinds.map fun _ => 0)) "total".toList)
    arguments

/-! ## Numbers in front of lines -/

def numberLines : Program := fun arguments session =>
  session.withArguments "nl" ⟨"b:w:s:n:v:i:l:ph:f:d:", [("body-numbering", 'b'), ("number-width", 'w'),
    ("number-separator", 's'), ("number-format", 'n'), ("starting-line-number", 'v'), ("line-increment", 'i')], false⟩ 1
    (fun found session =>
      let number (letter : Char) (standard : Nat) : Nat := ((found.value? letter).bind digitsValue?).getD standard
      let width := number 'w' 6
      let style := (found.value? 'b').getD ['t']
      let format := String.ofList ((found.value? 'n').getD ['r', 'n'])
      let separator := (found.value? 's').getD ['\t']
      let shown (n : Nat) : Text :=
        let digits := Text.ofNat n
        match format with
        | "ln" => filled true width digits
        | "rz" => List.replicate (width - digits.length) '0' ++ digits
        | _ => filled false width digits
      let (contents, session) := session.contents "nl" found.operands
      let (lines, _) := (bareLines (contents.flatMap (·.2))).foldl (fun (lines, n) line =>
        if style == ['a'] || (style == ['t'] && !line.isEmpty) then
          ((shown n ++ separator ++ line) :: lines, n + number 'i' 1)
        else ((List.replicate (width + separator.length) ' ' ++ line) :: lines, n)) (([] : List Text), number 'v' 1)
      session.print (Text.ofLines lines.reverse)) arguments

/-! ## Widths -/

/-- A line in pieces of at most so many characters; if `atBlanks`, a piece ends behind a blank where there is one. -/
def foldLine (width : Nat) (atBlanks : Bool) : (fuel : Nat) → Text → Text
  | 0, line => line
  | fuel + 1, line =>
    if line.length ≤ width then line
    else
      let piece := line.take width
      let upToBlank := (piece.reverse.dropWhile fun c => c != ' ' && c != '\t').reverse
      let piece := if atBlanks && !upToBlank.isEmpty then upToBlank else piece
      piece ++ '\n' :: foldLine width atBlanks fuel (line.drop piece.length)

/-- Breaks lines that are too long. -/
def foldLines : Program := fun arguments session =>
  session.withArguments "fold" ⟨"bsw:", [("bytes", 'b'), ("spaces", 's'), ("width", 'w')], false⟩ 1
    (fun found session =>
      let width := max 1 (((found.value? 'w').bind digitsValue?).getD 80)
      let (contents, session) := session.contents "fold" found.operands
      session.print (contents.flatMap fun (_, content) => (linesOf content).flatMap fun line =>
        let bare := bareLine line
        foldLine width (found.has 's') (bare.length + 1) bare ++ line.drop bare.length))
    (withNumberOption 'w' ['-'] arguments)

/-- A line with blanks in the place of tabs, of which each ends at a multiple of `size`. -/
def expandTabs (size : Nat) (line : Text) : Text :=
  let (done, _) := line.foldl (fun (done, column) c =>
    if c = '\t' then
      let width := size - column % size
      (List.replicate width ' ' ++ done, column + width)
    else (c :: done, column + 1)) (([] : Text), 0)
  done.reverse

/-- Replaces tabs by blanks. -/
def expandAll : Program := fun arguments session =>
  session.withArguments "expand" ⟨"it:", [("initial", 'i'), ("tabs", 't')], false⟩ 1 (fun found session =>
    let size := max 1 (((found.value? 't').bind digitsValue?).getD 8)
    let (contents, session) := session.contents "expand" found.operands
    session.print ((linesOf (contents.flatMap (·.2))).flatMap fun line =>
      if found.has 'i' then
        let front := line.takeWhile fun c => c == ' ' || c == '\t'
        expandTabs size front ++ line.drop front.length
      else expandTabs size line)) arguments

/-- Replaces blanks in front of lines by tabs. -/
def unexpandAll : Program := fun arguments session =>
  session.withArguments "unexpand" ⟨"at:", [("all", 'a'), ("tabs", 't')], false⟩ 1 (fun found session =>
    let size := max 1 (((found.value? 't').bind digitsValue?).getD 8)
    let (contents, session) := session.contents "unexpand" found.operands
    session.print ((linesOf (contents.flatMap (·.2))).flatMap fun line =>
      let front := line.takeWhile fun c => c == ' ' || c == '\t'
      let width := (expandTabs size front).length
      List.replicate (width / size) '\t' ++ List.replicate (width % size) ' ' ++ line.drop front.length)) arguments

/-! ## Pieces -/

/-- The endings of the names of pieces. -/
def pieceEnding (isNumeric : Bool) (width n : Nat) : Text :=
  let base := if isNumeric then 10 else 26
  let first := if isNumeric then '0' else 'a'
  (List.range width).reverse.map fun place =>
    Char.ofNat (first.toNat + n / Nat.pow base place % base)

/-- A list in pieces of so many elements. -/
def chunks {α : Type} (size : Nat) : (fuel : Nat) → List α → List (List α)
  | 0, _ => []
  | _, [] => []
  | fuel + 1, all => all.take size :: chunks size fuel (all.drop size)

def splitFile : Program := fun arguments session =>
  session.withArguments "split" ⟨"l:b:n:a:dS:v", [("lines", 'l'), ("bytes", 'b'), ("number", 'n'),
    ("suffix-length", 'a'), ("numeric-suffixes", 'd'), ("additional-suffix", 'S'), ("verbose", 'v')], false⟩ 1
    (fun found session =>
      let path := found.operands.head?.getD ['-']
      let name := (found.operands[1]?).getD ['x']
      let number (letter : Char) : Option Nat := (found.value? letter).bind scaledNumber?
      match session.readOrTake path with
      | (.error cause, session) =>
        session.complain "split" ("cannot open ".toList ++ quoted path ++ " for reading: ".toList ++ cause.description) 1
      | (.ok content, session) =>
        let pieces : List Text :=
          match number 'b', number 'n', number 'l' with
          | some size, _, _ => chunks (max 1 size) (content.length + 1) content
          | none, some count, _ =>
            let size := max 1 (content.length / max 1 count)
            (List.range count).map fun i =>
              if i + 1 = count then content.drop (i * size) else (content.drop (i * size)).take size
          | none, none, size =>
            (chunks (max 1 (size.getD 1000)) (content.length + 1) (linesOf content)).map List.flatten
        let width := ((found.value? 'a').bind digitsValue?).getD 2
        (pieces.zipIdx).foldl (fun session (piece, i) =>
          let target := name ++ pieceEnding (found.has 'd') width i ++ (found.value? 'S').getD []
          let session := if found.has 'v' then session.printLine ("creating file ".toList ++ quoted target) else session
          match session.writeFile target piece false with
          | .ok session => session
          | .error cause => session.refuse "split" target cause) session)
    (withNumberOption 'l' ['-'] arguments)

end LogDiagram.Shell
