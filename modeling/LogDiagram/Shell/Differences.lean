import LogDiagram.Shell.Files
import LogDiagram.Shell.Pattern
import LogDiagram.Text.Alignment
import LogDiagram.Text.Lines

/-!
# Programs that compare files

* `printDifferences` tells which lines have to be changed to make one file of the other one;
* `compareBytes` finds the first byte in which two files differ.
-/

namespace LogDiagram.Shell

inductive DifferenceStyle where
  | normal
  /-- Only that there are some. -/
  | brief
  | unified (context : Nat)
  | context (context : Nat)
  | sideBySide (width : Nat)
  /-- Commands that make the change. -/
  | commands
  /-- Commands that count lines. -/
  | counted
  deriving DecidableEq, Repr

/-- A file that is compared: its name, how it is titled, and its lines. -/
structure Compared where
  title : Text
  lines : Array Text

namespace Compared

/-- Some lines in a row. -/
def slice (compared : Compared) (start count : Nat) : List Text := (compared.lines.toList.drop start).take count

/-- A line with a mark in front of it; a line without an end is told apart. -/
def marked (mark : Text) (line : Text) : Text :=
  mark ++ (if line.getLast? = some '\n' then line else line ++ "\n\\ No newline at end of file\n".toList)

end Compared

namespace DifferenceStyle

/-- The numbers of the first and the last of some lines, with a comma between them if there are several. -/
def range (start count : Nat) : Text :=
  if count ≤ 1 then Text.ofNat (start + count) else Text.ofNat (start + 1) ++ ',' :: Text.ofNat (start + count)

def normalChange (left right : Compared) (change : Change) : Text :=
  let letter := if change.leftCount = 0 then 'a' else if change.rightCount = 0 then 'd' else 'c'
  let removed := (left.slice change.left change.leftCount).flatMap (Compared.marked ['<', ' '])
  let added := (right.slice change.right change.rightCount).flatMap (Compared.marked ['>', ' '])
  range change.left change.leftCount ++ letter :: range change.right change.rightCount ++ '\n' :: removed ++
    (if letter = 'c' then "---\n".toList else []) ++ added

/-- A change as commands; the changes come with the last one first. -/
def commandChange (right : Compared) (change : Change) : Text :=
  let letter := if change.leftCount = 0 then 'a' else if change.rightCount = 0 then 'd' else 'c'
  let added := (right.slice change.right change.rightCount).flatMap fun line => bareLine line ++ ['\n']
  range change.left change.leftCount ++ letter :: '\n' :: added ++
    (if change.rightCount = 0 then [] else ['.', '\n'])

def countedChange (right : Compared) (change : Change) : Text :=
  let command (letter : Char) (start count : Nat) : Text :=
    letter :: (Text.ofNat start ++ ' ' :: (Text.ofNat count ++ ['\n']))
  (if change.leftCount = 0 then [] else command 'd' (change.left + 1) change.leftCount) ++
    (if change.rightCount = 0 then []
    else command 'a' (change.left + change.leftCount) change.rightCount ++
      (right.slice change.right change.rightCount).flatten)

/-- Changes in groups: those of a group are not far away from each other. -/
def groups (context : Nat) : List Change → List (List Change)
  | [] => []
  | change :: rest =>
    match groups context rest with
    | (next :: more) :: others =>
      if next.left - (change.left + change.leftCount) ≤ 2 * context then (change :: next :: more) :: others
      else [change] :: (next :: more) :: others
    | _ => [[change]]

/-- The bounds of a group in both files, with the lines around it. -/
structure Bounds where
  left : Nat
  leftCount : Nat
  right : Nat
  rightCount : Nat

def bounds (left : Compared) (context : Nat) (group : List Change) : Bounds :=
  let first := group.head?.getD ⟨0, 0, 0, 0⟩
  let last := group.getLast?.getD ⟨0, 0, 0, 0⟩
  let before := min context first.left
  let after := min context (left.lines.size - (last.left + last.leftCount))
  ⟨first.left - before, last.left + last.leftCount + after - (first.left - before),
    first.right - before, last.right + last.rightCount + after - (first.right - before)⟩

/-- The first line and the number of lines of a group. -/
def unifiedRange (start count : Nat) : Text :=
  if count = 1 then Text.ofNat (start + 1)
  else Text.ofNat (if count = 0 then start else start + 1) ++ ',' :: Text.ofNat count

/-- A group of changes, with the lines of both files in one. -/
def unifiedGroup (left right : Compared) (context : Nat) (group : List Change) : Text :=
  let bounds := bounds left context group
  let (body, position) := group.foldl (fun ((body, position) : Text × Nat) change =>
    (body ++ (left.slice position (change.left - position)).flatMap (Compared.marked [' ']) ++
      (left.slice change.left change.leftCount).flatMap (Compared.marked ['-']) ++
      (right.slice change.right change.rightCount).flatMap (Compared.marked ['+']), change.left + change.leftCount))
    ([], bounds.left)
  let rest := left.slice position (bounds.left + bounds.leftCount - position)
  "@@ -".toList ++ unifiedRange bounds.left bounds.leftCount ++ ' ' :: '+' ::
    unifiedRange bounds.right bounds.rightCount ++ " @@\n".toList ++ body ++ rest.flatMap (Compared.marked [' '])

/-- The lines of one file in a group, those that differ with a mark. -/
def contextLines (compared : Compared) (start count : Nat) (spans : List (Nat × Nat × Char)) : Text :=
  let (body, position) := spans.foldl (fun ((body, position) : Text × Nat) (first, length, mark) =>
    (body ++ (compared.slice position (first - position)).flatMap (Compared.marked [' ', ' ']) ++
      (compared.slice first length).flatMap (Compared.marked [mark, ' ']), first + length)) ([], start)
  body ++ (compared.slice position (start + count - position)).flatMap (Compared.marked [' ', ' '])

/-- A group of changes, with the lines of one file behind those of the other one. -/
def contextGroup (left right : Compared) (context : Nat) (group : List Change) : Text :=
  let bounds := bounds left context group
  let range (start count : Nat) : Text :=
    if count ≤ 1 then Text.ofNat (start + count) else Text.ofNat (start + 1) ++ ',' :: Text.ofNat (start + count)
  let removed := group.map fun change =>
    (change.left, change.leftCount, if change.rightCount = 0 then '-' else '!')
  let added := group.map fun change =>
    (change.right, change.rightCount, if change.leftCount = 0 then '+' else '!')
  "***************\n*** ".toList ++ range bounds.left bounds.leftCount ++ " ****\n".toList ++
    (if removed.any fun span => span.2.1 > 0 then contextLines left bounds.left bounds.leftCount removed else []) ++
    "--- ".toList ++ range bounds.right bounds.rightCount ++ " ----\n".toList ++
    (if added.any fun span => span.2.1 > 0 then contextLines right bounds.right bounds.rightCount added else [])

/-- Blanks from a column to another one, with tabs where they fit. -/
def columnGap (start finish : Nat) : Text :=
  let tabs := finish / 8 - start / 8
  if tabs = 0 then List.replicate (finish - start) ' '
  else List.replicate tabs '\t' ++ List.replicate (finish % 8) ' '

/-- The front of a line, at most so many characters wide, and its width. -/
def halfLine (width : Nat) (line : Text) : Text × Nat :=
  let (done, column) := (bareLine line).foldl (fun ((done, column) : Text × Nat) c =>
    if c = '\t' then
      let next := column + 8 - column % 8
      if next ≤ width then (c :: done, next) else (done, width)
    else if column < width then (c :: done, column + 1) else (done, column)) ([], 0)
  (done.reverse, column)

/-- Two lines side by side with a sign between them. -/
def sideLine (width : Nat) (left right : Option Text) (sign : Char) : Text :=
  let offset := (width + 11) / 16 * 8
  let half := min (offset - 3) (width - offset)
  let (front, column) := match left with
    | some line => halfLine half line
    | none => ([], 0)
  let (front, column) : Text × Nat :=
    if sign = ' ' then (front, column)
    else
      let place := (half + offset - 1) / 2
      (front ++ columnGap column place ++ [sign], place + 1)
  let back : Text := match right with
    | some line => if bareLine line = [] then [] else columnGap column offset ++ (halfLine half line).1
    | none => []
  front ++ back ++ ['\n']

def sideLines (width : Nat) (hidesCommon : Bool) (left right : Compared) (changes : List Change) : Text :=
  let common (start count rightStart : Nat) : Text :=
    if hidesCommon then []
    else ((left.slice start count).zip (right.slice rightStart count)).flatMap fun (a, b) =>
      sideLine width (some a) (some b) ' '
  let (body, position, rightPosition) := changes.foldl
    (fun ((body, position, rightPosition) : Text × Nat × Nat) change =>
      let removed := left.slice change.left change.leftCount
      let added := right.slice change.right change.rightCount
      let both := min change.leftCount change.rightCount
      (body ++ common position (change.left - position) rightPosition ++
        ((removed.zip added).flatMap fun (a, b) => sideLine width (some a) (some b) '|') ++
        ((removed.drop both).flatMap fun line => sideLine width (some line) none '<') ++
        ((added.drop both).flatMap fun line => sideLine width none (some line) '>'),
        change.left + change.leftCount, change.right + change.rightCount)) ([], 0, 0)
  body ++ common position (left.lines.size - position) rightPosition

def shown (style : DifferenceStyle) (hidesCommon : Bool) (left right : Compared) (changes : List Change) : Text :=
  match style with
  | normal => changes.flatMap (normalChange left right)
  | brief => []
  | commands => changes.reverse.flatMap (commandChange right)
  | counted => changes.flatMap (countedChange right)
  | sideBySide width => sideLines width hidesCommon left right changes
  | unified around =>
    "--- ".toList ++ left.title ++ "\n+++ ".toList ++ right.title ++ '\n' ::
      (groups around changes).flatMap (unifiedGroup left right around)
  | context around =>
    "*** ".toList ++ left.title ++ "\n--- ".toList ++ right.title ++ '\n' ::
      (groups around changes).flatMap (contextGroup left right around)

end DifferenceStyle

/-- How two files are compared. -/
structure Comparison where
  style : DifferenceStyle
  letters : List Char
  /-- The titles that are given for the files. -/
  labels : List Text
  /-- The names that are left out in directories. -/
  excluded : List Text
  /-- How the program was called, in front of the names of two files. -/
  call : Text

namespace Comparison

def has (comparison : Comparison) (letter : Char) : Bool := comparison.letters.contains letter

def key (comparison : Comparison) (line : Text) : Text :=
  let isSpace (c : Char) : Bool := c == ' ' || ('\t' ≤ c && c ≤ '\r')
  let line := if comparison.has 'i' then Text.asciiLower line else line
  let line := if comparison.has 'T' then bareLine line |>.reverse |>.dropWhile (· == '\r') |>.reverse else line
  if comparison.has 'w' then line.filter fun c => !isSpace c
  else if comparison.has 'b' then
    let (done, _) := line.foldl (fun ((done, isBehind) : Text × Bool) c =>
      if isSpace c then (if isBehind then done else ' ' :: done, true) else (c :: done, false)) ([], false)
    (done.dropWhile (· == ' ')).reverse
  else if comparison.has 'Z' then (line.reverse.dropWhile isSpace).reverse
  else line

/-- Two contents are compared: what is shown, and whether they differ. -/
def ofContents (comparison : Comparison) (names : Text × Text) (left right : Text) : Text × Bool :=
  let (leftName, rightName) := names
  let title (i : Nat) (name : Text) : Text :=
    (comparison.labels[i]?).getD (name ++ "\t1970-01-01 00:00:00.000000000 +0000".toList)
  let label (i : Nat) (name : Text) : Text := (comparison.labels[i]?).getD name
  let isBinary := !comparison.has 'a' && (left.contains '\x00' || right.contains '\x00')
  let both := label 0 leftName ++ " and ".toList ++ label 1 rightName
  if isBinary then
    if left = right then ([], false)
    else if comparison.style = .brief then ("Files ".toList ++ both ++ " differ\n".toList, true)
    else ("Binary files ".toList ++ both ++ " differ\n".toList, true)
  else
    let leftLines := (linesOf left).toArray
    let rightLines := (linesOf right).toArray
    let alignment := Alignment.ofArrays (leftLines.map comparison.key) (rightLines.map comparison.key)
    let compared₁ : Compared := ⟨title 0 leftName, leftLines⟩
    let compared₂ : Compared := ⟨title 1 rightName, rightLines⟩
    let isBlank (line : Text) : Bool := bareLine line == []
    let changes := alignment.changes.filter fun change =>
      !comparison.has 'B' || !((compared₁.slice change.left change.leftCount).all isBlank &&
        (compared₂.slice change.right change.rightCount).all isBlank)
    if changes.isEmpty then
      ((match comparison.style with
        | .sideBySide _ => comparison.style.shown (comparison.has 'C') compared₁ compared₂ []
        | _ => []) ++
        (if comparison.has 's' then "Files ".toList ++ both ++ " are identical\n".toList else []), false)
    else if comparison.style = .brief then ("Files ".toList ++ both ++ " differ\n".toList, true)
    else (comparison.style.shown (comparison.has 'C') compared₁ compared₂ changes, true)

end Comparison

/-- How two things compare: what is shown, and the exit code. -/
abbrev Verdict := Session × Nat

/-- Two files or directories are compared; `fuel` bounds how deep directories are. -/
def comparePaths (comparison : Comparison) : (fuel : Nat) → (isTop : Bool) → Text → Text → Session → Verdict
  | 0, _, _, _, session => (session, 2)
  | fuel + 1, isTop, left, right, session =>
    let failure (path : Text) (cause : OsError) (session : Session) : Session :=
      session.complain "diff" (Session.fileFailure path cause) 2
    let read (path : Text) (session : Session) : Except OsError Text × Session :=
      match session.readOrTake path with
      | (.error .notFound, session) => (if comparison.has 'N' then .ok [] else .error .notFound, session)
      | result => result
    if session.hasDirectory left && session.hasDirectory right then
      if !isTop && !comparison.has 'r' then
        (session.printLine ("Common subdirectories: ".toList ++ left ++ " and ".toList ++ right), 0)
      else
        let namesAt (path : Text) : List Text :=
          match session.tree.follow (Text.ofPlain path) true with
          | .ok place => (session.namesIn place).filter fun name =>
            !comparison.excluded.any fun pattern => (Glob.ofField (pattern.map fun c => (c, false))).fits name
          | .error _ => []
        let lefts := namesAt left
        let rights := namesAt right
        let all := (lefts ++ rights.filter fun name => !lefts.contains name).mergeSort Text.isUpTo
        all.foldl (fun ((session, code) : Verdict) name =>
          let only (directory : Text) : Verdict :=
            (session.printLine ("Only in ".toList ++ directory ++ ": ".toList ++ name), max code 1)
          if !rights.contains name && !comparison.has 'N' then only left
          else if !lefts.contains name && !comparison.has 'N' then only right
          else
            let (session, next) :=
              comparePaths comparison fuel false (pathIn left name) (pathIn right name) session
            (session, max code next)) (session, 0)
    else
      let (left, right) :=
        if isTop && session.hasDirectory left && left != ['-'] then (pathIn left (lastName right), right)
        else if isTop && session.hasDirectory right && right != ['-'] then (left, pathIn right (lastName left))
        else (left, right)
      let kind (path : Text) : Text :=
        if session.hasDirectory path then "directory".toList
        else if (session.readFile path).toOption == some [] then "regular empty file".toList
        else "regular file".toList
      if !isTop && session.hasDirectory left != session.hasDirectory right then
        (session.printLine ("File ".toList ++ left ++ " is a ".toList ++ kind left ++ " while file ".toList ++
          right ++ " is a ".toList ++ kind right), 1)
      else
        let (leftContent, session) := read left session
        let (rightContent, session) := read right session
        match leftContent, rightContent with
        | .ok leftContent, .ok rightContent =>
          let (shown, differs) := comparison.ofContents (left, right) leftContent rightContent
          let call := if isTop || shown.isEmpty || comparison.style = .brief || !differs then []
            else
              let label (i : Nat) (name : Text) : Text := (comparison.labels[i]?).getD name
              "diff".toList ++ comparison.call ++ ' ' :: label 0 left ++ ' ' :: label 1 right ++ ['\n']
          (session.print (call ++ shown), if differs then 1 else 0)
        | .error a, .error b => (failure right b (failure left a session), 2)
        | .error a, _ => (failure left a session, 2)
        | _, .error b => (failure right b session, 2)

/-- Tells which lines have to be changed to make one file of the other one. -/
def printDifferences : Program := fun arguments session =>
  let grammar : Grammar := ⟨"abBcC:deEGiHlnNpqrsStTuU:vwW:x:yZ0123456789L:D:F:I:M", [("brief", 'q'),
    ("report-identical-files", 's'), ("unified", 'u'), ("context", 'c'), ("ignore-case", 'i'),
    ("ignore-space-change", 'b'), ("ignore-all-space", 'w'), ("ignore-blank-lines", 'B'), ("text", 'a'),
    ("recursive", 'r'), ("new-file", 'N'), ("label", 'L'), ("side-by-side", 'y'), ("width", 'W'), ("exclude", 'x'),
    ("ed", 'e'), ("normal", 'G'), ("rcs", 'n'), ("ignore-trailing-space", 'Z'), ("strip-trailing-cr", 'T'),
    ("suppress-common-lines", 'M'), ("minimal", 'd'), ("expand-tabs", 't')], false⟩
  let hint (session : Session) : Session :=
    (session.write 2 "diff: Try 'diff --help' for more information.\n".toList).withStatus 2
  let given := (arguments.filter fun t => (Text.afterPrefix? "--color".toList t).isNone).map fun t =>
    match Text.afterPrefix? "--unified=".toList t, Text.afterPrefix? "--context=".toList t with
    | some n, _ => '-' :: 'U' :: n
    | none, some n => '-' :: 'C' :: n
    | none, none => t
  match Arguments.read grammar given with
  | .error complaint => hint (session.complain "diff" complaint 2)
  | .ok found =>
    let number (letter : Char) (standard : Nat) : Nat := ((found.value? letter).bind digitsValue?).getD standard
    let around : Nat := (digitsValue? ((found.options.map (·.1)).filter Char.isDigit)).getD 3
    let style : DifferenceStyle :=
      if found.has 'q' then .brief
      else
        match found.lastOf? ['u', 'U', 'c', 'C', 'y', 'e', 'n'] with
        | some 'u' => .unified around
        | some 'U' => .unified (number 'U' 3)
        | some 'c' => .context around
        | some 'C' => .context (number 'C' 3)
        | some 'y' => .sideBySide (number 'W' 130)
        | some 'n' => .counted
        | some _ => .commands
        | none => .normal
    let letters := (found.options.map (·.1)).filter fun c => c != 'C'
    let comparison : Comparison := {
      style
      letters := if found.has 'M' then 'C' :: letters else letters
      labels := found.values 'L'
      excluded := found.values 'x'
      call := (arguments.filter fun t => !found.operands.contains t).flatMap fun t => ' ' :: t }
    match found.operands with
    | [left, right] =>
      let (session, code) := comparePaths comparison 64 true left right (session.withStatus 0)
      session.withStatus code
    | _ :: _ :: extra :: _ =>
      hint (session.complain "diff" ("extra operand ".toList ++ quoted extra) 2)
    | operands =>
      hint (session.complain "diff" ("missing operand after ".toList ++ quoted (operands.head?.getD "diff".toList)) 2)

/-- The number of the first place in which two texts differ, and how many lines are ended before it. -/
def firstDifference? : (position lines : Nat) → Text → Text → Option (Nat × Nat × Option (Char × Char))
  | _, _, [], [] => none
  | position, lines, c :: left, d :: right =>
    if c = d then firstDifference? (position + 1) (if c = '\n' then lines + 1 else lines) left right
    else some (position, lines, some (c, d))
  | position, lines, _, _ => some (position, lines, none)

/-- Finds the first byte in which two files differ. -/
def compareBytes : Program := fun arguments session =>
  session.withArguments "cmp" ⟨"bi:ln:s", [("print-bytes", 'b'), ("ignore-initial", 'i'), ("verbose", 'l'),
    ("bytes", 'n'), ("quiet", 's'), ("silent", 's')], false⟩ 2
    (fun found session =>
      match found.operands with
      | [] =>
        (session.complain "cmp" "missing operand after 'cmp'".toList 2).write 2
          "cmp: Try 'cmp --help' for more information.\n".toList
      | left :: rest =>
        let right := rest.head?.getD ['-']
        let skipped (i : Nat) : Nat := ((rest[i]?).bind digitsValue?).getD (((found.value? 'i').bind digitsValue?).getD 0)
        let (leftContent, session) := session.readOrTake left
        let (rightContent, session) := session.readOrTake right
        match leftContent, rightContent with
        | .error cause, _ =>
          if found.has 's' then session.withStatus 2
          else session.complain "cmp" (Session.fileFailure left cause) 2
        | _, .error cause =>
          if found.has 's' then session.withStatus 2
          else session.complain "cmp" (Session.fileFailure right cause) 2
        | .ok leftContent, .ok rightContent =>
          let cut (t : Text) (skip : Nat) : Text :=
            let t := t.drop skip
            match (found.value? 'n').bind digitsValue? with
            | some n => t.take n
            | none => t
          let a := cut leftContent (skipped 1)
          let b := cut rightContent (skipped 2)
          let octal (c : Char) : Text :=
            let digits := Nat.toDigits 8 c.toNat
            List.replicate (3 - digits.length) ' ' ++ digits
          match firstDifference? 0 0 a b with
          | none => session
          | some (position, lines, pair) =>
            if found.has 's' then session.withStatus 1
            else
              let ended (session : Session) (inLine : Bool) : Session :=
                let shorter := if a.length < b.length then left else right
                let size := min a.length b.length
                session.complain "cmp" ("EOF on ".toList ++ shorter ++
                  (if size = 0 then " which is empty".toList
                  else " after byte ".toList ++ Text.ofNat size ++
                    (if inLine then
                      (if (a.take size).getLast? = some '\n' then ", line ".toList ++ Text.ofNat lines
                      else ", in line ".toList ++ Text.ofNat (lines + 1))
                    else []))) 1
              if found.has 'l' then
                let width := (Text.ofNat (max a.length b.length)).length
                let pairs := ((a.zip b).zipIdx).filter fun ((c, d), _) => c != d
                let session := pairs.foldl (fun session ((c, d), i) =>
                  let digits := Text.ofNat (i + 1)
                  session.printLine (List.replicate (width - digits.length) ' ' ++ digits ++ ' ' :: octal c ++
                    ' ' :: octal d)) session
                if a.length = b.length then session.withStatus 1 else ended session false
              else
                match pair with
                | none => ended session true
                | some (c, d) =>
                  (session.printLine (left ++ ' ' :: right ++ " differ: ".toList ++
                    (if found.has 'b' then "byte " else "char ").toList ++ Text.ofNat (position + 1) ++ ", line ".toList ++
                    Text.ofNat (lines + 1) ++
                    (if found.has 'b' then " is ".toList ++ octal c ++ ' ' :: c :: ' ' :: octal d ++ ' ' :: [d]
                    else []))).withStatus 1) arguments

end LogDiagram.Shell
