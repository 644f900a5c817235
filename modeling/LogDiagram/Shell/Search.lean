import LogDiagram.Shell.Expression
import LogDiagram.Shell.Files
import LogDiagram.Text.Lines

/-!
# Searching lines

`searchLines` prints the lines of files that fit one of some expressions, or tells something about them.
-/

namespace LogDiagram.Shell

/-- What is wanted of a place where an expression fits. -/
inductive FitKind where
  | anywhere
  /-- No character of a word stands next to it. -/
  | words
  /-- It is the whole line. -/
  | lines
  deriving DecidableEq, Repr

structure Query where
  expressions : List Expression
  mode : MatchMode
  extent : FitKind
  /-- Lines that do not fit are wanted. -/
  isInverse : Bool

namespace Query

/-- A place in a line is one that is wanted. -/
def accepts (extent : FitKind) (t : Text) (first last : Nat) : Bool :=
  match extent with
  | .anywhere => true
  | .words =>
    let isInWord (position : Nat) : Bool := t[position]?.any Expression.isWordChar
    !(first != 0 && isInWord (first - 1)) && !isInWord last
  | .lines => first == 0 && last == t.length

def expression? (query : Query) : Option Expression :=
  match query.expressions with
  | [] => none
  | first :: others => some (others.foldl Expression.either first)

def places (query : Query) (line : Text) : List Expression.Match :=
  match query.expression? with
  | none => []
  | some expression =>
    Expression.findAll query.mode expression (accepts query.extent line) line (line.length + 2) 0

def selects (query : Query) (line : Text) : Bool :=
  (query.expressions.any fun expression =>
    (Expression.findAt? query.mode line expression (accepts query.extent line) none 0 line).isSome) != query.isInverse

end Query

/-- How the lines that were found are shown. -/
structure SearchStyle where
  /-- The letters of the options that are on. -/
  letters : List Char
  isNamed : Bool
  limit : Option Nat
  before : Nat
  after : Nat
  hasContext : Bool
  /-- Ends a line. -/
  lineEnd : Char

namespace SearchStyle

def has (style : SearchStyle) (letter : Char) : Bool := style.letters.contains letter

/-- Only the number of lines or the names of files are shown. -/
def isBrief (style : SearchStyle) : Bool := ['c', 'l', 'L', 'q'].any style.has

def front (style : SearchStyle) (name : Text) (mark : Char) (number offset : Nat) : Text :=
  (if style.isNamed then name ++ (if style.has 'Z' then ['\x00'] else [mark]) else []) ++
    (if style.has 'n' then Text.ofNat number ++ [mark] else []) ++
    (if style.has 'b' then Text.ofNat offset ++ [mark] else [])

end SearchStyle

/-- A line of a file: its number, how many bytes stand in front of it, and whether it was found. -/
structure Candidate where
  number : Nat
  offset : Nat
  line : Text
  isSelected : Bool

namespace Candidate

/-- The lines of a content, up to the last one that is wanted and those that are shown behind it. -/
def ofLines (query : Query) (limit : Option Nat) (after : Nat) :
    (number offset found : Nat) → List Text → List Candidate
  | _, _, _, [] => []
  | number, offset, found, line :: rest =>
    if limit.any fun n => found ≥ n then
      -- What follows the last line that is wanted is shown up to the next one that fits.
      let shown := ((line :: rest).take after).takeWhile fun line => !query.selects line
      (shown.zipIdx).map fun (line, i) => ⟨number + i, offset, line, false⟩
    else
      let isSelected := query.selects line
      ⟨number, offset, line, isSelected⟩ ::
        ofLines query limit after (number + 1) (offset + line.length + 1) (if isSelected then found + 1 else found) rest

/-- The lines in front of each line of which one that is found is at most so far away. -/
def isNearAhead (distance : Nat) : List Candidate → List Bool
  | [] => []
  | candidate :: rest =>
    (((candidate :: rest).take (distance + 1)).any (·.isSelected)) :: isNearAhead distance rest

/-- The lines that are shown: those that are found and those around them. -/
def shown (before after : Nat) (candidates : List Candidate) : List Candidate :=
  let ahead := isNearAhead before candidates
  let (done, _) := (candidates.zip ahead).foldl (fun ((done, left) : List Candidate × Nat) (candidate, isAhead) =>
    let left := if candidate.isSelected then after + 1 else left
    (if left > 0 || isAhead then candidate :: done else done, left - 1)) ([], 0)
  done.reverse

end Candidate

/-- What a search made of one file: its output and how many lines were found. -/
structure SearchResult where
  output : Text
  count : Nat

def contentLines (lineEnd : Char) (content : Text) : List Text :=
  let pieces := Text.splitAtChar lineEnd content
  if pieces.getLast? = some [] then pieces.dropLast else pieces

/-- Searches one content; `hasShown` tells that something was shown before. -/
def searchContent (query : Query) (style : SearchStyle) (hasShown : Bool) (name content : Text) : SearchResult :=
  let limit := if style.has 'q' || style.has 'l' || style.has 'L' then some 1 else style.limit
  let after := if style.isBrief then 0 else style.after
  let candidates := Candidate.ofLines query limit after 1 0 0 (contentLines style.lineEnd content)
  let count := (candidates.filter (·.isSelected)).length
  let output : Text :=
    if style.has 'q' then []
    else if style.has 'l' || style.has 'L' then
      if (count > 0) == style.has 'l' then name ++ [if style.has 'Z' then '\x00' else '\n'] else []
    else if style.has 'c' then
      (if style.isNamed then name ++ (if style.has 'Z' then ['\x00'] else [':']) else []) ++ Text.ofNat count ++ ['\n']
    else if style.lineEnd = '\n' && !style.has 'a' && content.contains '\x00' then
      if count = 0 then [] else "grep: ".toList ++ name ++ ": binary file matches\n".toList
    else
      let lines := Candidate.shown style.before style.after candidates
      let (output, _) := lines.foldl (fun ((output, last) : List Text × Nat) candidate =>
        let isApart := last + 1 != candidate.number && (last != 0 || hasShown)
        let gap := if style.hasContext && isApart then ['-', '-', '\n'] else []
        let body : Text :=
          if style.has 'o' then
            if query.isInverse || !candidate.isSelected then []
            else
              ((query.places candidate.line).filter fun found => found.first < found.last).flatMap fun found =>
                style.front name ':' candidate.number (candidate.offset + found.first) ++
                  found.text candidate.line 0 ++ [style.lineEnd]
          else
            style.front name (if candidate.isSelected then ':' else '-') candidate.number candidate.offset ++
              candidate.line ++ [style.lineEnd]
        ((gap ++ body) :: output, candidate.number)) ([], 0)
      output.reverse.flatten
  ⟨output, count⟩

/-- The files in a directory and in all directories in it; links are left out. `fuel` bounds how deep they are. -/
def filesWithin (session : Session) (skips : Text → Bool) : (fuel : Nat) → Text → Place → List (Text × Place)
  | 0, _, _ => []
  | fuel + 1, path, place =>
    (session.namesIn place).flatMap fun name =>
      let inner := Text.ofPlain name :: place
      let innerPath := if path.isEmpty then name else pathIn path name
      match session.tree.linkAt? inner, session.tree.node? inner with
      | none, some .directory => if skips name then [] else filesWithin session skips fuel innerPath inner
      | none, some (.file _) => [(innerPath, inner)]
      | _, _ => []

/-- An expression in which letters stand for classes of characters, as one with classes in brackets. -/
def withClasses : Text → Text
  | '\\' :: 'd' :: rest => "[0-9]".toList ++ withClasses rest
  | '\\' :: 'D' :: rest => "[^0-9]".toList ++ withClasses rest
  | '\\' :: 'h' :: rest => "[ \t]".toList ++ withClasses rest
  | '\\' :: c :: rest => '\\' :: c :: withClasses rest
  | '(' :: '?' :: ':' :: rest => '(' :: withClasses rest
  | c :: rest => c :: withClasses rest
  | [] => []

/-- The expressions that texts write, in the notation for which a letter stands. -/
def readExpressions (style : Char) (texts : List Text) : Except Text (List Expression) :=
  texts.mapM fun t =>
    match style with
    | 'F' => .ok (Expression.ofText t)
    | 'E' => Expression.read ⟨true, false⟩ t
    | 'P' => Expression.read ⟨true, true⟩ (withClasses t)
    | _ => Expression.read ⟨false, false⟩ t

def searchGrammar : Grammar := ⟨"abcEFGHhiLlnoPqRrsTUvwxyZze:f:m:A:B:C:I:X:D:dK:kuO:", [("regexp", 'e'), ("file", 'f'),
  ("ignore-case", 'i'), ("invert-match", 'v'), ("word-regexp", 'w'), ("line-regexp", 'x'), ("count", 'c'),
  ("files-with-matches", 'l'), ("files-without-match", 'L'), ("max-count", 'm'), ("only-matching", 'o'), ("quiet", 'q'),
  ("silent", 'q'), ("no-messages", 's'), ("byte-offset", 'b'), ("with-filename", 'H'), ("no-filename", 'h'),
  ("line-number", 'n'), ("null", 'Z'), ("after-context", 'A'), ("before-context", 'B'), ("context", 'C'), ("text", 'a'),
  ("recursive", 'r'), ("dereference-recursive", 'R'), ("include", 'I'), ("exclude", 'X'), ("exclude-dir", 'K'),
  ("extended-regexp", 'E'), ("fixed-strings", 'F'), ("basic-regexp", 'G'), ("perl-regexp", 'P'), ("null-data", 'z'),
  ("initial-tab", 'T'), ("line-buffered", 'u'), ("label", 'O'), ("binary", 'U')], false⟩

/-- Prints the lines of files that fit expressions in the notation for which a letter stands. -/
def searchLines (standard : Char) : Program := fun arguments session =>
  let usage (session : Session) : Session :=
    (session.write 2 ("Usage: grep [OPTION]... PATTERNS [FILE]...\n" ++
      "Try 'grep --help' for more information.\n").toList).withStatus 2
  let isColor (t : Text) : Bool := (Text.afterPrefix? "--color".toList t).isSome ||
    (Text.afterPrefix? "--colour".toList t).isSome
  let arguments := (arguments.filter fun t => !isColor t).flatMap fun t =>
    match t with
    | '-' :: digits => if (digitsValue? digits).isSome then [['-', 'C'], digits] else [t]
    | t => [t]
  match Arguments.read searchGrammar arguments with
  | .error complaint => usage (session.complain "grep" complaint 2)
  | .ok found =>
    let session := session.withStatus 0
    let given := found.values 'e'
    let (files, session) := (found.values 'f').foldl (fun ((files, session) : List (Except Text Text) × Session) path =>
      match session.readOrTake path with
      | (.ok content, session) => (files ++ [.ok content], session)
      | (.error cause, session) => (files ++ [.error (Session.fileFailure path cause)], session)) ([], session)
    let hasPattern := found.has 'e' || found.has 'f'
    if !hasPattern && found.operands.isEmpty then usage session
    else
      let texts : Except Text (List Text) := do
        let contents ← files.mapM id
        let inline := given ++ (if hasPattern then [] else found.operands.take 1)
        return (inline.flatMap fun t => Text.splitAtChar '\n' t) ++ contents.flatMap bareLines
      let kind := (found.lastOf? ['E', 'F', 'G', 'P']).getD standard
      let number (letter : Char) : Except Text (Option Nat) :=
        match found.value? letter with
        | none => .ok none
        | some t =>
          match digitsValue? t with
          | some n => .ok (some n)
          | none =>
            if letter = 'm' then .error "invalid max count".toList
            else .error (t ++ ": invalid context length argument".toList)
      let settings : Except Text (List Expression × Option Nat × Option Nat × Option Nat × Option Nat) := do
        let limit ← number 'm'
        let after ← number 'A'
        let before ← number 'B'
        let around ← number 'C'
        return (← readExpressions kind (← texts), limit, before, after, around)
      match settings with
      | .error complaint => session.complain "grep" complaint 2
      | .ok (expressions, limit, before, after, around) =>
        let isDeep := found.has 'r' || found.has 'R'
        let operands := if hasPattern then found.operands else found.operands.drop 1
        let paths : List Text := if operands.isEmpty then (if isDeep then [[]] else [['-']]) else operands
        let isNamed := match found.lastOf? ['H', 'h'] with
          | some letter => letter == 'H'
          | none => paths.length > 1 || (isDeep && paths.all fun path => path.isEmpty || session.hasDirectory path)
        let query : Query := {
          expressions
          mode := ⟨found.has 'i' || found.has 'y', false⟩
          extent := if found.has 'x' then .lines else if found.has 'w' then .words else .anywhere
          isInverse := found.has 'v' }
        let style : SearchStyle := {
          letters := found.options.map (·.1), isNamed, limit
          before := (before.orElse fun _ => around).getD 0
          after := (after.orElse fun _ => around).getD 0
          hasContext := before.any (· > 0) || after.any (· > 0) || around.any (· > 0)
          lineEnd := if found.has 'z' then '\x00' else '\n' }
        let fitsGlob (letter : Char) (name : Text) : Bool :=
          (found.values letter).any fun pattern => (Glob.ofField (pattern.map fun c => (c, false))).fits name
        let isLeftOut (path : Text) : Bool :=
          (found.has 'I' && !fitsGlob 'I' (lastName path)) || fitsGlob 'X' (lastName path)
        let sources := paths.flatMap fun path =>
          let start : Text := if path.isEmpty then ['.'] else path
          if isDeep && path != ['-'] && session.hasDirectory start then
            match session.tree.follow (Text.ofPlain start) true with
            | .ok place => (filesWithin session (fitsGlob 'K') 64 path place).map (·.1)
            | .error _ => []
          else [path]
        let sources := sources.filter fun path => path = ['-'] || !isLeftOut path
        let output := match session.channel 1 with
          | .file place _ _ => some place
          | _ => none
        let refuse (complaint : Text) (session : Session) : Session :=
          if found.has 's' then session else session.complain "grep" complaint 2
        if limit = some 0 then session.withStatus 1
        else
          let (session, hasFound, hasFailed, _) := sources.foldl
            (fun ((session, hasFound, hasFailed, hasShown) : Session × Bool × Bool × Bool) path =>
              if hasFound && found.has 'q' then (session, hasFound, hasFailed, hasShown)
              else
                let isOutput := path != ['-'] && !(['q', 'l', 'L'].any found.has) && limit != some 1 &&
                  match session.tree.follow (Text.ofPlain path) true with
                  | .ok place => output == some place
                  | .error _ => false
                if isOutput then
                  (refuse (path ++ ": input file is also the output".toList) session, hasFound, true, hasShown)
                else
                  match session.readOrTake path with
                  | (.error cause, session) =>
                    (refuse (Session.fileFailure path cause) session, hasFound, true, hasShown)
                  | (.ok content, session) =>
                    let name := if path = ['-'] then (found.value? 'O').getD "(standard input)".toList else path
                    let result := searchContent query style hasShown name content
                    let isHit := if found.has 'L' then result.count = 0 else result.count > 0
                    (session.print result.output, hasFound || isHit, hasFailed,
                      hasShown || !result.output.isEmpty))
            (session, false, false, false)
          session.withStatus (if hasFailed && !(hasFound && found.has 'q') then 2 else if hasFound then 0 else 1)

end LogDiagram.Shell
