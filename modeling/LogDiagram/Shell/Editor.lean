import LogDiagram.Shell.EditScript
import LogDiagram.Shell.Files
import LogDiagram.Shell.Launch

/-!
# Editing lines by a script

An editor reads lines one after the other, takes the steps of its script for each, and puts out what became of it. A
second line is held aside and can be exchanged with the one that is edited.

* `Editor.run` edits lines;
* `editLines` is the editor as a program, which prints the lines or writes them back to their files.
-/

namespace LogDiagram.Shell

/-- Output that is collected. The last line may lack its end, which it gets when another one follows. -/
structure Sink where
  /-- The pieces, the last one first. -/
  pieces : List Text
  lacksEnd : Bool

namespace Sink

def empty : Sink := ⟨[], false⟩

/-- One more line or piece of text; `lineEnd` ends the line in front of it if that is still open. -/
def put (lineEnd : Char) (t : Text) (lacksEnd : Bool) (sink : Sink) : Sink :=
  ⟨t :: (if sink.lacksEnd then [lineEnd] :: sink.pieces else sink.pieces), lacksEnd⟩

/-- Everything that was collected. -/
def text (sink : Sink) : Text := sink.pieces.reverse.flatten

end Sink

/-- A line without its end. -/
structure EditLine where
  text : Text
  hasEnd : Bool
  deriving DecidableEq, Repr

def EditLine.ofContent (lineEnd : Char) (content : Text) : List EditLine :=
  let pieces := Text.splitAtChar lineEnd content
  let isEnded := pieces.getLast? = some []
  let lines := if isEnded then pieces.dropLast else pieces
  (lines.zipIdx).map fun (line, i) => ⟨line, isEnded || i + 1 < lines.length⟩

/-- A range of lines in which a step is taken. -/
inductive RangeState where
  | upTo (number : Nat)
  /-- Up to a line that an address fits. -/
  | pending
  | closed
  deriving DecidableEq, Repr

/-- An editor between two steps. -/
structure Editor where
  session : Session
  steps : List EditStep
  isQuiet : Bool
  lineEnd : Char
  /-- How wide lines are when their characters are shown. -/
  width : Nat
  /-- The line that is edited. -/
  space : EditLine
  /-- The line that is held aside. -/
  held : EditLine
  /-- The lines that were not read yet, each with the name of its file. -/
  lines : List (EditLine × Text)
  number : Nat
  name : Text
  hasReplaced : Bool
  ranges : List (Nat × RangeState)
  /-- What is put out behind the line, the last piece first. -/
  queue : List Text
  output : Sink
  files : List (Text × Sink)
  /-- What is left of files that are read line by line. -/
  readers : List (Text × List Text)
  lastPattern : Option Expression

/-- How the steps for a line end. -/
inductive Ending where
  | finished
  | deleted
  /-- The steps are taken again for what is left of the line. -/
  | restarted
  | stopped (code : Nat) (isSilent : Bool)
  deriving DecidableEq, Repr

namespace Editor

/-! ## Output -/

def put (editor : Editor) (t : Text) : Editor := { editor with output := editor.output.put editor.lineEnd t false }

/-- A line is put out; if it had no end it gets none. -/
def putLine (editor : Editor) (line : EditLine) : Editor :=
  let t := if line.hasEnd then line.text ++ [editor.lineEnd] else line.text
  { editor with output := editor.output.put editor.lineEnd t (!line.hasEnd) }

def putFile (editor : Editor) (path : Text) (line : EditLine) : Editor :=
  if path = "/dev/stdout".toList then editor.putLine line
  else
    let t := if line.hasEnd then line.text ++ [editor.lineEnd] else line.text
    { editor with files := editor.files.map fun (other, sink) =>
        (other, if other == path then sink.put editor.lineEnd t (!line.hasEnd) else sink) }

/-- What was to follow the line is put out. -/
def flush (editor : Editor) : Editor :=
  editor.queue.reverse.foldl Editor.put { editor with queue := [] }

/-- The line is put out unless the editor is quiet. -/
def putSpace (editor : Editor) : Editor := if editor.isQuiet then editor else editor.putLine editor.space

/-! ## Input -/

/-- The next line is read, if there is one; what was to follow the line before it is put out first. -/
def nextLine? (editor : Editor) : Option Editor :=
  match editor.lines with
  | [] => none
  | (line, name) :: rest =>
    some { editor.flush with
      space := line, lines := rest, name, number := editor.number + 1, hasReplaced := false }

/-! ## Addresses -/

/-- Where a pattern fits the line from a character on; the pattern is remembered. -/
def find (editor : Editor) (pattern : EditPattern) (first : Nat) : Option Expression.Match × Editor :=
  match pattern.expression, editor.lastPattern with
  | some expression, _ | none, some expression =>
    (expression.findFrom? pattern.mode editor.space.text first, { editor with lastPattern := some expression })
  | none, none => (none, editor)

def fits (editor : Editor) : Address → Bool × Editor
  | .line number => (editor.number == number, editor)
  | .every first step => (editor.number ≥ first && (editor.number - first) % step == 0, editor)
  | .last => (editor.lines.isEmpty, editor)
  | .fitting pattern =>
    let (found, editor) := editor.find pattern 0
    (found.isSome, editor)

def setRange (editor : Editor) (index : Nat) (state : RangeState) : Editor :=
  { editor with ranges := (index, state) :: editor.ranges.filter fun entry => entry.1 != index }

/-- The line is in the range between two addresses. -/
def isInRange (editor : Editor) (index : Nat) (first : Address) (last : AddressEnd) : Bool × Editor :=
  let line := editor.number
  match editor.ranges.lookup index with
  | some (.upTo number) => (line ≤ number, if line ≥ number then editor.setRange index .closed else editor)
  | some .pending =>
    match last with
    | .upTo address =>
      let (isLast, editor) := editor.fits address
      (true, if isLast then editor.setRange index .closed else editor)
    | _ => (true, editor)
  | state =>
    let (isFirst, editor) : Bool × Editor := match first with
      | .line number => (line ≥ number && state != some .closed, editor)
      | first => editor.fits first
    let isExact := match first with
      | .line number => line == number
      | _ => true
    if !isFirst then (false, editor)
    else
      let upTo (number : Nat) : Bool × Editor :=
        if line ≥ number then (isExact || line ≤ number, editor.setRange index .closed)
        else (true, editor.setRange index (.upTo number))
      match last with
      | .further count => upTo (line + count)
      | .multiple factor => upTo (if factor = 0 then line else (line / factor + 1) * factor)
      | .upTo (.line number) => upTo number
      | .upTo _ => (true, editor.setRange index .pending)

def selects (editor : Editor) (step : EditStep) : Bool × Editor :=
  let (isMeant, editor) := match step.selector.first, step.selector.last with
    | none, _ => (true, editor)
    | some first, none => editor.fits first
    | some first, some last => editor.isInRange step.index first last
  (isMeant != step.selector.isInverse, editor)

/-- The line is the last one of the range of a step, or the step has none. -/
def isAtRangeEnd (editor : Editor) (step : EditStep) : Bool :=
  step.selector.last.isNone || step.selector.isInverse ||
    match editor.ranges.lookup step.index with
    | some .closed => true
    | _ => false

/-! ## Substitutions -/

/-- How the case of characters is changed: of all that follow, and of the next one. -/
structure CaseChange where
  all : Option Char
  next : Option Char

def CaseChange.apply (change : CaseChange) (c : Char) : Char :=
  match change.next, change.all with
  | some 'u', _ => c.toUpper
  | some _, _ => c.toLower
  | none, some 'U' => c.toUpper
  | none, some _ => c.toLower
  | none, none => c

/-- What is put in the place of what fitted. -/
def filledReplacement (subject : Text) (found : Expression.Match) (parts : List ReplacementPart) : Text :=
  let putAll (state : Text × CaseChange) (t : Text) : Text × CaseChange :=
    t.foldl (fun (done, change) c => (change.apply c :: done, { change with next := none })) state
  let (done, _) := parts.foldl (fun (done, change) part =>
    match part with
    | .char c => putAll (done, change) [c]
    | .group n => putAll (done, change) (found.text subject n)
    | .letterCase letter =>
      match letter with
      | 'u' | 'l' => (done, { change with next := some letter })
      | 'E' => (done, ⟨none, none⟩)
      | letter => (done, { change with all := some letter })) (([] : Text), (⟨none, none⟩ : CaseChange))
  done.reverse

/-- A text with the places replaced where an expression fits, from some character on; `fuel` bounds the places. -/
def substituted (substitution : Substitution) (expression : Expression) (subject : Text) :
    (fuel count first : Nat) → (isBehindMatch : Bool) → Option Text
  | 0, _, _, _ => none
  | fuel + 1, count, first, isBehindMatch =>
    match expression.findFrom? substitution.pattern.mode subject first with
    | none => none
    | some found =>
      let front := (subject.drop first).take (found.first - first)
      let isEmpty := found.first = found.last
      let step := (subject.drop found.last).take (if isEmpty then 1 else 0)
      let next := if isEmpty then found.last + 1 else found.last
      let isOver := isEmpty && found.last ≥ subject.length
      let rest (count : Nat) (isBehindMatch : Bool) : Option Text :=
        if isOver then none else substituted substitution expression subject fuel count next isBehindMatch
      if isEmpty && isBehindMatch && found.first = first then
        (rest count false).map fun after => front ++ step ++ after
      else if count + 1 < substitution.number then
        (rest (count + 1) (!isEmpty)).map fun after => front ++ found.text subject 0 ++ step ++ after
      else
        let filled := filledReplacement subject found substitution.replacement
        let after := if substitution.isGlobal then rest (count + 1) (!isEmpty) else none
        some (front ++ filled ++ (match after with
          | some after => step ++ after
          | none => subject.drop found.last))

def substitute (editor : Editor) (substitution : Substitution) : Editor :=
  match substitution.pattern.expression.orElse fun _ => editor.lastPattern with
  | none => editor
  | some expression =>
    let editor := { editor with lastPattern := some expression }
    match substituted substitution expression editor.space.text (editor.space.text.length + 2) 0 0 false with
    | none => editor
    | some t =>
      let editor := { editor with space := { editor.space with text := t }, hasReplaced := true }
      let editor := if substitution.isPrinted then editor.putLine editor.space else editor
      match substitution.target with
      | some path => editor.putFile path editor.space
      | none => editor

/-! ## Acts -/

/-- A character as it is shown so that it cannot be mistaken. -/
def shownChar (c : Char) : Text :=
  match c with
  | '\\' => ['\\', '\\']
  | '\x07' => ['\\', 'a']
  | '\x08' => ['\\', 'b']
  | '\x0c' => ['\\', 'f']
  | '\n' => ['\\', 'n']
  | '\r' => ['\\', 'r']
  | '\t' => ['\\', 't']
  | '\x0b' => ['\\', 'v']
  | c =>
    if ' ' ≤ c && c ≤ '~' then [c]
    else
      let digits := Nat.toDigits 8 c.toNat
      '\\' :: (List.replicate (3 - digits.length) '0' ++ digits)

/-- A line with all characters shown, in pieces of which none is too wide; a width below two sets no bound. -/
def shownLine (width : Nat) (line : Text) : Text :=
  let (done, _) := line.foldl (fun ((done, column) : Text × Nat) c =>
    let t := shownChar c
    if width > 1 && column + t.length > width - 1 then (t.reverse ++ '\n' :: '\\' :: done, t.length)
    else (t.reverse ++ done, column + t.length)) ([], 0)
  done.reverse ++ ['$', '\n']

/-- How the steps go on behind one of them. -/
inductive Continuation where
  | next (editor : Editor)
  | branch (label : Text) (editor : Editor)
  | stop (ending : Ending) (editor : Editor)

/-- The line up to its first end of a line, and what follows. -/
def cutSpace (editor : Editor) : Text × Option Text :=
  let (line, rest) := editor.space.text.span (· != editor.lineEnd)
  (line, if rest.isEmpty then none else some (rest.drop 1))

/-- An act that a letter alone names is done. -/
def performSimple (editor : Editor) (letter : Char) : Continuation :=
  let join (a b : Text) : Text := a ++ editor.lineEnd :: b
  match letter with
  | '=' => .next (editor.put (Text.ofNat editor.number ++ ['\n']))
  | 'd' => .stop .deleted editor
  | 'D' =>
    match editor.cutSpace with
    | (_, some rest) => .stop .restarted { editor with space := { editor.space with text := rest } }
    | (_, none) => .stop .deleted editor
  | 'F' => .next (editor.put (editor.name ++ ['\n']))
  | 'g' => .next { editor with space := editor.held }
  | 'G' => .next { editor with space := { editor.space with text := join editor.space.text editor.held.text } }
  | 'h' => .next { editor with held := editor.space }
  | 'H' => .next { editor with held := { editor.held with text := join editor.held.text editor.space.text } }
  | 'x' => .next { editor with space := editor.held, held := editor.space }
  | 'n' =>
    if editor.lines.isEmpty then .stop .finished editor
    else
      match editor.putSpace.nextLine? with
      | some editor => .next editor
      | none => .stop .finished editor
  | 'N' =>
    let before := editor.space.text
    match editor.nextLine? with
    | some editor => .next { editor with space := { editor.space with text := join before editor.space.text } }
    | none => .stop .finished editor
  | 'p' => .next (editor.putLine editor.space)
  | 'P' =>
    match editor.cutSpace with
    | (line, some _) => .next (editor.putLine ⟨line, true⟩)
    | (line, none) => .next (editor.putLine ⟨line, true⟩)
  | 'z' => .next { editor with space := { editor.space with text := [] } }
  | _ => .next editor

/-- The content of a file that is read on the way; nothing if it cannot be read. -/
def readAside (editor : Editor) (path : Text) : Text × Editor :=
  if path = "/dev/stdin".toList then
    let (content, session) := editor.session.takeInput
    (content.toOption.getD [], { editor with session })
  else ((editor.session.readFile path).toOption.getD [], editor)

/-- An act with the path of a file, or with a command, is done. -/
def performWithFile (interpreter : Interpreter) (editor : Editor) (letter : Char) (path : Text) : Continuation :=
  let runCommand (command : Text) : Text × Editor :=
    let (output, session) := editor.session.capture fun session =>
      interpreter.launch ["sh".toList, "-c".toList, command] session
    (output, { editor with session })
  match letter with
  | 'r' =>
    let (content, editor) := editor.readAside path
    .next { editor with queue := content :: editor.queue }
  | 'R' =>
    let (left, editor) : List Text × Editor := match editor.readers.lookup path with
      | some left => (left, editor)
      | none =>
        let (content, editor) := editor.readAside path
        (linesOf content, editor)
    let editor := { editor with readers := (path, left.drop 1) :: editor.readers.filter (·.1 != path) }
    .next { editor with queue := left.take 1 ++ editor.queue }
  | 'w' => .next (editor.putFile path editor.space)
  | 'W' => .next (editor.putFile path ⟨editor.cutSpace.1, true⟩)
  | 'e' =>
    if path.isEmpty then
      let (output, editor) := runCommand editor.space.text
      .next { editor with space := { editor.space with text := bareLine output } }
    else
      let (output, editor) := runCommand path
      .next (editor.put output)
  | _ => .next editor

def perform (interpreter : Interpreter) (editor : Editor) (step : EditStep) : Continuation :=
  match step.act with
  | .nothing | .openBlock | .closeBlock | .label _ => .next editor
  | .branch letter name =>
    if letter = 'b' then .branch name editor
    else if editor.hasReplaced then
      let editor := { editor with hasReplaced := false }
      if letter = 't' then .branch name editor else .next editor
    else if letter = 'T' then .branch name editor
    else .next editor
  | .append t => .next { editor with queue := t :: editor.queue }
  | .insert t => .next (editor.put t)
  | .change t => .stop .deleted (if editor.isAtRangeEnd step then editor.put t else editor)
  | .withNumber letter number =>
    match letter with
    | 'q' => .stop (.stopped (number.getD 0) false) editor
    | 'Q' => .stop (.stopped (number.getD 0) true) editor
    | _ => .next (editor.put (shownLine (number.getD editor.width) editor.space.text))
  | .withFile letter path => performWithFile interpreter editor letter path
  | .substitute substitution => .next (editor.substitute substitution)
  | .exchange sources targets =>
    let pairs := sources.zip targets
    .next { editor with space := { editor.space with
      text := editor.space.text.map fun c => (pairs.lookup c).getD c } }
  | .simple letter => editor.performSimple letter

/-! ## Runs -/

def behindBlock : (depth : Nat) → List EditStep → List EditStep
  | _, [] => []
  | depth, step :: rest =>
    match step.act with
    | .openBlock => behindBlock (depth + 1) rest
    | .closeBlock => if depth = 0 then rest else behindBlock (depth - 1) rest
    | _ => behindBlock depth rest

/-- The steps behind a label; none follow without one. -/
def behindLabel (steps : List EditStep) (name : Text) : List EditStep :=
  if name.isEmpty then [] else (steps.dropWhile fun step => step.act != .label name).drop 1

/-- Takes steps for the line; `fuel` bounds them. -/
def takeSteps (interpreter : Interpreter) : (fuel : Nat) → List EditStep → Editor → Ending × Editor
  | 0, _, editor | _, [], editor => (.finished, editor)
  | fuel + 1, step :: rest, editor =>
    let (isTaken, editor) := editor.selects step
    if !isTaken then
      takeSteps interpreter fuel (if step.act = .openBlock then behindBlock 0 rest else rest) editor
    else
      match editor.perform interpreter step with
      | .next editor => takeSteps interpreter fuel rest editor
      | .branch name editor => takeSteps interpreter fuel (behindLabel editor.steps name) editor
      | .stop ending editor => (ending, editor)

/-- How many steps are taken at most for one line, and how many lines are edited. -/
def stepLimit : Nat := 10000000

/-- Edits lines up to the last one, or up to a step that stops; `fuel` bounds the lines. -/
def runLines (interpreter : Interpreter) : (fuel : Nat) → Option Editor → Editor → Option Nat × Editor
  | 0, _, last | _, none, last => (none, last)
  | fuel + 1, some editor, _ =>
    match takeSteps interpreter stepLimit editor.steps editor with
    | (.finished, editor) =>
      let editor := editor.putSpace.flush
      runLines interpreter fuel editor.nextLine? editor
    | (.deleted, editor) =>
      let editor := editor.flush
      runLines interpreter fuel editor.nextLine? editor
    | (.restarted, editor) =>
      let editor := editor.flush
      runLines interpreter fuel (some editor) editor
    | (.stopped code isSilent, editor) => (some code, if isSilent then editor else editor.putSpace.flush)

/-- Edits all lines; a step that stops gives an exit code. -/
def run (interpreter : Interpreter) (editor : Editor) : Option Nat × Editor :=
  runLines interpreter stepLimit editor.nextLine? editor

/-- The ranges that are open in front of the first line. -/
def startRanges (steps : List EditStep) : List (Nat × RangeState) :=
  steps.filterMap fun step =>
    if step.selector.first = some (.line 0) then some (step.index, .pending) else none

def targetFiles (steps : List EditStep) : List Text :=
  (steps.filterMap fun step =>
    match step.act with
    | .withFile letter path => if letter = 'w' ∨ letter = 'W' then some path else none
    | .substitute substitution => substitution.target
    | _ => none).eraseDups

end Editor

/-! ## The program -/

/-- A piece of a script: where it comes from, and its text. -/
structure ScriptPiece where
  /-- The file in which it stands. -/
  file : Option Text
  text : Text

/-- Where in a script something is wrong: `consumed` characters of all pieces were read. -/
def faultPlace (pieces : List ScriptPiece) (consumed : Option Nat) : Text :=
  let rec go (number left : Nat) : List ScriptPiece → Text
    | [] => []
    | piece :: rest =>
      if left ≤ piece.text.length || rest.isEmpty then
        match piece.file with
        | none => "-e expression #".toList ++ Text.ofNat number ++ ", char ".toList ++
            Text.ofNat (if consumed.isSome then left else 0) ++ [':', ' ']
        | some path => "file ".toList ++ path ++ " line ".toList ++
            Text.ofNat (1 + ((piece.text.take (left - 1)).filter (· == '\n')).length) ++ [':', ' ']
      else go (number + (if piece.file.isNone then 1 else 0)) (left - piece.text.length - 1) rest
  go 1 (consumed.getD 0) pieces

/-- The path of the copy of a file that is kept, for a text that tells what it is called. -/
def keptPath (form path : Text) : Text :=
  let name := lastName path
  let directory := path.take (path.length - name.length)
  let kept := if form.contains '*' then form.flatMap fun c => if c = '*' then name else [c] else name ++ form
  if kept.contains '/' then kept else directory ++ kept

/-- Edits files in place, one after the other. -/
def editInPlace (interpreter : Interpreter) (form : Text) : List Text → Option Nat → Editor → Option Nat × Editor
  | [], code, editor => (code, editor)
  | path :: rest, code, editor =>
    match editor.session.entry path, editor.session.find path with
    | .error cause, _ | .ok (_, .link _), .error cause =>
      let complaint := "can't read ".toList ++ Session.fileFailure path cause
      editInPlace interpreter form rest code { editor with session := editor.session.complain "sed" complaint 2 }
    | .ok _, .ok .directory | .ok _, .ok .device =>
      let complaint := "couldn't edit ".toList ++ path ++ ": not a regular file".toList
      editInPlace interpreter form rest code { editor with session := editor.session.complain "sed" complaint 4 }
    | .ok (place, _), _ =>
      let content := (editor.session.readFile path).toOption.getD []
      let isRunnable := editor.session.isExecutable path
      let lines := (EditLine.ofContent editor.lineEnd content).map fun line => (line, path)
      let (stopped, editor) := Editor.run interpreter { editor with
        lines, number := 0, name := path, output := .empty, ranges := Editor.startRanges editor.steps }
      let session := editor.session
      let session := if form.isEmpty then session
        else match session.entryPlace (keptPath form path) with
          | .ok kept => session.moveBranch place kept
          | .error _ => session
      let tree := (session.tree.withoutBranch place).set place (.file (Bytes.ofPlain editor.output.text))
      let editor := { editor with session := session.withTree (tree.setExecutable place isRunnable) }
      match stopped with
      | some code => (some code, editor)
      | none => editInPlace interpreter form rest none editor

/-- The lines of files, each with the name of its file, up to a file that is a directory. -/
def editedLines (lineEnd : Char) : List Text → Session → List (List (EditLine × Text)) × Session
  | [], session => ([], session)
  | path :: rest, session =>
    match session.readOrTake path with
    | (.ok content, session) =>
      let lines := (EditLine.ofContent lineEnd content).map fun line => (line, path)
      let (others, session) := editedLines lineEnd rest session
      (lines :: others, session)
    | (.error .isDirectory, session) =>
      ([], session.complain "sed" ("read error on ".toList ++ path ++ ": Is a directory".toList) 4)
    | (.error cause, session) =>
      editedLines lineEnd rest (session.complain "sed" ("can't read ".toList ++ Session.fileFailure path cause) 2)

/-- Edits files one after the other and prints the lines. -/
def editApart (interpreter : Interpreter) : List (List (EditLine × Text)) → Option Nat → Editor → Option Nat × Editor
  | [], code, editor => (code, editor)
  | lines :: rest, code, editor =>
    match Editor.run interpreter { editor with lines, number := 0, ranges := Editor.startRanges editor.steps } with
    | (some code, editor) => (some code, editor)
    | (none, editor) => editApart interpreter rest code editor

/-- Edits lines by a script, and prints them or writes them back to their files. -/
def editLines : Utility := fun interpreter arguments session =>
  let grammar : Grammar := ⟨"ne:f:Ei::l:rsuzbp", [("expression", 'e'), ("file", 'f'), ("quiet", 'n'), ("silent", 'n'),
    ("in-place", 'i'), ("regexp-extended", 'E'), ("separate", 's'), ("null-data", 'z'), ("line-length", 'l'),
    ("unbuffered", 'u'), ("posix", 'p'), ("debug", 'u'), ("follow-symlinks", 'u'), ("sandbox", 'u')], false⟩
  let usage (session : Session) : Session :=
    (session.write 2 ("Usage: sed [OPTION]... \x7bscript-only-if-no-other-script\x7d [input-file]...\n").toList).withStatus 1
  match Arguments.read grammar arguments with
  | .error complaint => usage (session.complain "sed" complaint 1)
  | .ok found =>
    let session := session.withStatus 0
    let hasScript := found.has 'e' || found.has 'f'
    if !hasScript && found.operands.isEmpty then usage session
    else
      let given : Except (Text × OsError) (List ScriptPiece) := found.options.filterMapM fun (letter, value) =>
        match letter with
        | 'e' => .ok (some ⟨none, value⟩)
        | 'f' =>
          match (session.readOrTake value).1 with
          | .ok content => .ok (some ⟨some value, bareLine content⟩)
          | .error cause => .error (value, cause)
        | _ => .ok none
      match given with
      | .error (path, cause) =>
        session.complain "sed" ("couldn't open file ".toList ++ Session.fileFailure path cause) 4
      | .ok given =>
        let pieces := if hasScript then given else [⟨none, found.operands.head?.getD []⟩]
        let paths := if hasScript then found.operands else found.operands.drop 1
        let script := Text.joined ['\n'] (pieces.map (·.text))
        let isQuiet := found.has 'n' || script == ['#', 'n'] || script.take 3 == ['#', 'n', '\n']
        match EditStep.readAll (found.has 'E' || found.has 'r') script with
        | .error ⟨rest, complaint⟩ =>
          session.complain "sed" (faultPlace pieces (rest.map fun rest => script.length - rest.length) ++ complaint) 1
        | .ok steps =>
          match EditStep.lostLabel? steps with
          | some name =>
            session.complain "sed" ("can't find label for jump to \x60".toList ++ name ++ ['\'']) 4
          | none =>
            let targets := (Editor.targetFiles steps).filter fun path =>
              path != "/dev/stdout".toList && path != "/dev/stderr".toList
            let opened : Except (Text × OsError) Session := targets.foldlM (fun session path =>
              match session.writeFile path [] false with
              | .ok session => .ok session
              | .error cause => .error (path, cause)) session
            match opened with
            | .error (path, cause) =>
              session.complain "sed" ("couldn't open file ".toList ++ Session.fileFailure path cause) 4
            | .ok session =>
              let lineEnd := if found.has 'z' then '\x00' else '\n'
              let editor (session : Session) : Editor := {
                session, steps, isQuiet, lineEnd
                width := ((found.value? 'l').bind digitsValue?).getD 70
                space := ⟨[], true⟩, held := ⟨[], true⟩, lines := [], number := 0, name := ['-'], hasReplaced := false
                ranges := Editor.startRanges steps
                queue := [], output := .empty, files := targets.map fun path => (path, .empty)
                readers := [], lastPattern := none }
              let finish (code : Option Nat) (editor : Editor) (isPrinted : Bool) : Session :=
                let status := editor.session.status
                let session := editor.files.foldl (fun session (path, sink) =>
                  ((session.writeFile path sink.text true).toOption).getD session) editor.session
                let session := if isPrinted then session.print editor.output.text else session
                session.withStatus (code.getD status)
              if found.has 'i' then
                if paths.isEmpty then session.complain "sed" "no input files".toList 4
                else
                  let (code, editor) := editInPlace interpreter ((found.value? 'i').getD []) paths none (editor session)
                  finish code editor false
              else
                let (parts, session) := editedLines lineEnd (if paths.isEmpty then [['-']] else paths) session
                let parts := if found.has 's' then parts else [parts.flatten]
                let (code, editor) := editApart interpreter parts none (editor session)
                finish code editor true

end LogDiagram.Shell
