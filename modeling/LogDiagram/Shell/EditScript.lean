import LogDiagram.Shell.Arguments
import LogDiagram.Shell.Expression
import LogDiagram.Text.Hexadecimal

/-!
# Scripts that edit lines

A script is a list of steps; each has an address, which says for which lines the step is taken, and an act. A block is a
step that opens it, other steps, and one that closes it.

* `EditStep.readAll` reads a script.
-/

namespace LogDiagram.Shell

/-- What a line has to fit; without an expression, the one that was used last. -/
structure EditPattern where
  expression : Option Expression
  mode : MatchMode
  deriving DecidableEq, Repr

/-- Which lines are meant. -/
inductive Address where
  | line (number : Nat)
  /-- Each line with a number that is so many steps behind the first one. -/
  | every (first step : Nat)
  | last
  | fitting (pattern : EditPattern)
  deriving DecidableEq, Repr

/-- The end of a range of lines. -/
inductive AddressEnd where
  | upTo (address : Address)
  /-- So many lines further. -/
  | further (count : Nat)
  /-- The next line whose number is a multiple. -/
  | multiple (factor : Nat)
  deriving DecidableEq, Repr

/-- The lines for which a step is taken. -/
structure Selector where
  first : Option Address
  last : Option AddressEnd
  isInverse : Bool
  deriving DecidableEq, Repr

/-- A part of what is put in the place of what fitted. -/
inductive ReplacementPart where
  | char (c : Char)
  /-- What a group fitted; the whole is group zero. -/
  | group (number : Nat)
  /-- A change of the case of what follows. -/
  | letterCase (letter : Char)
  deriving DecidableEq, Repr

/-- What is replaced by what. -/
structure Substitution where
  pattern : EditPattern
  replacement : List ReplacementPart
  /-- The first place that is replaced. -/
  number : Nat
  /-- The places behind it are replaced, too. -/
  isGlobal : Bool
  isPrinted : Bool
  /-- The file to which a changed line is written. -/
  target : Option Text
  deriving DecidableEq, Repr

inductive Act where
  | nothing
  | openBlock
  | closeBlock
  | label (name : Text)
  | branch (letter : Char) (name : Text)
  | append (t : Text)
  | insert (t : Text)
  | change (t : Text)
  /-- A number behind the letter: an exit code, or a width. -/
  | withNumber (letter : Char) (number : Option Nat)
  /-- The path of a file behind the letter. -/
  | withFile (letter : Char) (path : Text)
  | substitute (substitution : Substitution)
  | exchange (sources targets : Text)
  /-- An act that a letter alone names. -/
  | simple (letter : Char)
  deriving DecidableEq, Repr

structure EditStep where
  index : Nat
  selector : Selector
  act : Act
  deriving DecidableEq, Repr

/-- What is wrong with a script: what was not read yet, and the complaint. -/
structure ScriptFault where
  rest : Option Text
  complaint : Text

namespace EditStep

def fault {α : Type} (rest : Text) (complaint : String) : Except ScriptFault α :=
  throw ⟨some rest, complaint.toList⟩

def skipSpace (t : Text) : Text := t.dropWhile fun c => c == ' ' || ('\t' ≤ c && c ≤ '\r')

/-! ## Expressions and replacements -/

/-- What stands inside brackets up to the closing one, and what follows; the last character comes first. -/
def skipBrackets (done : Text) (t : Text) : Text × Text :=
  let (done, t) : Text × Text := match t with
    | '^' :: rest => ('^' :: done, rest)
    | t => (done, t)
  let (done, t) : Text × Text := match t with
    | ']' :: rest => (']' :: done, rest)
    | t => (done, t)
  let rec go (done : Text) : (fuel : Nat) → Text → Text × Text
    | 0, t => (done, t)
    | _, [] => (done, [])
    | fuel + 1, c :: rest =>
      match c, rest with
      | ']', rest => (c :: done, rest)
      | '[', mark :: inner =>
        if [':', '.', '='].contains mark then
          match Text.cut? [mark, ']'] inner with
          | some (name, after) => go (']' :: mark :: (name.reverse ++ mark :: '[' :: done)) fuel after
          | none => go (c :: done) fuel rest
        else go (c :: done) fuel rest
      | '\\', 'n' :: rest => go ('\n' :: done) fuel rest
      | c, rest => go (c :: done) fuel rest
  go done (t.length + 1) t

/-- What stands up to a mark, and what follows; a backslash in front of the mark is left out. None without a mark. -/
def upToMark (mark : Char) (isExpression : Bool) : (fuel : Nat) → (done t : Text) → Option (Text × Text)
  | 0, _, _ | _, _, [] => none
  | fuel + 1, done, c :: rest =>
    if c = mark then some (done.reverse, rest)
    else
      match c, rest with
      | '\\', d :: rest =>
        if d = mark then
          upToMark mark isExpression fuel (if !isExpression && d = '&' then d :: '\\' :: done else d :: done) rest
        else upToMark mark isExpression fuel (d :: '\\' :: done) rest
      | '\n', rest => if isExpression then none else upToMark mark isExpression fuel (c :: done) rest
      | '[', rest =>
        if isExpression then
          let (done, rest) := skipBrackets ('[' :: done) rest
          upToMark mark isExpression fuel done rest
        else upToMark mark isExpression fuel (c :: done) rest
      | c, rest => upToMark mark isExpression fuel (c :: done) rest

/-- The number that at most so many digits in front of a text write, and what follows. -/
def readDigits (base : Nat) : (limit : Nat) → Option Nat → Text → Option Nat × Text
  | 0, value, t => (value, t)
  | limit + 1, value, t =>
    match t with
    | c :: rest =>
      match (Text.hexDigit? c).filter (· < base) with
      | some digit => readDigits base limit (some (value.getD 0 * base + digit)) rest
      | none => (value, t)
    | [] => (value, [])

/-- The character for which a text behind a backslash stands by its number, and what follows. -/
def numbered? (t : Text) : Option (Char × Text) :=
  let read (base limit : Nat) (rest : Text) : Option (Char × Text) :=
    match readDigits base limit none rest with
    | (some n, after) => some (Char.ofNat (n % 256), after)
    | _ => none
  match t with
  | 'x' :: rest => read 16 2 rest
  | 'd' :: rest => read 10 3 rest
  | 'o' :: rest => read 8 3 rest
  | 'c' :: c :: rest => some (Char.ofNat (c.toUpper.toNat ^^^ 64), rest)
  | _ => none

/-- An expression in which characters stand for themselves that were written by their numbers; `fuel` bounds it. -/
def withNumbered : (fuel : Nat) → Text → Text
  | 0, _ => []
  | _, [] => []
  | fuel + 1, '\\' :: rest =>
    match numbered? rest with
    | some (c, after) =>
      if "*.[]^$\\+?()|\x7b\x7d".toList.contains c then
        if c = '^' ∨ c = '$' ∨ c = '*' ∨ c = '.' ∨ c = '[' ∨ c = ']' ∨ c = '\\' then '\\' :: c :: withNumbered fuel after
        else '[' :: c :: ']' :: withNumbered fuel after
      else c :: withNumbered fuel after
    | none =>
      match rest with
      | d :: rest => '\\' :: d :: withNumbered fuel rest
      | [] => ['\\']
  | fuel + 1, c :: rest => c :: withNumbered fuel rest

/-- The expression that a text writes; an empty one stands for the last one. -/
def readPattern (isExtended : Bool) (t : Text) (flags : List Char) (rest : Text) : Except ScriptFault EditPattern :=
  let mode : MatchMode := ⟨flags.contains 'I' || flags.contains 'i', flags.contains 'M' || flags.contains 'm'⟩
  if t.isEmpty then .ok ⟨none, mode⟩
  else
    match Expression.read ⟨isExtended, true⟩ (withNumbered (t.length + 1) t) with
    | .ok expression => .ok ⟨some expression, mode⟩
    | .error complaint => .error ⟨some rest, complaint⟩

/-- The parts of a replacement; `fuel` bounds them. -/
def readReplacement : (fuel : Nat) → Text → List ReplacementPart
  | 0, _ => []
  | _, [] => []
  | fuel + 1, c :: rest =>
    match c, rest with
    | '&', rest => .group 0 :: readReplacement fuel rest
    | '\\', d :: after =>
      if d.isDigit then .group (d.toNat - '0'.toNat) :: readReplacement fuel after
      else if ['U', 'L', 'u', 'l', 'E'].contains d then .letterCase d :: readReplacement fuel after
      else
        match numbered? rest, Expression.escaped? d with
        | some (c, after), _ => .char c :: readReplacement fuel after
        | none, some c => .char c :: readReplacement fuel after
        | none, none => .char d :: readReplacement fuel after
    | c, rest => .char c :: readReplacement fuel rest

def highestGroup (parts : List ReplacementPart) : Nat :=
  parts.foldl (fun highest part =>
    match part with
    | .group n => max highest n
    | _ => highest) 0

def groupCount : Expression → Nat
  | .group _ inner => groupCount inner + 1
  | .sequence first second | .either first second => groupCount first + groupCount second
  | .repeated inner _ _ => groupCount inner
  | _ => 0

/-! ## Addresses -/

def readNumber (t : Text) : Nat × Text :=
  let (digits, rest) := t.span Char.isDigit
  ((digitsValue? digits).getD 0, rest)

/-- The letters behind an expression of an address, and what follows. -/
def readFlags (t : Text) : List Char × Text := t.span fun c => c == 'I' || c == 'M'

def readAddress? (isExtended : Bool) (t : Text) : Except ScriptFault (Option (Address × Text)) :=
  let fitting (mark : Char) (rest : Text) : Except ScriptFault (Option (Address × Text)) :=
    match upToMark mark true (rest.length + 1) [] rest with
    | none => fault [] "unterminated address regex"
    | some (body, rest) => do
      let (flags, rest) := readFlags rest
      return some (.fitting (← readPattern isExtended body flags rest), rest)
  match t with
  | '$' :: rest => .ok (some (.last, rest))
  | '/' :: rest => fitting '/' rest
  | '\\' :: mark :: rest => fitting mark rest
  | c :: _ =>
    if c.isDigit then
      let (number, rest) := readNumber t
      match behindBlanks rest with
      | '~' :: after =>
        let (step, rest) := readNumber after
        .ok (some (if step = 0 then .line number else .every number step, rest))
      | _ => .ok (some (.line number, rest))
    else .ok none
  | [] => .ok none

/-- The lines for which a step is taken, and what follows. -/
def readSelector (isExtended : Bool) (t : Text) : Except ScriptFault (Selector × Text) := do
  match ← readAddress? isExtended t with
  | none =>
    match t with
    | '!' :: rest => return (⟨none, none, true⟩, behindBlanks rest)
    | t => return (⟨none, none, false⟩, t)
  | some (first, rest) =>
    let (last, rest) : Option AddressEnd × Text ← match behindBlanks rest with
      | ',' :: after =>
        match behindBlanks after with
        | '+' :: digits =>
          let (count, rest) := readNumber digits
          pure (some (.further count), rest)
        | '~' :: digits =>
          let (factor, rest) := readNumber digits
          pure (some (.multiple factor), rest)
        | after =>
          match ← readAddress? isExtended after with
          | some (address, rest) => pure (some (.upTo address), rest)
          | none => fault (after.drop 1) "unexpected \x60,'"
      | _ => pure (none, rest)
    let isZeroWrong := first = .line 0 && (match last with
      | some (.upTo (.fitting _)) => false
      | _ => true)
    let rest := behindBlanks rest
    if isZeroWrong then fault (rest.drop 1) "invalid usage of line address 0"
    match rest with
    | '!' :: rest =>
      match behindBlanks rest with
      | '!' :: rest => fault rest "multiple \x60!'s"
      | rest => return (⟨some first, last, true⟩, rest)
    | rest => return (⟨some first, last, false⟩, rest)

/-! ## Acts -/

/-- What follows an act: nothing else may stand on its line but a comment or the end of a block. -/
def endAct (t : Text) : Except ScriptFault Text :=
  match behindBlanks t with
  | [] => .ok []
  | '\n' :: rest | ';' :: rest => .ok rest
  | '\x7d' :: rest => .ok ('\x7d' :: rest)
  | '#' :: rest => .ok ('#' :: rest)
  | _ :: rest => fault rest "extra characters after command"

def restOfLine (t : Text) : Text × Text :=
  let (line, rest) := t.span (· != '\n')
  (line, rest.drop 1)

/-- A text up to the first end of a line without a backslash in front; other backslashes are left out. -/
def readLines : (fuel : Nat) → (done : Text) → Text → Text × Text
  | 0, done, t => (done.reverse, t)
  | _, done, [] => (done.reverse, [])
  | fuel + 1, done, c :: rest =>
    match c, rest with
    | '\n', rest => (done.reverse, rest)
    | '\\', d :: after =>
      match numbered? rest, Expression.escaped? d with
      | some (c, after), _ => readLines fuel (c :: done) after
      | none, some c => readLines fuel (c :: done) after
      | none, none => readLines fuel (d :: done) after
    | '\\', [] => (done.reverse, [])
    | c, rest => readLines fuel (c :: done) rest

def readAdded (t : Text) : Except ScriptFault (Text × Text) :=
  let finish (t : Text) : Text × Text :=
    let (body, rest) := readLines (t.length + 1) [] t
    (body ++ ['\n'], rest)
  match skipSpace t with
  | [] => fault [] "expected \\ after \x60a', \x60c' or \x60i'"
  | '\\' :: rest =>
    match behindBlanks rest with
    | [] => .ok ([], [])
    | '\n' :: body => .ok (if body.isEmpty then ([], []) else finish body)
    | _ => .ok (finish rest)
  | body => .ok (finish body)

def readLabel (t : Text) : Text × Text :=
  (behindBlanks t).span fun c => !isBlankCharacter c && c != ';' && c != '\x7d'
where
  /-- A blank or the end of a line. -/
  isBlankCharacter (c : Char) : Bool := c == ' ' || ('\t' ≤ c && c ≤ '\r')

/-- The letters behind a substitution; a `w` takes the rest of the line as the path of a file. -/
def readOptions : (fuel : Nat) → (flags : List Char) → (number : Option Nat) → Text →
    Except ScriptFault ((List Char × Option Nat × Option Text) × Text)
  | 0, flags, number, t => .ok ((flags, number, none), t)
  | fuel + 1, flags, number, t =>
    match t with
    | [] => .ok ((flags, number, none), [])
    | c :: rest =>
      if c = 'w' then
        let (path, rest) := restOfLine (behindBlanks rest)
        if path.isEmpty then fault rest "missing filename in r/R/w/W commands"
        else .ok ((flags, number, some path), rest)
      else if c.isDigit then
        let (n, after) := readNumber t
        if n = 0 then fault after "number option to \x60s' command may not be zero"
        else if number.isSome then fault after "multiple number options to \x60s' command"
        else readOptions fuel flags (some n) after
      else if c = 'g' ∨ c = 'p' then
        if flags.contains c then
          .error ⟨some rest, "multiple \x60".toList ++ c :: "' options to \x60s' command".toList⟩
        else readOptions fuel (c :: flags) number rest
      else if ['i', 'I', 'm', 'M', 'e'].contains c then readOptions fuel (c :: flags) number rest
      else if c = '\n' ∨ c = ';' then .ok ((flags, number, none), rest)
      else if c = '\x7d' ∨ c = '#' then .ok ((flags, number, none), t)
      else if c = ' ' ∨ c = '\t' ∨ c = '\r' then readOptions fuel flags number rest
      else fault rest "unknown option to \x60s'"

def readSubstitution (isExtended : Bool) (t : Text) : Except ScriptFault (Act × Text) := do
  match t with
  | [] => fault [] "unterminated \x60s' command"
  | mark :: rest =>
    match upToMark mark true (rest.length + 1) [] rest with
    | none => fault [] "unterminated \x60s' command"
    | some (body, rest) =>
      match upToMark mark false (rest.length + 1) [] rest with
      | none => fault [] "unterminated \x60s' command"
      | some (replacement, rest) =>
        let ((flags, number, target), rest) ← readOptions (rest.length + 1) [] none rest
        let parts := readReplacement (replacement.length + 1) replacement
        let pattern ← readPattern isExtended body flags rest
        let highest := highestGroup parts
        if pattern.expression.any fun expression => groupCount expression < highest then
          throw ⟨some rest, "invalid reference \\".toList ++ Text.ofNat highest ++ " on \x60s' command's RHS".toList⟩
        return (.substitute {
          pattern
          replacement := parts
          number := number.getD 1
          isGlobal := flags.contains 'g'
          isPrinted := flags.contains 'p'
          target }, rest)

/-- The characters that a list for an exchange writes. -/
def exchangeChars : Text → Text
  | '\\' :: '\\' :: rest => '\\' :: exchangeChars rest
  | '\\' :: c :: rest => ((Expression.escaped? c).map fun d => d :: exchangeChars rest).getD ('\\' :: c :: exchangeChars rest)
  | c :: rest => c :: exchangeChars rest
  | [] => []

def readExchange (t : Text) : Except ScriptFault (Act × Text) := do
  match t with
  | [] => fault [] "unterminated \x60y' command"
  | mark :: rest =>
    match upToMark mark false (rest.length + 1) [] rest with
    | none => fault [] "unterminated \x60y' command"
    | some (sources, rest) =>
      match upToMark mark false (rest.length + 1) [] rest with
      | none => fault [] "unterminated \x60y' command"
      | some (targets, rest) =>
        let sources := exchangeChars sources
        let targets := exchangeChars targets
        if sources.length ≠ targets.length then fault rest "strings for \x60y' command are different lengths"
        return (.exchange sources targets, ← endAct rest)

def readAct (isExtended hasAddress : Bool) (t : Text) : Except ScriptFault (Act × Text) := do
  match t with
  | [] => fault [] "missing command"
  | letter :: rest =>
    if letter = '\x7b' then return (.openBlock, rest)
    else if letter = '\x7d' then
      if hasAddress then fault rest "unexpected address"
      return (.closeBlock, ← endAct rest)
    else if letter = '#' then
      if hasAddress then fault rest "comments don't accept any addresses"
      return (.nothing, (restOfLine rest).2)
    else if letter = ':' then
      if hasAddress then fault rest ": doesn't want any addresses"
      let (name, after) := (behindBlanks rest).span fun c => !readLabel.isBlankCharacter c && c != ';'
      if name.isEmpty then fault after "\":\" lacks a label"
      return (.label name, ← endAct after)
    else if letter = 'b' ∨ letter = 't' ∨ letter = 'T' then
      let (name, after) := readLabel rest
      return (.branch letter name, ← endAct after)
    else if letter = 'a' ∨ letter = 'i' ∨ letter = 'c' then
      let (added, after) ← readAdded rest
      return (if letter = 'a' then .append added else if letter = 'i' then .insert added else .change added, after)
    else if ['q', 'Q', 'l', 'L'].contains letter then
      let (digits, after) := (behindBlanks rest).span Char.isDigit
      return (.withNumber letter (digitsValue? digits), ← endAct after)
    else if ['r', 'R', 'w', 'W'].contains letter then
      let (path, after) := restOfLine (behindBlanks rest)
      if path.isEmpty then fault after "missing filename in r/R/w/W commands"
      return (.withFile letter path, after)
    else if letter = 'e' then
      let (command, after) := restOfLine (behindBlanks rest)
      return (.withFile 'e' command, after)
    else if letter = 'v' then return (.nothing, (restOfLine rest).2)
    else if letter = 's' then readSubstitution isExtended rest
    else if letter = 'y' then readExchange rest
    else if "=dDFgGhHnNpPxz".toList.contains letter then return (.simple letter, ← endAct rest)
    else .error ⟨some rest, "unknown command: \x60".toList ++ [letter, '\'']⟩

/-! ## Scripts -/

/-- The steps of a script; `depth` tells how many blocks are open, and `fuel` bounds the steps. -/
def readFrom (isExtended : Bool) : (fuel index depth : Nat) → Text → Except ScriptFault (List EditStep)
  | 0, _, _, _ => .ok []
  | fuel + 1, index, depth, t => do
    match t.dropWhile fun c => readLabel.isBlankCharacter c || c == ';' with
    | [] => if depth = 0 then return [] else throw ⟨none, "unmatched \x60\x7b'".toList⟩
    | t =>
      let (selector, rest) ← readSelector isExtended t
      let (act, after) ← readAct isExtended selector.first.isSome (behindBlanks rest)
      let depth ← match act with
        | .openBlock => pure (depth + 1)
        | .closeBlock => if depth = 0 then fault (behindBlanks rest |>.drop 1) "unexpected \x60\x7d'" else pure (depth - 1)
        | _ => pure depth
      return ⟨index, selector, act⟩ :: (← readFrom isExtended fuel (index + 1) depth after)

def lostLabel? (steps : List EditStep) : Option Text :=
  steps.findSome? fun step =>
    match step.act with
    | .branch _ name => if name.isEmpty || steps.any fun other => other.act == .label name then none else some name
    | _ => none

def readAll (isExtended : Bool) (t : Text) : Except ScriptFault (List EditStep) := readFrom isExtended (t.length + 1) 0 0 t

end EditStep

end LogDiagram.Shell
