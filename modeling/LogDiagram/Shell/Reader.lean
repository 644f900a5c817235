import LogDiagram.Shell.Basic

/-!
# Reading scripts

The grammar of a script, read character by character. Quotes and backslashes take the meaning from characters, a dollar
sign names a parameter, a command whose output is meant or an expression of numbers, and a number sign in front of a
word starts a comment.

* `Script.readLine` reads the commands up to the end of a line; what stands behind a faulty line does not matter to
  those in front of it.

The readers take fuel, which every step uses up; `readFuel` is more than a text can use.
-/

namespace LogDiagram.Shell

/-! ## Blanks and reserved words -/

/-- A character that ends a word. -/
def isMeta (c : Char) : Bool := [' ', '\t', '\n', ';', '&', '|', '<', '>', '(', ')'].contains c

def skipBlanks : Text → Text
  | ' ' :: rest | '\t' :: rest => skipBlanks rest
  | '\\' :: '\n' :: rest => skipBlanks rest
  | '#' :: rest => rest.dropWhile (· != '\n')
  | t => t

/-- A text behind blanks, comments and ends of lines; `fuel` bounds the lines. -/
def skipLines : (fuel : Nat) → Text → Text
  | 0, t => t
  | fuel + 1, t =>
    match skipBlanks t with
    | '\n' :: rest => skipLines fuel rest
    | t => t

/-- A text behind blanks and, inside of other commands, ends of lines. -/
def skipSpace (isLine : Bool) (t : Text) : Text := if isLine then skipBlanks t else skipLines t.length t

def afterReserved? (name : String) (t : Text) : Option Text :=
  match Text.afterPrefix? name.toList t with
  | some [] => some []
  | some (c :: rest) => if isMeta c then some (c :: rest) else none
  | none => none

/-- What stands behind a reserved word that may be on a new line. -/
def afterReservedLine? (name : String) (t : Text) : Option Text := afterReserved? name (skipLines t.length t)

/-- The words that end a list of commands. -/
def closers : List String := ["then", "elif", "else", "fi", "do", "done", "esac", "\x7d"]

/-- A list of commands ends here. -/
def closes (t : Text) : Bool :=
  match t with
  | [] => true
  | ')' :: _ => true
  | ';' :: ';' :: _ => true
  | t => closers.any fun name => (afterReserved? name t).isSome

/-! ## Words -/

/-- Where a part of a word stands. -/
inductive Context where
  | plain
  /-- In double quotes. -/
  | double
  /-- In braces behind the name of a parameter. -/
  | braces (isQuoted : Bool)
  /-- In an expression of numbers, inside so many parentheses. -/
  | arithmetic (depth : Nat)
  /-- In a text that a command reads. -/
  | document
  deriving DecidableEq, Repr

namespace Context

/-- What comes out of parameters is not taken apart. -/
def isQuoted : Context → Bool
  | plain => false
  | double | arithmetic _ | document => true
  | braces isQuoted => isQuoted

/-- Single quotes take the meaning from characters. -/
def hasSingleQuotes : Context → Bool
  | plain | braces false => true
  | _ => false

/-- A backslash takes the meaning from a character. -/
def frees (context : Context) (c : Char) : Bool :=
  match context with
  | plain | braces false => true
  | double => ['$', '\\', '"', backQuote].contains c
  | braces true => ['$', '\\', '"', backQuote, '\x7d'].contains c
  | arithmetic _ | document => ['$', '\\', backQuote].contains c

end Context

/-- A word in front of a text, given last part first. -/
abbrev ReadWord := Word × Text

/-- The characters up to a single quote, and what stands behind it. -/
def readSingle : (done : Word) → Text → Option ReadWord
  | _, [] => none
  | done, '\'' :: rest => some (done, rest)
  | done, c :: rest => readSingle (.char c true :: done) rest

/-- The script between quotes that lean back, and what stands behind them. -/
def readBackQuoted (isQuoted : Bool) : (done : Text) → Text → Option (Text × Text)
  | _, [] => none
  | done, '\\' :: c :: rest =>
    if ['$', '\\', backQuote].contains c || (isQuoted && c = '"') then readBackQuoted isQuoted (c :: done) rest
    else readBackQuoted isQuoted (c :: '\\' :: done) rest
  | done, c :: rest => if c = backQuote then some (done.reverse, rest) else readBackQuoted isQuoted (c :: done) rest

def readName? (t : Text) : Option (Text × Text) :=
  match t with
  | [] => none
  | c :: rest =>
    if c.isDigit then some (t.span Char.isDigit)
    else if isNameChar c then some (t.span isNameChar)
    else if isSpecial c then some ([c], rest)
    else none

def readOperation? : Text → Option (Operation × Text)
  | '\x7d' :: rest => some (.value, '\x7d' :: rest)
  | ':' :: '-' :: rest => some (.orElse true, rest)
  | '-' :: rest => some (.orElse false, rest)
  | ':' :: '=' :: rest => some (.orAssign true, rest)
  | '=' :: rest => some (.orAssign false, rest)
  | ':' :: '?' :: rest => some (.orFail true, rest)
  | '?' :: rest => some (.orFail false, rest)
  | ':' :: '+' :: rest => some (.ifSet true, rest)
  | '+' :: rest => some (.ifSet false, rest)
  | '%' :: '%' :: rest => some (.withoutEnd true, rest)
  | '%' :: rest => some (.withoutEnd false, rest)
  | '#' :: '#' :: rest => some (.withoutStart true, rest)
  | '#' :: rest => some (.withoutStart false, rest)
  | _ => none

/-- The parameter and the operation behind an opening brace; none for something else. -/
def readParameter? (t : Text) : Option (Text × Operation × Text) :=
  let named (t : Text) : Option (Text × Operation × Text) :=
    match readName? t with
    | some (name, rest) => (readOperation? rest).map fun (operation, rest) => (name, operation, rest)
    | none => none
  match t with
  | '#' :: '\x7d' :: rest => some (['#'], .value, '\x7d' :: rest)
  | '#' :: rest =>
    match readName? rest with
    | some (name, '\x7d' :: rest) => some (name, .length, '\x7d' :: rest)
    | _ => named t
  | _ => named t

/-! ## Texts that commands read -/

/-- The word that ends such a text, whether a part of it is quoted, and what stands behind the word. -/
def readDelimiter : (fuel : Nat) → (done : Text) → (isQuoted : Bool) → Text → Text × Bool × Text
  | 0, done, isQuoted, t => (done.reverse, isQuoted, t)
  | fuel + 1, done, isQuoted, t =>
    match t with
    | [] => (done.reverse, isQuoted, [])
    | '\\' :: c :: rest => readDelimiter fuel (c :: done) true rest
    | '\'' :: rest =>
      let (inner, rest) := rest.span (· != '\'')
      readDelimiter fuel (inner.reverse ++ done) true rest.tail
    | '"' :: rest =>
      let (inner, rest) := rest.span (· != '"')
      readDelimiter fuel (inner.reverse ++ done) true rest.tail
    | c :: rest => if isMeta c then (done.reverse, isQuoted, t) else readDelimiter fuel (c :: done) isQuoted rest

/-- The lines up to the one that ends such a text, each without tabs in front if `isIndented`, and those behind it. -/
def documentLines (isIndented : Bool) (delimiter : Text) : (fuel : Nat) → Text → Text × Text
  | 0, t => ([], t)
  | _, [] => ([], [])
  | fuel + 1, t =>
    let (line, rest) := t.span (· != '\n')
    let line := if isIndented then line.dropWhile (· == '\t') else line
    if line = delimiter then ([], rest.tail)
    else
      match rest with
      | [] => (line, [])
      | _ :: rest =>
        let (more, rest) := documentLines isIndented delimiter fuel rest
        (line ++ '\n' :: more, rest)

/-- A text that starts on the next line, and what is left without it. -/
def takeDocument (isIndented : Bool) (delimiter t : Text) : Text × Text :=
  let (line, rest) := t.span (· != '\n')
  let (content, rest) := documentLines isIndented delimiter (rest.length + 1) rest.tail
  (content, line ++ '\n' :: rest)

/-! ## Redirections -/

inductive RedirectionSign where
  | kind (kind : RedirectionKind)
  /-- A text that starts on the next line. -/
  | document (isIndented : Bool)
  deriving DecidableEq, Repr

/-- The operator in front of a text, with the stream that it is about if none is named. -/
def readSign? : Text → Option (RedirectionSign × Nat × Text)
  | '<' :: '<' :: '-' :: rest => some (.document true, 0, rest)
  | '<' :: '<' :: rest => some (.document false, 0, rest)
  | '<' :: '&' :: rest => some (.kind .duplicate, 0, rest)
  | '<' :: '>' :: rest => some (.kind .inputOutput, 0, rest)
  | '<' :: rest => some (.kind .input, 0, rest)
  | '>' :: '>' :: rest => some (.kind .append, 1, rest)
  | '>' :: '&' :: rest => some (.kind .duplicate, 1, rest)
  | '>' :: '|' :: rest => some (.kind (.output true), 1, rest)
  | '>' :: rest => some (.kind (.output false), 1, rest)
  | _ => none

/-- The operator in front of a text with the stream that it is about; a number right in front names the stream. -/
def readStreamSign? (t : Text) : Option (RedirectionSign × Nat × Text) :=
  let (digits, rest) := t.span Char.isDigit
  match digits with
  | [] => readSign? t
  | _ =>
    (readSign? rest).map fun (sign, _, rest) =>
      (sign, digits.foldl (fun n c => n * 10 + (c.toNat - '0'.toNat)) 0, rest)

/-! ## Commands -/

/-- What a simple command has so far, each list with its last element in front. -/
structure Simple where
  assignments : List (Text × Word)
  words : List Word
  redirections : List Redirection

namespace Simple

/-- A simple command without any part. -/
def empty : Simple := ⟨[], [], []⟩

/-- One more word: an assignment if it looks like one and no other word stands in front. -/
def put (simple : Simple) (word : Word) : Simple :=
  match simple.words, word.assignment? [] with
  | [], some assignment => { simple with assignments := assignment :: simple.assignments }
  | _, _ => { simple with words := word :: simple.words }

/-- The command of the parts; none if there is no part. -/
def command? (simple : Simple) : Option Command :=
  match simple with
  | ⟨[], [], []⟩ => none
  | ⟨assignments, words, redirections⟩ => some (.simple assignments.reverse words.reverse redirections.reverse)

/-- The name of a command that is about to be defined. -/
def name? (simple : Simple) : Option Text :=
  match simple with
  | ⟨[], [word], []⟩ => word.bare?.filter isName
  | _ => none

end Simple

abbrev ReadCommand := Command × Text

mutual

/-- The parts of a word, last one first, behind those that are done. -/
def readParts (fuel : Nat) (context : Context) (done : Word) (t : Text) : Option ReadWord :=
  match fuel with
  | 0 => none
  | fuel + 1 =>
    match t with
    | [] => if context = .plain ∨ context = .document then some (done, []) else none
    | '\\' :: '\n' :: rest => readParts fuel context done rest
    | '\\' :: c :: rest =>
      if context.frees c then readParts fuel context (.char c true :: done) rest
      else readParts fuel context (.char '\\' true :: done) (c :: rest)
    | c :: rest =>
      if c = '$' then do
        let (part, rest) ← readDollar fuel context.isQuoted rest
        readParts fuel context (part :: done) rest
      else if c = backQuote then do
        let (script, rest) ← readBackQuoted context.isQuoted [] rest
        let body ← readWhole fuel script
        readParts fuel context (.output body context.isQuoted :: done) rest
      else if c = '\'' && context.hasSingleQuotes then do
        let (done, rest) ← readSingle (.quotes :: done) rest
        readParts fuel context done rest
      else if c = '"' && context = .double then some (done, rest)
      else if c = '"' && context != .document then do
        let (done, rest) ← readParts fuel .double (.quotes :: done) rest
        readParts fuel context done rest
      else
        match context with
        | .plain => if isMeta c then some (done, t) else readParts fuel context (.char c false :: done) rest
        | .braces isQuoted =>
          if c = '\x7d' then some (done, rest) else readParts fuel context (.char c isQuoted :: done) rest
        | .arithmetic depth =>
          if c = '(' then readParts fuel (.arithmetic (depth + 1)) (.char c true :: done) rest
          else if c = ')' then
            match depth, rest with
            | depth + 1, _ => readParts fuel (.arithmetic depth) (.char c true :: done) rest
            | 0, ')' :: rest => some (done, rest)
            | 0, _ => none
          else readParts fuel context (.char c true :: done) rest
        | .double | .document => readParts fuel context (.char c true :: done) rest

/-- What a dollar sign stands for with the text behind it, and what follows. -/
def readDollar (fuel : Nat) (isQuoted : Bool) (t : Text) : Option (WordPart × Text) :=
  match fuel with
  | 0 => none
  | fuel + 1 =>
    match t with
    | '(' :: '(' :: rest => do
      let (expression, rest) ← readParts fuel (.arithmetic 0) [] rest
      return (.arithmetic expression.reverse isQuoted, rest)
    | '(' :: rest => do
      let rest := skipLines rest.length rest
      let (body, rest) ← match rest with
        | ')' :: _ => some (Command.nothing, rest)
        | _ => readList fuel false rest
      match rest with
      | ')' :: rest => return (.output body isQuoted, rest)
      | _ => none
    | '\x7b' :: rest =>
      match readParameter? rest with
      | none => do
        let (_, rest) ← readParts fuel (.braces isQuoted) [] rest
        return (.malformed, rest)
      | some (name, operation, rest) => do
        let isCut := match operation with
          | .withoutEnd _ | .withoutStart _ => true
          | _ => false
        let (word, rest) ← readParts fuel (.braces (isQuoted && !isCut)) [] rest
        return (.parameter name operation (Word.withHome false word.reverse) isQuoted, rest)
    | c :: rest =>
      if isName [c] then
        let (name, rest) := t.span isNameChar
        some (.parameter name .value [] isQuoted, rest)
      else if isSpecial c then some (.parameter [c] .value [] isQuoted, rest)
      else some (.char '$' isQuoted, t)
    | [] => some (.char '$' isQuoted, t)

def readWord (fuel : Nat) (t : Text) : Option ReadWord :=
  match fuel with
  | 0 => none
  | fuel + 1 =>
    match t with
    | [] => none
    | c :: _ =>
      if isMeta c then none
      else
        (readParts fuel .plain [] t).map fun (word, rest) => (Word.withHome false word.reverse, rest)

def readWhole (fuel : Nat) (t : Text) : Option Command :=
  match fuel with
  | 0 => none
  | fuel + 1 =>
    match skipLines t.length t with
    | [] => some .nothing
    | t =>
      match readList fuel false t with
      | some (command, []) => some command
      | _ => none

/-- A redirection in front of a text; `some none` if there is none. -/
def readRedirection (fuel : Nat) (t : Text) : Option (Option (Redirection × Text)) :=
  match fuel with
  | 0 => none
  | fuel + 1 =>
    match readStreamSign? t with
    | none => some none
    | some (.kind kind, stream, rest) => do
      let (target, rest) ← readWord fuel (skipBlanks rest)
      return some (⟨stream, kind, target⟩, rest)
    | some (.document isIndented, stream, rest) => do
      let rest := skipBlanks rest
      let (delimiter, isQuoted, after) := readDelimiter (rest.length + 1) [] false rest
      if after.length = rest.length then none
      else
        let (content, rest) := takeDocument isIndented delimiter after
        let word ← if isQuoted then some (content.map fun c => WordPart.char c true)
          else (readParts fuel .document [] content).map fun (word, _) => word.reverse
        return some (⟨stream, .document, word⟩, rest)

def readRedirections (fuel : Nat) (t : Text) : Option (List Redirection × Text) :=
  match fuel with
  | 0 => none
  | fuel + 1 => do
    match ← readRedirection fuel (skipBlanks t) with
    | none => return ([], t)
    | some (redirection, rest) =>
      let (more, rest) ← readRedirections fuel rest
      return (redirection :: more, rest)

/-- A list of commands; `isLine` tells whether an end of a line ends it. -/
def readList (fuel : Nat) (isLine : Bool) (t : Text) : Option ReadCommand :=
  match fuel with
  | 0 => none
  | fuel + 1 => do
    let (first, rest) ← readChain fuel (skipSpace isLine t)
    readListFrom fuel isLine first rest

def readListFrom (fuel : Nat) (isLine : Bool) (first : Command) (t : Text) : Option ReadCommand :=
  match fuel with
  | 0 => none
  | fuel + 1 =>
    let goOn (first : Command) (rest : Text) : Option ReadCommand :=
      let rest := skipSpace isLine rest
      if closes rest || rest.head? == some '\n' then some (first, rest)
      else do
        let (second, rest) ← readChain fuel rest
        readListFrom fuel isLine (.sequence first second) rest
    match skipBlanks t with
    | '&' :: rest => goOn (.background first) rest
    | ';' :: ';' :: rest => some (first, ';' :: ';' :: rest)
    | ';' :: rest => goOn first rest
    | '\n' :: rest => if isLine then some (first, '\n' :: rest) else goOn first rest
    | rest => some (first, rest)

/-- Commands that run if the one before succeeds, or fails. -/
def readChain (fuel : Nat) (t : Text) : Option ReadCommand :=
  match fuel with
  | 0 => none
  | fuel + 1 => do
    let (first, rest) ← readPipeline fuel t
    readChainFrom fuel first rest

def readChainFrom (fuel : Nat) (first : Command) (t : Text) : Option ReadCommand :=
  match fuel with
  | 0 => none
  | fuel + 1 =>
    match skipBlanks t with
    | '&' :: '&' :: rest => do
      let (second, rest) ← readPipeline fuel (skipLines rest.length rest)
      readChainFrom fuel (.both first second) rest
    | '|' :: '|' :: rest => do
      let (second, rest) ← readPipeline fuel (skipLines rest.length rest)
      readChainFrom fuel (.either first second) rest
    | rest => some (first, rest)

def readPipeline (fuel : Nat) (t : Text) : Option ReadCommand :=
  match fuel with
  | 0 => none
  | fuel + 1 =>
    match afterReserved? "!" (skipBlanks t) with
    | some rest => (readPipeline fuel rest).map fun (body, rest) => (.negated body, rest)
    | none => do
      let (stages, rest) ← readStages fuel t
      match stages with
      | [stage] => return (stage, rest)
      | stages => return (.pipe stages, rest)

def readStages (fuel : Nat) (t : Text) : Option (List Command × Text) :=
  match fuel with
  | 0 => none
  | fuel + 1 => do
    let (first, rest) ← readCommand fuel (skipBlanks t)
    match skipBlanks rest with
    | '|' :: '|' :: _ => return ([first], rest)
    | '|' :: rest =>
      let (more, rest) ← readStages fuel (skipLines rest.length rest)
      return (first :: more, rest)
    | rest => return ([first], rest)

/-- A command without operators around it. -/
def readCommand (fuel : Nat) (t : Text) : Option ReadCommand :=
  match fuel with
  | 0 => none
  | fuel + 1 =>
    let finish (found : Option ReadCommand) : Option ReadCommand := do
      let (body, rest) ← found
      let (redirections, rest) ← readRedirections fuel rest
      return (if redirections.isEmpty then body else .redirected body redirections, rest)
    match t with
    | '(' :: rest => finish (do
        match ← readList fuel false rest with
        | (body, ')' :: rest) => return (.enclosed body, rest)
        | _ => none)
    | _ =>
      if closes t then none
      else
        match ["\x7b", "if", "while", "until", "for", "case"].findSome? fun name =>
            (afterReserved? name t).map fun rest => (name, rest) with
        | none => readSimple fuel .empty t
        | some ("\x7b", rest) => finish (do
            let (body, rest) ← readList fuel false rest
            return (body, ← afterReserved? "\x7d" rest))
        | some ("if", rest) => finish (readBranch fuel rest)
        | some ("while", rest) => finish (readLoop fuel false rest)
        | some ("until", rest) => finish (readLoop fuel true rest)
        | some ("for", rest) => finish (readEach fuel (skipBlanks rest))
        | some (_, rest) => finish (readSelect fuel (skipBlanks rest))

def readSimple (fuel : Nat) (simple : Simple) (t : Text) : Option ReadCommand :=
  match fuel with
  | 0 => none
  | fuel + 1 => do
    let t := skipBlanks t
    match ← readRedirection fuel t with
    | some (redirection, rest) =>
      readSimple fuel { simple with redirections := redirection :: simple.redirections } rest
    | none =>
      match t with
      | [] => simple.command?.map fun command => (command, [])
      | '(' :: rest =>
        let name ← simple.name?
        match skipBlanks rest with
        | ')' :: rest =>
          let (body, rest) ← readCommand fuel (skipLines rest.length rest)
          return (.define name body, rest)
        | _ => none
      | c :: _ =>
        if isMeta c then simple.command?.map fun command => (command, t)
        else
          let (word, rest) ← readWord fuel t
          readSimple fuel (simple.put word) rest

/-- The rest of a branch, behind its first word. -/
def readBranch (fuel : Nat) (t : Text) : Option ReadCommand :=
  match fuel with
  | 0 => none
  | fuel + 1 => do
    let (condition, rest) ← readList fuel false t
    let (yes, rest) ← readList fuel false (← afterReserved? "then" rest)
    match afterReserved? "elif" rest with
    | some rest =>
      let (no, rest) ← readBranch fuel rest
      return (.branch condition yes no, rest)
    | none =>
      match afterReserved? "else" rest with
      | some rest =>
        let (no, rest) ← readList fuel false rest
        return (.branch condition yes no, ← afterReserved? "fi" rest)
      | none => return (.branch condition yes .nothing, ← afterReserved? "fi" rest)

/-- The rest of a loop with a condition, behind its first word. -/
def readLoop (fuel : Nat) (untilSuccess : Bool) (t : Text) : Option ReadCommand :=
  match fuel with
  | 0 => none
  | fuel + 1 => do
    let (condition, rest) ← readList fuel false t
    let (body, rest) ← readList fuel false (← afterReserved? "do" rest)
    return (.loop untilSuccess condition body, ← afterReserved? "done" rest)

def readWords (fuel : Nat) (t : Text) : Option (List Word × Text) :=
  match fuel with
  | 0 => none
  | fuel + 1 =>
    match skipBlanks t with
    | ';' :: rest | '\n' :: rest => some ([], rest)
    | t => do
      let (word, rest) ← readWord fuel t
      let (more, rest) ← readWords fuel rest
      return (word :: more, rest)

/-- The rest of a loop over words, behind its first word. Without any it runs over the arguments of the script. -/
def readEach (fuel : Nat) (t : Text) : Option ReadCommand :=
  match fuel with
  | 0 => none
  | fuel + 1 => do
    let (name, rest) := t.span isNameChar
    if !isName name then none
    else
      let (words, rest) ←
        match afterReservedLine? "in" rest with
        | some rest => readWords fuel rest
        | none =>
          let rest := match skipBlanks rest with
            | ';' :: rest => rest
            | rest => rest
          some ([[.parameter ['@'] .value [] true]], rest)
      let (body, rest) ← readList fuel false (← afterReservedLine? "do" rest)
      return (.each name words body, ← afterReserved? "done" rest)

/-- The rest of a choice among patterns, behind its first word. -/
def readSelect (fuel : Nat) (t : Text) : Option ReadCommand :=
  match fuel with
  | 0 => none
  | fuel + 1 => do
    let (subject, rest) ← readWord fuel t
    let (branches, rest) ← readBranches fuel (← afterReservedLine? "in" rest)
    return (.select subject branches, rest)

/-- The branches of a choice among patterns. -/
def readBranches (fuel : Nat) (t : Text) : Option (List (List Word × Command) × Text) :=
  match fuel with
  | 0 => none
  | fuel + 1 => do
    let t := skipLines t.length t
    match afterReserved? "esac" t with
    | some rest => return ([], rest)
    | none =>
      let t := match t with
        | '(' :: rest => skipBlanks rest
        | t => t
      let (patterns, rest) ← readPatterns fuel t
      let rest := skipLines rest.length rest
      let (body, rest) ← if closes rest then some (Command.nothing, rest) else readList fuel false rest
      match rest with
      | ';' :: ';' :: rest =>
        let (more, rest) ← readBranches fuel rest
        return ((patterns, body) :: more, rest)
      | rest => return ([(patterns, body)], ← afterReserved? "esac" rest)

def readPatterns (fuel : Nat) (t : Text) : Option (List Word × Text) :=
  match fuel with
  | 0 => none
  | fuel + 1 => do
    let (pattern, rest) ← readWord fuel t
    match skipBlanks rest with
    | '|' :: rest =>
      let (more, rest) ← readPatterns fuel (skipBlanks rest)
      return (pattern :: more, rest)
    | ')' :: rest => return ([pattern], rest)
    | _ => none

end

/-- More fuel than a text can use. -/
def readFuel (t : Text) : Nat := 32 * (t.length + 4)

namespace Script

/-- What the start of a script says. -/
inductive Line where
  /-- Nothing is left of the script. -/
  | finish
  /-- Commands, and what is left of the script. -/
  | commands (command : Command) (rest : Text)
  /-- Something that is no command. -/
  | broken

/-- The commands up to the end of a line. -/
def readLine (t : Text) : Line :=
  match skipLines t.length t with
  | [] => .finish
  | t =>
    match readList (readFuel t) true t with
    | some (command, []) => .commands command []
    | some (command, '\n' :: rest) => .commands command rest
    | _ => .broken

end Script

end LogDiagram.Shell
