import LogDiagram.Shell.Session

/-!
# Arguments of programs

Programs tell options from operands. Options are letters behind a dash, several of which may stand together, or names
behind two dashes, which may be cut short; some have a value.

* `Arguments.read` takes arguments apart as a `Grammar` says;
* `Session.withArguments` runs a program with them, or complains.
-/

namespace LogDiagram.Shell

/-- What options a program has. -/
structure Grammar where
  /-- The letters: a colon behind one stands for a value, and two for a value that has to follow at once. -/
  letters : String
  /-- The names, and the letters that they stand for. -/
  names : List (String × Char)
  /-- The first operand ends the options. -/
  isStrict : Bool

/-- The options that a program was given, each with its value, and its operands. -/
structure Arguments where
  options : List (Char × Text)
  operands : List Text
  deriving DecidableEq, Repr

def behindBlanks (t : Text) : Text := t.dropWhile fun c => c == ' ' || c == '\t'

def quoted (t : Text) : Text := '\'' :: (t ++ ['\''])

namespace Grammar

/-- How a letter stands in a list of letters: whether a value follows, and whether it may be left out. -/
def kindOf? (letter : Char) : List Char → Option (Bool × Bool)
  | [] => none
  | c :: rest =>
    if c = letter ∧ c ≠ ':' then some (rest.head? == some ':', rest.take 2 == [':', ':'])
    else kindOf? letter rest

/-- How a letter is an option: whether it has a value, and whether the value may be left out. -/
def kind? (grammar : Grammar) (letter : Char) : Option (Bool × Bool) := kindOf? letter grammar.letters.toList

def letterOf? (grammar : Grammar) (name : Text) : Option Char :=
  match grammar.names.find? fun entry => entry.1.toList == name with
  | some (_, letter) => some letter
  | none =>
    match (grammar.names.filter fun entry => name.isPrefixOf entry.1.toList).map (·.2) with
    | letter :: others => if others.all (· == letter) then some letter else none
    | [] => none

end Grammar

namespace Arguments

def put (letter : Char) (value : Text) (arguments : Arguments) : Arguments :=
  { arguments with options := (letter, value) :: arguments.options }

/-- The options of the letters behind a dash, and the arguments that are left; an option may need the next one. -/
def readLetters (grammar : Grammar) : Text → List Text → Except Text (List (Char × Text) × List Text)
  | [], rest => .ok ([], rest)
  | letter :: more, rest =>
    match grammar.kind? letter with
    | none => .error ("invalid option -- ".toList ++ quoted [letter])
    | some (false, _) => (readLetters grammar more rest).map fun (options, rest) => ((letter, []) :: options, rest)
    | some (true, isOptional) =>
      if isOptional || !more.isEmpty then .ok ([(letter, more)], rest)
      else
        match rest with
        | value :: rest => .ok ([(letter, value)], rest)
        | [] => .error ("option requires an argument -- ".toList ++ quoted [letter])

def readName (grammar : Grammar) (t : Text) (rest : List Text) : Except Text ((Char × Text) × List Text) :=
  let (name, value) := t.span (· != '=')
  match grammar.letterOf? name with
  | none => .error ("unrecognized option '--".toList ++ t ++ ['\''])
  | some letter =>
    match grammar.kind? letter, value, rest with
    | some (true, _), _ :: value, _ => .ok ((letter, value), rest)
    | some (true, true), [], _ => .ok ((letter, []), rest)
    | some (true, false), [], value :: rest => .ok ((letter, value), rest)
    | some (true, false), [], [] => .error ("option '--".toList ++ name ++ "' requires an argument".toList)
    | _, _ :: _, _ => .error ("option '--".toList ++ name ++ "' doesn't allow an argument".toList)
    | _, [], _ => .ok ((letter, []), rest)

/-- The arguments taken apart; `fuel` bounds their number. -/
def readFrom (grammar : Grammar) : (fuel : Nat) → List Text → Except Text Arguments
  | 0, _ => .ok ⟨[], []⟩
  | _, [] => .ok ⟨[], []⟩
  | fuel + 1, argument :: rest =>
    match argument with
    | ['-', '-'] => .ok ⟨[], rest⟩
    | '-' :: '-' :: name => do
      let (option, rest) ← readName grammar name rest
      return (← readFrom grammar fuel rest).put option.1 option.2
    | '-' :: letter :: more => do
      let (options, rest) ← readLetters grammar (letter :: more) rest
      let others ← readFrom grammar fuel rest
      return { others with options := options ++ others.options }
    | operand =>
      if grammar.isStrict then .ok ⟨[], argument :: rest⟩
      else (readFrom grammar fuel rest).map fun others => { others with operands := operand :: others.operands }

/-- The arguments taken apart as a grammar says. -/
def read (grammar : Grammar) (arguments : List Text) : Except Text Arguments :=
  readFrom grammar (arguments.length + 1) arguments

/-- An option was given. -/
def has (arguments : Arguments) (letter : Char) : Bool := arguments.options.any fun entry => entry.1 == letter

def value? (arguments : Arguments) (letter : Char) : Option Text := arguments.options.reverse.lookup letter

def values (arguments : Arguments) (letter : Char) : List Text :=
  arguments.options.filterMap fun entry => if entry.1 = letter then some entry.2 else none

def lastOf? (arguments : Arguments) (letters : List Char) : Option Char :=
  (arguments.options.reverse.find? fun entry => letters.contains entry.1).map (·.1)

end Arguments

def Grammar.ofLetters (letters : String) : Grammar := ⟨letters, [], false⟩

namespace Session

/-- A program runs with its arguments taken apart, or ends with the given code. -/
def withArguments (session : Session) (program : String) (grammar : Grammar) (status : Nat)
    (body : Arguments → Session → Session) (arguments : List Text) : Session :=
  match Arguments.read grammar arguments with
  | .ok arguments => body arguments (session.withStatus 0)
  | .error complaint =>
    (session.complain program complaint status).write 2
      ("Try '".toList ++ program.toList ++ " --help' for more information.\n".toList)

/-- A program complains about a file, and has failed. -/
def refuse (session : Session) (program : String) (path : Text) (cause : OsError) : Session :=
  session.complain program (path ++ ':' :: ' ' :: cause.description) 1

/-- A program complains about a file that it wanted to do something with, and has failed. -/
def refuseAct (session : Session) (program act : String) (path : Text) (cause : OsError) : Session :=
  session.complain program (act.toList ++ ' ' :: (quoted path ++ ':' :: ' ' :: cause.description)) 1

/-- A program complains that an operand is missing, and has failed. -/
def missOperand (session : Session) (program : String) : Session :=
  (session.complain program "missing operand".toList 1).write 2
    ("Try '".toList ++ program.toList ++ " --help' for more information.\n".toList)

/-- A program does something for each of its operands in order. -/
def forEach (session : Session) (operands : List Text) (body : Text → Session → Session) : Session :=
  operands.foldl (fun session operand => body operand session) session

/-- How most programs say that a file cannot be read. -/
def fileFailure (path : Text) (cause : OsError) : Text := path ++ ':' :: ' ' :: cause.description

/-- How some programs say that a file cannot be read. -/
def openFailure (path : Text) (cause : OsError) : Text :=
  match cause with
  | .isDirectory => "error reading ".toList ++ quoted path ++ ": Is a directory".toList
  | cause => "cannot open ".toList ++ quoted path ++ " for reading: ".toList ++ cause.description

/-- The content of a file, or of the input for a dash. -/
def readOrTake (session : Session) (path : Text) : Except OsError Text × Session :=
  if path = ['-'] then session.takeInput else (session.readFile path, session)

/-- The contents of files in order, each with its name; a dash is the input, and no file at all is the input, too. -/
def contentsOr (failure : Text → OsError → Text) (session : Session) (program : String) (paths : List Text) :
    List (Text × Text) × Session :=
  let (done, session) := (if paths.isEmpty then [['-']] else paths).foldl
    (fun (done, session) path =>
      match session.readOrTake path with
      | (.ok content, session) => ((path, content) :: done, session)
      | (.error cause, session) => (done, session.complain program (failure path cause) 1))
    (([] : List (Text × Text)), session)
  (done.reverse, session)

/-- The contents of files in order, each with its name. -/
def contents (session : Session) (program : String) (paths : List Text) : List (Text × Text) × Session :=
  session.contentsOr fileFailure program paths

end Session

def linesOf (content : Text) : List Text :=
  let (line, done) := content.foldl (fun (line, done) c =>
    if c = '\n' then ([], (c :: line).reverse :: done) else (c :: line, done)) (([], []) : Text × List Text)
  (if line.isEmpty then done else line.reverse :: done).reverse

def bareLine (line : Text) : Text := if line.getLast? = some '\n' then line.dropLast else line

def bareLines (content : Text) : List Text := (linesOf content).map bareLine

def digitsValue? (t : Text) : Option Nat :=
  if !t.isEmpty && t.all Char.isDigit then some (t.foldl (fun n c => n * 10 + (c.toNat - '0'.toNat)) 0) else none

end LogDiagram.Shell
