import LogDiagram.Text.Basic

/-!
# Commands of a shell

What a script says: words, redirections and the commands made of them.
-/

namespace LogDiagram.Shell

/-- What a parameter in braces stands for. Where `refusesEmpty` holds, an empty value counts as none. -/
inductive Operation where
  /-- Its value. -/
  | value
  /-- The number of characters of its value. -/
  | length
  /-- Its value, or a word instead of none. -/
  | orElse (refusesEmpty : Bool)
  /-- Its value, or a word instead of none, which becomes its value. -/
  | orAssign (refusesEmpty : Bool)
  /-- Its value; without one the script ends with a word as its complaint. -/
  | orFail (refusesEmpty : Bool)
  /-- A word if it has a value, and else nothing. -/
  | ifSet (refusesEmpty : Bool)
  /-- Its value without an end that fits a word. -/
  | withoutEnd (isLongest : Bool)
  /-- Its value without a start that fits a word. -/
  | withoutStart (isLongest : Bool)
  deriving DecidableEq, Repr

inductive RedirectionKind where
  /-- It is read from a file. -/
  | input
  /-- It is written to a file, which is emptied; an existing file may be kept from that unless it is forced. -/
  | output (isForced : Bool)
  /-- It is written to the end of a file. -/
  | append
  /-- It is read from a file and written to it. -/
  | inputOutput
  /-- It goes where another stream goes. -/
  | duplicate
  /-- It is read from the word itself. -/
  | document
  deriving DecidableEq, Repr

/-- A redirection of the stream with a number. -/
structure RedirectionOf (Target : Type) where
  stream : Nat
  kind : RedirectionKind
  target : Target

mutual

/-- A piece of a word. What stands in double quotes is not taken apart afterwards. -/
inductive WordPart where
  /-- A character that stands for itself. -/
  | char (c : Char) (isQuoted : Bool)
  /-- A pair of quotes, which makes a word also of nothing. -/
  | quotes
  /-- The directory of a user, or of the one who runs the shell. -/
  | home (user : Text)
  /-- A parameter and what is done with its value; `word` is what stands behind the operation. -/
  | parameter (name : Text) (operation : Operation) (word : List WordPart) (isQuoted : Bool)
  /-- What a command prints. -/
  | output (body : Command) (isQuoted : Bool)
  /-- The value of an expression of numbers. -/
  | arithmetic (expression : List WordPart) (isQuoted : Bool)
  /-- Braces with something in them that is no parameter. -/
  | malformed

/-- A command. -/
inductive Command where
  /-- A program with arguments, with assignments before it. -/
  | simple (assignments : List (Text × List WordPart)) (words : List (List WordPart))
    (redirections : List (RedirectionOf (List WordPart)))
  /-- A command with redirections. -/
  | redirected (body : Command) (redirections : List (RedirectionOf (List WordPart)))
  /-- One command after the other. -/
  | sequence (first second : Command)
  /-- A command whose end is not waited for. -/
  | background (body : Command)
  /-- The second command runs if the first one succeeds. -/
  | both (first second : Command)
  /-- The second command runs if the first one fails. -/
  | either (first second : Command)
  /-- A command that succeeds if another one fails. -/
  | negated (body : Command)
  /-- Each command reads what the one before it prints. -/
  | pipe (stages : List Command)
  /-- A command in a shell of its own. -/
  | enclosed (body : Command)
  | branch (condition yes no : Command)
  /-- A command for each of several words. -/
  | each (name : Text) (words : List (List WordPart)) (body : Command)
  /-- A command as long as a condition succeeds, or fails. -/
  | loop (untilSuccess : Bool) (condition body : Command)
  /-- The command of the first pattern that a word fits. -/
  | select (subject : List WordPart) (branches : List (List (List WordPart) × Command))
  /-- A command gets a name. -/
  | define (name : Text) (body : Command)

end

abbrev Word := List WordPart

abbrev Redirection := RedirectionOf Word

def Command.nothing : Command := .simple [] [] []

/-! ## Names -/

/-- A letter, a digit or an underscore. -/
def isNameChar (c : Char) : Bool := c.isAlphanum || c == '_'

def isName (t : Text) : Bool := t.all isNameChar && (t.head?.any fun c => !c.isDigit)

/-- A character that names a parameter alone. -/
def isSpecial (c : Char) : Bool := c.isDigit || ['@', '*', '#', '?', '-', '$', '!'].contains c

def backQuote : Char := Char.ofNat 0x60

/-- The text of a word in which nothing is quoted and nothing has to be replaced. -/
def Word.bare? (word : Word) : Option Text :=
  word.mapM fun
    | .char c false => some c
    | _ => none

/-- A word with the directory of a user in the place of a tilde in front of it. -/
def Word.withHome (isAssignment : Bool) (word : Word) : Word :=
  match word with
  | .char '~' false :: rest =>
    let isEnd (part : WordPart) : Bool :=
      match part with
      | .char c false => c == '/' || (isAssignment && c == ':')
      | _ => false
    let (user, after) := rest.span fun part => !isEnd part
    match Word.bare? user with
    | some user => .home user :: after
    | none => word
  | _ => word

/-- A word with the directory of a user in the place of each tilde behind a colon. -/
def Word.withHomes : Word → Word
  | [] => []
  | .char ':' false :: rest => .char ':' false :: Word.withHome true (withHomes rest)
  | part :: rest => part :: withHomes rest

/-- The name and the value of a word that assigns a value to a variable. -/
def Word.assignment? (word : Word) (done : Text) : Option (Text × Word) :=
  match word with
  | .char '=' false :: value =>
    if isName done.reverse then some (done.reverse, Word.withHome true (Word.withHomes value)) else none
  | .char c false :: rest => assignment? rest (c :: done)
  | _ => none

end LogDiagram.Shell
