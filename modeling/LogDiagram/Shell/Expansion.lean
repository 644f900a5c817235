import LogDiagram.Shell.Arithmetic
import LogDiagram.Shell.Pattern
import LogDiagram.Shell.Signal

/-!
# What words mean

A word becomes fields: parameters, commands and expressions give way to what they stand for, separators in what came out
of them part fields if nothing is quoted, and a field with a star, a question mark or a bracket stands for the paths that
fit it.

* `Session.fields` are the fields of words;
* `Session.text` is the one text of a word that is never parted, and `Session.pattern` is that of a pattern.
-/

namespace LogDiagram.Shell

/-! ## Paths that fit -/

def Field.pieces (field : Field) : List Field :=
  field.foldr (fun c pieces =>
    match pieces with
    | [] => []
    | piece :: rest => if c.1 = '/' then [] :: piece :: rest else (c :: piece) :: rest) [[]]

/-- The names in the directory that a path leads to; those that fit must have a dot in front if the pattern has one. -/
def namesThatFit (tree : FileTree) (directory : Text) (field : Field) : List Text :=
  match tree.follow (if directory.isEmpty then ['.'] else directory.ofPlain) true with
  | .ok place =>
    let isHidden (name : Text) : Bool := name.head? == some '.'
    let all := ['.'] :: ['.', '.'] :: (tree.children place).map Text.toPlain
    let glob := Glob.ofField field
    let startsWithDot := field.head?.any fun c => c.1 == '.'
    (all.filter fun name => isHidden name == startsWithDot && glob.fits name).mergeSort Text.isUpTo
  | .error _ => []

/-- The paths behind `front` that fit the pieces of a field. -/
def pathsThatFit (tree : FileTree) : (pieces : List Field) → (front : Text) → List Text
  | [], front => [front]
  | piece :: rest, front =>
    let names := if piece.isPattern then namesThatFit tree front piece else [piece.text]
    names.flatMap fun name =>
      let path := front ++ name
      match rest with
      | [] => if piece.isPattern || tree.hasEntry path.ofPlain then [path] else []
      | _ :: _ => if tree.leadsToDirectory (path ++ ['/']).ofPlain then pathsThatFit tree rest (path ++ ['/']) else []

def Field.resolve (tree : FileTree) (field : Field) : List Text :=
  if field.isPattern then
    match pathsThatFit tree field.pieces [] with
    | [] => [field.text]
    | paths => paths
  else [field.text]

/-! ## Fields that are being made -/

/-- The fields made so far; lists have their last element in front. -/
structure Fields where
  /-- The characters of the open field. -/
  current : Field
  /-- How many quotes make the open field one even if it has no character. -/
  quotes : Nat
  /-- A blank ended the field before the open one. -/
  isAfterBlank : Bool
  done : List Field
  deriving DecidableEq, Repr

namespace Fields

def empty : Fields := ⟨[], 0, false, []⟩

def put (fields : Fields) (c : Char) (isFixed : Bool) : Fields :=
  { fields with current := (c, isFixed) :: fields.current, isAfterBlank := false }

def isOpen (fields : Fields) : Bool := !fields.current.isEmpty || fields.quotes != 0

/-- The open field ends, even if it is empty. -/
def finish (fields : Fields) : Fields := ⟨[], 0, false, fields.current.reverse :: fields.done⟩

def flush (fields : Fields) : Fields := if fields.isOpen then fields.finish else fields

def putParting (separators : Text) (fields : Fields) (c : Char) : Fields :=
  if !separators.contains c then fields.put c false
  else if c = ' ' ∨ c = '\t' ∨ c = '\n' then
    if fields.isOpen then { fields.finish with isAfterBlank := true } else fields
  else if fields.isAfterBlank && !fields.isOpen then { fields with isAfterBlank := false }
  else fields.finish

end Fields

/-- How the parts of a word become fields. -/
structure Expansion where
  interpreter : Interpreter
  /-- What comes out of parts may be parted. -/
  isParting : Bool

namespace Expansion

def putValue (expansion : Expansion) (session : Session) (isQuoted : Bool) (fields : Fields) (value : Text) : Fields :=
  if isQuoted || !expansion.isParting then value.foldl (fun fields c => fields.put c isQuoted) fields
  else value.foldl (Fields.putParting session.separators) fields

def putValues (expansion : Expansion) (session : Session) (isQuoted : Bool) (fields : Fields) :
    List Text → Fields
  | [] => if isQuoted then { fields with quotes := fields.quotes - 1 } else fields
  | [value] => expansion.putValue session isQuoted fields value
  | value :: rest =>
    let fields := expansion.putValue session isQuoted fields value
    let fields := if isQuoted then { fields.finish with quotes := 1 } else fields.flush
    putValues expansion session isQuoted fields rest

def joinedArguments (session : Session) : Text := Text.joined (session.separators.take 1) session.arguments

def valueOf? (session : Session) (name : Text) : Option Text :=
  if name = ['@'] ∨ name = ['*'] then
    if session.arguments.isEmpty then none else some (joinedArguments session)
  else session.value? name

def putParameter (expansion : Expansion) (name : Text) (isQuoted : Bool) (session : Session) (fields : Fields) :
    Fields :=
  if (name = ['@'] || (name = ['*'] && !isQuoted)) && expansion.isParting then
    expansion.putValues session isQuoted fields session.arguments
  else expansion.putValue session isQuoted fields ((valueOf? session name).getD [])

end Expansion

def withoutEndLines (t : Text) : Text := (t.reverse.dropWhile (· == '\n')).reverse

/-! ## Home directories -/

/-- The directory of the user with a name, or of the one who runs the shell. -/
def homeOf? (session : Session) (user : Text) : Option Text :=
  if user.isEmpty then session.textOf? "HOME".toList
  else if user = "root".toList then some "/root".toList
  else none

/-! ## Parts of words -/

namespace Expansion

def calculate (expression : Text) (session : Session) : Text × Session :=
  match Formula.read expression >>= fun formula => formula.value session with
  | .ok (n, session) => (Text.ofInt n, session)
  | .error error => ([], session.fail (error.message expression))

/-- What a command prints, without the ends of lines at its end. -/
def outputOf (interpreter : Interpreter) (body : Command) (session : Session) : Text × Session :=
  let (printed, after) := session.capture fun session =>
    session.enclose fun session => (interpreter.run body { session with isTested := false }).finish interpreter
  (withoutEndLines (printed.filter (· != '\x00')),
    { after with outputStatus := after.status, status := session.status, isTested := session.isTested })

mutual

/-- One more part of a word; literal characters may be parted if they stand inside of something else. -/
def expandPart (expansion : Expansion) (isInner : Bool) (part : WordPart) (state : Session × Fields) :
    Session × Fields :=
  let (session, fields) := state
  if !session.isRunning then (session, fields)
  else
    match part with
    | .char c isQuoted =>
      if isInner && !isQuoted && expansion.isParting then (session, fields.putParting session.separators c)
      else (session, fields.put c isQuoted)
    | .quotes => (session, { fields with quotes := fields.quotes + 1 })
    | .home user => (session, ((homeOf? session user).getD ('~' :: user)).foldl (fun fields c => fields.put c true) fields)
    | .output body isQuoted =>
      let (value, session) := outputOf expansion.interpreter body session
      (session, expansion.putValue session isQuoted fields value)
    | .arithmetic expression isQuoted =>
      let inner : Expansion := ⟨expansion.interpreter, false⟩
      let (session, inner) := expandParts inner false expression (session, .empty)
      if !session.isRunning then (session, fields)
      else
        let (value, session) := calculate (Field.text inner.current.reverse) session
        (session, expansion.putValue session isQuoted fields value)
    | .malformed => (session.fail "Bad substitution".toList, fields)
    | .parameter name operation word isQuoted =>
      let value := valueOf? session name
      let isMissing (refusesEmpty : Bool) : Bool := value.isNone || (refusesEmpty && value == some [])
      let isList := name == ['@'] || name == ['*']
      let unset (session : Session) : Bool := session.hasOption 'u' && value.isNone && !isList
      let refuse (session : Session) (complaint : Text) : Session × Fields :=
        (session.fail (name ++ ':' :: ' ' :: complaint), fields)
      let whole (session : Session) : Session × Field :=
        let inner : Expansion := ⟨expansion.interpreter, false⟩
        let (session, made) := expandParts inner false word (session, .empty)
        (session, made.current.reverse)
      let cut (take : Glob → Text → Text) : Session × Fields :=
        if unset session then refuse session "parameter not set".toList
        else
          let (session, field) := whole session
          (session, expansion.putValue session isQuoted fields (take (Glob.ofField field) (value.getD [])))
      match operation with
      | .value =>
        if unset session then refuse session "parameter not set".toList
        else (session, expansion.putParameter name isQuoted session fields)
      | .length =>
        if unset session then refuse session "parameter not set".toList
        else (session, expansion.putValue session isQuoted fields (Text.ofNat (value.getD []).length))
      | .orElse refusesEmpty =>
        if isMissing refusesEmpty then expandParts expansion true word (session, fields)
        else (session, expansion.putParameter name isQuoted session fields)
      | .ifSet refusesEmpty =>
        if isMissing refusesEmpty then (session, fields) else expandParts expansion true word (session, fields)
      | .orAssign refusesEmpty =>
        if isMissing refusesEmpty then
          let (session, field) := whole session
          if !session.isRunning then (session, fields)
          else if isName name then
            let session := session.assign name field.text
            (session, expansion.putValue session isQuoted fields field.text)
          else (session.fail "Bad substitution".toList, fields)
        else (session, expansion.putParameter name isQuoted session fields)
      | .orFail refusesEmpty =>
        if isMissing refusesEmpty then
          let (session, field) := whole session
          let standard := if refusesEmpty then "parameter not set or null" else "parameter not set"
          refuse session (if field.isEmpty then standard.toList else field.text)
        else (session, expansion.putParameter name isQuoted session fields)
      | .withoutEnd isLongest => cut fun glob t => glob.withoutEnd isLongest t
      | .withoutStart isLongest => cut fun glob t => glob.withoutStart isLongest t

def expandParts (expansion : Expansion) (isInner : Bool) (parts : List WordPart) (state : Session × Fields) :
    Session × Fields :=
  match parts with
  | [] => state
  | part :: rest => expandParts expansion isInner rest (expandPart expansion isInner part state)

end

end Expansion

namespace Session

/-- A word that is never parted: characters, each with whether it stands only for itself. -/
def pattern (session : Session) (interpreter : Interpreter) (word : Word) : Field × Session :=
  let (session, made) :=
    Expansion.expandParts ⟨interpreter, false⟩ false word (session, .empty)
  (made.current.reverse, session)

def text (session : Session) (interpreter : Interpreter) (word : Word) : Text × Session :=
  let (field, session) := session.pattern interpreter word
  (field.text, session)

/-- The fields of one word; they may stand for paths. -/
def wordFields (session : Session) (interpreter : Interpreter) (word : Word) : List Field × Session :=
  let (session, made) :=
    Expansion.expandParts ⟨interpreter, true⟩ false word (session, .empty)
  (made.flush.done.reverse, session)

def fields (session : Session) (interpreter : Interpreter) : List Word → List Text × Session
  | [] => ([], session)
  | word :: rest =>
    let (made, session) := session.wordFields interpreter word
    let texts := made.flatMap fun field =>
      if session.hasOption 'f' then [field.text] else field.resolve session.tree
    if session.isRunning then
      let (more, session) := session.fields interpreter rest
      (texts ++ more, session)
    else (texts, session)

end Session

end LogDiagram.Shell
