import LogDiagram.Shell.Awk.Token

/-!
# Reading scripts that work on records

* `AwkScript.read` reads a script.

Operators that bind less are read first; two values without a sign between them are joined.
-/

namespace LogDiagram.Shell

/-- What reads a part of a script. -/
abbrev AwkReader := StateT (List (AwkToken × Nat)) (Except AwkFault)

namespace AwkReader

/-- What may not stand in an expression: `in` at the head of a loop, and a sign that leads the output to a file. -/
structure Limits where
  hasIn : Bool
  hasGreater : Bool

/-- All signs may stand in an expression. -/
def Limits.none : Limits := ⟨true, true⟩

def peek : AwkReader (Option AwkToken) := do return (← get).head?.map (·.1)

/-- The next token is passed. -/
def skip : AwkReader Unit := modify List.tail

/-- The next token has no place there. -/
def refuse {α : Type} : AwkReader α := do
  match ← get with
  | (token, line) :: _ => throw ⟨line, "syntax error at or near ".toList ++ token.shown⟩
  | [] => throw ⟨0, "syntax error at or near end of file".toList⟩

def isSign (s : String) : AwkReader Bool := do
  match ← peek with
  | some (.sign t) => return s == t
  | _ => return false

def isWord (s : String) : AwkReader Bool := do
  match ← peek with
  | some (.word t) => return s == t
  | _ => return false

/-- Passes a sign, if it is the next token. -/
def accept (s : String) : AwkReader Bool := do
  if ← isSign s then
    skip
    return true
  return false

/-- Passes a sign, which has to be the next token. -/
def expect (s : String) : AwkReader Unit := do
  if !(← accept s) then refuse

def skipLines : AwkReader Unit := modify fun tokens => tokens.dropWhile fun token =>
  match token.1 with
  | .lineEnd => true
  | _ => false

/-- Passes ends of lines and of statements. -/
def skipEnds : AwkReader Unit := modify fun tokens => tokens.dropWhile fun token =>
  match token.1 with
  | .lineEnd | .sign ";" => true
  | _ => false

def readName : AwkReader Text := do
  match ← peek with
  | some (.name name) =>
    skip
    return name
  | _ => refuse

def startsValue : AwkToken → Bool
  | .number _ | .text _ | .pattern _ | .call _ | .name _ | .builtin _ => true
  | .sign s => ["$", "!", "(", "-", "+", "++", "--"].contains s
  | _ => false

/-- A token may start a value that is joined to the one before without a doubt. -/
def joins : AwkToken → Bool
  | .sign s => ["$", "(", "++", "--"].contains s
  | .pattern _ => false
  | token => startsValue token

/-- Something that can be given a value. -/
def isTarget : AwkExpression → Bool
  | .name _ | .element _ _ | .field _ => true
  | _ => false

/-- The operator of a sign that gives a value. -/
def assignment? : String → Option (Option AwkOperator)
  | "=" => some none
  | "+=" => some (some .add)
  | "-=" => some (some .subtract)
  | "*=" => some (some .multiply)
  | "/=" => some (some .divide)
  | "%=" => some (some .remainder)
  | "^=" => some (some .power)
  | _ => none

def comparison? (limits : Limits) : String → Option AwkComparison
  | "<" => some .less
  | "<=" => some .upTo
  | "==" => some .equal
  | "!=" => some .different
  | ">=" => some .atLeast
  | ">" => if limits.hasGreater then some .greater else none
  | _ => none

/-- The expression that a text between slashes writes. -/
def patternOf (t : Text) : AwkReader Expression := do
  match Expression.read ⟨true, true⟩ t with
  | .ok expression => return expression
  | .error complaint =>
    let line := ((← get).head?.map (·.2)).getD 0
    throw ⟨line, "regular expression compile failed (".toList ++ complaint ++ ")\n".toList ++ t⟩

/-- A reader that goes wrong if it goes too deep. -/
def tooDeep {α : Type} : AwkReader α := throw ⟨0, "program is too deep".toList⟩

mutual

def readExpression (fuel : Nat) (limits : Limits) : AwkReader AwkExpression :=
  match fuel with
  | 0 => tooDeep
  | fuel + 1 => do
    let condition ← readEither fuel limits
    if ← accept "?" then
      skipLines
      let first ← readExpression fuel limits
      skipLines
      expect ":"
      skipLines
      let second ← readExpression fuel limits
      return .choice condition first second
    return condition

def readEither (fuel : Nat) (limits : Limits) : AwkReader AwkExpression :=
  match fuel with
  | 0 => tooDeep
  | fuel + 1 => do
    let first ← readBoth fuel limits
    if ← accept "||" then
      skipLines
      return .either first (← readEither fuel limits)
    return first

def readBoth (fuel : Nat) (limits : Limits) : AwkReader AwkExpression :=
  match fuel with
  | 0 => tooDeep
  | fuel + 1 => do
    let first ← readIn fuel limits
    if ← accept "&&" then
      skipLines
      return .both first (← readBoth fuel limits)
    return first

/-- Something that is looked for in an array. -/
def readIn (fuel : Nat) (limits : Limits) : AwkReader AwkExpression :=
  match fuel with
  | 0 => tooDeep
  | fuel + 1 => do
    let first ← readFits fuel limits
    moreIn fuel limits first

def moreIn (fuel : Nat) (limits : Limits) (first : AwkExpression) : AwkReader AwkExpression :=
  match fuel with
  | 0 => tooDeep
  | fuel + 1 => do
    if limits.hasIn && (← isWord "in") then
      skip
      let array ← readName
      let index := match first with
        | .group members => members
        | first => [first]
      moreIn fuel limits (.isIn index array)
    else return first

def readFits (fuel : Nat) (limits : Limits) : AwkReader AwkExpression :=
  match fuel with
  | 0 => tooDeep
  | fuel + 1 => do
    let first ← readComparison fuel limits
    moreFits fuel limits first

def moreFits (fuel : Nat) (limits : Limits) (first : AwkExpression) : AwkReader AwkExpression :=
  match fuel with
  | 0 => tooDeep
  | fuel + 1 => do
    if ← accept "~" then moreFits fuel limits (.fits false first (← readComparison fuel limits))
    else if ← accept "!~" then moreFits fuel limits (.fits true first (← readComparison fuel limits))
    else return first

def readComparison (fuel : Nat) (limits : Limits) : AwkReader AwkExpression :=
  match fuel with
  | 0 => tooDeep
  | fuel + 1 => do
    let first ← readJoined fuel limits
    moreComparisons fuel limits first

def moreComparisons (fuel : Nat) (limits : Limits) (first : AwkExpression) : AwkReader AwkExpression :=
  match fuel with
  | 0 => tooDeep
  | fuel + 1 => do
    match ← peek with
    | some (.sign "|") =>
      match (← get).tail with
      | (.word "getline", _) :: rest =>
        set rest
        let target ← readTarget? fuel
        moreComparisons fuel limits (.getLine (some (.command, first)) target)
      | _ => return first
    | some (.sign s) =>
      match comparison? limits s with
      | some comparison =>
        skip
        moreComparisons fuel limits (.compare comparison first (← readJoined fuel limits))
      | none => return first
    | _ => return first

def readJoined (fuel : Nat) (limits : Limits) : AwkReader AwkExpression :=
  match fuel with
  | 0 => tooDeep
  | fuel + 1 => do
    let first ← readSum fuel limits
    moreJoined fuel limits first

def moreJoined (fuel : Nat) (limits : Limits) (first : AwkExpression) : AwkReader AwkExpression :=
  match fuel with
  | 0 => tooDeep
  | fuel + 1 => do
    match ← peek with
    | some token =>
      if joins token then moreJoined fuel limits (.join first (← readSum fuel limits)) else return first
    | none => return first

def readSum (fuel : Nat) (limits : Limits) : AwkReader AwkExpression :=
  match fuel with
  | 0 => tooDeep
  | fuel + 1 => do
    let first ← readProduct fuel limits
    moreSum fuel limits first

/-- A value with others that are added to it. -/
def moreSum (fuel : Nat) (limits : Limits) (first : AwkExpression) : AwkReader AwkExpression :=
  match fuel with
  | 0 => tooDeep
  | fuel + 1 => do
    if ← accept "+" then moreSum fuel limits (.calculate .add first (← readProduct fuel limits))
    else if ← accept "-" then moreSum fuel limits (.calculate .subtract first (← readProduct fuel limits))
    else return first

def readProduct (fuel : Nat) (limits : Limits) : AwkReader AwkExpression :=
  match fuel with
  | 0 => tooDeep
  | fuel + 1 => do
    let first ← readSigned fuel limits
    moreProduct fuel limits first

/-- A value with others that it is multiplied with. -/
def moreProduct (fuel : Nat) (limits : Limits) (first : AwkExpression) : AwkReader AwkExpression :=
  match fuel with
  | 0 => tooDeep
  | fuel + 1 => do
    if ← accept "*" then moreProduct fuel limits (.calculate .multiply first (← readSigned fuel limits))
    else if ← accept "/" then moreProduct fuel limits (.calculate .divide first (← readSigned fuel limits))
    else if ← accept "%" then moreProduct fuel limits (.calculate .remainder first (← readSigned fuel limits))
    else return first

def readSigned (fuel : Nat) (limits : Limits) : AwkReader AwkExpression :=
  match fuel with
  | 0 => tooDeep
  | fuel + 1 => do
    if ← accept "!" then return .negation (← readSigned fuel limits)
    else if ← accept "-" then return .negative (← readSigned fuel limits)
    else if ← accept "+" then return .positive (← readSigned fuel limits)
    else
      let base ← readStepped fuel limits
      if ← accept "^" then return .calculate .power base (← readSigned fuel limits)
      return base

/-- A value that may be changed by one, or be given. -/
def readStepped (fuel : Nat) (limits : Limits) : AwkReader AwkExpression :=
  match fuel with
  | 0 => tooDeep
  | fuel + 1 => do
    if ← accept "++" then return .step true true (← readSingle fuel limits)
    else if ← accept "--" then return .step true false (← readSingle fuel limits)
    else
      let value ← readSingle fuel limits
      if !isTarget value then return value
      match ← peek with
      | some (.sign "++") =>
        skip
        return .step false true value
      | some (.sign "--") =>
        skip
        return .step false false value
      | some (.sign s) =>
        match assignment? s with
        | some operator =>
          skip
          skipLines
          return .assign operator value (← readExpression fuel limits)
        | none => return value
      | _ => return value

/-- Something that can be given a value, if it comes next. -/
def readTarget? (fuel : Nat) : AwkReader (Option AwkExpression) :=
  match fuel with
  | 0 => tooDeep
  | fuel + 1 => do
    match ← peek with
    | some (.name _) | some (.sign "$") => return some (← readSingle fuel .none)
    | _ => return none

def readSingle (fuel : Nat) (limits : Limits) : AwkReader AwkExpression :=
  match fuel with
  | 0 => tooDeep
  | fuel + 1 => do
    match ← peek with
    | some (.number value) =>
      skip
      return .number value
    | some (.text t) =>
      skip
      return .text t
    | some (.pattern t) =>
      skip
      return .pattern (← patternOf t)
    | some (.name name) =>
      skip
      if ← accept "[" then
        let index ← readList fuel "]"
        return .element name index
      return .name name
    | some (.call name) =>
      skip
      expect "("
      return .call name (← readList fuel ")")
    | some (.builtin name) =>
      skip
      if ← accept "(" then return .builtin name (← readList fuel ")")
      else if name = "length" then return .builtin name []
      else refuse
    | some (.word "getline") =>
      skip
      let target ← readTarget? fuel
      if ← accept "<" then return .getLine (some (.file, ← readSingle fuel limits)) target
      return .getLine none target
    | some (.sign "$") =>
      skip
      if ← accept "++" then return .field (.step true true (← readSingle fuel limits))
      else if ← accept "--" then return .field (.step true false (← readSingle fuel limits))
      else if ← accept "-" then return .field (.negative (← readSingle fuel limits))
      return .field (← readSingle fuel limits)
    | some (.sign "-") | some (.sign "+") | some (.sign "!") => readSigned fuel limits
    | some (.sign "(") =>
      skip
      match ← readList fuel ")" with
      | [single] => return .group [single]
      | [] => refuse
      | members => return .group members
    | _ => refuse

/-- Expressions with commas between them up to a closing sign. -/
def readList (fuel : Nat) (closing : String) : AwkReader (List AwkExpression) :=
  match fuel with
  | 0 => tooDeep
  | fuel + 1 => do
    skipLines
    if ← accept closing then return []
    let first ← readExpression fuel .none
    skipLines
    if ← accept "," then
      let rest ← readList fuel closing
      if rest.isEmpty then refuse
      return first :: rest
    expect closing
    return [first]

end

/-- How deep expressions and statements can be. -/
def depthLimit : Nat := 100000

def expression (limits : Limits) : AwkReader AwkExpression := readExpression depthLimit limits

/-- Expressions with commas between them; `fuel` bounds them. -/
def readValues (limits : Limits) : (fuel : Nat) → AwkReader (List AwkExpression)
  | 0 => tooDeep
  | fuel + 1 => do
    let first ← expression limits
    if ← accept "," then
      skipLines
      return first :: (← readValues limits fuel)
    return [first]

/-- A statement ends here: passes what ends it. -/
def endStatement : AwkReader Unit := do
  match ← peek with
  | none | some (.sign "\x7d") => pure ()
  | some .lineEnd | some (.sign ";") => skip
  | _ => refuse

def isAtEnd : AwkReader Bool := do
  match ← peek with
  | none | some (.sign "\x7d") | some .lineEnd | some (.sign ";") => return true
  | _ => return false

def readPrint (isFormat : Bool) : AwkReader AwkStatement := do
  let limits : Limits := ⟨true, false⟩
  let isOutput : Bool := match ← peek with
    | some (.sign s) => s == ">" || s == ">>" || s == "|"
    | _ => false
  let values ← if (← isAtEnd) || isOutput then pure [] else readValues limits depthLimit
  let values := match values with
    | [.group members] => members
    | values => values
  let kind : Option AwkStream ← match ← peek with
    | some (.sign ">") => pure (some .file)
    | some (.sign ">>") => pure (some .fileEnd)
    | some (.sign "|") => pure (some .command)
    | _ => pure none
  match kind with
  | some kind =>
    skip
    return .print isFormat values (some (kind, ← expression limits))
  | none => return .print isFormat values none

def valueUnlessEnd : AwkReader (Option AwkExpression) := do
  if ← isAtEnd then return none
  return some (← expression .none)

def readIndex : AwkReader (List AwkExpression) := do
  if ← accept "[" then readList depthLimit "]" else return []

def readSimple : AwkReader AwkStatement := do
  match ← peek with
  | some (.word "print") =>
    skip
    readPrint false
  | some (.word "printf") =>
    skip
    readPrint true
  | some (.word "next") =>
    skip
    return .next
  | some (.word "nextfile") =>
    skip
    return .nextFile
  | some (.word "break") =>
    skip
    return .leave
  | some (.word "continue") =>
    skip
    return .again
  | some (.word "exit") =>
    skip
    return .exit (← valueUnlessEnd)
  | some (.word "return") =>
    skip
    return .giveBack (← valueUnlessEnd)
  | some (.word "delete") =>
    skip
    let array ← readName
    return .delete array (← readIndex)
  | _ => return .expression (← expression .none)

mutual

def readStatement (fuel : Nat) : AwkReader AwkStatement :=
  match fuel with
  | 0 => tooDeep
  | fuel + 1 => do
    match ← peek with
    | some (.sign "\x7b") => return .block (← readBlock fuel)
    | some (.sign ";") =>
      skip
      return .block []
    | some (.word "if") =>
      skip
      expect "("
      let condition ← expression .none
      expect ")"
      let first ← readBody fuel
      -- An end of a line or a statement may stand in front of `else`.
      let before ← get
      skipEnds
      if ← isWord "else" then
        skip
        return .choice condition first (← readBody fuel)
      set before
      return .choice condition first []
    | some (.word "while") =>
      skip
      expect "("
      let condition ← expression .none
      expect ")"
      if ← accept ";" then return .loop false (some condition) [] []
      return .loop false (some condition) [] (← readBody fuel)
    | some (.word "do") =>
      skip
      let body ← readBody fuel
      skipEnds
      if !(← isWord "while") then refuse
      skip
      expect "("
      let condition ← expression .none
      expect ")"
      endStatement
      return .loop true (some condition) [] body
    | some (.word "for") =>
      skip
      expect "("
      match ← get with
      | (.name variableName, _) :: (.word "in", _) :: (.name array, _) :: (.sign ")", _) :: rest =>
        set rest
        return .forEach variableName array (← readBody fuel)
      | _ =>
        let first : List AwkStatement ← if ← isSign ";" then pure [] else do
          let statement ← readSimple
          pure [statement]
        expect ";"
        skipLines
        let condition : Option AwkExpression ← if ← isSign ";" then pure none else do
          let condition ← expression .none
          pure (some condition)
        expect ";"
        skipLines
        let step : List AwkStatement ← if ← isSign ")" then pure [] else do
          let statement ← readSimple
          pure [statement]
        expect ")"
        let body ← if ← accept ";" then pure [] else readBody fuel
        return .block (first ++ [.loop false condition step body])
    | _ =>
      let statement ← readSimple
      endStatement
      return statement

def readBody (fuel : Nat) : AwkReader (List AwkStatement) :=
  match fuel with
  | 0 => tooDeep
  | fuel + 1 => do
    skipLines
    if ← accept ";" then return []
    return [← readStatement fuel]

def readBlock (fuel : Nat) : AwkReader (List AwkStatement) :=
  match fuel with
  | 0 => tooDeep
  | fuel + 1 => do
    expect "\x7b"
    readStatements fuel

def readStatements (fuel : Nat) : AwkReader (List AwkStatement) :=
  match fuel with
  | 0 => tooDeep
  | fuel + 1 => do
    skipEnds
    if ← accept "\x7d" then return []
    match ← peek with
    | none => throw ⟨0, "missing \x7d near end of file".toList⟩
    | _ =>
      let first ← readStatement fuel
      return first :: (← readStatements fuel)

end

def block : AwkReader (List AwkStatement) := readBlock depthLimit

/-- The names of parameters up to a closing parenthesis; `fuel` bounds them. -/
def readParameters : (fuel : Nat) → AwkReader (List Text)
  | 0 => tooDeep
  | fuel + 1 => do
    skipLines
    if ← accept ")" then return []
    let name ← readName
    skipLines
    if ← accept "," then return name :: (← readParameters fuel)
    expect ")"
    return [name]

/-- The rules and functions of a script; `fuel` bounds them. -/
def readScript : (fuel : Nat) → (count : Nat) → AwkReader AwkScript
  | 0, _ => tooDeep
  | fuel + 1, count => do
    skipEnds
    let put (rule : AwkRule) : AwkReader AwkScript := do
      let rest ← readScript fuel (count + 1)
      return { rest with rules := rule :: rest.rules }
    match ← peek with
    | none => return ⟨[], []⟩
    | some (.word "function") =>
      skip
      let name : Text ← match ← peek with
        | some (.call name) | some (.name name) => do
          skip
          pure name
        | _ => refuse
      expect "("
      let parameters ← readParameters depthLimit
      skipLines
      let body ← block
      let rest ← readScript fuel (count + 1)
      return { rest with functions := ⟨name, parameters, body⟩ :: rest.functions }
    | some (.word "BEGIN") =>
      skip
      put ⟨.first, some (← block)⟩
    | some (.word "END") =>
      skip
      put ⟨.last, some (← block)⟩
    | some (.sign "\x7b") => put ⟨.always, some (← block)⟩
    | _ =>
      let start ← expression .none
      let condition : AwkCondition ← if ← accept "," then do
          skipLines
          let finish ← expression .none
          pure (.range count start finish)
        else pure (.holds start)
      if ← isSign "\x7b" then put ⟨condition, some (← block)⟩
      else
        endStatement
        put ⟨condition, none⟩

end AwkReader

def AwkScript.read (t : Text) : Except AwkFault AwkScript := do
  let tokens ← AwkToken.readAll t
  let (script, _) ← (AwkReader.readScript (tokens.length + 1) 0).run tokens
  return script

end LogDiagram.Shell
