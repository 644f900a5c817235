import LogDiagram.Number.Decimal
import LogDiagram.Shell.Awk.Script
import LogDiagram.Shell.EditScript

/-!
# The tokens of scripts that work on records

* `AwkToken.readAll` takes a script apart. Whether a slash starts an expression depends on the token before it.
-/

namespace LogDiagram.Shell

inductive AwkToken where
  | number (value : Float)
  | text (t : Text)
  | pattern (t : Text)
  /-- The name of a function, with a parenthesis right behind it. -/
  | call (name : Text)
  | name (name : Text)
  | word (name : String)
  | builtin (name : String)
  | sign (s : String)
  | lineEnd

namespace AwkToken

def words : List String := ["BEGIN", "END", "function", "func", "if", "else", "while", "for", "do", "break", "continue",
  "next", "nextfile", "exit", "return", "delete", "in", "getline", "print", "printf"]

/-- The names of the functions that every script has. -/
def builtins : List String := ["length", "substr", "index", "split", "sub", "gsub", "match", "sprintf", "sin", "cos",
  "atan2", "exp", "log", "sqrt", "int", "rand", "srand", "tolower", "toupper", "system", "close", "fflush"]

/-- The signs, longer ones first. -/
def signs : List String := ["<=", ">=", "==", "!=", "&&", "||", "++", "--", "+=", "-=", "*=", "/=", "%=", "^=", ">>",
  "!~", "\x7b", "\x7d", "(", ")", "[", "]", ";", ",", "+", "-", "*", "/", "%", "^", "!", ">", "<", "|", "?", ":", "~",
  "$", "="]

/-- A slash behind the token starts an expression. -/
def allowsPattern : Option AwkToken → Bool
  | none | some lineEnd | some (word _) => true
  | some (sign s) => !([")", "]", "$", "++", "--"].contains s)
  | _ => false

def shown : AwkToken → Text
  | number _ => "number".toList
  | text t | pattern t => t
  | call t | name t => t
  | word s | builtin s => s.toList
  | sign s => s.toList
  | lineEnd => "end of line".toList

/-- The number with a mantissa and an exponent. -/
def floatOf (x : Binary64) : Float := Float.scaleB (Float.ofNat x.mantissa) x.exponent

/-- The number nearest to a quotient. -/
def floatOfRatio (isNegative : Bool) (num den : Nat) : Float :=
  let x := floatOf (Binary64.ofRatio num den)
  if isNegative then -x else x

/-- The characters between quotes, and what follows; none without a closing quote. -/
def readText : (fuel : Nat) → (done : Text) → Text → Option (Text × Text)
  | 0, _, _ | _, _, [] => none
  | fuel + 1, done, c :: rest =>
    match c, rest with
    | '"', rest => some (done.reverse, rest)
    | '\n', _ => none
    | '\\', d :: after =>
      match d with
      | '\n' => readText fuel done after
      | '"' => readText fuel ('"' :: done) after
      | '\\' => readText fuel ('\\' :: done) after
      | 'n' => readText fuel ('\n' :: done) after
      | 't' => readText fuel ('\t' :: done) after
      | 'r' => readText fuel ('\r' :: done) after
      | 'a' => readText fuel ('\x07' :: done) after
      | 'b' => readText fuel ('\x08' :: done) after
      | 'f' => readText fuel ('\x0c' :: done) after
      | 'v' => readText fuel ('\x0b' :: done) after
      | d =>
        match EditStep.readDigits 8 3 none (d :: after) with
        | (some n, rest) => readText fuel (Char.ofNat (n % 256) :: done) rest
        | (none, _) =>
          match if d = 'x' then EditStep.readDigits 16 2 none after else (none, after) with
          | (some n, rest) => readText fuel (Char.ofNat n :: done) rest
          | (none, _) => readText fuel (d :: '\\' :: done) after
    | c, rest => readText fuel (c :: done) rest

/-- The expression up to a slash, and what follows; none without a closing slash. -/
def readPattern : (fuel : Nat) → (isInBrackets : Bool) → (done : Text) → Text → Option (Text × Text)
  | 0, _, _, _ | _, _, _, [] => none
  | fuel + 1, isInBrackets, done, c :: rest =>
    match c, rest with
    | '\n', _ => none
    | '\\', '/' :: after => readPattern fuel isInBrackets ('/' :: done) after
    | '\\', '"' :: after => readPattern fuel isInBrackets ('"' :: done) after
    | '\\', d :: after => readPattern fuel isInBrackets (d :: '\\' :: done) after
    | '[', '^' :: ']' :: after => readPattern fuel true (']' :: '^' :: '[' :: done) after
    | '[', ']' :: after => readPattern fuel true (']' :: '[' :: done) after
    | '[', '[' :: ':' :: after => readPattern fuel true (':' :: '[' :: '[' :: done) after
    | '[', rest => readPattern fuel true ('[' :: done) rest
    | ':', ']' :: ']' :: after => readPattern fuel false (']' :: ']' :: ':' :: done) after
    | ']', rest => readPattern fuel false (']' :: done) rest
    | '/', rest => if isInBrackets then readPattern fuel true ('/' :: done) rest else some (done.reverse, rest)
    | c, rest => readPattern fuel isInBrackets (c :: done) rest

def isNameChar (c : Char) : Bool := c.isAlphanum || c == '_'

/-- The tokens of a text, each with its line; `fuel` bounds them. -/
def readFrom : (fuel line : Nat) → (previous : Option AwkToken) → Text → Except AwkFault (List (AwkToken × Nat))
  | 0, _, _, _ => .ok []
  | _, _, _, [] => .ok []
  | fuel + 1, line, previous, c :: rest =>
    let put (token : AwkToken) (rest : Text) : Except AwkFault (List (AwkToken × Nat)) :=
      (readFrom fuel line (some token) rest).map fun tokens => (token, line) :: tokens
    match c, rest with
    | '\n', rest =>
      (readFrom fuel (line + 1) (some .lineEnd) rest).map fun tokens => (.lineEnd, line) :: tokens
    | '\\', '\n' :: rest => readFrom fuel (line + 1) previous rest
    | '\\', '\r' :: '\n' :: rest => readFrom fuel (line + 1) previous rest
    | '#', rest => readFrom fuel line previous (rest.dropWhile (· != '\n'))
    | '"', rest =>
      match readText (rest.length + 1) [] rest with
      | some (t, after) => put (.text t) after
      | none => .error ⟨line, "runaway string constant \"".toList ++ rest.take 10⟩
    | c, rest =>
      if c = ' ' ∨ c = '\t' ∨ c = '\r' then readFrom fuel line previous rest
      else if c.isDigit || (c == '.' && rest.head?.any Char.isDigit) then
        match Decimal.read? (c :: rest) with
        | some numeral => put (.number (floatOfRatio false numeral.num numeral.den)) numeral.rest
        | none => put (.number 0) rest
      else if c.isAlpha || c == '_' then
        let (more, after) := rest.span isNameChar
        let name := c :: more
        let word := String.ofList name
        if words.contains word then put (.word (if word = "func" then "function" else word)) after
        else if builtins.contains word then put (.builtin word) after
        else if after.head? = some '(' then put (.call name) after
        else put (.name name) after
      else if c = '/' && allowsPattern previous then
        match readPattern (rest.length + 1) false [] rest with
        | some (t, after) => put (.pattern t) after
        | none => .error ⟨line, "runaway regular expression /".toList ++ rest.take 10⟩
      else
        match signs.findSome? fun s => (Text.afterPrefix? s.toList (c :: rest)).map fun after => (s, after) with
        | some (s, after) => put (.sign s) after
        | none => .error ⟨line, "unexpected character '".toList ++ [c, '\'']⟩

def readAll (t : Text) : Except AwkFault (List (AwkToken × Nat)) := readFrom (t.length + 1) 1 none t

end AwkToken

end LogDiagram.Shell
