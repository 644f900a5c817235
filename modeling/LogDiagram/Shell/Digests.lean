import LogDiagram.Bytes.Digest
import LogDiagram.Shell.Arguments
import LogDiagram.Shell.Printing
import LogDiagram.Text.Lines

/-!
# Programs that write files as numbers

* `printDigests` prints digests of files, or checks those that were printed;
* `printBase64` writes bytes with 64 characters, or reads them;
* `printUnits` shows the bytes of files.
-/

namespace LogDiagram.Shell

def hexadecimal (bytes : Bytes) : Text :=
  bytes.flatMap fun b =>
    let digits := Nat.toDigits 16 b.toNat
    if digits.length = 1 then '0' :: digits else digits

/-! ## Digests -/

def readDigestLine? (size : Nat) (line : Text) : Option (Text × Text) :=
  let (digest, rest) := line.span fun c => c.isDigit || ('a' ≤ c && c ≤ 'f') || ('A' ≤ c && c ≤ 'F')
  match rest with
  | ' ' :: c :: name =>
    if digest.length = 2 * size && (c = ' ' || c = '*') && !name.isEmpty then some (Text.asciiLower digest, name) else none
  | _ => none

structure DigestCheck where
  session : Session
  wrong : Nat
  unread : Nat
  unknown : Nat
  right : Nat

/-- Prints digests of files, or checks those that were printed. -/
def printDigests (program title : String) (size : Nat) (digest : Bytes → Bytes) : Program := fun arguments session =>
  session.withArguments program ⟨"bctwzQSTiD", [("binary", 'b'), ("check", 'c'), ("text", 't'), ("warn", 'w'),
    ("zero", 'z'), ("quiet", 'Q'), ("status", 'S'), ("strict", 'T'), ("ignore-missing", 'i'), ("tag", 'D')], false⟩ 1
    (fun found session =>
      let (contents, session) := session.contents program found.operands
      let warn (n : Nat) (one many : String) (session : Session) : Session :=
        if n = 0 || found.has 'S' then session
        else
          let status := session.status
          session.complain program ("WARNING: ".toList ++ Text.ofNat n ++ ' ' :: (if n = 1 then one else many).toList) status
      if found.has 'c' then
        contents.foldl (fun session (path, content) =>
          let check := (bareLines content).foldl (fun (check : DigestCheck) line =>
            match readDigestLine? size line with
            | none => { check with unknown := check.unknown + 1 }
            | some (expected, name) =>
              match check.session.readFile name with
              | .error cause =>
                if found.has 'i' && cause = .notFound then check
                else
                  let session := check.session.complain program (Session.fileFailure name cause) 1
                  let session := if found.has 'S' then session
                    else session.printLine (name ++ ": FAILED open or read".toList)
                  { check with session, unread := check.unread + 1 }
              | .ok content =>
                if hexadecimal (digest (Bytes.ofPlain content)) = expected then
                  { check with
                    session := if found.has 'Q' || found.has 'S' then check.session
                      else check.session.printLine (name ++ ": OK".toList)
                    right := check.right + 1 }
                else
                  { check with
                    session := if found.has 'S' then check.session
                      else check.session.printLine (name ++ ": FAILED".toList)
                    wrong := check.wrong + 1 }) ⟨session, 0, 0, 0, 0⟩
          let all := check.right + check.wrong + check.unread
          if all = 0 then
            check.session.complain program ((if path = ['-'] then "standard input".toList else path) ++
              ": no properly formatted ".toList ++ title.toList ++ " checksum lines found".toList) 1
          else
            let session := if check.wrong + check.unread > 0 || (found.has 'T' && check.unknown > 0) then
                check.session.withStatus 1
              else check.session
            warn check.wrong "computed checksum did NOT match" "computed checksums did NOT match"
              (warn check.unread "listed file could not be read" "listed files could not be read"
                (warn check.unknown "line is improperly formatted" "lines are improperly formatted" session))) session
      else
        session.print (contents.flatMap fun (path, content) =>
          let digest := hexadecimal (digest (Bytes.ofPlain content))
          let lineEnd := if found.has 'z' then '\x00' else '\n'
          if found.has 'D' then title.toList ++ " (".toList ++ path ++ ") = ".toList ++ digest ++ [lineEnd]
          else digest ++ ' ' :: (if found.has 'b' then '*' else ' ') :: path ++ [lineEnd])) arguments

def printRemainders : Program := fun arguments session =>
  session.withArguments "cksum" (Grammar.ofLetters "") 1 (fun found session =>
    let (contents, session) := session.contents "cksum" found.operands
    session.print (contents.flatMap fun (path, content) =>
      Text.ofNat (Digest.cyclic (Bytes.ofPlain content)) ++ ' ' :: Text.ofNat content.length ++
        (if found.operands.isEmpty then [] else ' ' :: path) ++ ['\n'])) arguments

def printSums : Program := fun arguments session =>
  session.withArguments "sum" (Grammar.ofLetters "rs") 1 (fun found session =>
    let (contents, session) := session.contents "sum" found.operands
    session.print (contents.flatMap fun (path, content) =>
      let name := if found.operands.isEmpty then [] else ' ' :: path
      if found.has 's' then
        let sum := content.foldl (fun sum c => sum + c.toNat) 0
        let folded := sum % 65536 + sum % Nat.pow 2 32 / 65536
        Text.ofNat (folded % 65536 + folded / 65536) ++ ' ' :: Text.ofNat ((content.length + 511) / 512) ++ name ++ ['\n']
      else
        Decimal.padded 5 (Digest.turningSum (Bytes.ofPlain content)) ++ ' ' ::
          filled false 5 (Text.ofNat ((content.length + 1023) / 1024)) ++ name ++ ['\n'])) arguments

/-! ## Sixty-four characters -/

/-- The characters that stand for numbers below 64. -/
def base64Letters : Array Char :=
  "ABCDEFGHIJKLMNOPQRSTUVWXYZabcdefghijklmnopqrstuvwxyz0123456789+/".toList.toArray

/-- Bytes with four characters for each three of them. -/
def toBase64 : Bytes → Text
  | a :: b :: c :: rest =>
    let n := Digest.ofBytes [a, b, c]
    [n / 262144, n / 4096 % 64, n / 64 % 64, n % 64].map (fun i => base64Letters.getD i '=') ++ toBase64 rest
  | [a, b] =>
    let n := Digest.ofBytes [a, b, 0]
    [n / 262144, n / 4096 % 64, n / 64 % 64].map (fun i => base64Letters.getD i '=') ++ ['=']
  | [a] =>
    let n := Digest.ofBytes [a, 0, 0]
    [n / 262144, n / 4096 % 64].map (fun i => base64Letters.getD i '=') ++ ['=', '=']
  | [] => []

/-- The bytes that characters stand for, and whether all could be read. -/
def ofBase64 : Text → Bytes × Bool
  | a :: b :: c :: d :: rest =>
    let value (c : Char) : Option Nat := base64Letters.toList.findIdx? (· == c)
    match value a, value b, value c, value d with
    | some a, some b, some c, some d =>
      let (others, isWhole) := ofBase64 rest
      (Digest.toBytes 3 (a * 262144 + b * 4096 + c * 64 + d) ++ others, isWhole)
    | some a, some b, some c, none =>
      ((Digest.toBytes 3 (a * 262144 + b * 4096 + c * 64)).take 2, d == '=' && rest.isEmpty)
    | some a, some b, none, none =>
      ((Digest.toBytes 3 (a * 262144 + b * 4096)).take 1, c == '=' && d == '=' && rest.isEmpty)
    | _, _, _, _ => ([], false)
  | [] => ([], true)
  | _ => ([], false)

/-- A text in lines of so many characters; `fuel` bounds them. -/
def wrapped64 (width : Nat) : (fuel : Nat) → Text → Text
  | 0, _ => []
  | _, [] => []
  | fuel + 1, t => t.take width ++ '\n' :: wrapped64 width fuel (t.drop width)

/-- Writes bytes with 64 characters, or reads them. -/
def printBase64 : Program := fun arguments session =>
  session.withArguments "base64" ⟨"diw:", [("decode", 'd'), ("ignore-garbage", 'i'), ("wrap", 'w')], false⟩ 1
    (fun found session =>
      let (contents, session) := session.contents "base64" (found.operands.take 1)
      if session.status != 0 then session
      else
        let content := contents.flatMap (·.2)
        if found.has 'd' then
          let letters := content.filter fun c =>
            if found.has 'i' then c == '=' || base64Letters.contains c else c != '\n'
          let (bytes, isWhole) := ofBase64 letters
          let session := session.print (Bytes.toPlain bytes)
          if isWhole then session else session.complain "base64" "invalid input".toList 1
        else
          let width := ((found.value? 'w').bind digitsValue?).getD 76
          let t := toBase64 (Bytes.ofPlain content)
          session.print (if width = 0 then t else wrapped64 width (t.length + 1) t)) arguments

/-! ## Bytes as numbers -/

/-- How bytes are shown: a letter, and how many bytes belong together. -/
structure UnitStyle where
  letter : Char
  size : Nat
  /-- The characters are shown at the end of the line, too. -/
  hasText : Bool
  deriving DecidableEq, Repr

namespace UnitStyle

/-- How many characters a unit takes. -/
def width (style : UnitStyle) : Nat :=
  let pick (all : List Nat) : Nat := all.getD (Nat.log2 style.size) 3
  match style.letter with
  | 'o' => pick [3, 6, 11, 22]
  | 'x' => pick [2, 4, 8, 16]
  | 'd' => pick [4, 6, 11, 20]
  | 'u' => pick [3, 5, 10, 20]
  | _ => 3

def controlNames : List String := ["nul", "soh", "stx", "etx", "eot", "enq", "ack", "bel", "bs", "ht", "nl", "vt", "ff",
  "cr", "so", "si", "dle", "dc1", "dc2", "dc3", "dc4", "nak", "syn", "etb", "can", "em", "sub", "esc", "fs", "gs", "rs",
  "us", "sp"]

def shown (style : UnitStyle) (bytes : Bytes) : Text :=
  let n := Digest.ofBytes (bytes ++ List.replicate (style.size - bytes.length) 0).reverse
  let padded (base : Nat) : Text :=
    let digits := Nat.toDigits base n
    List.replicate (style.width - digits.length) '0' ++ digits
  match style.letter with
  | 'o' => padded 8
  | 'x' => padded 16
  | 'u' => Text.ofNat n
  | 'd' =>
    let limit := Nat.pow 2 (8 * style.size)
    Text.ofInt (if 2 * n ≥ limit then (n : Int) - limit else n)
  | 'a' =>
    let n := n % 128
    if n = 127 then "del".toList
    else match controlNames[n]? with
      | some name => name.toList
      | none => [Char.ofNat n]
  | _ =>
    match n with
    | 0 => ['\\', '0']
    | 7 => ['\\', 'a']
    | 8 => ['\\', 'b']
    | 9 => ['\\', 't']
    | 10 => ['\\', 'n']
    | 11 => ['\\', 'v']
    | 12 => ['\\', 'f']
    | 13 => ['\\', 'r']
    | n =>
      if 32 ≤ n ∧ n < 127 then [Char.ofNat n]
      else
        let digits := Nat.toDigits 8 n
        List.replicate (3 - digits.length) '0' ++ digits

/-- The styles that a text writes; `fuel` bounds them. -/
def readAll? : (fuel : Nat) → Text → Option (List UnitStyle)
  | 0, _ => some []
  | _, [] => some []
  | fuel + 1, letter :: rest => do
    let (size, rest) : Nat × Text ←
      if letter = 'a' ∨ letter = 'c' then pure (1, rest)
      else if ['o', 'x', 'd', 'u'].contains letter then
        let (digits, after) := rest.span Char.isDigit
        match digitsValue? digits, after with
        | some n, after => if [1, 2, 4, 8].contains n then pure (n, after) else none
        | none, 'C' :: after => pure (1, after)
        | none, 'S' :: after => pure (2, after)
        | none, 'I' :: after => pure (4, after)
        | none, 'L' :: after => pure (8, after)
        | none, after => pure (4, after)
      else none
    let (hasText, rest) : Bool × Text := match rest with
      | 'z' :: rest => (true, rest)
      | rest => (false, rest)
    return ⟨letter, size, hasText⟩ :: (← readAll? fuel rest)

/-- The units of a block, each filled up so that the blocks of all styles are equally wide. -/
def line (style : UnitStyle) (blockSize blockWidth : Nat) (block : Bytes) : Text :=
  let fields := blockSize / style.size
  let padding := blockWidth - fields * style.width
  let units := Digest.parts style.size (block.length + 1) block
  let (body, _) := (units.zipIdx).foldl (fun ((body, left) : Text × Nat) (unit, i) =>
    let next := padding * (fields - i - 1) / fields
    (body ++ filled false (left - next + style.width) (style.shown unit), next)) ([], padding)
  if style.hasText then
    let missing := (fields - units.length) * style.width + (padding * (fields - units.length) / fields)
    body ++ List.replicate missing ' ' ++ "  >".toList ++
      (block.map fun b => if 32 ≤ b.toNat ∧ b.toNat < 127 then Char.ofNat b.toNat else '.') ++ ['<']
  else body

end UnitStyle

/-- Shows the bytes of files. -/
def printUnits : Program := fun arguments session =>
  session.withArguments "od" ⟨"A:abcdfij:lN:osS:t:vw::x", [("address-radix", 'A'), ("skip-bytes", 'j'),
    ("read-bytes", 'N'), ("format", 't'), ("output-duplicates", 'v'), ("width", 'w')], false⟩ 1
    (fun found session =>
      let styles := found.options.filterMap fun (letter, value) =>
        match letter with
        | 't' => some (UnitStyle.readAll? (value.length + 1) value)
        | 'a' => some (some [⟨'a', 1, false⟩])
        | 'b' => some (some [⟨'o', 1, false⟩])
        | 'c' => some (some [⟨'c', 1, false⟩])
        | 'd' => some (some [⟨'u', 2, false⟩])
        | 'i' => some (some [⟨'d', 4, false⟩])
        | 'l' => some (some [⟨'d', 8, false⟩])
        | 'o' => some (some [⟨'o', 2, false⟩])
        | 's' => some (some [⟨'d', 2, false⟩])
        | 'x' => some (some [⟨'x', 2, false⟩])
        | _ => none
      if styles.any Option.isNone then
        session.complain "od" ("invalid type string ".toList ++ quoted ((found.value? 't').getD [])) 1
      else
        let styles := (styles.filterMap id).flatten
        let styles : List UnitStyle := if styles.isEmpty then [⟨'o', 2, false⟩] else styles
        let number (letter : Char) : Option Nat := (found.value? letter).bind digitsValue?
        let (contents, session) := session.contents "od" found.operands
        let content := (contents.flatMap (·.2)).drop ((number 'j').getD 0)
        let content := match number 'N' with
          | some n => content.take n
          | none => content
        let size := max 1 (if found.has 'w' then (number 'w').getD 32 else 16)
        let width := styles.foldl (fun width style => max width (size / style.size * (style.width + 1))) 0
        let address (n : Nat) : Text :=
          match found.value? 'A' with
          | some ['n'] => []
          | some ['d'] => Decimal.padded 7 n
          | some ['x'] =>
            let digits := Nat.toDigits 16 n
            List.replicate (6 - digits.length) '0' ++ digits
          | _ =>
            let digits := Nat.toDigits 8 n
            List.replicate (7 - digits.length) '0' ++ digits
        let start := (number 'j').getD 0
        let blocks := Digest.parts size (content.length + 1) (Bytes.ofPlain content)
        let (body, _, _) := (blocks.zipIdx).foldl
          (fun ((body, previous, isHidden) : List Text × Option Bytes × Bool) (block, i) =>
            if !found.has 'v' && previous == some block then
              (if isHidden then body else ['*', '\n'] :: body, previous, true)
            else
              let lines := (styles.zipIdx).flatMap fun (style, j) =>
                let front := address (start + i * size)
                (if j = 0 then front else List.replicate front.length ' ') ++ style.line size width block ++ ['\n']
              (lines :: body, some block, false)) ([], none, false)
        let last := address (start + content.length)
        if contents.isEmpty && !found.operands.isEmpty then session
        else session.print (body.reverse.flatten ++ (if last.isEmpty then [] else last ++ ['\n']))) arguments

end LogDiagram.Shell
