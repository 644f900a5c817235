import LogDiagram.Number.Binary64
import LogDiagram.Text.Hexadecimal
import LogDiagram.Toml.Basic

/-!
# Words of TOML

Readers of white space and comments, strings, keys, numbers, dates and times. Each gives what it reads with the text
behind it, or nothing where the text breaks the rules.
-/

namespace LogDiagram.Toml

/-! ## Space between tokens -/

/-- White space inside a line. -/
def isSpacing (c : Char) : Bool := c = ' ' || c = '\t'

/-- A text without white space in front. -/
def skipSpacing (t : Text) : Text := t.dropWhile isSpacing

/-- A character that may stand in a comment or a string: no control character but the tabulator. -/
def isPlain (c : Char) : Bool := c = '\t' || (0x20 ≤ c.toNat && c.toNat ≠ 0x7F)

/-- What follows an end of a line. -/
def afterNewline? : Text → Option Text
  | '\n' :: rest => some rest
  | '\r' :: '\n' :: rest => some rest
  | _ => none

def skipComment : Text → Text
  | '#' :: rest => rest.dropWhile isPlain
  | t => t

/-- What follows a line of which nothing but white space and a comment is left. -/
def endOfLine? (t : Text) : Option Text :=
  match skipComment (skipSpacing t) with
  | [] => some []
  | t => afterNewline? t

/-- A text without white space, ends of lines and comments in front; `fuel` bounds the lines. -/
def skipLines : (fuel : Nat) → Text → Text
  | 0, t => t
  | fuel + 1, t =>
    match afterNewline? (skipComment (skipSpacing t)) with
    | some rest => skipLines fuel rest
    | none => skipSpacing t

/-! ## Strings -/

/-- The character whose number stands in front, in the given number of hexadecimal digits. -/
def scalar? (width : Nat) (t : Text) : Option (Char × Text) :=
  if t.length < width then none
  else
    ((Text.hexNumber? (t.take width)).bind Text.scalar?).map fun c => (c, t.drop width)

/-- The character that an escape stands for, behind its backslash. -/
def escaped? : Text → Option (Char × Text)
  | 'b' :: rest => some ('\x08', rest)
  | 't' :: rest => some ('\t', rest)
  | 'n' :: rest => some ('\n', rest)
  | 'f' :: rest => some ('\x0c', rest)
  | 'r' :: rest => some ('\r', rest)
  | '"' :: rest => some ('"', rest)
  | '\\' :: rest => some ('\\', rest)
  | 'u' :: rest => scalar? 4 rest
  | 'U' :: rest => scalar? 8 rest
  | _ => none

/-- A string in quotes of the given kind on one line, behind its first quote; `fuel` bounds its characters. -/
def readLine (quote : Char) : (fuel : Nat) → (done : Text) → Text → Option (Text × Text)
  | 0, _, _ => none
  | _, _, [] => none
  | fuel + 1, done, c :: rest =>
    if c = quote then some (done.reverse, rest)
    else if c = '\\' ∧ quote = '"' then
      match escaped? rest with
      | some (c, rest) => readLine quote fuel (c :: done) rest
      | none => none
    else if isPlain c then readLine quote fuel (c :: done) rest
    else none

/-- The text behind a backslash at the end of a line: the next character that is neither blank nor an end of a line. -/
def afterBreak? (t : Text) : Option Text :=
  (afterNewline? (skipSpacing t)).map fun rest =>
    let rec skip : (fuel : Nat) → Text → Text
      | 0, t => t
      | fuel + 1, t =>
        match afterNewline? (skipSpacing t) with
        | some rest => skip fuel rest
        | none => skipSpacing t
    skip rest.length rest

/-- How many quotes a text starts with, up to five. -/
def quotesInFront (quote : Char) (t : Text) : Nat := ((t.take 5).takeWhile (· = quote)).length

/-- A string in triple quotes, behind them. Up to two quotes may stand in front of the closing ones. -/
def readBlock (quote : Char) : (fuel : Nat) → (done : Text) → Text → Option (Text × Text)
  | 0, _, _ => none
  | _, _, [] => none
  | fuel + 1, done, c :: rest =>
    let quotes := quotesInFront quote (c :: rest)
    if 3 ≤ quotes then
      some ((List.replicate (quotes - 3) quote ++ done).reverse, (c :: rest).drop quotes)
    else if c = '\\' ∧ quote = '"' then
      match afterBreak? rest with
      | some rest => readBlock quote fuel done rest
      | none =>
        match escaped? rest with
        | some (c, rest) => readBlock quote fuel (c :: done) rest
        | none => none
    else
      match afterNewline? (c :: rest) with
      | some rest => readBlock quote fuel ('\n' :: done) rest
      | none => if isPlain c then readBlock quote fuel (c :: done) rest else none

/-- A string behind its first quote. An end of a line right behind triple quotes does not count. -/
def readString (quote : Char) (t : Text) : Option (Text × Text) :=
  match t with
  | a :: b :: rest =>
    if a = quote ∧ b = quote then
      let body := (afterNewline? rest).getD rest
      readBlock quote (body.length + 1) [] body
    else readLine quote (t.length + 1) [] t
  | _ => readLine quote (t.length + 1) [] t

/-! ## Keys -/

/-- A character of a key without quotes. -/
def isBare (c : Char) : Bool := c.isAlphanum || c = '-' || c = '_'

def readKeyPart (t : Text) : Option (Text × Text) :=
  match t with
  | '"' :: rest => readLine '"' (rest.length + 1) [] rest
  | '\'' :: rest => readLine '\'' (rest.length + 1) [] rest
  | _ =>
    match t.span isBare with
    | ([], _) => none
    | (name, rest) => some (name, rest)

/-- How many parts a key may have, and how deeply values may nest: less than this. -/
def depthLimit : Nat := 80

/-- The parts of a dotted key, and the text behind them and white space; `fuel` bounds the parts. -/
def readKeyParts : (fuel : Nat) → Text → Option (List Text × Text)
  | 0, _ => none
  | fuel + 1, t =>
    match readKeyPart (skipSpacing t) with
    | none => none
    | some (part, rest) =>
      match skipSpacing rest with
      | '.' :: rest => (readKeyParts fuel rest).map fun (parts, rest) => (part :: parts, rest)
      | rest => some ([part], rest)

/-- A dotted key as its path and its last part. -/
def readKey (t : Text) : Option ((List Text × Text) × Text) :=
  match readKeyParts (depthLimit - 1) t with
  | some (parts, rest) =>
    match parts.getLast? with
    | some key => some ((parts.dropLast, key), rest)
    | none => none
  | none => none

/-! ## Numbers -/

/-- Digits of a kind, between which low lines may stand, and the text behind them. -/
def readDigits (isDigit : Char → Bool) : (afterDigit : Bool) → (done : Text) → Text → Option (Text × Text)
  | afterDigit, done, [] => if afterDigit then some (done.reverse, []) else none
  | afterDigit, done, c :: rest =>
    if isDigit c then readDigits isDigit true (c :: done) rest
    else if c = '_' ∧ afterDigit then readDigits isDigit false done rest
    else if afterDigit then some (done.reverse, c :: rest)
    else none

def numberOf (base : Nat) (digits : Text) : Nat := digits.foldl (fun n c => n * base + (Text.hexDigit? c).getD 0) 0

/-- The digits in front of the point: only zero starts with a zero. -/
def readWhole : Text → Option (Text × Text)
  | '0' :: rest => some (['0'], rest)
  | t => readDigits Char.isDigit false [] t

/-- A decimal number beyond the greatest finite one. -/
def isTooLarge (digits : Text) (exponent : Int) : Bool :=
  let n := numberOf 10 digits
  let size : Int := (Text.ofNat n).length + exponent
  n ≠ 0 && (310 < size || (300 < size &&
    (if 0 ≤ exponent then Binary64.ofRatio (n * Nat.pow 10 exponent.toNat) 1
      else Binary64.ofRatio n (Nat.pow 10 (-exponent).toNat)).isTooLarge))

/-- The power of ten of a number, behind its letter. -/
def readExponent (t : Text) : Option (Int × Text) :=
  match t with
  | '+' :: rest => (readDigits Char.isDigit false [] rest).map fun (ds, rest) => ((numberOf 10 ds : Int), rest)
  | '-' :: rest => (readDigits Char.isDigit false [] rest).map fun (ds, rest) => (-(numberOf 10 ds : Int), rest)
  | _ => (readDigits Char.isDigit false [] t).map fun (ds, rest) => ((numberOf 10 ds : Int), rest)

/-- What may follow the digits in front of a point: a fraction, a power of ten, both or none. -/
def readDecimal (negative : Bool) (whole : Text) (t : Text) : Option Text :=
  let finish (fraction : Text) (exponent : Int) (rest : Text) : Option Text :=
    if !negative && isTooLarge (whole ++ fraction) (exponent - fraction.length) then none else some rest
  let scale (fraction : Text) (t : Text) : Option Text :=
    match t with
    | 'e' :: rest | 'E' :: rest =>
      match readExponent rest with
      | some (exponent, rest) => finish fraction exponent rest
      | none => none
    | _ => finish fraction 0 t
  match t with
  | '.' :: rest =>
    match readDigits Char.isDigit false [] rest with
    | some (fraction, rest) => scale fraction rest
    | none => none
  | 'e' :: _ | 'E' :: _ => scale [] t
  | _ =>
    let n := numberOf 10 whole
    if n < Nat.pow 2 63 ∨ (negative ∧ n = Nat.pow 2 63) then some t else none

/-- A number in another base than ten, behind the mark of its base. -/
def readInBase (base : Nat) (isDigit : Char → Bool) (t : Text) : Option Text :=
  match readDigits isDigit false [] t with
  | some (digits, rest) => if numberOf base digits < Nat.pow 2 63 then some rest else none
  | none => none

def afterNumber? (t : Text) : Option Text :=
  let unsigned (negative : Bool) (t : Text) : Option Text :=
    match t with
    | 'i' :: 'n' :: 'f' :: rest => some rest
    | 'n' :: 'a' :: 'n' :: rest => some rest
    | _ =>
      match readWhole t with
      | some (whole, rest) => readDecimal negative whole rest
      | none => none
  match t with
  | '0' :: 'x' :: rest => readInBase 16 (fun c => (Text.hexDigit? c).isSome) rest
  | '0' :: 'o' :: rest => readInBase 8 (fun c => '0' ≤ c && c ≤ '7') rest
  | '0' :: 'b' :: rest => readInBase 2 (fun c => c = '0' || c = '1') rest
  | '+' :: rest => unsigned false rest
  | '-' :: rest => unsigned true rest
  | _ => unsigned false t

/-! ## Dates and times -/

/-- A number of exactly the given number of digits. -/
def readFixed (width : Nat) (t : Text) : Option (Nat × Text) :=
  let digits := t.take width
  if digits.length = width && digits.all Char.isDigit then some (numberOf 10 digits, t.drop width) else none

def daysIn (year month : Nat) : Nat :=
  if month = 2 then if year % 4 = 0 ∧ (year % 100 ≠ 0 ∨ year % 400 = 0) then 29 else 28
  else if month = 4 ∨ month = 6 ∨ month = 9 ∨ month = 11 then 30
  else 31

/-- What follows the month and day of a date, behind the year and a hyphen. -/
def afterMonthDay? (year : Nat) (t : Text) : Option Text :=
  match readFixed 2 t with
  | some (month, '-' :: rest) =>
    match readFixed 2 rest with
    | some (day, rest) =>
      if 1 ≤ month ∧ month ≤ 12 ∧ 1 ≤ day ∧ day ≤ daysIn year month then some rest else none
    | none => none
  | _ => none

/-- What follows the minutes and seconds of a time, behind the hour and a colon. -/
def afterMinutes? (t : Text) : Option Text :=
  match readFixed 2 t with
  | some (minute, ':' :: rest) =>
    match readFixed 2 rest with
    | some (second, rest) =>
      if 59 < minute ∨ 60 < second then none
      else
        match rest with
        | '.' :: fraction =>
          match fraction.span Char.isDigit with
          | ([], _) => some rest
          | (_, rest) => some rest
        | _ => some rest
    | none => none
  | _ => none

def afterHour? (t : Text) : Option Text :=
  match readFixed 2 t with
  | some (hour, ':' :: rest) => if hour ≤ 23 then some rest else none
  | _ => none

/-- What follows the offset of a time from the common one. -/
def afterOffset? (t : Text) : Option Text :=
  let shifted (t : Text) : Option Text :=
    match afterHour? t with
    | some rest =>
      match readFixed 2 rest with
      | some (minute, rest) => if minute ≤ 59 then some rest else none
      | none => none
    | none => none
  match t with
  | 'Z' :: rest | 'z' :: rest => some rest
  | '+' :: rest | '-' :: rest => shifted rest
  | _ => some t

/--
What follows a date, a time or both, if the text starts like one: a year and a hyphen, or an hour and a colon.
-/
def afterMoment? (t : Text) : Option (Option Text) :=
  match readFixed 4 t with
  | some (year, '-' :: rest) =>
    some (match afterMonthDay? year rest with
      | none => none
      | some rest =>
        match rest with
        | c :: time =>
          if c = 'T' ∨ c = 't' ∨ c = ' ' then
            match afterHour? time with
            | some minutes => (afterMinutes? minutes).bind afterOffset?
            | none => some rest
          else some rest
        | [] => some [])
  | _ => (afterHour? t).map afterMinutes?

end LogDiagram.Toml
