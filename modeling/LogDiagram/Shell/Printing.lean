import LogDiagram.Number.Decimal
import LogDiagram.Shell.Arguments
import LogDiagram.Shell.Arithmetic

/-!
# Programs that print their arguments

* `echo` prints its arguments with blanks between them, and `echoPlain` does so without a meaning for backslashes unless
  it is asked for;
* `printf` prints its arguments as a format says.
-/

namespace LogDiagram.Shell

/-! ## Escapes -/

/-- The characters that escapes of one letter stand for. -/
def escapes : List (Char × Nat) :=
  [('a', 7), ('b', 8), ('e', 27), ('f', 12), ('n', 10), ('r', 13), ('t', 9), ('v', 11), ('\\', 92)]

/-- The character with the number that some digits in front of a text write, and what follows; one byte counts. -/
def numbered (base width : Nat) (t : Text) : Char × Text :=
  let digits := (t.take width).takeWhile fun c => (digitIn? base c).isSome
  (Char.ofNat ((numeral base digits).1 % 256), t.drop digits.length)

/-- What a backslash stands for with the text behind it, and what follows. -/
def escape (t : Text) : Text × Text :=
  match t with
  | [] => (['\\'], [])
  | c :: rest =>
    match escapes.lookup c with
    | some n => ([Char.ofNat n], rest)
    | none =>
      if '0' ≤ c ∧ c ≤ '7' then
        let (c, rest) := numbered 8 3 t
        ([c], rest)
      else (['\\', c], rest)

/-- A text with its escapes resolved; none of it after `\c` counts, and the answer tells whether that was found. -/
def unescape (hasHex : Bool) : (fuel : Nat) → Text → Text × Bool
  | 0, _ => ([], false)
  | _, [] => ([], false)
  | _, '\\' :: 'c' :: _ => ([], true)
  | fuel + 1, '\\' :: '0' :: rest =>
    let (c, rest) := numbered 8 3 rest
    let (more, isStopped) := unescape hasHex fuel rest
    (c :: more, isStopped)
  | fuel + 1, '\\' :: rest =>
    let (front, rest) := match rest with
      | 'x' :: d :: after =>
        if hasHex && (digitIn? 16 d).isSome then
          let (c, after) := numbered 16 2 (d :: after)
          ([c], after)
        else escape rest
      | _ => escape rest
    let (more, isStopped) := unescape hasHex fuel rest
    (front ++ more, isStopped)
  | fuel + 1, c :: rest =>
    let (more, isStopped) := unescape hasHex fuel rest
    (c :: more, isStopped)

/-- Prints the arguments, in which escapes count, with blanks between them. -/
def echo : Program := fun arguments session =>
  let (isOpen, arguments) :=
    match arguments with
    | ['-', 'n'] :: rest => (true, rest)
    | _ => (false, arguments)
  let t := Text.joined [' '] arguments
  let (content, isStopped) := unescape false (t.length + 1) t
  (session.print (if isOpen || isStopped then content else content ++ ['\n'])).withStatus 0

/-- The letters of the options in front of the arguments of `echoPlain`, and the arguments behind them. -/
def echoOptions : List Text → List Char × List Text
  | ('-' :: c :: letters) :: rest =>
    if (c :: letters).all ['n', 'e', 'E'].contains then
      let (more, rest) := echoOptions rest
      (c :: letters ++ more, rest)
    else ([], ('-' :: c :: letters) :: rest)
  | arguments => ([], arguments)

/-- Prints the arguments with blanks between them. -/
def echoPlain : Program := fun arguments session =>
  let (letters, arguments) := echoOptions arguments
  let t := Text.joined [' '] arguments
  let escaped := (letters.filter (· != 'n')).getLast? == some 'e'
  let (content, isStopped) := if escaped then unescape true (t.length + 1) t else (t, false)
  (session.print (if letters.contains 'n' || isStopped then content else content ++ ['\n'])).withStatus 0

/-! ## Formats -/

/-- A width or a precision: a number, or an argument that writes one. -/
inductive Extent where
  | number (n : Nat)
  | argument
  deriving DecidableEq, Repr

/-- How an argument is shown; `width` is how many characters are filled. -/
structure Conversion where
  flags : Text
  width : Extent
  /-- How many characters of a text, digits of a number or digits behind a point are shown. -/
  precision : Option Extent
  letter : Char
  deriving DecidableEq, Repr

inductive FormatPart where
  | text (t : Text)
  | conversion (conversion : Conversion)
  /-- Something that is no conversion. -/
  | faulty (t : Text)
  deriving DecidableEq, Repr

/-- The width or precision in front of a text, and what follows. -/
def readExtent (t : Text) : Extent × Text :=
  match t with
  | '*' :: rest => (.argument, rest)
  | _ => let (n, _, rest) := numeral 10 t; (.number n, rest)

/-- The conversion behind a percent sign, and what follows. -/
def readConversion (letters : List Char) (t : Text) : FormatPart × Text :=
  let flags := t.takeWhile fun c => ['-', '0', '+', ' ', '#'].contains c
  let (width, rest) := readExtent (t.drop flags.length)
  let (precision, rest) :=
    match rest with
    | '.' :: rest =>
      let (n, rest) := readExtent rest
      (some n, rest)
    | _ => (none, rest)
  match rest with
  | c :: rest =>
    if letters.contains c then (.conversion ⟨flags, width, precision, c⟩, rest)
    else (.faulty ('%' :: t.take (t.length - rest.length)), rest)
  | [] => (.faulty [], [])

/-- The parts of a format; `fuel` bounds them. -/
def formatParts (letters : List Char) : (fuel : Nat) → Text → List FormatPart
  | 0, _ => []
  | _, [] => []
  | fuel + 1, '%' :: '%' :: rest => .text ['%'] :: formatParts letters fuel rest
  | fuel + 1, '%' :: rest =>
    let (part, rest) := readConversion letters rest
    part :: formatParts letters fuel rest
  | fuel + 1, '\\' :: rest =>
    let (content, rest) := escape rest
    .text content :: formatParts letters fuel rest
  | fuel + 1, c :: rest => .text [c] :: formatParts letters fuel rest

/-- A number with a sign, which may be no number or beyond all numbers. -/
inductive Quantity where
  | finite (isNegative : Bool) (num den : Nat)
  | infinite (isNegative : Bool)
  | undefined
  deriving DecidableEq, Repr

/-- The number in front of a text, rounded to a binary one, and what follows. -/
def readQuantity? (t : Text) : Option (Quantity × Text) :=
  let (isNegative, bare) := splitSign t
  let named (name : String) : Option Text := Text.afterPrefix? name.toList (bare.map Char.toLower) |>.map fun _ =>
    bare.drop name.length
  match named "infinity", named "inf", named "nan", bare with
  | some rest, _, _, _ | _, some rest, _, _ => some (.infinite isNegative, rest)
  | _, _, some rest, _ => some (.undefined, rest)
  | _, _, _, '0' :: 'x' :: d :: rest =>
    if (digitIn? 16 d).isSome then
      let (n, _, rest) := numeral 16 (d :: rest)
      some (.finite isNegative n 1, rest)
    else (Decimal.read? t).map fun n => (.finite n.isNegative 0 1, n.rest)
  | _, _, _, _ =>
    (Decimal.read? t).map fun n =>
      let x := Binary64.ofRatio n.num n.den
      if x.isTooLarge then (.infinite n.isNegative, n.rest)
      else
        let (num, den) := x.ratio
        (.finite n.isNegative num den, n.rest)

def filled (isLeft : Bool) (width : Nat) (t : Text) : Text :=
  let filling := List.replicate (width - t.length) ' '
  if isLeft then t ++ filling else filling ++ t

/-- A sign and digits, filled up between them with zeros or in front of them with blanks. -/
def filledNumber (flags : Text) (isZeroed : Bool) (width : Nat) (sign digits : Text) : Text :=
  if isZeroed && flags.contains '0' && !flags.contains '-' then
    sign ++ List.replicate (width - sign.length - digits.length) '0' ++ digits
  else filled (flags.contains '-') width (sign ++ digits)

def signText (flags : Text) (isNegative : Bool) : Text :=
  if isNegative then ['-'] else if flags.contains '+' then ['+'] else if flags.contains ' ' then [' '] else []

/-- A number in base 16 with a binary exponent; the first digit is one. -/
def hexText (precision : Option Nat) (num den : Nat) : Text :=
  if num = 0 then "0x0p+0".toList
  else
    let x := Binary64.ofRatio num den
    let lift := 52 - Nat.log2 x.mantissa
    let mantissa := x.mantissa * Nat.pow 2 lift
    let exponent := x.exponent - lift + 52
    let places := precision.getD 13
    let digits :=
      if places < 13 then Binary64.roundQuotient mantissa (Nat.pow 16 (13 - places))
      else mantissa * Nat.pow 16 (places - 13)
    let text := Nat.toDigits 16 digits
    let fraction := text.drop 1
    let fraction := if precision.isNone then (fraction.reverse.dropWhile (· == '0')).reverse else fraction
    "0x".toList ++ text.take 1 ++ (if fraction.isEmpty then [] else '.' :: fraction) ++
      'p' :: (if exponent < 0 then '-' else '+') :: Text.ofNat exponent.natAbs

/-- A number as a conversion shows it. -/
def quantityText (flags : Text) (width : Nat) (precision : Option Nat) (letter : Char) (x : Quantity) : Text :=
  let isUpper := letter.isUpper
  let cased (t : String) : Text := if isUpper then t.toList.map Char.toUpper else t.toList
  let sharp := flags.contains '#'
  match x with
  | .undefined => filledNumber flags false width (signText flags false) (cased "nan")
  | .infinite isNegative => filledNumber flags false width (signText flags isNegative) (cased "inf")
  | .finite isNegative num den =>
    let places := precision.getD 6
    let digits := match letter.toLower with
      | 'f' => Decimal.fixed sharp places num den
      | 'e' => Decimal.scientific isUpper sharp places num den
      | 'a' => if isUpper then (hexText precision num den).map Char.toUpper else hexText precision num den
      | _ => Decimal.general isUpper sharp places num den
    filledNumber flags true width (signText flags isNegative) digits

/-- A whole number as a conversion shows it. -/
def wholeText (flags : Text) (width : Nat) (precision : Option Nat) (letter : Char) (n : Int) : Text :=
  let isSigned := letter == 'd' || letter == 'i'
  let word := (n % (Nat.pow 2 64 : Nat)).toNat
  let digits := match letter with
    | 'd' | 'i' => Text.ofNat n.natAbs
    | 'u' => Text.ofNat word
    | 'o' => Nat.toDigits 8 word
    | 'X' => (Nat.toDigits 16 word).map Char.toUpper
    | _ => Nat.toDigits 16 word
  let digits := if precision = some 0 ∧ n = 0 then [] else digits
  let digits := List.replicate (precision.getD 0 - digits.length) '0' ++ digits
  let digits := if letter = 'o' ∧ flags.contains '#' ∧ digits.head? ≠ some '0' then '0' :: digits else digits
  let sign := if isSigned then signText flags (n < 0)
    else if flags.contains '#' && word != 0 && letter.toLower == 'x' then ['0', letter]
    else []
  filledNumber flags precision.isNone width sign digits

/-- A number that an argument writes, whether there is something behind it, and whether there is one at all. -/
inductive Reading (α : Type) where
  | whole (value : α)
  | cut (value : α)
  | outOfRange (value : α)
  | absent
  deriving Repr

namespace Reading

def value? {α : Type} : Reading α → Option α
  | whole value | cut value | outOfRange value => some value
  | absent => none

def complaint? {α : Type} (argument : Text) : Reading α → Option Text
  | whole _ => none
  | cut _ => some (argument ++ ": not completely converted".toList)
  | outOfRange _ => some (argument ++ ": Numerical result out of range".toList)
  | absent => some (argument ++ ": expected numeric value".toList)

end Reading

def quotedNumber? : Text → Option Nat
  | '\'' :: c :: _ | '"' :: c :: _ => some c.toNat
  | '\'' :: [] | '"' :: [] => some 0
  | _ => none

/-- The whole number that an argument writes; one that does not fit into 64 bits becomes the one next to it that does. -/
def readWholeNumber (isSigned : Bool) (argument : Text) : Reading Int :=
  match quotedNumber? argument with
  | some n => .whole n
  | none =>
    let (isNegative, digits) := splitSign (argument.dropWhile isBlankChar)
    if argument.isEmpty then .whole 0
    else if digits.head?.any Char.isDigit then
      let (size, rest) := unsignedNumber digits
      let n : Int := if isNegative then -size else size
      let greatest : Int := if isSigned then greatestNumber else 2 * greatestNumber + 1
      if n > greatest then .outOfRange greatest
      else if isSigned && n < -greatestNumber - 1 then .outOfRange (-greatestNumber - 1)
      else if !isSigned && n < -greatest then .outOfRange greatest
      else if rest.isEmpty then .whole n else .cut n
    else .absent

def readArgumentQuantity (argument : Text) : Reading Quantity :=
  match quotedNumber? argument with
  | some n => .whole (.finite false n 1)
  | none =>
    if argument.isEmpty then .whole (.finite false 0 1)
    else
      match readQuantity? (argument.dropWhile isBlankChar) with
      | some (x, []) => .whole x
      | some (x, _) => .cut x
      | none => .absent

/-- What is left to do of a format, and what was done: the printed text, and what is wrong with arguments. -/
structure Filling where
  printed : List Text
  complaints : List Text
  arguments : List Text
  isStopped : Bool

namespace Filling

def next (filling : Filling) : Text × Filling :=
  (filling.arguments.head?.getD [], { filling with arguments := filling.arguments.tail })

def print (filling : Filling) (t : Text) : Filling := { filling with printed := t :: filling.printed }

/-- Something may be wrong with an argument. -/
def note (filling : Filling) (complaint : Option Text) : Filling :=
  { filling with complaints := complaint.toList ++ filling.complaints }

def extent (filling : Filling) : Extent → Int × Filling
  | .number n => (n, filling)
  | .argument =>
    let (argument, filling) := filling.next
    let reading := readWholeNumber true argument
    (reading.value?.getD 0, filling.note (reading.complaint? argument))

def fill (filling : Filling) (part : FormatPart) : Filling :=
  if filling.isStopped then filling
  else
    match part with
    | .text t => filling.print t
    | .faulty _ => { filling with isStopped := true }
    | .conversion c =>
      let (width, filling) := filling.extent c.width
      let flags := if width < 0 then '-' :: c.flags else c.flags
      let width := width.natAbs
      let (precision, filling) : Option Nat × Filling := match c.precision with
        | some extent =>
          let (n, filling) := filling.extent extent
          (if n < 0 then none else some n.toNat, filling)
        | none => (none, filling)
      let (argument, filling) := filling.next
      let textual (t : Text) : Text :=
        filled (flags.contains '-') width (match precision with | some n => t.take n | none => t)
      match c.letter with
      | 's' => filling.print (textual argument)
      | 'b' =>
        let (t, isStopped) := unescape false (argument.length + 1) argument
        { filling.print (textual t) with isStopped }
      | 'c' => filling.print (filled (flags.contains '-') width [argument.head?.getD '\x00'])
      | letter =>
        if ['d', 'i', 'u', 'o', 'x', 'X'].contains letter then
          let reading := readWholeNumber (letter == 'd' || letter == 'i') argument
          (filling.print (wholeText flags width precision letter (reading.value?.getD 0))).note
            (reading.complaint? argument)
        else
          let reading := readArgumentQuantity argument
          (filling.print (quantityText flags width precision letter (reading.value?.getD (.finite false 0 1)))).note
            (reading.complaint? argument)

end Filling

/-- A format filled in as long as arguments are left. -/
def fillFormat (parts : List FormatPart) : (fuel : Nat) → Filling → Filling
  | 0, filling => filling
  | fuel + 1, filling =>
    let after := parts.foldl Filling.fill filling
    if after.isStopped || after.arguments.isEmpty || after.arguments.length = filling.arguments.length then after
    else fillFormat parts fuel after

def conversionLetters : List Char :=
  ['a', 'A', 'b', 'c', 'd', 'e', 'E', 'f', 'F', 'g', 'G', 'i', 'o', 's', 'u', 'x', 'X']

/-- Prints arguments as a format says. -/
def printf : Program := fun arguments session =>
  let refuse (complaint : Text) (session : Session) : Session :=
    session.complainAlone ("printf: ".toList ++ complaint) 2
  match if arguments.head? = some ['-', '-'] then (false, arguments.tail) else (true, arguments) with
  | (_, []) => refuse "usage: printf format [arg ...]".toList session
  | (true, ('-' :: c :: _) :: _) => refuse ("Illegal option -".toList ++ [c]) session
  | (_, format :: rest) =>
    let parts := formatParts conversionLetters (format.length + 1) format
    let filling := fillFormat parts (rest.length + 1) ⟨[], [], rest, false⟩
    let session := filling.complaints.reverse.foldl
      (fun session complaint => session.complainAlone ("printf: ".toList ++ complaint) 1) (session.withStatus 0)
    let session := session.print filling.printed.reverse.flatten
    let fault := parts.findSome? fun part =>
      match part with
      | .faulty t => some t
      | _ => none
    match fault with
    | some [] => refuse "missing format character".toList session
    | some t => refuse (t ++ ": invalid directive".toList) session
    | none => session

end LogDiagram.Shell
