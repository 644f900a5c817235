import LogDiagram.Number.Decimal
import LogDiagram.Shell.Arguments

/-!
# Times of the day

The machine has no clock: it is always the start of 1970 there, unless a time is given.

* `Moment.shown` writes a moment as a format says;
* `printDate` is the program that does so.
-/

namespace LogDiagram.Shell

/-- A moment, in seconds since the start of 1970. -/
structure Moment where
  seconds : Int
  deriving DecidableEq, Repr

namespace Moment

def dayNames : List String := ["Sunday", "Monday", "Tuesday", "Wednesday", "Thursday", "Friday", "Saturday"]

def monthNames : List String := ["January", "February", "March", "April", "May", "June", "July", "August", "September",
  "October", "November", "December"]

/-- A year has a day more than others. -/
def isLeap (year : Int) : Bool := (year % 4 == 0 && year % 100 != 0) || year % 400 == 0

/-- The number of the day on which a year starts, counted from the start of 1970. -/
def yearStart (year : Int) : Int :=
  let y := year - 1
  y * 365 + y / 4 - y / 100 + y / 400 - 719162

def monthLengths (year : Int) : List Int := [31, if isLeap year then 29 else 28, 31, 30, 31, 30, 31, 31, 30, 31, 30, 31]

/-- The number of the day, counted from the start of 1970. -/
def day (m : Moment) : Int := m.seconds / 86400

def secondOfDay (m : Moment) : Nat := (m.seconds % 86400).toNat

def year (m : Moment) : Int :=
  let guess := 1970 + m.day * 400 / 146097
  if yearStart guess > m.day then guess - 1 else if yearStart (guess + 1) ≤ m.day then guess + 1 else guess

def dayOfYear (m : Moment) : Nat := (m.day - yearStart m.year).toNat

/-- The month and the day of the month that a day of a year is, both counted from zero. -/
def monthAndDay : (lengths : List Int) → (month : Nat) → (rest : Int) → Nat × Nat
  | [], month, rest => (month, rest.toNat)
  | length :: lengths, month, rest =>
    if rest < length then (month, rest.toNat) else monthAndDay lengths (month + 1) (rest - length)

/-- The month, counted from zero, and the day of the month, counted from one. -/
def monthDay (m : Moment) : Nat × Nat :=
  let (month, day) := monthAndDay (monthLengths m.year) 0 m.dayOfYear
  (month, day + 1)

/-- The day of the week, counted from Sunday. -/
def weekday (m : Moment) : Nat := ((m.day + 4) % 7).toNat

/-- What letters of a format stand for that other letters are made of. -/
def compound : Char → Option String
  | 'c' => some "%a %b %e %H:%M:%S %Y"
  | 'D' | 'x' => some "%m/%d/%y"
  | 'F' => some "%Y-%m-%d"
  | 'r' => some "%I:%M:%S %p"
  | 'R' => some "%H:%M"
  | 'T' | 'X' => some "%H:%M:%S"
  | _ => none

/-- A number with blanks in front. -/
def spaced (n : Nat) : Text := if n < 10 then ' ' :: Text.ofNat n else Text.ofNat n

def item (m : Moment) (letter : Char) : Text :=
  let hour := m.secondOfDay / 3600
  let twelve := if hour % 12 = 0 then 12 else hour % 12
  let (month, day) := m.monthDay
  let name (names : List String) (i : Nat) : Text := (names.getD i "").toList
  match letter with
  | 'Y' => Text.ofInt m.year
  | 'y' => Decimal.padded 2 (m.year % 100).toNat
  | 'C' => Decimal.padded 2 (m.year / 100).toNat
  | 'm' => Decimal.padded 2 (month + 1)
  | 'd' => Decimal.padded 2 day
  | 'e' => spaced day
  | 'j' => Decimal.padded 3 (m.dayOfYear + 1)
  | 'H' => Decimal.padded 2 hour
  | 'I' => Decimal.padded 2 twelve
  | 'k' => spaced hour
  | 'l' => spaced twelve
  | 'M' => Decimal.padded 2 (m.secondOfDay / 60 % 60)
  | 'S' => Decimal.padded 2 (m.secondOfDay % 60)
  | 'N' => Decimal.padded 9 0
  | 's' => Text.ofInt m.seconds
  | 'p' => (if hour < 12 then "AM" else "PM").toList
  | 'P' => (if hour < 12 then "am" else "pm").toList
  | 'A' => name dayNames m.weekday
  | 'a' => (name dayNames m.weekday).take 3
  | 'B' => name monthNames month
  | 'b' | 'h' => (name monthNames month).take 3
  | 'u' => Text.ofNat (if m.weekday = 0 then 7 else m.weekday)
  | 'w' => Text.ofNat m.weekday
  | 'U' => Decimal.padded 2 ((m.dayOfYear + 7 - m.weekday) / 7)
  | 'W' => Decimal.padded 2 ((m.dayOfYear + 7 - (m.weekday + 6) % 7) / 7)
  | 'Z' => "UTC".toList
  | 'z' => "+0000".toList
  | 'n' => ['\n']
  | 't' => ['\t']
  | '%' => ['%']
  | letter => ['%', letter]

/-- A text without zeros or blanks that fill it up. -/
def unfilled (t : Text) : Text :=
  let bare := t.dropWhile fun c => c == '0' || c == ' '
  if bare.isEmpty then t.drop (t.length - 1) else bare

/-- A moment as a format says; `fuel` bounds its pieces. -/
def shown (m : Moment) : (fuel : Nat) → Text → Text
  | 0, _ | _, [] => []
  | fuel + 1, '%' :: flag :: letter :: rest =>
    if flag = '-' then unfilled (m.item letter) ++ shown m fuel rest
    else
      match compound flag with
      | some format => shown m fuel format.toList ++ shown m fuel (letter :: rest)
      | none => m.item flag ++ shown m fuel (letter :: rest)
  | fuel + 1, ['%', letter] =>
    match compound letter with
    | some format => shown m fuel format.toList
    | none => m.item letter
  | fuel + 1, c :: rest => c :: shown m fuel rest

def ofParts (year : Int) (month day hour minute second : Nat) : Moment :=
  let before := ((monthLengths year).take (month - 1)).foldl (· + ·) 0
  ⟨(yearStart year + before + day - 1) * 86400 + hour * 3600 + minute * 60 + second⟩

def read? (t : Text) : Option Moment := do
  match t with
  | '@' :: '-' :: digits => return ⟨-(← digitsValue? digits)⟩
  | '@' :: digits => return ⟨← digitsValue? digits⟩
  | t =>
    if ["now", "today", ""].any fun word => word.toList == t then return ⟨0⟩
    let (date, time) := t.span fun c => c != ' ' && c != 'T'
    match ← (Text.splitAtChar '-' date).mapM digitsValue? with
    | [year, month, day] =>
      guard (1 ≤ month && month ≤ 12 && 1 ≤ day && (day : Int) ≤ (monthLengths year).getD (month - 1) 0)
      let clock := (time.drop 1).filter (· != 'Z')
      let parts ← if clock.isEmpty then some [] else (Text.splitAtChar ':' clock).mapM digitsValue?
      guard (parts.length ≤ 3 && parts.all (· < 60) && parts.head?.all (· < 24))
      return ofParts year month day (parts.getD 0 0) (parts.getD 1 0) (parts.getD 2 0)
    | _ => failure

end Moment

def printDate : Program := fun arguments session =>
  session.withArguments "date" ⟨"d:uRI::r:s:f:", [("date", 'd'), ("utc", 'u'), ("universal", 'u'), ("rfc-email", 'R'),
    ("iso-8601", 'I'), ("reference", 'r'), ("set", 's'), ("file", 'f')], false⟩ 1
    (fun found session =>
      let given := (found.value? 'd').getD "now".toList
      match Moment.read? given, found.operands with
      | none, _ => session.complain "date" ("invalid date ".toList ++ quoted given) 1
      | some moment, operands =>
        let format : Except Text Text :=
          match operands with
          | [] =>
            .ok (if found.has 'R' then "%a, %d %b %Y %H:%M:%S %z".toList
              else match found.value? 'I' with
                | none => "%a %b %e %H:%M:%S %Z %Y".toList
                | some t =>
                  if "seconds".toList == t then "%Y-%m-%dT%H:%M:%S+00:00".toList
                  else if "minutes".toList == t then "%Y-%m-%dT%H:%M+00:00".toList
                  else if "hours".toList == t then "%Y-%m-%dT%H+00:00".toList
                  else "%Y-%m-%d".toList)
          | ['+' :: format] => .ok format
          | [operand] => .error ("invalid date ".toList ++ quoted operand)
          | operands => .error ("extra operand ".toList ++ quoted ((operands[1]?).getD []))
        match format with
        | .ok format => session.printLine (moment.shown (format.length + 64) format)
        | .error complaint => session.complain "date" complaint 1) arguments

end LogDiagram.Shell
