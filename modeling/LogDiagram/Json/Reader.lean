import LogDiagram.Json.Token

/-!
# Reading JSON

`Json.read` reads one value. Lists and objects keep what was read of them before a fault.
-/

namespace LogDiagram.Json

mutual

/-- A value; `fuel` bounds the values that are read. -/
def readValue : (fuel : Nat) → Text → Reading
  | 0, _ => brokenAs .unfinished
  | fuel + 1, t =>
    match skipSpacing t with
    | [] => brokenAs .unfinished
    | 'n' :: rest => readWord null ['u', 'l', 'l'] rest
    | 't' :: rest => readWord (boolean true) ['r', 'u', 'e'] rest
    | 'f' :: rest => readWord (boolean false) ['a', 'l', 's', 'e'] rest
    | '"' :: rest => readString rest
    | '-' :: rest => readNumber true rest
    | '[' :: rest =>
      match skipSpacing rest with
      | [] => (array [] (some .unfinished), none)
      | ']' :: rest => (array [] none, some rest)
      | rest => readItems fuel [] rest
    | '\x7b' :: rest =>
      match skipSpacing rest with
      | [] => (object [] (some .unfinished), none)
      | '\x7d' :: rest => (object [] none, some rest)
      | rest => readMembers fuel [] rest
    | c :: rest => if c.isDigit then readNumber false (c :: rest) else brokenAs .malformed

/-- The items of a list from one of them on; `done` holds the items before it, last one first. -/
def readItems : (fuel : Nat) → (done : List Json) → Text → Reading
  | 0, done, _ => (array done.reverse (some .unfinished), none)
  | fuel + 1, done, t =>
    match readValue fuel t with
    | (item, none) => (array (item :: done).reverse none, none)
    | (item, some rest) =>
      match skipSpacing rest with
      | [] => (array (item :: done).reverse (some .unfinished), none)
      | ']' :: rest => (array (item :: done).reverse none, some rest)
      | ',' :: rest => readItems fuel (item :: done) rest
      | _ => (array (item :: done).reverse (some .malformed), none)

/-- The members of an object from the key of one of them on; `done` holds the members before it, last one first. -/
def readMembers : (fuel : Nat) → (done : List (Json × Json)) → Text → Reading
  | 0, done, _ => (object done.reverse (some .unfinished), none)
  | fuel + 1, done, t =>
    match t with
    | [] => (object done.reverse (some .unfinished), none)
    | '"' :: rest =>
      match readString rest with
      | (key, none) => (object ((key, null) :: done).reverse none, none)
      | (key, some rest) =>
        match skipSpacing rest with
        | [] => (object ((key, broken .unfinished .unfinished) :: done).reverse none, none)
        | ':' :: rest =>
          match readValue fuel rest with
          | (value, none) => (object ((key, value) :: done).reverse none, none)
          | (value, some rest) =>
            match skipSpacing rest with
            | [] => (object ((key, value) :: done).reverse (some .unfinished), none)
            | '\x7d' :: rest => (object ((key, value) :: done).reverse none, some rest)
            | ',' :: rest => readMembers fuel ((key, value) :: done) (skipSpacing rest)
            | _ => (object ((key, value) :: done).reverse (some .malformed), none)
        | _ => (object ((key, broken .malformed .malformed) :: done).reverse none, none)
    | _ => (object done.reverse (some .malformed), none)

end

def read (t : Text) : Reading := readValue (2 * t.length + 2) t

end LogDiagram.Json
