import LogDiagram.Toml.Token

/-!
# Reading TOML

`Toml.readValue` reads a value, and `Toml.document?` a whole document line by line.
-/

namespace LogDiagram.Toml

abbrev Reading := Option (Value × Text)

def readWord (word : String) (t : Text) : Reading := (Text.afterPrefix? word.toList t).map fun rest => (.scalar, rest)

/-- A date, time or number. -/
def readScalar (t : Text) : Reading :=
  match afterMoment? t with
  | some rest => rest.map fun rest => (.moment, rest)
  | none => (afterNumber? t).map fun rest => (.scalar, rest)

mutual

/-- A value; `room` is how many levels it may nest, and `fuel` bounds the values that are read. -/
def readValue : (fuel : Nat) → (room : Nat) → Text → Reading
  | 0, _, _ => none
  | fuel + 1, room, t =>
    match t with
    | '"' :: rest => (readString '"' rest).map fun (s, rest) => (.text s, rest)
    | '\'' :: rest => (readString '\'' rest).map fun (s, rest) => (.text s, rest)
    | '[' :: rest => if room = 0 then none else readItems fuel (room - 1) [] rest
    | '\x7b' :: rest =>
      if room = 0 then none
      else
        match skipSpacing rest with
        | '\x7d' :: rest => some (.table .inline [], rest)
        | _ => readMembers fuel (room - 1) [] rest
    | 't' :: _ => readWord "true" t
    | 'f' :: _ => readWord "false" t
    | 'i' :: _ => readWord "inf" t
    | 'n' :: _ => readWord "nan" t
    | c :: _ => if c.isDigit || c = '+' || c = '-' then readScalar t else none
    | [] => none

/-- The items of a list from one of them on, or its end; `done` holds the items before, last one first. -/
def readItems : (fuel : Nat) → (room : Nat) → (done : List Value) → Text → Reading
  | 0, _, _, _ => none
  | fuel + 1, room, done, t =>
    match skipLines t.length t with
    | ']' :: rest => some (.list done.reverse, rest)
    | t =>
      match readValue fuel room t with
      | none => none
      | some (item, rest) =>
        match skipLines rest.length rest with
        | ',' :: rest => readItems fuel room (item :: done) rest
        | ']' :: rest => some (.list (item :: done).reverse, rest)
        | _ => none

/-- The members of an inline table from one of them on; `done` holds the members before, last one first. -/
def readMembers : (fuel : Nat) → (room : Nat) → (done : List (List Text × Text × Value)) → Text → Reading
  | 0, _, _, _ => none
  | fuel + 1, room, done, t =>
    match readKey t with
    | some ((path, key), '=' :: rest) =>
      match readValue fuel room (skipSpacing rest) with
      | none => none
      | some (value, rest) =>
        let done := (path, key, value) :: done
        match skipSpacing rest with
        | ',' :: rest => readMembers fuel room done rest
        | '\x7d' :: rest => (inlineTable? done.reverse).map fun table => (table, rest)
        | _ => none
    | _ => none

end

/-- A document while it is read: its entries and the path of the table that was opened last. -/
structure Draft where
  entries : Entries
  openPath : List Text

/-- The opened path and the rest of a header, behind its opening brackets and up to the closing ones. -/
def readHeader (closing : String) (t : Text) : Option ((List Text × Text) × Text) :=
  match readKey t with
  | some (key, rest) => ((Text.afterPrefix? closing.toList rest).bind endOfLine?).map fun rest => (key, rest)
  | none => none

def readStatement (draft : Draft) (t : Text) : Option (Draft × Text) :=
  match t with
  | '[' :: '[' :: rest =>
    match readHeader "]]" rest with
    | some ((path, key), rest) =>
      (appendTable? path key draft.entries).map fun entries => (⟨entries, path ++ [key]⟩, rest)
    | none => none
  | '[' :: rest =>
    match readHeader "]" rest with
    | some ((path, key), rest) =>
      (openTable? path key draft.entries).map fun entries => (⟨entries, path ++ [key]⟩, rest)
    | none => none
  | _ =>
    match readKey t with
    | some ((path, key), '=' :: rest) =>
      match readValue (2 * rest.length + 2) (depthLimit - 1) (skipSpacing rest) with
      | none => none
      | some (value, rest) =>
        match endOfLine? rest with
        | none => none
        | some rest =>
          (change false (define? path key value) draft.openPath .header draft.entries).map fun entries =>
            ({ draft with entries }, rest)
    | _ => none

/-- The lines of a document from one of them on; `fuel` bounds them. -/
def readStatements : (fuel : Nat) → Draft → Text → Option Entries
  | 0, _, _ => none
  | fuel + 1, draft, t =>
    match skipSpacing t with
    | [] => some draft.entries
    | c :: rest =>
      if c = '#' ∨ c = '\n' ∨ c = '\r' then
        match endOfLine? (c :: rest) with
        | some rest => readStatements fuel draft rest
        | none => none
      else
        match readStatement draft (c :: rest) with
        | some (draft, rest) => readStatements fuel draft rest
        | none => none

/-- The entries of a document. A mark of the byte order in front does not count. -/
def document? (t : Text) : Option Entries :=
  let t := match t with
    | '\uFEFF' :: rest => rest
    | _ => t
  readStatements (t.length + 1) ⟨[], []⟩ t

end LogDiagram.Toml
