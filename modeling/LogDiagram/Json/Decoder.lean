import LogDiagram.Json.Reader

/-!
# From JSON values to data

A decoder makes data of a wanted shape from a value. It goes over the value in the order of the text, so the first
problem that it reports is the first one in the text: a `Fault`, a value of another kind, or a key given twice.

* `Json.asText`, `Json.asFlag`, `Json.asOptional`, `Json.asList` and `Json.asTextPairs` are the decoders of plain
  shapes;
* `Json.asRecord` decodes a record from an object, or from a list of its fields in order;
* `Json.decode` decodes a whole text.
-/

namespace LogDiagram

/-- Why a text cannot be made into the wanted data. -/
inductive JsonProblem where
  /-- The text breaks the rules of the format. -/
  | fault (fault : Fault)
  /-- A value is not of the wanted kind. -/
  | mismatch (found wanted : Text)
  /-- A key of a record is given a second time. -/
  | duplicateField (name : Text)
  deriving DecidableEq, Repr

/-- What a problem lies in. -/
inductive JsonProblem.Kind where
  /-- A character does not fit the format. -/
  | malformed
  /-- The text ends inside a value or before one. -/
  | unfinished
  /-- The text is well formed up to there, and tells something else than the wanted data. -/
  | data
  deriving DecidableEq, Repr

def JsonProblem.kind : JsonProblem → Kind
  | fault .malformed => .malformed
  | fault .unfinished => .unfinished
  | mismatch _ _ => .data
  | duplicateField _ => .data

/--
What a problem is called. The wording is fixed for data that tells something else than what is wanted; for faults of the
format it is this library's own.
-/
def JsonProblem.message : JsonProblem → Text
  | fault .malformed => "a character stands where it must not".toList
  | fault .unfinished => "the text ends too soon".toList
  | mismatch found wanted => "invalid type: ".toList ++ found ++ ", expected ".toList ++ wanted
  | duplicateField name => "duplicate field `".toList ++ name ++ ['`']

namespace Json

/-- A function that makes data from a value. -/
abbrev Decoder (α : Type) := Json → Except JsonProblem α

/-- Refuses a value that is not of the wanted kind; a value that cannot even be read is refused for that. -/
def refuse {α : Type} (json : Json) (wanted : String) : Except JsonProblem α :=
  match json with
  | broken whenRead _ => .error (.fault whenRead)
  | meaningless => .error (.fault .malformed)
  | _ => .error (.mismatch json.description wanted.toList)

def ended {α : Type} (fault : Option Fault) (value : α) : Except JsonProblem α :=
  match fault with
  | some fault => .error (.fault fault)
  | none => .ok value

def asText : Decoder Text
  | string t => .ok t
  | json => json.refuse "a string"

def asFlag : Decoder Bool
  | boolean b => .ok b
  | json => json.refuse "a boolean"

/-- A value or `null`. -/
def asOptional {α : Type} (decode : Decoder α) : Decoder (Option α)
  | null => .ok none
  | json => (decode json).map some

def asList {α : Type} (decode : Decoder α) : Decoder (List α)
  | array items ending => do ended ending (← items.mapM decode)
  | json => json.refuse "a sequence"

/-- The members of an object in order, as keys and texts. -/
def asTextPairs (wanted : String) : Decoder (List (Text × Text))
  | object members ending => do
    ended ending (← members.mapM fun (key, value) => do return (← asText key, ← asText value))
  | json => json.refuse wanted

/-! ## Records -/

/-- A field of a record: its names, the main one first, and how a value is put into the record. -/
structure RecordField (σ : Type) where
  name : String
  others : List String
  put : σ → Json → Except JsonProblem σ

namespace RecordField

def of {σ α : Type} (name : String) (decode : Decoder α) (set : σ → α → σ) : RecordField σ :=
  ⟨name, [], fun record json => (decode json).map (set record)⟩

def also {σ : Type} (field : RecordField σ) (name : String) : RecordField σ :=
  { field with others := name :: field.others }

def isCalled {σ : Type} (field : RecordField σ) (name : Text) : Bool :=
  field.name.toList == name || field.others.any fun other => other.toList == name

end RecordField

variable {σ : Type}

/--
The members of an object put into a record. `seen` holds the names of the fields that were given. A member without a
field is skipped.
-/
def putMembers (fields : List (RecordField σ)) : (seen : List String) → σ → List (Json × Json) → Except JsonProblem σ
  | _, record, [] => .ok record
  | seen, record, (key, value) :: members =>
    match asText key with
    | .error problem => .error problem
    | .ok name =>
      match fields.find? fun field => field.isCalled name with
      | none =>
        match value.skipFault? with
        | some fault => .error (.fault fault)
        | none => putMembers fields seen record members
      | some field =>
        if seen.contains field.name then .error (.duplicateField field.name.toList)
        else
          match field.put record value with
          | .error problem => .error problem
          | .ok record => putMembers fields (field.name :: seen) record members

/-- The items of a list put into the fields of a record in order. A list may end early, but it holds nothing more. -/
def putItems : (fields : List (RecordField σ)) → σ → List Json → (ending : Option Fault) → Except JsonProblem σ
  | _, record, [], ending => ended ending record
  | [], _, _ :: _, _ => .error (.fault .malformed)
  | field :: fields, record, item :: items, ending =>
    match field.put record item with
    | .error problem => .error problem
    | .ok record => putItems fields record items ending

/-- A record with the given fields; those that are not given stay as they are in `start`. -/
def asRecord (wanted : String) (fields : List (RecordField σ)) (start : σ) : Decoder σ
  | object members ending => do ended ending (← putMembers fields [] start members)
  | array items ending => putItems fields start items ending
  | json => json.refuse wanted

/-- The data that a text holds. Behind the value only white space may follow. -/
def decode {α : Type} (decoder : Decoder α) (t : Text) : Except JsonProblem α :=
  let (json, rest) := read t
  match decoder json with
  | .error problem => .error problem
  | .ok value => if (rest.getD []).all isSpacing then .ok value else .error (.fault .malformed)

end Json

end LogDiagram
