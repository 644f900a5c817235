import LogDiagram.Text.Basic

/-!
# Defects of a configuration

An entry of a configuration can lack a part or hold one that means nothing. An `EntryError` is such a `Defect` with the
place of the entry.
-/

namespace LogDiagram

/-- What is wrong with an entry. -/
inductive Defect where
  /-- A part that has to be there is absent or empty. -/
  | missing (field : Text)
  /-- The name of a policy for repeated lines is not known. -/
  | unknownDuplicates (value : Text)
  /-- A regular expression has more bytes than it may have. -/
  | regexTooLong (size limit : Nat)
  /-- A text with special characters is no regular expression. -/
  | invalidRegex (pattern : Text)
  deriving DecidableEq, Repr

/-- A defect and the entry that has it. -/
structure EntryError where
  location : Text
  defect : Defect
  deriving DecidableEq, Repr

namespace Defect

/-- What a defect is called. What the reader of regular expressions has to say about an invalid one is left out. -/
def message : Defect → Text
  | missing field => "missing required field '".toList ++ field ++ ['\'']
  | unknownDuplicates value =>
    "unknown duplicates strategy '".toList ++ value ++
      "'. Expected one of: none, allowed, remove_all, remove, remove_continuous, count, count_continuous".toList
  | regexTooLong size limit =>
    "regex is ".toList ++ Text.ofNat size ++ " chars, exceeds maximum of ".toList ++ Text.ofNat limit
  | invalidRegex pattern => "invalid regex '".toList ++ pattern ++ ['\'']

end Defect

def EntryError.message (error : EntryError) : Text := error.location ++ ':' :: ' ' :: error.defect.message

/-- An entry of a configuration list: the list's name with the position of the entry. -/
def entryOf (list : String) (i : Nat) : Text := list.toList ++ '[' :: (Text.ofNat i ++ [']'])

def located {α : Type} (list : String) (entries : List α) : List (Text × α) :=
  entries.zipIdx.map fun (entry, i) => (entryOf list i, entry)

/-- What a function makes of each entry; the first entry with a defect is refused. -/
def checkEntries {α β : Type} (check : α → Except Defect β) (entries : List (Text × α)) :
    Except EntryError (List β) :=
  entries.mapM fun (location, entry) => (check entry).mapError (EntryError.mk location)

end LogDiagram
