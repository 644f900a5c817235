import LogDiagram.Json.Decoder
import LogDiagram.Rule.Defect
import LogDiagram.Storage.OsError

/-!
# Failures of reading a configuration
-/

namespace LogDiagram

/-- Why a configuration cannot be read. -/
inductive ConfigError where
  /-- A file is no configuration in JSON. -/
  | json (path : Text) (problem : JsonProblem)
  /-- A file is no table of rules. -/
  | csv (path : Text)
  /-- A file has more bytes than it may have. -/
  | tooLarge (path : Text) (size limit : Nat)
  /-- An entry has a defect. -/
  | entry (error : EntryError)
  /-- A file cannot be read. -/
  | unreadable (path : Text) (cause : OsError)
  deriving DecidableEq, Repr

namespace ConfigError

/-- What a failure is called, without what the reader of a format has to say about it. -/
def summary : ConfigError → Text
  | json path _ => "Failed to parse JSON '".toList ++ path ++ ['\'']
  | csv path => "Failed to parse CSV '".toList ++ path ++ ['\'']
  | tooLarge path size limit =>
    "Configuration '".toList ++ path ++ "' is ".toList ++ Text.ofNat size ++ " bytes, exceeds maximum of ".toList ++
      Text.ofNat limit ++ " bytes".toList
  | entry error => error.message
  | unreadable path cause => "I/O error reading configuration '".toList ++ path ++ "': ".toList ++ cause.message

/-- What a failure is called. Only the reader of JSON goes on in its own words; those of a reader of tables are left out. -/
def message (error : ConfigError) : Text :=
  match error with
  | json _ problem => error.summary ++ ": ".toList ++ problem.message
  | _ => error.summary

end ConfigError

end LogDiagram
