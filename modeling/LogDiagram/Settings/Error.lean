import LogDiagram.Storage.OsError

/-!
# Failures of reading settings
-/

namespace LogDiagram

/-- Why settings cannot be read. -/
inductive SettingsError where
  /-- A file is no settings file. -/
  | malformed (path : Text)
  /-- A file has more bytes than it may have. -/
  | tooLarge (path : Text) (size limit : Nat)
  /-- A file cannot be read. -/
  | unreadable (path : Text) (cause : OsError)
  deriving DecidableEq, Repr

namespace SettingsError

/-- What a failure is called, without what the reader of the format has to say about it. -/
def summary : SettingsError → Text
  | malformed path => "Settings parse error '".toList ++ path ++ ['\'']
  | tooLarge path size limit =>
    "Settings '".toList ++ path ++ "' is ".toList ++ Text.ofNat size ++ " bytes, exceeds maximum of ".toList ++
      Text.ofNat limit ++ " bytes".toList
  | unreadable path cause => "Settings I/O error '".toList ++ path ++ "': ".toList ++ cause.message

end SettingsError

end LogDiagram
