import LogDiagram.Settings.Basic
import LogDiagram.Settings.Error
import LogDiagram.Storage.FileTree

/-!
# Settings files

`Settings.load` reads the settings file at a path. A file that is not there is no error unless it was asked for.
-/

namespace LogDiagram.Settings

def sizeLimit : Nat := 64 * 1024

def ofContent (path : Path) (content : Bytes) : Except SettingsError (Settings × List Text) :=
  if content.length > sizeLimit then .error (.tooLarge path content.length sizeLimit)
  else
    match Bytes.toText? content with
    | none => .error (.unreadable path .notText)
    | some t =>
      match ofToml? t with
      | none => .error (.malformed path)
      | some settings => .ok settings

/-- The settings in a file, with warnings. -/
def load (tree : FileTree) (path : Path) (isRequired : Bool) : Except SettingsError (Settings × List Text) :=
  match tree.read path with
  | .error cause =>
    if cause = .notFound ∧ isRequired = false then .ok (default, [])
    else .error (.unreadable path cause)
  | .ok content => ofContent path content

end LogDiagram.Settings
