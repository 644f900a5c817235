import LogDiagram.Text.Blank
import LogDiagram.Toml.Reader

/-!
# Settings of the program

`Settings` are what a user sets once for all runs. `Settings.ofRaw` takes the texts that a settings file gives: each one
that is acceptable is used, and each other one leaves the default and may leave a warning. No text has influence on the
others.

* `Settings.ofToml?` reads settings from the text of a settings file.
-/

namespace LogDiagram

/-- The texts that a settings file gives. -/
structure RawSettings where
  level : Option Text
  file : Option Text
  java : Option Text
  plantumlJar : Option Text
  configFile : Option Text
  deriving DecidableEq, Repr

/-- What a user sets once for all runs. -/
structure Settings where
  /-- How much is written to the log of the program. -/
  logLevel : Option Text
  /-- A file to which the log of the program is written, too. -/
  logFile : Option Text
  /-- The program that runs Java. -/
  java : Text
  /-- The program that draws diagrams. -/
  plantumlJar : Option Text
  /-- The configuration that is used if none is named. -/
  configFile : Text
  deriving DecidableEq, Repr

namespace Settings

/-- The program that runs Java if none is set. -/
def defaultJava : Text := "java".toList

/-- The configuration that is used if none is set. -/
def defaultConfigFile : Text := "config.json".toList

def default : Settings := ⟨none, none, defaultJava, none, defaultConfigFile⟩

def levels : List Text := ["error".toList, "warn".toList, "info".toList, "debug".toList, "trace".toList]

/-- The level of the log that a text names, in any case of letters. -/
def level? (t : Text) : Option Text := if levels.contains t.asciiLower then some t.asciiLower else none

/-- A text with more than blanks. -/
def visible? (t : Text) : Option Text := if t.isAllBlank then none else some t

def levelWarning (t : Text) : Text :=
  "[logging] level = \"".toList ++ t ++ "\" is not recognised. Valid values: ".toList ++
    Text.joined [',', ' '] levels ++ ". Using default (info).".toList

/-- The warning about a program that is blank. -/
def javaWarning : Text := "[render] java is empty. Using default (".toList ++ defaultJava ++ ").".toList

def configFileWarning : Text :=
  "[translation] config_file is empty. Using default (".toList ++ defaultConfigFile ++ ").".toList

/-- The warning about a text that is given and not accepted. -/
def warning? (accept : Text → Option Text) (warn : Text → Text) : Option Text → Option Text
  | none => none
  | some t => if (accept t).isSome then none else some (warn t)

/-- The settings that texts make, and the warnings about texts that are not accepted. -/
def ofRaw (raw : RawSettings) : Settings × List Text :=
  ({ logLevel := raw.level.bind level?
     logFile := raw.file.bind Text.nonempty?
     java := (raw.java.bind visible?).getD defaultJava
     plantumlJar := raw.plantumlJar.bind Text.nonempty?
     configFile := (raw.configFile.bind visible?).getD defaultConfigFile },
   [warning? level? levelWarning raw.level, warning? visible? (fun _ => javaWarning) raw.java,
    warning? visible? (fun _ => configFileWarning) raw.configFile].filterMap id)

/-! ## Settings files -/

open Toml

/-- The text under a key, which may be absent, but not something else. -/
def textOf? : Option Value → Option (Option Text)
  | none => some none
  | some (.text t) => some (some t)
  | some _ => none

/-- The texts of a section under the given keys. A section may be a list of them in order; a moment holds nothing. -/
def sectionOf? (keys : List String) : Option Value → Option (List (Option Text))
  | none => some (keys.map fun _ => none)
  | some (.table _ entries) => keys.mapM fun key => textOf? (entries.lookup key.toList)
  | some (.list items) => keys.zipIdx.mapM fun (_, i) => textOf? items[i]?
  | some .moment => some (keys.map fun _ => none)
  | some _ => none

/-- The texts of a settings file; sections and keys that are not known do not count. -/
def rawOfEntries? (entries : Entries) : Option RawSettings := do
  let logging ← sectionOf? ["level", "file"] (entries.lookup "logging".toList)
  let render ← sectionOf? ["java", "plantuml_jar"] (entries.lookup "render".toList)
  let configuration ← sectionOf? ["config_file"] (entries.lookup "translation".toList)
  match logging, render, configuration with
  | [level, file], [java, plantumlJar], [configFile] => some { level, file, java, plantumlJar, configFile }
  | _, _, _ => none

/-- The settings that the text of a settings file makes, with warnings; none if the text is not of the right form. -/
def ofToml? (t : Text) : Option (Settings × List Text) :=
  ((document? t).bind rawOfEntries?).map ofRaw

end Settings

end LogDiagram
