import LogDiagram.CommandLine.Basic
import LogDiagram.Config.Sample
import LogDiagram.Job.Basic
import LogDiagram.Settings.File

/-!
# The program

What the program does for its arguments: it answers a question about itself, or it reads the settings of the user and
does a job with them.

* `Program.run` gives the tree of files that the program leaves, what it prints and how it ends.
-/

namespace LogDiagram

/-- What the program finds around it. -/
structure Environment where
  /-- The directory in which programs look for the settings of the user. -/
  settingsDirectory : Path
  machine : Machine

/-- How the program ends. -/
inductive Outcome where
  | done
  | failed (failure : Failure)
  /-- The arguments are not understood. -/
  | refused (error : CommandLine.UsageError)
  deriving DecidableEq, Repr

/-- What the program leaves. -/
structure ProgramRun where
  tree : FileTree
  printed : Bytes
  outcome : Outcome
  deriving DecidableEq, Repr

namespace Outcome

def exitByte : Outcome → Nat
  | done => 0
  | failed failure => failure.exitByte
  | refused _ => 2

/-- What the user is told of a failure. -/
def complaint? : Outcome → Option Text
  | done => none
  | failed failure => some ("Error: ".toList ++ failure.message)
  | refused error => some ("error: ".toList ++ error.message)

end Outcome

namespace Program

def versionLine : Text := "logalizer 1.0.0".toList

def usageLine : Text :=
  "Usage: logalizer --file <FILE> [--config <FILE>] [--plantuml <JAR>] [--enable <GROUPS>] ".toList ++
    "[--disable <GROUPS>] [--settings <FILE>] [--no-execute] [--debug] [--config-help] [--version] [--help]".toList

/-- The settings file that is used if none is named. -/
def defaultSettingsFile (environment : Environment) : Path :=
  Path.join (Path.join environment.settingsDirectory "logalizer".toList) "settings.toml".toList

/-- The tree with a file, which is empty if it was not there; a file that cannot be made does not matter. -/
def withFile (tree : FileTree) (path : Path) : FileTree :=
  if tree.contains path then tree else (tree.write path []).toOption.getD tree

/-- The tree with the file to which the log of the program is written. -/
def openLog (settings : Settings) (tree : FileTree) : FileTree :=
  match settings.logFile with
  | some path => withFile tree path
  | none => tree

/-- The job that options and settings describe; options go before settings. -/
def jobOf (options : CommandLine.Options) (settings : Settings) : Job where
  log := options.log
  config := options.config.getD settings.configFile
  selection := options.selection
  plantumlJar := options.plantumlJar <|> settings.plantumlJar
  java := settings.java
  noExecute := options.noExecute

/-- Draws a diagram and prints where its document is. -/
def draw (environment : Environment) (options : CommandLine.Options) (tree : FileTree) : ProgramRun :=
  let path := options.settings.getD (defaultSettingsFile environment)
  match Settings.load tree path options.settings.isSome with
  | .error error => ⟨tree, [], .failed (.settings error)⟩
  | .ok (settings, _) =>
    let run := (jobOf options settings).run environment.machine .none (openLog settings tree)
    match run.result with
    | .ok summary => ⟨run.tree, run.printed ++ Bytes.ofText (summary.documentFile ++ ['\n']), .done⟩
    | .error failure => ⟨run.tree, run.printed, .failed failure⟩

/-- What the program does for its arguments. -/
def run (environment : Environment) (arguments : List Text) (tree : FileTree) : ProgramRun :=
  match CommandLine.Request.ofArguments arguments with
  | .error error => ⟨tree, [], .refused error⟩
  | .ok .version => ⟨tree, Bytes.ofText (versionLine ++ ['\n']), .done⟩
  | .ok .help => ⟨tree, Bytes.ofText (usageLine ++ ['\n']), .done⟩
  | .ok .sample => ⟨tree, Bytes.ofText Config.sample, .done⟩
  | .ok (.draw options) => draw environment options tree

end Program

end LogDiagram
