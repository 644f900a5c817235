import LogDiagram.Config.Selection
import LogDiagram.Path.Basic

/-!
# The command line

What the program is asked for. An option has a long name behind two dashes, and most have a letter behind one dash as
well. The value of an option follows as the next argument, or behind its letter, or behind an equals sign.

* `Request.ofArguments` reads the arguments of the program one after the other; the first fault, or the first question
  for the version or for help, decides.
-/

namespace LogDiagram.CommandLine

/-- An option with a value. -/
inductive Setting where
  | file | config | plantuml | enable | disable | settings
  deriving DecidableEq, Repr

/-- An option without a value. -/
inductive Switch where
  | noExecute | debug | configHelp | version | help
  deriving DecidableEq, Repr

/-- The long names of options, and the letters of those that have one. -/
abbrev OptionNames (α : Type) := List (α × String × Option Char)

namespace OptionNames

variable {α : Type}

def ofName? (names : OptionNames α) (name : Text) : Option α :=
  (names.find? fun entry => entry.2.1.toList == name).map (·.1)

def ofLetter? (names : OptionNames α) (letter : Char) : Option α :=
  (names.find? fun entry => entry.2.2 == some letter).map (·.1)

end OptionNames

namespace Setting

def names : OptionNames Setting := [
  (file, "file", some 'f'), (config, "config", some 'c'), (plantuml, "plantuml", some 'p'),
  (enable, "enable", some 'e'), (disable, "disable", some 'd'), (settings, "settings", none)]

/-- The value of the option may be empty. A path may not. -/
def mayBeEmpty : Setting → Bool
  | enable | disable => true
  | _ => false

end Setting

def Switch.names : OptionNames Switch := [
  (noExecute, "no-execute", none), (debug, "debug", none), (configHelp, "config-help", none),
  (version, "version", some 'V'), (help, "help", some 'h')]

/-- Why arguments cannot be understood. -/
inductive UsageError where
  /-- There is no such option, or the argument belongs to none. -/
  | unknown (argument : Text)
  | missingValue (argument : Text)
  | emptyValue (argument : Text)
  | unneededValue (argument : Text)
  | repeated (argument : Text)
  /-- No log is named. -/
  | missingLog
  deriving DecidableEq, Repr

def UsageError.message : UsageError → Text
  | unknown argument => "unexpected argument '".toList ++ argument ++ "' found".toList
  | missingValue argument | emptyValue argument =>
    "a value is required for '".toList ++ argument ++ "' but none was supplied".toList
  | unneededValue argument => "'".toList ++ argument ++ "' takes no value".toList
  | repeated argument => "'".toList ++ argument ++ "' cannot be used multiple times".toList
  | missingLog => "'--file <FILE>' was not provided".toList

/-- What is given for one diagram. -/
structure Options where
  log : Path
  config : Option Path
  plantumlJar : Option Path
  selection : GroupSelection
  settings : Option Path
  noExecute : Bool
  deriving DecidableEq, Repr

/-- What the program is asked for. -/
inductive Request where
  | draw (options : Options)
  /-- The sample configuration. -/
  | sample
  | version
  | help
  deriving DecidableEq, Repr

/-- The options read so far. -/
structure Given where
  values : List (Setting × Text)
  switches : List Switch
  deriving DecidableEq, Repr

namespace Given

def none : Given := ⟨[], []⟩

def value? (given : Given) (setting : Setting) : Option Text := given.values.lookup setting

/-- One more option with its value; `argument` names it in faults. -/
def put (given : Given) (argument : Text) (setting : Setting) (value : Text) : Except UsageError Given :=
  if value.isEmpty && !setting.mayBeEmpty then .error (.emptyValue argument)
  else if (given.value? setting).isSome then .error (.repeated argument)
  else .ok { given with values := (setting, value) :: given.values }

def request (given : Given) : Except UsageError Request :=
  match given.value? .file with
  | some log => .ok (if given.switches.contains .configHelp then .sample else .draw {
      log
      config := given.value? .config
      plantumlJar := given.value? .plantuml
      selection := .ofLists (given.value? .enable) (given.value? .disable)
      settings := given.value? .settings
      noExecute := given.switches.contains .noExecute })
  | _ => if given.switches.contains .configHelp then .ok .sample else .error .missingLog

end Given

inductive Argument where
  /-- An option with its value, if that stands in the argument. -/
  | setting (setting : Setting) (value : Option Text)
  | switch (switch : Switch)
  /-- Two dashes: no options follow. -/
  | endOfOptions
  | faulty (error : UsageError)
  deriving DecidableEq, Repr

namespace Argument

def atEqualsSign (t : Text) : Text × Option Text :=
  match t.span (· != '=') with
  | (name, _ :: value) => (name, some value)
  | (name, []) => (name, none)

def ofLong (argument body : Text) : Argument :=
  let (name, value) := atEqualsSign body
  match Setting.names.ofName? name, Switch.names.ofName? name with
  | some s, _ => .setting s value
  | none, some s => if value.isSome then .faulty (.unneededValue argument) else .switch s
  | none, none => .faulty (.unknown argument)

def valueBehind : Text → Option Text
  | [] => none
  | '=' :: value => some value
  | value => some value

def ofText (argument : Text) : Argument :=
  match argument with
  | ['-', '-'] => .endOfOptions
  | '-' :: '-' :: body => ofLong argument body
  | '-' :: letter :: rest =>
    match Setting.names.ofLetter? letter, Switch.names.ofLetter? letter with
    | some s, _ => .setting s (valueBehind rest)
    | none, some s => .switch s
    | none, none => .faulty (.unknown argument)
  | _ => .faulty (.unknown argument)

def isValue (argument : Text) : Bool := argument.head? != some '-' || argument.length == 1

end Argument

namespace Request

/-- What the rest of the arguments asks for. -/
def readFrom (given : Given) : List Text → Except UsageError Request
  | [] => given.request
  | argument :: rest =>
    match Argument.ofText argument with
    | .faulty error => .error error
    | .endOfOptions =>
      match rest with
      | [] => given.request
      | more :: _ => .error (.unknown more)
    | .switch .version => .ok .version
    | .switch .help => .ok .help
    | .switch switch =>
      if given.switches.contains switch then .error (.repeated argument)
      else readFrom { given with switches := switch :: given.switches } rest
    | .setting setting (some value) =>
      match given.put argument setting value with
      | .ok given => readFrom given rest
      | .error error => .error error
    | .setting setting none =>
      match rest with
      | [] => .error (.missingValue argument)
      | value :: rest =>
        if Argument.isValue value then
          match given.put argument setting value with
          | .ok given => readFrom given rest
          | .error error => .error error
        else .error (.missingValue argument)

/-- What arguments ask for. -/
def ofArguments (arguments : List Text) : Except UsageError Request := readFrom .none arguments

end Request

end LogDiagram.CommandLine
