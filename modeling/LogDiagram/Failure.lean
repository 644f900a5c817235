import LogDiagram.Command.Machine
import LogDiagram.Config.Error
import LogDiagram.Settings.Error
import LogDiagram.Storage.Output

/-!
# Failures of the program

A `Failure` is anything that keeps the program from doing its job. `Failure.message` names it, `Failure.causes` lists
the failures behind it, and `Failure.exitCode` is how the program ends for it.
-/

namespace LogDiagram

/-- Why the program fails. -/
inductive Failure where
  | config (error : ConfigError)
  | settings (error : SettingsError)
  | output (error : OutputError)
  | command (error : CommandError)
  /-- The log cannot be read. -/
  | log (path operation : Text) (cause : OsError)
  deriving DecidableEq, Repr

namespace Failure

def lead : Failure → String
  | config _ => "Rule configuration error: "
  | settings _ => "Settings error: "
  | output _ => "Output error: "
  | command _ => "Execution error: "
  | log _ _ _ => ""

def message (failure : Failure) : Text :=
  failure.lead.toList ++
    match failure with
    | config error => error.message
    | settings error => error.summary
    | output error => error.message
    | command error => error.message
    | log path operation cause =>
      "I/O error during ".toList ++ operation ++ " on '".toList ++ path ++ "': ".toList ++ cause.message

/-- The failures behind a failure, the outermost first. -/
def causes : Failure → List Text
  | config error =>
    error.message ::
      match error with
      | .json _ problem => [problem.message]
      | .unreadable _ cause => [cause.message]
      | _ => []
  | settings error =>
    error.summary ::
      match error with
      | .unreadable _ cause => [cause.message]
      | _ => []
  | output error => [error.message, error.cause.message]
  | command error =>
    error.message ::
      match error with
      | .start _ cause => [cause.message]
      | .failed _ _ => []
  | log _ _ cause => [cause.message]

/-- How the program ends: a file that cannot be read, a malformed configuration, a command's own code, or one. -/
def exitCode : Failure → Int
  | config (.unreadable _ _) => 2
  | config _ => 3
  | log _ _ _ => 2
  | command (.failed _ (some code)) => code
  | _ => 1

/-- The exit code that the system sees: one byte, and never that of success. -/
def exitByte (failure : Failure) : Nat :=
  let code := failure.exitCode
  if 0 < code ∧ code < 256 then code.toNat else 1

end Failure

end LogDiagram
