import LogDiagram.Text.Basic

/-!
# Failures of the file system

Why the file system refuses an operation, and what each refusal is called.
-/

namespace LogDiagram

/-- Why the file system refuses an operation. -/
inductive OsError where
  /-- A path names nothing. -/
  | notFound
  /-- The rights do not allow it. -/
  | denied
  /-- A path names something where there must be nothing. -/
  | exists
  /-- A file stands where a directory is needed. -/
  | notDirectory
  /-- A directory stands where a file is needed. -/
  | isDirectory
  /-- A directory that has to be empty is not. -/
  | notEmpty
  /-- A name has too many bytes. -/
  | nameTooLong
  /-- A directory cannot be replaced under a name that it always has. -/
  | busy
  /-- A path leads through too many links. -/
  | tooManyLinks
  /-- A path holds a character that no name may hold. -/
  | nulInPath
  /-- A command holds a character that no command may hold. -/
  | nulInCommand
  /-- A command has too many bytes. -/
  | commandTooLong
  /-- The bytes of a file are no text. -/
  | notText
  /-- What is to be copied is no regular file. -/
  | notRegular
  /-- Any other failure, with its description. -/
  | other (description : Text)
  deriving DecidableEq, Repr

namespace OsError

/-- What a failure is called, without its number. -/
def description : OsError → Text
  | notFound => "No such file or directory".toList
  | commandTooLong => "Argument list too long".toList
  | denied => "Permission denied".toList
  | busy => "Device or resource busy".toList
  | .exists => "File exists".toList
  | notDirectory => "Not a directory".toList
  | isDirectory => "Is a directory".toList
  | nameTooLong => "File name too long".toList
  | notEmpty => "Directory not empty".toList
  | tooManyLinks => "Too many levels of symbolic links".toList
  | nulInPath => "file name contained an unexpected NUL byte".toList
  | nulInCommand => "nul byte found in provided data".toList
  | notText => "stream did not contain valid UTF-8".toList
  | notRegular => "the source path is neither a regular file nor a symlink to a regular file".toList
  | other description => description

def number? : OsError → Option Nat
  | notFound => some 2
  | commandTooLong => some 7
  | denied => some 13
  | busy => some 16
  | .exists => some 17
  | notDirectory => some 20
  | isDirectory => some 21
  | nameTooLong => some 36
  | notEmpty => some 39
  | tooManyLinks => some 40
  | _ => none

def message (error : OsError) : Text :=
  match error.number? with
  | some n => error.description ++ " (os error ".toList ++ Text.ofNat n ++ [')']
  | none => error.description

end OsError

end LogDiagram
