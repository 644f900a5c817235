import LogDiagram.Shell.Session

/-!
# Programs of the system

The names of the programs that stand in the directories of the system, and how a name leads to a program: the
directories of the search path are tried one after the other.

* `Session.search` looks for a program.
-/

namespace LogDiagram.Shell

def systemNames : List String := [
  "[", "arch", "awk", "base64", "basename", "bash", "cat", "chgrp", "chmod", "chown", "cksum", "cmp", "comm", "cp",
  "cut", "dash", "date", "dd", "diff", "dirname", "echo", "egrep", "env", "expand", "expr", "false", "fgrep", "find",
  "fold", "grep", "head", "hostname", "id", "install", "join", "kill", "link", "ln", "ls", "mawk", "md5sum", "mkdir",
  "mktemp", "mv", "nice", "nl", "nohup", "nproc", "od", "paste", "printenv", "printf", "pwd", "readlink", "realpath",
  "rev", "rm", "rmdir", "sed", "seq", "setsid", "sh", "sha1sum", "sha224sum", "sha256sum", "sha384sum", "sha512sum",
  "sleep", "sort", "split", "stat", "stdbuf", "sum", "sync", "tac", "tail", "tee", "test", "timeout", "touch", "tr",
  "true", "truncate", "uname", "unexpand", "uniq", "unlink", "wc", "which", "whoami", "xargs", "yes"]

def systemDirectories : List Text := ["/usr/bin".toList, "/bin".toList]

def isSystemName (name : Text) : Bool := systemNames.any fun known => known.toList == name

/-- The name of the program that a path leads to in a directory of the system. -/
def systemName? (path : Text) : Option Text :=
  (systemDirectories.findSome? fun directory => Text.afterPrefix? (directory ++ ['/']) path).filter isSystemName

/-- What a name leads to. -/
inductive Found where
  /-- A program of the system. -/
  | system (name path : Text)
  /-- A file that may be run. -/
  | file (path : Text)
  /-- A file that may not be run. -/
  | refused (cause : OsError)
  deriving DecidableEq, Repr

namespace Session

/-- The file at the end of a path may be run. -/
def isExecutable (session : Session) (path : Text) : Bool :=
  match session.tree.follow path.ofPlain true with
  | .ok place => session.tree.isExecutable place && (session.find path).toOption.isSome
  | .error _ => false

def lookUp (session : Session) (path : Text) : Found :=
  match systemName? path, session.find path with
  | some name, _ => .system name path
  | none, .ok (.file _) => if session.isExecutable path then .file path else .refused .denied
  | none, .ok _ => .refused .denied
  | none, .error cause => .refused cause

def searchDirectories (session : Session) : List Text :=
  (Text.splitAtChar ':' ((session.textOf? "PATH".toList).getD [])).map fun directory =>
    if directory.isEmpty then ['.'] else directory

/-- What the name of a program leads to; `isDenied` tells whether a file of that name was found that may not be run. -/
def searchIn (session : Session) (name : Text) (isDenied : Bool) : List Text → Found
  | [] => .refused (if isDenied then .denied else .notFound)
  | directory :: rest =>
    match session.lookUp (directory ++ '/' :: name) with
    | .refused .denied =>
      searchIn session name (isDenied || !session.hasDirectory (directory ++ '/' :: name)) rest
    | .refused _ => searchIn session name isDenied rest
    | found => found

/-- What the name of a program leads to; a name with a slash is a path. -/
def search (session : Session) (name : Text) : Found :=
  if name.contains '/' then session.lookUp name
  else if name.isEmpty then .refused .notFound
  else session.searchIn name false session.searchDirectories

def pathOf? (session : Session) (name : Text) : Option Text :=
  match session.search name with
  | .system _ path | .file path => some path
  | .refused _ => none

end Session

end LogDiagram.Shell
