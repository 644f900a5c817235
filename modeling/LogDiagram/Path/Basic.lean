import LogDiagram.Text.Basic

/-!
# Paths

A path is a text of pieces with slashes between them. Its components are its pieces except empty ones and dots; only a
dot at the very start of a path is a component.

* `Path.split?` takes the last component off, and `Path.parent?` and `Path.fileName?` are its two sides;
* `Path.join` follows a path from the place of another one;
* `Path.Parts` are the parts of the path of a log that configured texts may name.
-/

namespace LogDiagram

abbrev Path := Text

namespace Path

/-- The pieces between slashes, each with its position. -/
def pieces (path : Path) : List (Text × Nat) := (Text.splitAtChar '/' path).zipIdx

/-- A piece at a position is a component. -/
def isComponent : Text × Nat → Bool
  | ([], _) => false
  | (['.'], i) => i == 0
  | _ => true

def isAbsolute : Path → Bool
  | '/' :: _ => true
  | _ => false

/-- The components of a path; the root is not one of them. -/
def components (path : Path) : List Text := (path.pieces.filter isComponent).map (·.1)

/-- The path that ends with the first of the given pieces, which are listed from the last one on. -/
def upTo (path : Path) : List (Text × Nat) → Path
  | [] => if path.isAbsolute then ['/'] else []
  | pieces => Text.joined ['/'] (pieces.reverse.map (·.1))

/-- A path without its last component, and that component. -/
def split? (path : Path) : Option (Path × Text) :=
  match path.pieces.reverse.dropWhile fun piece => !isComponent piece with
  | [] => none
  | last :: before => some (path.upTo (before.dropWhile fun piece => !isComponent piece), last.1)

/-- The path of the directory around. -/
def parent? (path : Path) : Option Path := path.split?.map (·.1)

/-- The name of the file or directory that a path ends with. -/
def fileName? (path : Path) : Option Text :=
  match path.split? with
  | some (_, ['.']) | some (_, ['.', '.']) | none => none
  | some (_, name) => some name

/-- A file name without its last dot and what follows; a dot at the start does not count. -/
def stemOf (name : Text) : Text :=
  match name.reverse.dropWhile (· ≠ '.') with
  | [] | [_] => name
  | _ :: before => before.reverse

/-- Where `next` leads from `path`. -/
def join (path next : Path) : Path :=
  if next.isAbsolute then next
  else if path.isEmpty || path.getLast? == some '/' then path ++ next
  else path ++ '/' :: next

/-- The place beside a log where its new content is gathered before it replaces the old one. -/
def trimPath (path : Path) : Path := path ++ ".trim.log".toList

/-- The parts of the path of a log. -/
structure Parts where
  /-- The directory of the log. -/
  directory : Text
  /-- The file name of the log. -/
  file : Text
  /-- The file name without its extension. -/
  stem : Text
  deriving DecidableEq, Repr

namespace Parts

def directoryMark : Text := "$\x7bfileDirname\x7d".toList

/-- The name of the file name in configured texts. -/
def fileMark : Text := "$\x7bfileBasename\x7d".toList

def stemMark : Text := "$\x7bfileBasenameNoExtension\x7d".toList

end Parts

/-- The parts of a path; a bare file name lies in the directory that a dot stands for. -/
def parts (path : Path) : Parts where
  directory :=
    match path.parent? with
    | some (c :: rest) => c :: rest
    | _ => ['.']
  file := path.fileName?.getD []
  stem := (path.fileName?.map stemOf).getD []

end Path

end LogDiagram
