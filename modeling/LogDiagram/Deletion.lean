import LogDiagram.Regex.Parser
import LogDiagram.Regex.Search
import LogDiagram.Rule.Defect

/-!
# Lines to be deleted

A `LineDeletion` names the lines of a log that are dropped before all else: those that hold a text, or those that hold
a piece of a regular expression. An entry is read as a regular expression if it holds one of `regexMarks`.

* `LineDeletion.ofEntry` reads an entry;
* `LineDeletion.deleteFrom` drops the lines.
-/

namespace LogDiagram

/-- Which lines are dropped. -/
inductive LineDeletion where
  /-- Those that hold the text. -/
  | literal (t : Text)
  /-- Those that hold a piece of the expression, which is given with its source. -/
  | regex (source : Text) (regex : Regex)
  deriving DecidableEq, Repr

namespace LineDeletion

/-- The line is to be dropped. -/
def isFor : LineDeletion → Text → Bool
  | literal t, line => t.occursIn line
  | regex _ r, line => r.isIn line

/-- The characters that make an entry a regular expression. -/
def regexMarks : List Char := ['[', '\\', '^', '$', '.', '|', '?', '*', '+']

/-- How many bytes a regular expression may have. -/
def regexLimit : Nat := 4096

/-- The deletion that an entry names. -/
def ofEntry (entry : Text) : Except Defect LineDeletion :=
  if !entry.any regexMarks.contains then .ok (literal entry)
  else if entry.utf8Size > regexLimit then .error (.regexTooLong entry.utf8Size regexLimit)
  else
    match Regex.parse? entry with
    | some r => .ok (regex entry r)
    | none => .error (.invalidRegex entry)

def ofEntries (entries : List Text) : Except EntryError (List LineDeletion) :=
  checkEntries ofEntry (located "delete_lines" entries)

/-- The lines that no deletion names, and the number of the other ones. -/
def deleteFrom (deletions : List LineDeletion) (lines : List Text) : List Text × Nat :=
  let kept := lines.filter fun line => !deletions.any fun d => d.isFor line
  (kept, lines.length - kept.length)

end LineDeletion

end LogDiagram
