import LogDiagram.Rule.Basic
import LogDiagram.Text.Replace

/-!
# Templates and replacements

* `Text.render` fills captured pieces into a template;
* `Replacement.applyAll` runs a line through a table of replacements;
* `Text.fillCount` writes a tally into a diagram line.
-/

namespace LogDiagram

/-- The place of the `i`-th captured piece in a template, counted from one. -/
def placeholder (i : Nat) : Text := '$' :: '\x7b' :: (Text.ofNat i ++ ['\x7d'])

/-- The place of the tally in a diagram line. -/
def countPlaceholder : Text := "${count}".toList

namespace Text

/-- The pieces filled in one place after the other, from place `i` on. -/
def fillPlaces (template : Text) : (i : Nat) → List Text → Text
  | _, [] => template
  | i, value :: values => fillPlaces (replaceAll (placeholder i) value template) (i + 1) values

/--
A template with its captured pieces. Without pieces it stays as it is; if it has a first place, each piece goes to its
own places; otherwise the pieces follow in parentheses.
-/
def render (template : Text) (values : List Text) : Text :=
  if values.isEmpty then template
  else if (placeholder 1).occursIn template then fillPlaces template 1 values
  else template ++ '(' :: (joined [',', ' '] values ++ [')'])

/-- A diagram line with its tally in every place for it. -/
def fillCount (line : Text) (count : Nat) : Text := replaceAll countPlaceholder (ofNat count) line

end Text

namespace Replacement

/-- A line run through the table: each entry sees what the entries before it left. An empty search text does nothing. -/
def applyAll (table : List Replacement) (line : Text) : Text :=
  (table.filter fun r => !r.search.isEmpty).foldl (fun t r => Text.replaceAll r.search r.replace t) line

end Replacement

end LogDiagram
