import LogDiagram.Text.Basic
import LogDiagram.Unicode.Age
import LogDiagram.Unicode.Folding
import LogDiagram.Unicode.Script
import LogDiagram.Unicode.Segmentation

/-!
# Sets of characters in a regular expression

* `asciiDigit`, `asciiSpace` and `asciiWord` are the sets with a name of one letter where Unicode is switched off;
* `posix?` finds the sets that are named inside brackets;
* `property?` finds the sets with the name of a Unicode property, and `propertyValue?` those of a property's values.
-/

namespace LogDiagram.Regex.CharSet

open Unicode

def single (c : Char) : Ranges := Ranges.single c.toNat

/-- The characters between two ones, both included. -/
def range (first last : Char) : Ranges := [(first.toNat, last.toNat)]

/-- The members of some of several ranges. -/
def listed (ranges : List (Char × Char)) : Ranges :=
  Ranges.ofList (ranges.map fun (first, last) => (first.toNat, last.toNat))

def asciiDigit : Ranges := range '0' '9'

/-- The letters, digits and the low line of ASCII. -/
def asciiWord : Ranges := listed [('0', '9'), ('A', 'Z'), ('_', '_'), ('a', 'z')]

def asciiSpace : Ranges := listed [('\t', '\r'), (' ', ' ')]

/-- The sets of ASCII with a name of their own. -/
def posix? : String → Option Ranges
  | "alnum" => some (listed [('0', '9'), ('A', 'Z'), ('a', 'z')])
  | "alpha" => some (listed [('A', 'Z'), ('a', 'z')])
  | "ascii" => some Ranges.ascii
  | "blank" => some (listed [('\t', '\t'), (' ', ' ')])
  | "cntrl" => some (listed [('\x00', '\x1f'), ('\x7f', '\x7f')])
  | "digit" => some asciiDigit
  | "graph" => some (range '!' '~')
  | "lower" => some (range 'a' 'z')
  | "print" => some (range ' ' '~')
  | "punct" => some (listed [('!', '/'), (':', '@'), ('[', Char.ofNat 0x60), ('\x7b', '~')])
  | "space" => some asciiSpace
  | "upper" => some (range 'A' 'Z')
  | "word" => some asciiWord
  | "xdigit" => some (listed [('0', '9'), ('A', 'F'), ('a', 'f')])
  | _ => none

/-! ## Names of Unicode properties -/

/-- A name with its letters made small and without separators and a leading "is". -/
def normalizedName (name : Text) : String :=
  let lower := name.asciiLower
  let body := match lower with
    | 'i' :: 's' :: rest => rest
    | _ => lower
  let kept := body.filter fun c => c != ' ' && c != '_' && c != '-' && c.toNat < 0x80
  String.ofList (if kept = ['c'] && body.length < lower.length then ['i', 's', 'c'] else kept)

def named? (sets : List NamedSet) (name : String) : Option Ranges := (NamedSet.find? sets name).map NamedSet.ranges

/-- The set with the given name: a property, a general category or a script. -/
def property? (name : Text) : Option Ranges :=
  let name := normalizedName name
  (named? Property.sets name <|> named? Property.derivedSets name) <|>
    (named? Category.sets name <|> named? Script.sets name)

def propertyValue? (name value : Text) : Option Ranges :=
  let value := normalizedName value
  match normalizedName name with
  | "gc" | "generalcategory" => named? Category.sets value
  | "sc" | "script" => named? Script.sets value
  | "scx" | "scriptextensions" => (Script.find? value).map Script.extended
  | "age" => Age.upTo? value
  | "gcb" | "graphemeclusterbreak" => named? Segmentation.graphemeSets value
  | "wb" | "wordbreak" => named? Segmentation.wordSets value
  | "sb" | "sentencebreak" => named? Segmentation.sentenceSets value
  | _ => none

end LogDiagram.Regex.CharSet
