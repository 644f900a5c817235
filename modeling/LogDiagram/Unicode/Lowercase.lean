import LogDiagram.Unicode.Folding

/-!
# Small letters

The small form of texts in Unicode. Case folding and lower-casing differ in few places: small letters that fold to
other small letters stay, capitals of Cherokee become the letters that fold to them, and two capitals have a small form
of their own.

* `Unicode.lower` is the small form of a character;
* `Text.lower` is a text in small letters.
-/

namespace LogDiagram

namespace Unicode

namespace FoldRun

def moved? (run : FoldRun) (n : Nat) : Option Nat :=
  if run.first ≤ n ∧ n ≤ run.last ∧ (n - run.first) % run.step = 0 then some ((n : Int) + run.shift).toNat else none

/-- The first characters of the runs that fold small letters to other letters. -/
def ofSmall : List Nat := [
  0xB5, 0x17F, 0x345, 0x3C2, 0x3D0, 0x3D1, 0x3D5, 0x3D6, 0x3F0, 0x3F1, 0x3F5, 0x13F8, 0x1C80, 0x1C81, 0x1C82, 0x1C83,
  0x1C85, 0x1C86, 0x1C87, 0x1C88, 0x1E9B, 0x1FBE, 0x1FD3, 0x1FE3, 0xAB70, 0xFB05]

/-- The runs that take capitals to small letters. -/
def lowering : List FoldRun :=
  (all.filter fun run => !ofSmall.contains run.first) ++ [⟨0x13A0, 0x13EF, 1, 38864⟩, ⟨0x13F0, 0x13F5, 1, 8⟩]

end FoldRun

/-- The number of the small letter for a capital; every other character stays. -/
def lowerNumber (n : Nat) : Nat := (FoldRun.lowering.findSome? fun run => run.moved? n).getD n

/--
The small form of a character. A capital I with a dot keeps its dot as a character of its own, and a capital sigma has
another form at the end of a word.
-/
def lower (endsWord : Bool) (c : Char) : Text :=
  if c = '\u0130' then ['i', '\u0307']
  else if c = 'Σ' ∧ endsWord then ['ς']
  else [Char.ofNat (lowerNumber c.toNat)]

end Unicode

namespace Text

/-- The pass behind `lower`; `before` holds the passed characters, last one first. -/
def lowerFrom (endsWord : (before after : Text) → Bool) : (before t : Text) → Text
  | _, [] => []
  | before, c :: rest => Unicode.lower (endsWord before rest) c ++ lowerFrom endsWord (c :: before) rest

/--
A text in small letters. `endsWord` tells from what stands in front of a capital sigma, last character first, and behind
it whether a word ends there.
-/
def lower (endsWord : (before after : Text) → Bool) (t : Text) : Text := lowerFrom endsWord [] t

end Text

end LogDiagram
