/-!
# Blank characters

A character is blank when it has the Unicode property `White_Space`: 25 characters in ten runs.

* `isBlank` decides the property, `isBlankText` says that a text holds nothing else;
* `trimStart` drops the blank characters in front of a text.
-/

namespace TaskLedger.Text

/-- The runs of code points with the property `White_Space`, first and last included. -/
def blankRuns : List (Nat × Nat) :=
  [(0x09, 0x0D), (0x20, 0x20), (0x85, 0x85), (0xA0, 0xA0), (0x1680, 0x1680), (0x2000, 0x200A),
    (0x2028, 0x2029), (0x202F, 0x202F), (0x205F, 0x205F), (0x3000, 0x3000)]

/-- Whether a character has the property `White_Space`. -/
def isBlank (c : Char) : Bool :=
  blankRuns.any fun run => run.1 ≤ c.toNat && c.toNat ≤ run.2

/-- The runs name 25 characters. -/
example : (blankRuns.map fun run => run.2 - run.1 + 1).sum = 25 := rfl

/-- A text without its leading blank characters. -/
def trimStart (cs : List Char) : List Char :=
  cs.dropWhile isBlank

/-- Whether nothing is left of a text once blank characters are trimmed away. -/
def isBlankText (s : String) : Bool :=
  s.toList.all isBlank

end TaskLedger.Text
