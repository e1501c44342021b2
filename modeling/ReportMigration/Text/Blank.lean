/-!
Blank characters and the operations that remove them.

* `isBlank` is the class of blank characters of the whole character set, not of ASCII alone;
* `trim` removes blanks at both ends;
* `squeeze` replaces every run of blanks by one space;
* `dropLeading`, `dropTrailing` remove the characters of a given class at one end.
-/
namespace ReportMigration.Text

/-- The blank characters: the controls from tab to carriage return and from file separator to unit
    separator, the space, and the blanks outside ASCII. -/
def isBlank (c : Char) : Bool :=
  let n := c.toNat
  (9 ≤ n && n ≤ 13) || (28 ≤ n && n ≤ 32) || n == 0x85 || n == 0xA0 || n == 0x1680 ||
    (0x2000 ≤ n && n ≤ 0x200A) || n == 0x2028 || n == 0x2029 || n == 0x202F || n == 0x205F ||
    n == 0x3000

/-- `cs` without the characters of class `p` at its end. -/
def dropTrailing (p : Char → Bool) (cs : List Char) : List Char :=
  (cs.reverse.dropWhile p).reverse

/-- `cs` without the characters of class `p` at either end. -/
def dropAround (p : Char → Bool) (cs : List Char) : List Char :=
  dropTrailing p (cs.dropWhile p)

/-- `s` without blanks at either end. -/
def trim (s : String) : String :=
  .ofList (dropAround isBlank s.toList)

/-- `s` without the characters of class `p` at its start. -/
def trimLeading (p : Char → Bool) (s : String) : String :=
  .ofList (s.toList.dropWhile p)

/-- `cs` with every run of blanks replaced by one space; `inRun` says that a run is already under
    way and its space written. -/
def squeezeFrom : Bool → List Char → List Char
  | _, [] => []
  | inRun, c :: cs =>
    if isBlank c then
      if inRun then squeezeFrom true cs else ' ' :: squeezeFrom true cs
    else c :: squeezeFrom false cs

/-- `cs` with every run of blanks replaced by one space. -/
def squeeze (cs : List Char) : List Char := squeezeFrom false cs

/-- Whether `s` is blank throughout. -/
def isAllBlank (s : String) : Bool := s.toList.all isBlank

theorem dropTrailing_append_of_neg {p : Char → Bool} (cs : List Char) {c : Char} (h : p c = false) :
    dropTrailing p (cs ++ [c]) = cs ++ [c] := by
  simp [dropTrailing, h]

theorem dropTrailing_append_of_pos {p : Char → Bool} (cs : List Char) {c : Char} (h : p c = true) :
    dropTrailing p (cs ++ [c]) = dropTrailing p cs := by
  simp [dropTrailing, h]

end ReportMigration.Text
