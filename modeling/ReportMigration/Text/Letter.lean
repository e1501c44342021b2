import ReportMigration.Text.LetterTable
/-!
Letter case.

* `lower` writes a text in lower case, over the whole character set; a capital sigma at the end of a
  word becomes the final small sigma;
* `capitalize` gives the first character its title-case form and puts the rest in lower case;
* `foldAscii` folds the ASCII letters alone, as the comparison of stored text does.
-/
namespace ReportMigration.Text

/-- The image of character number `n` under the first run that holds it. -/
def CaseRun.image? (r : CaseRun) (n : Nat) : Option Nat :=
  if r.first ≤ n && n ≤ r.last && (n - r.first) % r.step == 0 then some (n + r.delta).toNat
  else none

/-- Whether `n` lies in one of the ranges. -/
def inRanges (rs : List (Nat × Nat)) (n : Nat) : Bool :=
  rs.any fun (a, b) => a ≤ n && n ≤ b

/-- The lower-case form of one character, apart from its surroundings. -/
def lowerChar (c : Char) : List Char :=
  if c.toNat == 0x130 then ['i', Char.ofNat 0x307]
  else match lowerRuns.findSome? (·.image? c.toNat) with
    | some m => [Char.ofNat m]
    | none => [c]

/-- The title-case form of one character. -/
def titleChar (c : Char) : List Char :=
  match titleExpansions.find? (·.1 == c.toNat) with
  | some (_, ms) => ms.map Char.ofNat
  | none => match titleRuns.findSome? (·.image? c.toNat) with
    | some m => [Char.ofNat m]
    | none => [c]

/-- Whether the first character of `cs` that is not passed over has a case. -/
def nextIsCased (cs : List Char) : Bool :=
  match cs.dropWhile fun c => inRanges skippedRanges c.toNat with
  | [] => false
  | c :: _ => inRanges casedRanges c.toNat

/-- The capital sigma. -/
def capitalSigma : Char := Char.ofNat 0x3A3

/-- The lower-case form of `c`, where `before` holds the characters before it, the nearest first,
    and `after` those after it. -/
def lowerAt (before : List Char) (c : Char) (after : List Char) : List Char :=
  if c = capitalSigma then
    [Char.ofNat (if nextIsCased before && !nextIsCased after then 0x3C2 else 0x3C3)]
  else lowerChar c

/-- The lower-case form of `cs` after the characters `before`, the nearest first. -/
def lowerFrom (before : List Char) : List Char → List Char
  | [] => []
  | c :: cs => lowerAt before c cs ++ lowerFrom (c :: before) cs

/-- `s` in lower case. -/
def lower (s : String) : String := .ofList (lowerFrom [] s.toList)

/-- `s` with its first character in title case and the rest in lower case. -/
def capitalize (s : String) : String :=
  match s.toList with
  | [] => ""
  | c :: cs => .ofList (titleChar c ++ lowerFrom [c] cs)

/-- `c`, in lower case if it is an ASCII letter. -/
def foldAsciiChar (c : Char) : Char :=
  if 65 ≤ c.toNat && c.toNat ≤ 90 then Char.ofNat (c.toNat + 32) else c

/-- `s` with its ASCII letters in lower case. -/
def foldAscii (s : String) : String := .ofList (s.toList.map foldAsciiChar)

end ReportMigration.Text
