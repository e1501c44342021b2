import ReportMigration.Text.Quoted
import ReportMigration.Text.Blank
/-!
Identifiers.

An identifier is kept by its text: 32 hexadecimal digits in five groups, in lower case. Two
identifiers are the same exactly when their texts are.

* `Id.drawn n` is the `n`-th identifier that a run draws;
* `Id.ofText` reads an identifier in any of its spellings.
-/
namespace ReportMigration

/-- An identifier, by its text. -/
structure Id where
  text : String
  deriving DecidableEq

namespace Id

/-- The 32 digits `ds` in groups of eight, four, four, four and twelve. -/
def grouped (ds : List Char) : String :=
  .ofList (ds.take 8 ++ '-' :: (ds.drop 8).take 4 ++ '-' :: (ds.drop 12).take 4 ++
    '-' :: (ds.drop 16).take 4 ++ '-' :: ds.drop 20)

/-- The identifier with the number `n`. -/
def ofNat (n : Nat) : Id := ⟨grouped (Text.hexPadded 32 n)⟩

/-- The `n`-th identifier that is drawn in a run. -/
def drawn (n : Nat) : Id :=
  ⟨"aaaaaaaa-0000-4000-8000-" ++ .ofList (Text.hexPadded 12 n)⟩

/-- Why a text is no identifier. -/
inductive ReadError where
  /-- It has not 32 digits. -/
  | badlyFormed
  /-- Its digits are no number. -/
  | notHexadecimal (digits : String)
  /-- Its digits write a negative number. -/
  | outOfRange
  deriving DecidableEq

def ReadError.message : ReadError → String
  | badlyFormed => "badly formed hexadecimal UUID string"
  | notHexadecimal ds => "invalid literal for int() with base 16: " ++ Text.quoted ds
  | outOfRange => "int is out of range (need a 128-bit value)"

/-- The characters without any occurrence of `word`, once `skip` more of them are passed over. -/
def dropWord (word : List Char) : Nat → List Char → List Char
  | _, [] => []
  | skip + 1, _ :: cs => dropWord word skip cs
  | 0, c :: cs =>
    if word.isPrefixOf (c :: cs) then dropWord word (word.length - 1) cs
    else c :: dropWord word 0 cs

/-- `s` without any occurrence of `word`. -/
def without (word s : String) : String := .ofList (dropWord word.toList 0 s.toList)

/-- The value of a run of hexadecimal digits in which single underscores may stand between digits;
    `afterDigit` says that an underscore may come next. -/
def hexRun? : Bool → Nat → List Char → Option Nat
  | afterDigit, acc, [] => if afterDigit then some acc else none
  | afterDigit, acc, c :: cs =>
    if c = '_' then if afterDigit then hexRun? false acc cs else none
    else match Json.hexValue? c with
      | some d => hexRun? true (acc * 16 + d) cs
      | none => none

/-- The number that a text writes in hexadecimal digits: blanks around it, a sign and the mark `0x`
    are allowed. The flag says that it is negative. -/
def hexNumber? (s : String) : Option (Bool × Nat) :=
  let cs := (Text.trim s).toList
  let (negative, cs) := match cs with
    | '-' :: cs => (true, cs)
    | '+' :: cs => (false, cs)
    | cs => (false, cs)
  let cs := match cs with
    | '0' :: 'x' :: '_' :: cs => cs
    | '0' :: 'X' :: '_' :: cs => cs
    | '0' :: 'x' :: cs => cs
    | '0' :: 'X' :: cs => cs
    | cs => cs
  (hexRun? false 0 cs).map fun n => (negative, n)

/-- Reads an identifier: hyphens anywhere, braces around it and the marks `urn:` and `uuid:` are
    passed over. -/
def ofText (s : String) : Except ReadError Id :=
  let s := without "uuid:" (without "urn:" s)
  let s := String.ofList (Text.dropAround (fun c => c = '{' || c = '}') s.toList)
  let s := without "-" s
  if s.length ≠ 32 then .error .badlyFormed
  else match hexNumber? s with
    | none => .error (.notHexadecimal s)
    | some (negative, n) => if negative && n ≠ 0 then .error .outOfRange else .ok (ofNat n)

/-- Whether a text has the form of an identifier: five groups of hexadecimal digits. -/
def hasForm (s : String) : Bool :=
  let groups := s.splitOn "-"
  groups.map String.length == [8, 4, 4, 4, 12] &&
    groups.all fun g => g.toList.all fun c => (Json.hexValue? c).isSome

end Id

end ReportMigration
