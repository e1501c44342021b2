import ReportMigration.Json.Basic
/-!
Writing of JSON text, in ASCII alone but for `Json.plain`.

* `Json.compact` writes a value on one line without spaces;
* `Json.plain` the same with characters beyond ASCII as they are;
* `Json.spaced` the same with a space after each comma and colon;
* `Json.pretty` writes one item per line, four spaces deeper for each level.
-/
namespace ReportMigration.Json

/-- A hexadecimal digit. -/
def hexDigit (n : Nat) : Char :=
  if n < 10 then Char.ofNat (48 + n) else Char.ofNat (87 + n)

/-- A number below 65536 in four hexadecimal digits. -/
def hexFour (n : Nat) : List Char :=
  [hexDigit (n / 4096 % 16), hexDigit (n / 256 % 16), hexDigit (n / 16 % 16), hexDigit (n % 16)]

/-- A character inside a string: printable ASCII as it is, but for the quote and the backslash, and
    all else escaped, where what is beyond the control characters may be left as it is; a character
    beyond the first 65536 is escaped as its two halves. -/
def escapeChar (ascii : Bool) (c : Char) : List Char :=
  if c = '"' then ['\\', '"']
  else if c = '\\' then ['\\', '\\']
  else if c = '\n' then ['\\', 'n']
  else if c = '\r' then ['\\', 'r']
  else if c = '\t' then ['\\', 't']
  else if c = '\x0c' then ['\\', 'f']
  else if c = '\x08' then ['\\', 'b']
  else
    let n := c.toNat
    if 32 ≤ n && (n < 127 || !ascii) then [c]
    else if n < 0x10000 then '\\' :: 'u' :: hexFour n
    else
      let m := n - 0x10000
      '\\' :: 'u' :: hexFour (0xD800 + m / 0x400) ++ '\\' :: 'u' :: hexFour (0xDC00 + m % 0x400)

/-- A string with its quotes. -/
def quote (ascii : Bool) (s : String) : String :=
  .ofList ('"' :: s.toList.flatMap (escapeChar ascii) ++ ['"'])

/-- The text of a number in double precision. -/
def realText (x : Double) : String := x.textWith "NaN" "Infinity"

/-- How strings are escaped, and what stands around the items of a list or an object. -/
structure Layout where
  /-- Whether only ASCII is written. -/
  ascii : Bool
  /-- What follows the colon after a field's name, with the colon. -/
  colon : String
  /-- What is between items at a depth. -/
  comma : Nat → String
  /-- What is before the first item at a depth. -/
  opening : Nat → String
  /-- What is after the last item, at the depth of the list itself. -/
  closing : Nat → String

mutual

/-- The text of a value at a depth. -/
def write (l : Layout) (depth : Nat) : Json → String
  | null => "null"
  | bool true => "true"
  | bool false => "false"
  | int n => toString n
  | real x => realText x
  | str s => quote l.ascii s
  | arr [] => "[]"
  | arr (x :: xs) =>
    "[" ++ l.opening (depth + 1) ++ write l (depth + 1) x ++ writeItems l (depth + 1) xs ++
      l.closing depth ++ "]"
  | obj [] => "\x7b\x7d"
  | obj ((k, v) :: fs) =>
    "\x7b" ++ l.opening (depth + 1) ++ quote l.ascii k ++ l.colon ++ write l (depth + 1) v ++
      writeFields l (depth + 1) fs ++ l.closing depth ++ "\x7d"

/-- The texts of the items after the first. -/
def writeItems (l : Layout) (depth : Nat) : List Json → String
  | [] => ""
  | x :: xs => l.comma depth ++ write l depth x ++ writeItems l depth xs

/-- The texts of the fields after the first. -/
def writeFields (l : Layout) (depth : Nat) : List (String × Json) → String
  | [] => ""
  | (k, v) :: fs =>
    l.comma depth ++ quote l.ascii k ++ l.colon ++ write l depth v ++ writeFields l depth fs

end

/-- A new line that begins four spaces further in for each level. -/
def newLine (depth : Nat) : String := "\n" ++ .ofList (List.replicate (4 * depth) ' ')

def compactLayout : Layout := ⟨true, ":", fun _ => ",", fun _ => "", fun _ => ""⟩

def spacedLayout : Layout := ⟨true, ": ", fun _ => ", ", fun _ => "", fun _ => ""⟩

def prettyLayout : Layout := ⟨true, ": ", fun d => "," ++ newLine d, newLine, newLine⟩

/-- `v` on one line, without spaces. -/
def compact (v : Json) : String := write compactLayout 0 v

/-- `v` on one line, without spaces, with characters beyond ASCII as they are. -/
def plain (v : Json) : String := write { compactLayout with ascii := false } 0 v

/-- `v` on one line. -/
def spaced (v : Json) : String := write spacedLayout 0 v

/-- `v` with one item per line. -/
def pretty (v : Json) : String := write prettyLayout 0 v

mutual

/-- `v` with the fields of every object in the order of their names. -/
def sortKeys : Json → Json
  | arr xs => arr (sortItems xs)
  | obj fs => obj ((sortFields fs).mergeSort fun a b => a.1 ≤ b.1)
  | v => v

/-- The same for each item. -/
def sortItems : List Json → List Json
  | [] => []
  | x :: xs => sortKeys x :: sortItems xs

/-- The same for each field's value. -/
def sortFields : List (String × Json) → List (String × Json)
  | [] => []
  | (k, v) :: fs => (k, sortKeys v) :: sortFields fs

end

end ReportMigration.Json
