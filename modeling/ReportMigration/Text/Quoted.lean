import ReportMigration.Text.HiddenTable
import ReportMigration.Text.Letter
import ReportMigration.Json.Reader
import ReportMigration.Json.Writer
/-!
Quoted texts and values as a reader of messages sees them.

* `quoted` puts a text into single quotes, or into double quotes if it holds single ones alone, and
  escapes what cannot be shown;
* `Json.literal` writes a value with its texts quoted, `Json.display` the same but for a value that
  is itself a text, which stands as it is.
-/
namespace ReportMigration.Text

/-- `n` in `width` hexadecimal digits. -/
def hexPadded (width n : Nat) : List Char :=
  let ds := Nat.toDigits 16 n
  List.replicate (width - ds.length) '0' ++ ds

/-- Whether a character is shown as it is. -/
def isShown (c : Char) : Bool :=
  let n := c.toNat
  if n < 160 then 32 ≤ n && n < 127 else !inRanges hiddenRanges n

/-- A character between quotes of the kind `q`. -/
def quotedChar (q c : Char) : List Char :=
  if c = q || c = '\\' then ['\\', c]
  else if c = '\t' then ['\\', 't']
  else if c = '\n' then ['\\', 'n']
  else if c = '\r' then ['\\', 'r']
  else if isShown c then [c]
  else
    let n := c.toNat
    if n < 0x100 then '\\' :: 'x' :: hexPadded 2 n
    else if n < 0x10000 then '\\' :: 'u' :: hexPadded 4 n
    else '\\' :: 'U' :: hexPadded 8 n

/-- `s` in quotes. -/
def quoted (s : String) : String :=
  let cs := s.toList
  let q := if cs.contains '\'' && !cs.contains '"' then '"' else '\''
  .ofList (q :: cs.flatMap (quotedChar q) ++ [q])

end ReportMigration.Text

namespace ReportMigration.Json

/-- The texts `ts` with a comma and a space between them. -/
def commaSeparated (ts : List String) : String := ", ".intercalate ts

mutual

/-- The text of a value with its texts quoted. -/
def literal : Json → String
  | null => "None"
  | bool true => "True"
  | bool false => "False"
  | int n => toString n
  | real x => x.text
  | str s => Text.quoted s
  | arr xs => "[" ++ commaSeparated (literals xs) ++ "]"
  | obj fs => "\x7b" ++ commaSeparated (fieldLiterals fs) ++ "\x7d"

/-- The texts of several values. -/
def literals : List Json → List String
  | [] => []
  | x :: xs => literal x :: literals xs

/-- The texts of several fields. -/
def fieldLiterals : List (String × Json) → List String
  | [] => []
  | (k, v) :: fs => (Text.quoted k ++ ": " ++ literal v) :: fieldLiterals fs

end

/-- The text of a value; a text stands as it is. -/
def display : Json → String
  | str s => s
  | v => literal v

/-- The text of several values in round brackets. -/
def tupleLiteral : List Json → String
  | [x] => "(" ++ literal x ++ ",)"
  | xs => "(" ++ commaSeparated (literals xs) ++ ")"

/-- The name of the type of a JSON value, as messages give it. -/
def typeName : Json → String
  | null => "NoneType"
  | bool _ => "bool"
  | int _ => "int"
  | real _ => "float"
  | str _ => "str"
  | arr _ => "list"
  | obj _ => "dict"

end ReportMigration.Json
