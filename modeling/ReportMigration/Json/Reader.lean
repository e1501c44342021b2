import ReportMigration.Json.Basic
/-!
Reading of JSON text.

`Json.read` reads a whole text and reports the first place where it goes wrong, by line, column and
position. Beyond the standard it takes the names of the numbers that are not finite. Of several
fields with one name the last counts.
-/
namespace ReportMigration.Json

/-- What is wrong with a text. -/
inductive ReadCause where
  | expectingValue
  | expectingName
  | expectingColon
  | expectingComma
  | extraData
  | unterminatedString
  | controlCharacter
  | badEscape
  | badUnicodeEscape
  | byteOrderMark
  deriving DecidableEq

/-- The wording of a cause. -/
def ReadCause.text : ReadCause → String
  | expectingValue => "Expecting value"
  | expectingName => "Expecting property name enclosed in double quotes"
  | expectingColon => "Expecting ':' delimiter"
  | expectingComma => "Expecting ',' delimiter"
  | extraData => "Extra data"
  | unterminatedString => "Unterminated string starting at"
  | controlCharacter => "Invalid control character at"
  | badEscape => "Invalid \\escape"
  | badUnicodeEscape => "Invalid \\uXXXX escape"
  | byteOrderMark => "Unexpected UTF-8 BOM (decode using utf-8-sig)"

/-- A cause and the position it was found at. -/
structure ReadError where
  cause : ReadCause
  pos : Nat
  deriving DecidableEq

/-- The message for an error in `text`: the cause with line, column and position. -/
def ReadError.message (text : String) (e : ReadError) : String :=
  let before := text.toList.take e.pos
  let line := before.count '\n' + 1
  let column := (before.reverse.takeWhile (· ≠ '\n')).length + 1
  e.cause.text ++ ": line " ++ toString line ++ " column " ++ toString column ++
    " (char " ++ toString e.pos ++ ")"

/-- A place in a text: what follows, and how many characters came before. -/
structure Cursor where
  rest : List Char
  pos : Nat

abbrev Reading (α : Type) := Except ReadError (α × Cursor)

/-- The place `n` characters further. -/
def Cursor.advance (c : Cursor) (n : Nat) : Cursor := ⟨c.rest.drop n, c.pos + n⟩

def isSpace (c : Char) : Bool := c = ' ' || c = '\t' || c = '\n' || c = '\r'

/-- The place after any blanks. -/
def Cursor.skipSpace (c : Cursor) : Cursor :=
  let blanks := c.rest.takeWhile isSpace
  c.advance blanks.length

/-- The value of a hexadecimal digit. -/
def hexValue? (c : Char) : Option Nat :=
  let n := c.toNat
  if 48 ≤ n && n ≤ 57 then some (n - 48)
  else if 97 ≤ n && n ≤ 102 then some (n - 87)
  else if 65 ≤ n && n ≤ 70 then some (n - 55)
  else none

/-- The number that the hexadecimal digits `cs` write. -/
def hexNumber? (cs : List Char) : Option Nat :=
  cs.foldlM (fun acc c => (hexValue? c).map (acc * 16 + ·)) 0

/-- The character that a one-letter escape stands for. -/
def escaped? : Char → Option Char
  | '"' => some '"'
  | '\\' => some '\\'
  | '/' => some '/'
  | 'b' => some '\x08'
  | 'f' => some '\x0c'
  | 'n' => some '\n'
  | 'r' => some '\r'
  | 't' => some '\t'
  | _ => none

/-- Two halves of a character beyond the first 65536, joined. -/
def joinSurrogates (hi lo : Nat) : Nat := 0x10000 + (hi - 0xD800) * 0x400 + (lo - 0xDC00)

/-- Reads the escape after `\u`, where `cs` follows the letter: the character and how many of `cs`
    it takes, or how far after the first letter `u` the letter stands whose digits are wrong. -/
def unicodeEscape (cs : List Char) : Except Nat (Char × Nat) :=
  if cs.length ≤ 4 then .error 0
  else match hexNumber? (cs.take 4) with
    | none => .error 0
    | some hi =>
      if 0xD800 ≤ hi && hi < 0xDC00 && 10 < cs.length && (cs.drop 4).take 2 == ['\\', 'u'] then
        match hexNumber? ((cs.drop 6).take 4) with
        | none => .error 6
        | some lo =>
          if 0xDC00 ≤ lo && lo < 0xE000 then .ok (Char.ofNat (joinSurrogates hi lo), 10)
          else .ok (Char.ofNat hi, 4)
      else .ok (Char.ofNat hi, 4)

/-- Reads the rest of a string that began at `start`; `acc` holds its characters so far, the last
    first. -/
def stringFrom (start : Nat) : Nat → List Char → Cursor → Reading String
  | 0, _, _ => .error ⟨.unterminatedString, start⟩
  | fuel + 1, acc, c =>
    match c.rest with
    | [] => .error ⟨.unterminatedString, start⟩
    | '"' :: _ => .ok (.ofList acc.reverse, c.advance 1)
    | ['\\'] => .error ⟨.unterminatedString, start⟩
    | '\\' :: 'u' :: cs =>
      match unicodeEscape cs with
      | .ok (ch, n) => stringFrom start fuel (ch :: acc) (c.advance (n + 2))
      | .error n => .error ⟨.badUnicodeEscape, c.pos + 1 + n⟩
    | '\\' :: e :: _ =>
      match escaped? e with
      | some ch => stringFrom start fuel (ch :: acc) (c.advance 2)
      | none => .error ⟨.badEscape, c.pos⟩
    | ch :: _ =>
      if ch.toNat < 0x20 then .error ⟨.controlCharacter, c.pos⟩
      else stringFrom start fuel (ch :: acc) (c.advance 1)

/-- Reads a string whose opening quote stands at `c`. -/
def string (c : Cursor) : Reading String :=
  stringFrom c.pos (c.rest.length + 1) [] (c.advance 1)

/-- The number that decimal digits write. -/
def decimalNumber (cs : List Char) : Nat :=
  cs.foldl (fun acc c => acc * 10 + (c.toNat - 48)) 0

def isDigit (c : Char) : Bool := 48 ≤ c.toNat && c.toNat ≤ 57

/-- The digits of an exponent with its letter and sign, if digits follow these: their number, and
    how many characters they take. -/
def exponent? : List Char → Option (Int × Nat)
  | e :: cs =>
    if e = 'e' || e = 'E' then
      let (sign, cs) := match cs with
        | '+' :: cs => ((1 : Int), cs)
        | '-' :: cs => (-1, cs)
        | cs => (0, cs)
      let ds := cs.takeWhile isDigit
      if ds.isEmpty then none
      else
        let n : Int := decimalNumber ds
        some (if sign < 0 then -n else n, ds.length + 1 + (if sign = 0 then 0 else 1))
    else none
  | [] => none

/-- The digits before the point; a zero in front stands alone. -/
def wholeDigits : List Char → List Char
  | '0' :: _ => ['0']
  | cs => cs.takeWhile isDigit

/-- The digits after the point, if there is one. -/
def fractionDigits : List Char → List Char
  | '.' :: cs => cs.takeWhile isDigit
  | _ => []

/-- Reads a number that starts at `c`. -/
def number (c : Cursor) : Reading Json :=
  let negative := c.rest.head? == some '-'
  let afterSign := if negative then c.rest.drop 1 else c.rest
  let whole := wholeDigits afterSign
  if whole.isEmpty then .error ⟨.expectingValue, c.pos⟩
  else
    let rest := afterSign.drop whole.length
    let fraction := fractionDigits rest
    let rest := if fraction.isEmpty then rest else rest.drop (fraction.length + 1)
    let used := (if negative then 1 else 0) + whole.length +
      (if fraction.isEmpty then 0 else fraction.length + 1)
    match fraction, exponent? rest with
    | [], none =>
      let n : Int := decimalNumber whole
      .ok (.int (if negative then -n else n), c.advance used)
    | fraction, exp =>
      let (e, extra) := exp.getD (0, 0)
      .ok (.real (Double.ofDecimal negative (decimalNumber (whole ++ fraction))
        ((fraction.length : Int) - e)), c.advance (used + extra))

/-- The value that a bare word stands for, with the length of the word. -/
def word? (cs : List Char) : Option (Json × Nat) :=
  if "null".toList.isPrefixOf cs then some (.null, 4)
  else if "true".toList.isPrefixOf cs then some (.bool true, 4)
  else if "false".toList.isPrefixOf cs then some (.bool false, 5)
  else if "NaN".toList.isPrefixOf cs then some (.real .nan, 3)
  else if "Infinity".toList.isPrefixOf cs then some (.real .infinity, 8)
  else if "-Infinity".toList.isPrefixOf cs then some (.real (.signed true Double.infinity.bits.toNat), 9)
  else none

mutual

/-- Reads the value that starts at `c`. -/
def value : Nat → Cursor → Reading Json
  | 0, c => .error ⟨.expectingValue, c.pos⟩
  | fuel + 1, c =>
    match c.rest with
    | [] => .error ⟨.expectingValue, c.pos⟩
    | '"' :: _ => (string c).map fun (s, c) => (.str s, c)
    | '[' :: _ =>
      let c := (c.advance 1).skipSpace
      match c.rest with
      | ']' :: _ => .ok (.arr [], c.advance 1)
      | _ => (items fuel c).map fun (xs, c) => (.arr xs, c)
    | '{' :: _ =>
      let c := (c.advance 1).skipSpace
      match c.rest with
      | '}' :: _ => .ok (.obj [], c.advance 1)
      | _ => (fields fuel c).map fun (fs, c) => (.obj (ofFields fs), c)
    | _ =>
      match word? c.rest with
      | some (v, n) => .ok (v, c.advance n)
      | none => number c

/-- Reads the items of a list from `c` on, with the closing bracket. -/
def items : Nat → Cursor → Reading (List Json)
  | 0, c => .error ⟨.expectingValue, c.pos⟩
  | fuel + 1, c =>
    match value fuel c with
    | .error e => .error e
    | .ok (v, c) =>
      let c := c.skipSpace
      match c.rest with
      | ']' :: _ => .ok ([v], c.advance 1)
      | ',' :: _ => (items fuel (c.advance 1).skipSpace).map fun (vs, c) => (v :: vs, c)
      | _ => .error ⟨.expectingComma, c.pos⟩

/-- Reads the fields of an object from `c` on, with the closing brace. -/
def fields : Nat → Cursor → Reading (List (String × Json))
  | 0, c => .error ⟨.expectingName, c.pos⟩
  | fuel + 1, c =>
    match c.rest with
    | '"' :: _ =>
      match string c with
      | .error e => .error e
      | .ok (k, c) =>
        let c := c.skipSpace
        match c.rest with
        | ':' :: _ =>
          match value fuel (c.advance 1).skipSpace with
          | .error e => .error e
          | .ok (v, c) =>
            let c := c.skipSpace
            match c.rest with
            | '}' :: _ => .ok ([(k, v)], c.advance 1)
            | ',' :: _ =>
              (fields fuel (c.advance 1).skipSpace).map fun (fs, c) => ((k, v) :: fs, c)
            | _ => .error ⟨.expectingComma, c.pos⟩
        | _ => .error ⟨.expectingColon, c.pos⟩
    | _ => .error ⟨.expectingName, c.pos⟩

end

/-- Reads a whole text. -/
def read (text : String) : Except ReadError Json :=
  let cs := text.toList
  if cs.head? = some (Char.ofNat 0xFEFF) then .error ⟨.byteOrderMark, 0⟩
  else
    -- every step of `value` takes a character, so twice their number is fuel enough
    match value (2 * cs.length + 2) (Cursor.skipSpace ⟨cs, 0⟩) with
    | .error e => .error e
    | .ok (v, c) =>
      let c := c.skipSpace
      if c.rest.isEmpty then .ok v else .error ⟨.extraData, c.pos⟩

end ReportMigration.Json
