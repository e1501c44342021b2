import ReportMigration.Text.Octets
/-!
Percent encoding of texts in addresses: letters, digits and a few signs stand for themselves, and
every other octet is written as a percent sign and two hexadecimal digits.
-/
namespace ReportMigration.Percent

/-- Whether a character stands for itself. -/
def isPlain (c : Char) : Bool :=
  c.isAlphanum || c = '_' || c = '.' || c = '-' || c = '~' || c = '/'

/-- A hexadecimal digit, with capital letters. -/
def digit (n : Nat) : Char := if n < 10 then .ofNat (48 + n) else .ofNat (55 + n)

/-- An octet in hexadecimal digits. -/
def octet (b : UInt8) : List Char := ['%', digit (b.toNat / 16), digit (b.toNat % 16)]

/-- A character in encoded form. -/
def encodeChar (c : Char) : List Char :=
  if isPlain c then [c] else (Text.charOctets c).flatMap octet

/-- A text in encoded form. -/
def encode (s : String) : String := .ofList (s.toList.flatMap encodeChar)

end ReportMigration.Percent
