import ReportMigration.Fault
/-!
Texts as octets in UTF-8.

`octets` writes a text, one to four octets for each character, and `ofOctets` reads it back. Octets
that are not the shortest form of a character are refused, with the range of octets at fault.
-/
namespace ReportMigration.Text

/-- The octets of a character. -/
def charOctets (c : Char) : List UInt8 :=
  let n := c.toNat
  if n < 0x80 then [.ofNat n]
  else if n < 0x800 then [.ofNat (0xC0 + n / 0x40), .ofNat (0x80 + n % 0x40)]
  else if n < 0x10000 then
    [.ofNat (0xE0 + n / 0x1000), .ofNat (0x80 + n / 0x40 % 0x40), .ofNat (0x80 + n % 0x40)]
  else
    [.ofNat (0xF0 + n / 0x40000), .ofNat (0x80 + n / 0x1000 % 0x40),
      .ofNat (0x80 + n / 0x40 % 0x40), .ofNat (0x80 + n % 0x40)]

/-- The octets of a text. -/
def octets (s : String) : List UInt8 := s.toList.flatMap charOctets

/-- What can be wrong with octets. -/
inductive OctetCause where
  | start
  | continuation
  | ending

def OctetCause.text : OctetCause → String
  | start => "invalid start byte"
  | continuation => "invalid continuation byte"
  | ending => "unexpected end of data"

/-- A range of octets that is not part of a text. -/
structure OctetError where
  cause : OctetCause
  first : UInt8
  pos : Nat
  length : Nat

/-- The text of the error. -/
def OctetError.message (e : OctetError) : String :=
  let range :=
    if e.length = 1 then
      " byte 0x" ++ .ofList (hexPadded 2 e.first.toNat) ++ " in position " ++ toString e.pos
    else
      " bytes in position " ++ toString e.pos ++ "-" ++ toString (e.pos + e.length - 1)
  "'utf-8' codec can't decode" ++ range ++ ": " ++ e.cause.text

/-- Whether an octet continues a character. -/
def continues (b : UInt8) : Bool := 0x80 ≤ b && b < 0xC0

/-- Whether `b` may follow the first octet `a`: longer forms than needed and halves of pairs may
    not be written. -/
def follows (a b : UInt8) : Bool :=
  continues b && !(a = 0xE0 && b < 0xA0) && !(a = 0xED && 0xA0 ≤ b) && !(a = 0xF0 && b < 0x90) &&
    !(a = 0xF4 && 0x90 ≤ b)

/-- The six bits of a continuing octet. -/
def lowBits (b : UInt8) : Nat := b.toNat % 0x40

/-- The characters of octets from a position on. -/
def charsOfOctets (pos : Nat) : List UInt8 → Except OctetError (List Char)
  | [] => .ok []
  | a :: rest =>
    if a < 0x80 then (.ofNat a.toNat :: ·) <$> charsOfOctets (pos + 1) rest
    else if a < 0xC2 || 0xF5 ≤ a then .error ⟨.start, a, pos, 1⟩
    else match rest with
      | [] => .error ⟨.ending, a, pos, 1⟩
      | b :: rest =>
        if !follows a b then .error ⟨.continuation, a, pos, 1⟩
        else if a < 0xE0 then
          (.ofNat (a.toNat % 0x20 * 0x40 + lowBits b) :: ·) <$> charsOfOctets (pos + 2) rest
        else match rest with
          | [] => .error ⟨.ending, a, pos, 2⟩
          | c :: rest =>
            if !continues c then .error ⟨.continuation, a, pos, 2⟩
            else if a < 0xF0 then
              (.ofNat (a.toNat % 0x10 * 0x1000 + lowBits b * 0x40 + lowBits c) :: ·) <$>
                charsOfOctets (pos + 3) rest
            else match rest with
              | [] => .error ⟨.ending, a, pos, 3⟩
              | d :: rest =>
                if !continues d then .error ⟨.continuation, a, pos, 3⟩
                else
                  (.ofNat (a.toNat % 0x8 * 0x40000 + lowBits b * 0x1000 + lowBits c * 0x40 +
                    lowBits d) :: ·) <$> charsOfOctets (pos + 4) rest

/-- The text of octets. -/
def ofOctets (bs : List UInt8) : Except Fault String :=
  match charsOfOctets 0 bs with
  | .ok cs => .ok (.ofList cs)
  | .error e => .error (.failure .octets e.message)

end ReportMigration.Text
