import ReportMigration.Text.Octets
/-!
Base64: three octets as four characters of six bits each, the last group filled up with equals signs.

`encode` writes octets. `decode` reads them leniently: characters outside the alphabet are skipped,
and reading ends where the equals signs complete a group.
-/
namespace ReportMigration.Base64

/-- The character for six bits. -/
def digit (n : Nat) : Char :=
  if n < 26 then .ofNat (65 + n)
  else if n < 52 then .ofNat (71 + n)
  else if n < 62 then .ofNat (n - 4)
  else if n = 62 then '+'
  else '/'

/-- The six bits of a character. -/
def value? (c : Char) : Option Nat :=
  let n := c.toNat
  if 65 ≤ n && n ≤ 90 then some (n - 65)
  else if 97 ≤ n && n ≤ 122 then some (n - 71)
  else if 48 ≤ n && n ≤ 57 then some (n + 4)
  else if c = '+' then some 62
  else if c = '/' then some 63
  else none

/-- The characters for octets. -/
def encode : List UInt8 → List Char
  | [] => []
  | [a] => [digit (a.toNat / 4), digit (a.toNat % 4 * 16), '=', '=']
  | [a, b] =>
    [digit (a.toNat / 4), digit (a.toNat % 4 * 16 + b.toNat / 16), digit (b.toNat % 16 * 4), '=']
  | a :: b :: c :: rest =>
    digit (a.toNat / 4) :: digit (a.toNat % 4 * 16 + b.toNat / 16) ::
      digit (b.toNat % 16 * 4 + c.toNat / 64) :: digit (c.toNat % 64) :: encode rest

/-- What can be wrong with the characters. -/
inductive Error where
  | padding
  /-- One character is left over, after so many groups of four. -/
  | leftOver (groups : Nat)

def Error.message : Error → String
  | padding => "Incorrect padding"
  | leftOver n =>
    "Invalid base64-encoded string: number of data characters (" ++ toString (4 * n + 1) ++
      ") cannot be 1 more than a multiple of 4"

/-- How far a group has been read: how many characters, the bits that are left over, and how many
    equals signs were seen since. -/
structure Group where
  count : Nat := 0
  bits : Nat := 0
  pads : Nat := 0

/-- The octets of characters, after `groups` whole groups and a part of the next. -/
def decodeFrom (groups : Nat) (g : Group) : List Char → Except Error (List UInt8)
  | [] =>
    match g.count with
    | 0 => .ok []
    | 1 => .error (.leftOver groups)
    | _ => .error .padding
  | c :: cs =>
    if c = '=' then
      if g.count ≥ 2 then
        if g.count + g.pads + 1 ≥ 4 then .ok []
        else decodeFrom groups { g with pads := g.pads + 1 } cs
      else decodeFrom groups g cs
    else match value? c with
      | none => decodeFrom groups g cs
      | some v =>
        match g.count with
        | 0 => decodeFrom groups ⟨1, v, 0⟩ cs
        | 1 => (.ofNat (g.bits * 4 + v / 16) :: ·) <$> decodeFrom groups ⟨2, v % 16, 0⟩ cs
        | 2 => (.ofNat (g.bits * 16 + v / 4) :: ·) <$> decodeFrom groups ⟨3, v % 4, 0⟩ cs
        | _ => (.ofNat (g.bits * 64 + v) :: ·) <$> decodeFrom (groups + 1) {} cs

/-- The octets of characters. -/
def decode (cs : List Char) : Except Fault (List UInt8) :=
  match decodeFrom 0 {} cs with
  | .ok bs => .ok bs
  | .error e => .error (.failure .base64 e.message)

end ReportMigration.Base64
