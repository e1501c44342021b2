import ReportMigration.Proofs.Text.Octets
import ReportMigration.Text.Percent
/-!
Reading percent encoding back.

* `Percent.Encoded cs`: the characters are letters, digits and a few signs, or octets in hexadecimal
  digits after a percent sign;
* `Percent.decode`: the octets that an encoded text stands for;
* `Percent.encoded_encode`, `Percent.decode_encode`: a text is encoded in this form, and its octets are
  read back;
* `Percent.encode_injective`: so no two texts are encoded alike.
-/
namespace ReportMigration

namespace Text

/-- The octets of a character are those of its encoding in UTF-8. -/
theorem charOctets_eq (c : Char) : charOctets c = String.utf8EncodeChar c := by
  have hvalid := toNat_lt_of_valid c
  unfold charOctets String.utf8EncodeChar
  simp only [show c.val.toNat = c.toNat from rfl]
  generalize c.toNat = n at hvalid
  have hlow : 0x80 + n % 0x40 = n % 64 + 128 := Nat.add_comm _ _
  have hmiddle : 0x80 + n / 0x40 % 0x40 = n / 64 % 64 + 128 := Nat.add_comm _ _
  by_cases h₁ : n < 0x80
  · rw [if_pos h₁, if_pos (by omega)]
  by_cases h₂ : n < 0x800
  · have hfirst : 0xC0 + n / 0x40 = n / 64 % 32 + 192 := by omega
    rw [if_neg h₁, if_pos h₂, if_neg (by omega), if_pos (by omega), hlow, hfirst]
  by_cases h₃ : n < 0x10000
  · have hfirst : 0xE0 + n / 0x1000 = n / 4096 % 16 + 224 := by omega
    rw [if_neg h₁, if_neg h₂, if_pos h₃, if_neg (by omega), if_neg (by omega), if_pos (by omega),
      hlow, hmiddle, hfirst]
  · have hfirst : 0xF0 + n / 0x40000 = n / 262144 % 8 + 240 := by omega
    have hsecond : 0x80 + n / 0x1000 % 0x40 = n / 4096 % 64 + 128 := Nat.add_comm _ _
    rw [if_neg h₁, if_neg h₂, if_neg h₃, if_neg (by omega), if_neg (by omega), if_neg (by omega),
      hlow, hmiddle, hfirst, hsecond]

theorem toByteArray_octets (s : String) : (octets s).toByteArray = s.toUTF8 := by
  have hfun : charOctets = String.utf8EncodeChar := funext charOctets_eq
  rw [octets, hfun]
  exact String.utf8Encode_toList

end Text

namespace Percent

variable {c : Char} {cs : List Char} {n : Nat} {b : UInt8}

/-- Letters, digits and a few signs, and octets in hexadecimal digits. -/
inductive Encoded : List Char → Prop where
  | nil : Encoded []
  | plain {c : Char} {cs : List Char} (hc : c.isAlphanum = true ∨ c ∈ ['_', '.', '-', '~', '/'])
      (hcs : Encoded cs) : Encoded (c :: cs)
  | octet {a b : Char} {cs : List Char} (ha : (Json.hexValue? a).isSome = true)
      (hb : (Json.hexValue? b).isSome = true) (hcs : Encoded cs) : Encoded ('%' :: a :: b :: cs)

/-- The octets that some characters stand for: two digits after a percent sign for one octet, and any
    other character for its own. -/
def decodeList : List Char → Option (List UInt8)
  | [] => some []
  | c :: cs =>
    if c = '%' then
      match cs with
      | a :: b :: cs => do
        let high ← Json.hexValue? a
        let low ← Json.hexValue? b
        return .ofNat (16 * high + low) :: (← decodeList cs)
      | _ => none
    else do
      return Text.charOctets c ++ (← decodeList cs)

/-- The octets that a text stands for. -/
def decode (s : String) : Option (List UInt8) := decodeList s.toList

/-! ## Octets -/

theorem hexValue?_digit (h : n < 16) : Json.hexValue? (digit n) = some n := by
  revert h n
  decide

theorem isPlain_iff :
    isPlain c = true ↔ c.isAlphanum = true ∨ c ∈ ['_', '.', '-', '~', '/'] := by
  simp [isPlain, or_assoc]

theorem isPlain_percent : isPlain '%' = false := by decide

theorem encoded_octet (b : UInt8) (hcs : Encoded cs) : Encoded (octet b ++ cs) := by
  have hb := b.toNat_lt
  refine .octet ?_ ?_ hcs
  · rw [hexValue?_digit (by omega)]
    rfl
  · rw [hexValue?_digit (by omega)]
    rfl

theorem decodeList_octet (b : UInt8) (cs : List Char) :
    decodeList (octet b ++ cs) = (decodeList cs).map (b :: ·) := by
  have hb := b.toNat_lt
  have hvalue : 16 * (b.toNat / 16) + b.toNat % 16 = b.toNat := Nat.div_add_mod _ _
  simp only [octet, List.cons_append, List.nil_append, decodeList, if_true]
  rw [hexValue?_digit (by omega), hexValue?_digit (by omega)]
  simp only [Option.bind_eq_bind, Option.bind_some, hvalue, UInt8.ofNat_toNat]
  cases decodeList cs <;> rfl

theorem encoded_octets (bs : List UInt8) (hcs : Encoded cs) : Encoded (bs.flatMap octet ++ cs) := by
  induction bs with
  | nil => exact hcs
  | cons b bs ih =>
    rw [List.flatMap_cons, List.append_assoc]
    exact encoded_octet b ih

theorem decodeList_octets (bs : List UInt8) (cs : List Char) :
    decodeList (bs.flatMap octet ++ cs) = (decodeList cs).map (bs ++ ·) := by
  induction bs with
  | nil => exact Option.map_id'.symm
  | cons b bs ih =>
    rw [List.flatMap_cons, List.append_assoc, decodeList_octet, ih, Option.map_map]
    rfl

/-! ## Characters and texts -/

theorem encoded_encodeChar (c : Char) (hcs : Encoded cs) : Encoded (encodeChar c ++ cs) := by
  unfold encodeChar
  split
  next hc => exact .plain (isPlain_iff.1 hc) hcs
  next => exact encoded_octets _ hcs

theorem decodeList_encodeChar (c : Char) (cs : List Char) :
    decodeList (encodeChar c ++ cs) = (decodeList cs).map (Text.charOctets c ++ ·) := by
  unfold encodeChar
  split
  next hc =>
    have hne : c ≠ '%' := by
      rintro rfl
      cases isPlain_percent.symm.trans hc
    rw [List.singleton_append, decodeList.eq_def]
    simp only [if_neg hne]
    cases decodeList cs <;> rfl
  next => exact decodeList_octets _ cs

theorem encoded_flatMap (cs : List Char) : Encoded (cs.flatMap encodeChar) := by
  induction cs with
  | nil => exact .nil
  | cons c cs ih =>
    rw [List.flatMap_cons]
    exact encoded_encodeChar c ih

theorem decodeList_flatMap (cs : List Char) :
    decodeList (cs.flatMap encodeChar) = some (cs.flatMap Text.charOctets) := by
  induction cs with
  | nil => rfl
  | cons c cs ih =>
    rw [List.flatMap_cons, decodeList_encodeChar, ih, List.flatMap_cons]
    rfl

/-- Encoded texts hold letters, digits, a few signs and octets in hexadecimal digits only. -/
theorem encoded_encode (s : String) : Encoded (encode s).toList := by
  rw [encode, String.toList_ofList]
  exact encoded_flatMap s.toList

/-- **The octets of a text are read back** from its encoded form. -/
theorem decode_encode (s : String) : decode (encode s) = some (Text.octets s) := by
  rw [decode, encode, String.toList_ofList]
  exact decodeList_flatMap s.toList

/-- **No two texts are encoded alike.** -/
theorem encode_injective : Function.Injective encode := by
  intro s t h
  have hoctets : Text.octets s = Text.octets t := by
    have hdecode := congrArg decode h
    rw [decode_encode, decode_encode] at hdecode
    exact Option.some.inj hdecode
  have hread := congrArg Text.ofOctets hoctets
  rw [Text.ofOctets_octets, Text.ofOctets_octets] at hread
  exact Except.ok.inj hread

end Percent

end ReportMigration
