/-!
Numbers in double precision.

A number is kept by its bits, so that two numbers are equal exactly when nothing can tell them apart.

* `Double.ofDecimal` is the number nearest to a decimal fraction;
* `Double.digits` gives the fewest decimal digits that are nearer to the number than to any other;
* `Double.text` writes a number with these digits, positionally if its point lies within the first
  sixteen digits or at most three zeros before them, and with an exponent otherwise.
-/
namespace ReportMigration

/-- A number in double precision, by its bits. -/
structure Double where
  bits : UInt64
  deriving DecidableEq

namespace Double

/-- The machine's number with these bits. -/
def toFloat (x : Double) : Float := Float.ofBits x.bits

/-- The number of a machine value. -/
def ofFloat (x : Float) : Double := ⟨x.toBits⟩

/-- Whether the sign bit is set. -/
def isNegative (x : Double) : Bool := x.bits >>> 63 == 1

/-- The bits of the exponent. -/
def exponentBits (x : Double) : Nat := ((x.bits >>> 52) &&& 0x7FF).toNat

/-- The bits of the fraction. -/
def fractionBits (x : Double) : Nat := (x.bits &&& 0xFFFFFFFFFFFFF).toNat

def isNaN (x : Double) : Bool := x.exponentBits == 0x7FF && x.fractionBits != 0

def isInfinite (x : Double) : Bool := x.exponentBits == 0x7FF && x.fractionBits == 0

def isZero (x : Double) : Bool := x.exponentBits == 0 && x.fractionBits == 0

/-- The whole number `m` of which a finite number is `m * 2 ^ (p - 1075)`, up to sign. -/
def significand (x : Double) : Nat :=
  if x.exponentBits == 0 then x.fractionBits else x.fractionBits + (1 <<< 52)

/-- The exponent `p` for `significand`. -/
def scale (x : Double) : Nat := max x.exponentBits 1

/-- The number beyond all finite ones. -/
def infinity : Double := ⟨0x7FF0000000000000⟩

/-- The number with the sign bit set or not and the other bits those of `n`. -/
def signed (negative : Bool) (n : Nat) : Double :=
  ⟨.ofNat (if negative then n + (1 <<< 63) else n)⟩

/-- What is not a number. -/
def nan : Double := ⟨0x7FF8000000000000⟩

/-- The whole number nearest to `num / den`; of two that are equally near, the even one. -/
def roundedQuotient (num den : Nat) : Nat :=
  let q := num / den
  let r := num % den
  if den < 2 * r || (2 * r == den && q % 2 == 1) then q + 1 else q

/-- The bits of the number nearest to `n / den` in units of the least number above zero.

    A number keeps 53 binary digits of the fraction. The first of them is not written: where it is
    there, or a further one by rounding up, it counts one in the exponent. -/
def nearestBits (n den : Nat) : Nat :=
  let shift := Nat.log2 (n / den) - 52
  min ((shift <<< 52) + roundedQuotient n (den <<< shift)) infinity.bits.toNat

/-- The number nearest to `m / 10 ^ e`. -/
def ofDecimal (negative : Bool) (m : Nat) (e : Int) : Double :=
  signed negative <|
    if m == 0 then 0
    else if e < 0 then
      if e < -400 then infinity.bits.toNat
      else nearestBits ((m * Nat.pow 10 (-e).toNat) <<< 1074) 1
    else if e > 400 + (Nat.log2 m : Int) then 0
    else nearestBits (m <<< 1074) (Nat.pow 10 e.toNat)

/-- The number nearest to a whole number. -/
def ofInt (n : Int) : Double := ofDecimal (n < 0) n.natAbs 0

/-- The sum, rounded to the nearest number. -/
def add (x y : Double) : Double := ofFloat (x.toFloat + y.toFloat)

instance : Add Double := ⟨add⟩

/-- The least `j` with `den ≤ num * 10 ^ j`, looked for up to `fuel`. -/
def leadingZeros (num den : Nat) : Nat → Nat
  | 0 => 0
  | fuel + 1 => if den ≤ num then 0 else leadingZeros (num * 10) den fuel + 1

/-- The number of decimal digits of the whole part of `num / den`, or, if that is zero, minus the
    number of zeros that follow the point. -/
def pointPosition (num den : Nat) : Int :=
  if den ≤ num then ((Nat.toDigits 10 (num / den)).length : Int)
  else 1 - (leadingZeros num den 400 : Int)

/-- The `count` digits nearest to `num / den`, if they lie between `lo / den` and `hi / den` (the
    ends count if `closed`); `point` is the position of the point in `num / den`. -/
def digitsWithin (lo num hi den : Nat) (closed : Bool) (point : Int) (count : Nat) : Option Nat :=
  let k : Int := point - count
  let up := if k < 0 then Nat.pow 10 (-k).toNat else 1
  let unit := if k < 0 then den else den * Nat.pow 10 k.toNat
  let lo := lo * up
  let num := num * up
  let hi := hi * up
  let inside (d : Nat) : Bool :=
    let x := d * unit
    if closed then lo ≤ x && x ≤ hi else lo < x && x < hi
  let d := num / unit
  match inside d, inside (d + 1) with
  | true, true => if 2 * (num - d * unit) ≤ unit then some d else some (d + 1)
  | true, false => some d
  | false, true => some (d + 1)
  | false, false => none

/-- The fewest digits, as a whole number, that single out a finite number other than zero, and the
    position of the point before, in or after them. -/
def digits (x : Double) : Nat × Int :=
  let m := x.significand
  let p := x.scale
  let factor := 1 <<< (p - 1077)
  let den := 1 <<< (1077 - p)
  let num := 4 * m * factor
  let hi := (4 * m + 2) * factor
  let lo := (if m == 1 <<< 52 && p > 1 then 4 * m - 1 else 4 * m - 2) * factor
  let point := pointPosition num den
  match (List.range 17).findSome? fun n =>
      (digitsWithin lo num hi den (m % 2 == 0) point (n + 1)).map fun d => (d, n + 1) with
  | some (d, n) =>
    -- rounding up may have carried into a further digit
    let len := (Nat.toDigits 10 d).length
    (d, point + ((len : Int) - n))
  | none => (m, 0)

/-- `ds` without zeros at the end, but for the first digit. -/
def dropFinalZeros (ds : List Char) : List Char :=
  match (ds.reverse.dropWhile (· == '0')).reverse with
  | [] => ['0']
  | ds => ds

/-- The digits of an exponent, of which there are at least two. -/
def exponentDigits (e : Int) : List Char :=
  let es := Nat.toDigits 10 e.natAbs
  if es.length < 2 then '0' :: es else es

/-- An exponent with its letter and sign. -/
def exponentText (e : Int) : List Char := 'e' :: (if e < 0 then '-' else '+') :: exponentDigits e

/-- The text of digits with a point. -/
def pointText (ds : List Char) (point : Int) : List Char :=
  if point ≤ -4 || 16 < point then
    (match ds with
      | [] => ['0']
      | [c] => [c]
      | c :: cs => c :: '.' :: cs) ++ exponentText (point - 1)
  else if point ≤ 0 then '0' :: '.' :: (List.replicate (-point).toNat '0' ++ ds)
  else if ds.length ≤ point.toNat then
    ds ++ List.replicate (point.toNat - ds.length) '0' ++ ['.', '0']
  else ds.take point.toNat ++ '.' :: ds.drop point.toNat

/-- A finite number other than zero, without its sign. -/
def magnitudeText (x : Double) : String :=
  .ofList (pointText (dropFinalZeros (Nat.toDigits 10 x.digits.1)) x.digits.2)

/-- The text of a finite number; the others have the given names. -/
def textWith (nan infinity : String) (x : Double) : String :=
  if x.isNaN then nan
  else
    (if x.isNegative then "-" else "") ++
      (if x.isInfinite then infinity else if x.isZero then "0.0" else x.magnitudeText)

/-- The text of a number. -/
def text (x : Double) : String := x.textWith "nan" "inf"

end Double

end ReportMigration
