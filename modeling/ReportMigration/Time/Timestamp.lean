/-!
Points in time without a zone, to the microsecond, on the Gregorian calendar.

* `Timestamp.ofCivil?` gives the point of a calendar date and a time of day, if there is one;
* `Timestamp.date` and `Timestamp.clock` give them back;
* `Timestamp.iso` writes a point, with a fraction only if it is not zero;
* `Timestamp.epoch` is the instant at which the clock of a run stands at its start.
-/
namespace ReportMigration

/-- A point in time: microseconds since the start of the first of January of the year 1. -/
structure Timestamp where
  micros : Int
  deriving DecidableEq

namespace Timestamp

instance : LE Timestamp := ⟨fun a b => a.micros ≤ b.micros⟩

instance (a b : Timestamp) : Decidable (a ≤ b) := inferInstanceAs (Decidable (a.micros ≤ b.micros))

def isLeap (y : Nat) : Bool := y % 4 == 0 && (y % 100 != 0 || y % 400 == 0)

def daysInMonth (y m : Nat) : Nat :=
  match m with
  | 2 => if isLeap y then 29 else 28
  | 4 | 6 | 9 | 11 => 30
  | _ => 31

/-- The days between the start of the year 1 and that of the year `y`. -/
def daysBeforeYear (y : Nat) : Nat :=
  let p := y - 1
  365 * p + p / 4 - p / 100 + p / 400

/-- The days of the year `y` before its month `m`. -/
def daysBeforeMonth (y m : Nat) : Nat :=
  ((List.range (m - 1)).map fun i => daysInMonth y (i + 1)).foldr (· + ·) 0

/-- The days between the start of the year 1 and a date. -/
def dayNumber (y m d : Nat) : Nat := daysBeforeYear y + daysBeforeMonth y m + (d - 1)

/-- The month and the day of the month of day `d` of the year `y`, both counted from the month `m`
    on, `fuel` months at most. -/
def monthDay (y m d : Nat) : Nat → Nat × Nat
  | 0 => (m, d + 1)
  | fuel + 1 =>
    if d < daysInMonth y m then (m, d + 1) else monthDay y (m + 1) (d - daysInMonth y m) fuel

/-- Year, month and day of a day number. -/
def dateOfDay (n : Nat) : Nat × Nat × Nat :=
  let n400 := n / 146097
  let n := n % 146097
  let n100 := min (n / 36524) 3
  let n := n - n100 * 36524
  let n4 := n / 1461
  let n := n % 1461
  let n1 := min (n / 365) 3
  let y := 400 * n400 + 100 * n100 + 4 * n4 + n1 + 1
  let (m, d) := monthDay y 1 (n - n1 * 365) 11
  (y, m, d)

/-- The point of a date and a time of day, if they exist. -/
def ofCivil? (y m d h mi s us : Nat) : Option Timestamp :=
  if 1 ≤ y && y ≤ 9999 && 1 ≤ m && m ≤ 12 && 1 ≤ d && d ≤ daysInMonth y m && h < 24 && mi < 60 &&
      s < 60 && us < 1000000 then
    some ⟨(((dayNumber y m d * 24 + h) * 60 + mi) * 60 + s) * 1000000 + us⟩
  else none

/-- Year, month and day. -/
def date (t : Timestamp) : Nat × Nat × Nat := dateOfDay (t.micros / 86400000000).toNat

/-- Hour, minute, second and microsecond. -/
def clock (t : Timestamp) : Nat × Nat × Nat × Nat :=
  let us := (t.micros % 86400000000).toNat
  (us / 3600000000, us / 60000000 % 60, us / 1000000 % 60, us % 1000000)

/-- The point `n` seconds later. -/
def addSeconds (t : Timestamp) (n : Int) : Timestamp := ⟨t.micros + n * 1000000⟩

/-- `n` in at least `width` digits. -/
def padded (width n : Nat) : String :=
  let ds := Nat.toDigits 10 n
  .ofList (List.replicate (width - ds.length) '0' ++ ds)

/-- Date and time of day to the second, joined by a letter. -/
def isoSeconds (t : Timestamp) : String :=
  let (y, m, d) := t.date
  let (h, mi, s, _) := t.clock
  padded 4 y ++ "-" ++ padded 2 m ++ "-" ++ padded 2 d ++ "T" ++ padded 2 h ++ ":" ++
    padded 2 mi ++ ":" ++ padded 2 s

/-- Date and time of day; the fraction, in six digits, only if it is not zero. -/
def iso (t : Timestamp) : String :=
  let us := t.clock.2.2.2
  t.isoSeconds ++ (if us = 0 then "" else "." ++ padded 6 us)

/-- Midnight at the start of the year 2025, where the clock of a run stands at its start. -/
def epoch : Timestamp := ⟨63871286400000000⟩

/-- The last point that a date can name. -/
def latest : Timestamp := ⟨315537897599999999⟩

/-- Whether a date can name the point. -/
def isOnCalendar (t : Timestamp) : Bool := 0 ≤ t.micros && t.micros ≤ latest.micros

end Timestamp

end ReportMigration
