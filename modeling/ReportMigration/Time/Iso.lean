import ReportMigration.Time.Timestamp
/-!
Reading of a date with or without a time of day.

The date is written by year, month and day or by year, week and day of the week, with hyphens or
without; one character of any kind separates it from the time of day, which is written with colons
or without and may end in a fraction and an offset from universal time. The offset is checked and
then dropped.

The reader works on the octets of the text; a place past its end counts as the octet zero.
-/
namespace ReportMigration.Time

/-- The octet at the head, zero past the end. -/
def octet (s : List UInt8) : UInt8 := s.headD 0

def isDigitOctet (b : UInt8) : Bool := 48 ≤ b && b ≤ 57

/-- The number that the first `n` octets write, which have to be digits, and the rest. -/
def digits? (n : Nat) (s : List UInt8) : Option (Nat × List UInt8) :=
  let ds := s.take n
  if ds.length = n && ds.all isDigitOctet then
    some (ds.foldl (fun acc b => acc * 10 + (b.toNat - 48)) 0, s.drop n)
  else none

/-- How many octets the date takes at the start of a text of at least seven. -/
def dateLength (s : List UInt8) : Option Nat :=
  let at_ (i : Nat) : UInt8 := octet (s.drop i)
  if s.length = 7 then some 7
  else if at_ 4 = 45 then
    if at_ 5 = 87 then
      if 8 < s.length && at_ 8 = 45 then
        if s.length = 9 then none
        else if 10 < s.length && isDigitOctet (at_ 10) then some 8
        else some 10
      else some 8
    else some 10
  else if at_ 4 = 87 then
    let pos := 7 + ((s.drop 7).takeWhile isDigitOctet).length
    if pos < 9 then some pos else if pos % 2 = 0 then some 7 else some 8
  else some 8

/-- The day of the week, from Monday as zero, of a day number. -/
def weekday (n : Nat) : Nat := n % 7

/-- The day number of the Monday of the first week of the year `y`, after `shift` further days (the
    shift keeps the number from falling below zero). -/
def firstMonday (y shift : Nat) : Nat :=
  let first := Timestamp.dayNumber y 1 1
  let w := weekday first
  let monday := first + shift - w
  if 3 < w then monday + 7 else monday

/-- Whether the year `y` has a week 53. -/
def hasWeek53 (y : Nat) : Bool :=
  let w := weekday (Timestamp.dayNumber y 1 1)
  w = 3 || (w = 2 && Timestamp.isLeap y)

/-- Year, month and day of a day of a week of a year. -/
def weekDate? (y week day : Nat) : Option (Nat × Nat × Nat) :=
  if 1 ≤ y && y ≤ 9999 && 1 ≤ week && (week < 53 || (week = 53 && hasWeek53 y)) && 1 ≤ day &&
      day ≤ 7 then
    let n := firstMonday y 7 + (week - 1) * 7 + (day - 1)
    if n < 7 then none else some (Timestamp.dateOfDay (n - 7))
  else none

/-- Reads a date that takes `len` octets. -/
def date? (len : Nat) (s : List UInt8) : Option (Nat × Nat × Nat) := do
  let (y, r) ← digits? 4 s
  let hyphens := octet r = 45
  let r := if hyphens then r.drop 1 else r
  if octet r = 87 then
    let (week, r) ← digits? 2 (r.drop 1)
    if s.length - r.length < len then
      if hyphens && octet r ≠ 45 then none
      let (day, _) ← digits? 1 (if hyphens then r.drop 1 else r)
      weekDate? y week day
    else weekDate? y week 1
  else
    let (m, r) ← digits? 2 r
    if hyphens && octet r ≠ 45 then none
    let (d, r) ← digits? 2 (if hyphens then r.drop 1 else r)
    if s.length - r.length = len then some (y, m, d) else none

/-- A time of day as written. -/
structure Clock where
  hour : Nat := 0
  minute : Nat := 0
  second : Nat := 0
  micro : Nat := 0

/-- Reads a fraction of a second from the first `len` octets; also whether octets follow it. -/
def fraction? (c : Clock) (len : Nat) (s : List UInt8) : Option (Clock × Bool) := do
  let n := min len 6
  let (us, r) ← digits? n s
  let rest := r.dropWhile isDigitOctet
  some (⟨c.hour, c.minute, c.second, us * Nat.pow 10 (6 - n)⟩, octet rest ≠ 0)

/-- Reads a time of day from the first `len` octets of `s`, and whether octets follow it. -/
def clock? (len : Nat) (s : List UInt8) : Option (Clock × Bool) := do
  let (h, r) ← digits? 2 s
  let used := s.length - r.length
  let colons := octet r = 58
  if len ≤ used + 1 then return (⟨h, 0, 0, 0⟩, octet r ≠ 0)
  if octet r = 46 || octet r = 44 then
    return ← fraction? ⟨h, 0, 0, 0⟩ (len - used - 1) (r.drop 1)
  let r := if colons then r.drop 1 else r
  let (mi, r) ← digits? 2 r
  let used := s.length - r.length
  if len ≤ used + 1 then return (⟨h, mi, 0, 0⟩, octet r ≠ 0)
  if octet r = 46 || octet r = 44 then
    return ← fraction? ⟨h, mi, 0, 0⟩ (len - used - 1) (r.drop 1)
  if colons && octet r ≠ 58 then none
  let r := if colons then r.drop 1 else r
  let (sec, r) ← digits? 2 r
  let used := s.length - r.length
  if len ≤ used + 1 then return (⟨h, mi, sec, 0⟩, octet r ≠ 0)
  if octet r = 46 || octet r = 44 || (colons && octet r = 58) then
    return ← fraction? ⟨h, mi, sec, 0⟩ (len - used - 1) (r.drop 1)
  if colons then none
  fraction? ⟨h, mi, sec, 0⟩ (len - used) r

/-- Whether an octet starts an offset. -/
def startsOffset (b : UInt8) : Bool := b = 43 || b = 45 || b = 90

/-- Reads a time of day with an optional offset, which has to lie within a day. -/
def timeOfDay? (s : List UInt8) : Option Clock := do
  let len := (s.takeWhile fun b => !startsOffset b).length
  let (c, more) ← clock? len s
  match s.drop len with
  | [] => if more then none else some c
  | 90 :: rest => if rest.isEmpty then some c else none
  | _ :: rest =>
    let (o, more) ← clock? rest.length rest
    let seconds := (o.hour * 60 + o.minute) * 60 + o.second
    if more || 86400 ≤ seconds then none else some c

/-- How many octets a character takes whose first octet is `b`. -/
def charLength (b : UInt8) : Nat :=
  if b &&& 0x80 = 0 then 1
  else if b &&& 0xF0 = 0xE0 then 3
  else if b &&& 0xF0 = 0xF0 then 4
  else 2

/-- Reads a date with or without a time of day. -/
def read? (text : String) : Option Timestamp := do
  let s := text.toUTF8.toList
  if s.length < 7 then none
  let len ← dateLength s
  let (y, m, d) ← date? len s
  let rest := s.drop len
  let c ← if rest.isEmpty then some {} else timeOfDay? (rest.drop (charLength (octet rest)))
  Timestamp.ofCivil? y m d c.hour c.minute c.second c.micro

end ReportMigration.Time
