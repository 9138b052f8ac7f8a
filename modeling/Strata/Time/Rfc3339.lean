import Strata.Time.Instant
import Strata.Wire.Fault

/-!
# Points in time as text

Writing follows RFC 3339 in UTC: `2024-01-02T03:04:05Z`, with three, six or nine digits of a
fraction when there is one. Years beyond four digits carry a sign.

Reading is more lenient. Fields may lack leading zeros, blanks may stand before them and before the
separators, `T` may be a space, the offset may be `UTC` or have its colon left out, and any number
of digits may follow the point. Fields are checked as they are read, the day of the month and the
offset at the end.
-/

namespace Strata.Time

open Strata.Wire (TimeFault)

/-! ## Writing -/

/-- A number with leading zeros up to a width. -/
def padded (width n : Nat) : List Char :=
  let digits := Nat.toDigits 10 n
  List.replicate (width - digits.length) '0' ++ digits

/-- A year: four digits, or a sign and at least four. -/
def formatYear (year : Int) : List Char :=
  if 0 ≤ year ∧ year ≤ 9999 then padded 4 year.toNat
  else (if year < 0 then '-' else '+') :: padded 4 year.natAbs

/-- The fraction of a second, in as few groups of three digits as hold it. -/
def formatFraction (nano : Nat) : List Char :=
  if nano = 0 then []
  else if nano % 1000000 = 0 then '.' :: padded 3 (nano / 1000000)
  else if nano % 1000 = 0 then '.' :: padded 6 (nano / 1000)
  else '.' :: padded 9 nano

/-- The text of a point in time. -/
def format (instant : Instant) : String :=
  let (year, month, day) := Instant.calendarDay instant.day
  let leap := instant.nano / 1000000000
  String.ofList (formatYear year ++ '-' :: padded 2 month ++ '-' :: padded 2 day
    ++ 'T' :: padded 2 (instant.second / 3600) ++ ':' :: padded 2 (instant.second / 60 % 60)
    ++ ':' :: padded 2 (instant.second % 60 + leap)
    ++ formatFraction (instant.nano % 1000000000) ++ ['Z'])

/-! ## Reading

Each step takes the characters that are left and gives back those that are left after it. -/

/-- Whether a character is blank. -/
def isBlank (c : Char) : Bool :=
  let n := c.toNat
  (9 ≤ n && n ≤ 13) || n = 0x20 || n = 0x85 || n = 0xa0 || n = 0x1680
    || (0x2000 ≤ n && n ≤ 0x200a) || n = 0x2028 || n = 0x2029 || n = 0x202f || n = 0x205f
    || n = 0x3000

/-- Passes over blanks. -/
def skipBlanks (cs : List Char) : List Char := cs.dropWhile isBlank

/-- Whether a character is a decimal digit. -/
def isDigit (c : Char) : Bool := '0' ≤ c && c ≤ '9'

/-- The number that digits stand for. -/
def value (digits : List Char) : Nat := digits.foldl (fun n c => n * 10 + (c.toNat - 48)) 0

/-- A number of at least one digit and, where a limit is given, of no more digits than that. It has
to fit in 64 bits with a sign. -/
def number (limit : Option Nat) (cs : List Char) : Except TimeFault (Nat × List Char) :=
  let digits := match limit with
    | some most => (cs.take most).takeWhile isDigit
    | none => cs.takeWhile isDigit
  match cs, digits with
  | [], _ => .error .tooShort
  | _, [] => .error .invalid
  | _, _ =>
    if value digits < 0x8000000000000000 then .ok (value digits, cs.drop digits.length)
    else .error .outOfRange

/-- A number of at most two digits after blanks, between bounds. -/
def field (low high : Nat) (cs : List Char) : Except TimeFault (Nat × List Char) := do
  let (n, rest) ← number (some 2) (skipBlanks cs)
  if low ≤ n ∧ n ≤ high then return (n, rest) else .error .outOfRange

/-- A separator after blanks. -/
def separator (c : Char) (cs : List Char) : Except TimeFault (Unit × List Char) :=
  match skipBlanks cs with
  | [] => .error .tooShort
  | d :: rest => if d = c then .ok ((), rest) else .error .invalid

/-- A year: up to four digits, or a sign and any number of digits. -/
def year (cs : List Char) : Except TimeFault (Int × List Char) := do
  let (n, rest) ← match skipBlanks cs with
    | '-' :: rest => do
      let (n, rest) ← number none rest
      pure (-(n : Int), rest)
    | '+' :: rest => do
      let (n, rest) ← number none rest
      pure ((n : Int), rest)
    | cs => do
      let (n, rest) ← number (some 4) cs
      pure ((n : Int), rest)
  if -0x80000000 ≤ n ∧ n < 0x80000000 then return (n, rest) else .error .outOfRange

/-- What stands between the day and the hour. -/
def dayEnd : List Char → Except TimeFault (Unit × List Char)
  | [] => .error .tooShort
  | c :: rest => if c = 't' ∨ c = 'T' ∨ c = ' ' then .ok ((), rest) else .error .invalid

/-- Nanoseconds after a point, if there is one. Nine digits count. -/
def fraction : List Char → Except TimeFault (Nat × List Char)
  | '.' :: cs => do
    let (n, rest) ← number (some 9) cs
    return (n * Nat.pow 10 (9 - (cs.length - rest.length)), rest.dropWhile isDigit)
  | cs => .ok (0, cs)

/-- A number of exactly two digits, the first of them at most `high`; a greater one is out of
range. -/
def twoDigits (high : Char) : List Char → Except TimeFault (Nat × List Char)
  | c :: d :: rest =>
    if isDigit c ∧ isDigit d then
      if c ≤ high then .ok (value [c, d], rest) else .error .outOfRange
    else .error .invalid
  | [c] => .error (if c.val < 0x80 then .tooShort else .invalid)
  | [] => .error .tooShort

/-- An offset from UTC in seconds. -/
def offset (cs : List Char) : Except TimeFault (Int × List Char) := do
  let (negative, cs) ← match cs with
    | '+' :: rest => pure (false, rest)
    | '-' :: rest => pure (true, rest)
    | '\u2212' :: rest => pure (true, rest)
    | _ :: _ => .error .invalid
    | [] => .error .tooShort
  let (hours, cs) ← twoDigits '9' cs
  let (minutes, rest) ← twoDigits '5' (cs.dropWhile fun c => c = ':' || isBlank c)
  let seconds : Int := hours * 3600 + minutes * 60
  return (if negative then -seconds else seconds, rest)

/-- An offset from UTC, or a name of UTC. -/
def zone (cs : List Char) : Except TimeFault (Int × List Char) :=
  match cs with
  | u :: t :: c :: rest =>
    if u.toUpper = 'U' ∧ t.toUpper = 'T' ∧ c.toUpper = 'C' then .ok (0, rest)
    else if u = 'Z' ∨ u = 'z' then .ok (0, t :: c :: rest)
    else offset cs
  | z :: rest => if z = 'Z' ∨ z = 'z' then .ok (0, rest) else offset cs
  | [] => offset []

/-- Moves a point in time to UTC from an offset. -/
def toUtc (day : Int) (second nano : Nat) (offset : Int) : Except TimeFault Instant :=
  let utc := (second : Int) - offset
  let day := day + utc / 86400
  if Instant.inCalendar day then .ok ⟨day, (utc % 86400).toNat, nano⟩ else .error .impossible

/-- The point in time that a text stands for. -/
def parse (text : String) : Except TimeFault Instant := do
  let (year, cs) ← year text.toList
  let (_, cs) ← separator '-' cs
  let (month, cs) ← field 1 12 cs
  let (_, cs) ← separator '-' cs
  let (day, cs) ← field 1 31 cs
  let (_, cs) ← dayEnd cs
  let (hour, cs) ← field 0 23 cs
  let (_, cs) ← separator ':' cs
  let (minute, cs) ← field 0 59 cs
  let (_, cs) ← separator ':' cs
  let (second, cs) ← field 0 60 cs
  let (nano, cs) ← fraction cs
  let (offset, cs) ← zone (skipBlanks cs)
  if !(skipBlanks cs).isEmpty then .error .tooLong
  if year < Instant.minYear ∨ Instant.maxYear < year ∨ Instant.monthLength year month < day then
    .error .outOfRange
  if offset.natAbs ≥ 86400 then .error .outOfRange
  let leap := if second = 60 then 1 else 0
  toUtc (Instant.dayNumber year month day) (hour * 3600 + minute * 60 + (second - leap))
    (nano + leap * 1000000000) offset

end Strata.Time
