/-! ## RFC 3339 timestamps

Recognises a date and time in the form `YYYY-MM-DDTHH:MM:SS[.fraction](Z|±HH:MM)`:

* the year has four digits, the month is 01 to 12 and the day exists in that month (29 February
  only in leap years);
* the separator is `T`, `t` or a space;
* the hour is 00 to 23, the minute 00 to 59 and the second 00 to 60 (a leap second);
* a fraction is a point and at least one digit;
* the offset is `Z`, `z`, or a sign (`+`, `-`, or the minus sign U+2212), two digits of hours,
  a colon and two digits of minutes below 60, at most 23:59 in all;
* nothing follows.

It also writes a moment, given in nanoseconds since 1970-01-01T00:00:00Z, in that form at
offset `+00:00`, with as many fraction digits as needed of 0, 3, 6 or 9.
-/

namespace LineScript.Timestamp

/-- The value of two ASCII digits. -/
def twoDigits (a b : Char) : Option Nat :=
  if a.isDigit && b.isDigit then some ((a.toNat - 48) * 10 + (b.toNat - 48)) else none

/-- Whether `y` is a leap year of the Gregorian calendar. -/
def isLeap (y : Nat) : Bool := y % 4 = 0 && (y % 100 ≠ 0 || y % 400 = 0)

/-- The number of days of month `m` (1 to 12) in year `y`. -/
def daysIn (y m : Nat) : Nat :=
  if m = 2 then (if isLeap y then 29 else 28)
  else if m = 4 || m = 6 || m = 9 || m = 11 then 30
  else 31

/-- Whether the rest after the seconds is an optional fraction and a valid offset. -/
def offsetOk : List Char → Bool
  | ['Z'] | ['z'] => true
  | [s, h1, h2, ':', m1, m2] =>
    (s = '+' || s = '-' || s = '−') &&
      match twoDigits h1 h2, twoDigits m1 m2 with
      | some h, some m => h ≤ 23 && m ≤ 59
      | _, _ => false
  | _ => false

/-- Whether the rest after the seconds is `.digits` then an offset, or an offset. -/
def tailOk : List Char → Bool
  | '.' :: rest =>
    let digits := rest.takeWhile Char.isDigit
    !digits.isEmpty && offsetOk (rest.dropWhile Char.isDigit)
  | rest => offsetOk rest

/-- Whether a text is an RFC 3339 date and time. -/
def isRfc3339 (s : String) : Bool :=
  match s.toList with
  | y1 :: y2 :: y3 :: y4 :: '-' :: mo1 :: mo2 :: '-' :: d1 :: d2 :: sep ::
      h1 :: h2 :: ':' :: mi1 :: mi2 :: ':' :: s1 :: s2 :: rest =>
    match twoDigits y1 y2, twoDigits y3 y4, twoDigits mo1 mo2, twoDigits d1 d2,
        twoDigits h1 h2, twoDigits mi1 mi2, twoDigits s1 s2 with
    | some ya, some yb, some mo, some d, some h, some mi, some sec =>
      let y := ya * 100 + yb
      (sep = 'T' || sep = 't' || sep = ' ') && 1 ≤ mo && mo ≤ 12 && 1 ≤ d &&
        d ≤ daysIn y mo && h ≤ 23 && mi ≤ 59 && sec ≤ 60 && tailOk rest
    | _, _, _, _, _, _, _ => false
  | _ => false

/-- The civil date (year, month, day) of a count of days since 1970-01-01: days are counted
from 0000-03-01 in eras of 400 years (146097 days), and years from March, so that the leap
day ends a year. -/
def civilOfDays (days : Int) : Int × Nat × Nat :=
  let z := days + 719468
  let era := z / 146097
  let doe := (z - era * 146097).toNat
  let yoe := (doe - doe / 1460 + doe / 36524 - doe / 146096) / 365
  let doy := doe - (365 * yoe + yoe / 4 - yoe / 100)
  let mp := (5 * doy + 2) / 153
  let d := doy - (153 * mp + 2) / 5 + 1
  let m := if mp < 10 then mp + 3 else mp - 9
  let y := (yoe : Int) + era * 400
  (if m ≤ 2 then y + 1 else y, m, d)

/-- `n` in decimal with at least `width` digits. -/
def padded (width n : Nat) : String :=
  let ds := Nat.toDigits 10 n
  String.ofList (List.replicate (width - ds.length) '0' ++ ds)

/-- The fraction of a second, in nanoseconds, as a point and 3, 6 or 9 digits, or nothing for
a whole second. -/
def fraction (nanos : Nat) : String :=
  if nanos = 0 then ""
  else if nanos % 1000000 = 0 then "." ++ padded 3 (nanos / 1000000)
  else if nanos % 1000 = 0 then "." ++ padded 6 (nanos / 1000)
  else "." ++ padded 9 nanos

/-- The moment `ns` nanoseconds after 1970-01-01T00:00:00Z, written at offset `+00:00`. -/
def ofUnixNanos (ns : Int) : String :=
  let secs := ns / 1000000000
  let nanos := (ns % 1000000000).toNat
  let days := secs / 86400
  let inDay := (secs % 86400).toNat
  let (y, m, d) := civilOfDays days
  let year := if 0 ≤ y && y ≤ 9999 then padded 4 y.toNat
    else (if y < 0 then "-" else "+") ++ padded 4 y.natAbs
  year ++ "-" ++ padded 2 m ++ "-" ++ padded 2 d ++ "T" ++ padded 2 (inDay / 3600) ++ ":" ++
    padded 2 (inDay / 60 % 60) ++ ":" ++ padded 2 (inDay % 60) ++ fraction nanos ++ "+00:00"

end LineScript.Timestamp
