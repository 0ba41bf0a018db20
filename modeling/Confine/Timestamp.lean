import Confine.Text.Blank

/-!
# Timestamps

A timestamp is an instant of civil time: whole seconds since 1970-01-01T00:00:00Z and
the nanoseconds past them. A leap second `:60` is kept as the second before it with
one second more of nanoseconds, so it comes after that second and before the next
minute, whose nanoseconds start again from zero.

It is read from RFC 3339 text, leniently: blanks may stand before every number and
before each `-` and `:`, the date and the time are joined by `T`, `t` or one space,
and the offset is `Z`, `UTC` in any case, or a sign (`+`, `-` or the minus sign
`U+2212`) with hours and minutes that colons or blanks may separate. Blanks may
follow. A year has up to four digits, or a sign and any number of them; the other
fields have one or two digits, a fraction up to nine significant ones. The date must
exist between the years -262143 and 262142, and so must the instant in UTC; the
offset is less than a day.
-/

namespace Confine

/-- An instant: whole seconds since 1970-01-01T00:00:00Z, and nanoseconds past them,
below two seconds so that a leap second has room. Instants compare by seconds, then
by nanoseconds. -/
structure Timestamp where
  seconds : Int
  nanos : Nat
  deriving DecidableEq, Repr, Inhabited

namespace Timestamp

/-- The instant a number of nanoseconds after 1970-01-01T00:00:00Z. -/
def ofNanos (n : Int) : Timestamp := ⟨n / 1000000000, (n % 1000000000).toNat⟩

/-- Whether `a` comes before `b`. -/
def lt (a b : Timestamp) : Bool := a.seconds < b.seconds || (a.seconds == b.seconds && a.nanos < b.nanos)

instance : LT Timestamp := ⟨fun a b => lt a b = true⟩
instance (a b : Timestamp) : Decidable (a < b) := inferInstanceAs (Decidable (lt a b = true))

/-- Whether a year of the proleptic Gregorian calendar is a leap year. -/
def isLeap (y : Int) : Bool := (y % 4 == 0 && y % 100 != 0) || y % 400 == 0

/-- The number of days in a month of a year. -/
def daysInMonth (y : Int) (m : Nat) : Nat :=
  match m with
  | 1 | 3 | 5 | 7 | 8 | 10 | 12 => 31
  | 4 | 6 | 9 | 11 => 30
  | 2 => if isLeap y then 29 else 28
  | _ => 0

/-- Days from 1970-01-01 to a civil date. -/
def daysFromCivil (y : Int) (m d : Nat) : Int :=
  let y' : Int := if m ≤ 2 then y - 1 else y
  let era : Int := y' / 400
  let yoe : Int := y' - era * 400
  let mp : Int := if m > 2 then (m : Int) - 3 else (m : Int) + 9
  let doy : Int := (153 * mp + 2) / 5 + (d : Int) - 1
  let doe : Int := yoe * 365 + yoe / 4 - yoe / 100 + doy
  era * 146097 + doe - 719468

/-- The civil date of a day counted from 1970-01-01: year, month and day. -/
def civilFromDays (z : Int) : Int × Nat × Nat :=
  let z := z + 719468
  let era := z / 146097
  let doe := z - era * 146097
  let yoe := (doe - doe / 1460 + doe / 36524 - doe / 146096) / 365
  let doy := doe - (365 * yoe + yoe / 4 - yoe / 100)
  let mp := (5 * doy + 2) / 153
  let d := doy - (153 * mp + 2) / 5 + 1
  let m := if mp < 10 then mp + 3 else mp - 9
  (yoe + era * 400 + (if m ≤ 2 then 1 else 0), m.toNat, d.toNat)

/-- The first year of the calendar that dates are read in. -/
def firstYear : Int := -262143

/-- The last year of the calendar that dates are read in. -/
def lastYear : Int := 262142

/-- Reads between `lo` and `hi` ASCII digits; their value, below `2 ^ 63`, and the
rest. -/
def digits (lo hi : Nat) (cs : List Char) : Option (Nat × List Char) :=
  let ds := (cs.takeWhile Char.isDigit).take hi
  let v := ds.foldl (fun acc c => acc * 10 + (c.toNat - 48)) 0
  if ds.length < lo || v ≥ Nat.pow 2 63 then none
  else some (v, cs.drop ds.length)

/-- Reads a number after blanks: between one and `width` digits, or with `signed` also
a sign followed by any number of digits. -/
def field (width : Nat) (signed : Bool) (cs : List Char) : Option (Int × List Char) :=
  match cs.dropWhile Text.isBlank with
  | '-' :: rest => if signed then (digits 1 rest.length rest).map fun (n, r) => (-(n : Int), r) else none
  | '+' :: rest => if signed then (digits 1 rest.length rest).map fun (n, r) => ((n : Int), r) else none
  | cs => (digits 1 width cs).map fun (n, r) => ((n : Int), r)

/-- Expects one character after blanks. -/
def literal (c : Char) (cs : List Char) : Option (List Char) :=
  match cs.dropWhile Text.isBlank with
  | x :: rest => if x = c then some rest else none
  | [] => none

/-- Reads an optional fraction of a second as nanoseconds: a point, one to nine digits
that count, and any more that do not. -/
def fraction : List Char → Option (Nat × List Char)
  | '.' :: rest => do
    let (v, r) ← digits 1 9 rest
    let used := rest.length - r.length
    some (v * Nat.pow 10 (9 - used), r.dropWhile Char.isDigit)
  | cs => some (0, cs)

/-- Reads an offset from UTC in seconds east: `Z`, or a sign and two-digit hours, then
colons or blanks, then two-digit minutes below 60. -/
def offset : List Char → Option (Int × List Char)
  | 'Z' :: rest => some (0, rest)
  | 'z' :: rest => some (0, rest)
  | c :: rest => do
    let negative ← if c = '+' then some false else if c = '-' ∨ c = '\u2212' then some true else none
    let (h, r) ← match rest with
      | a :: b :: r => if a.isDigit ∧ b.isDigit then some ((a.toNat - 48) * 10 + (b.toNat - 48), r) else none
      | _ => none
    let r := r.dropWhile fun x => x = ':' || Text.isBlank x
    let (m, r) ← match r with
      | a :: b :: r =>
        if '0' ≤ a ∧ a ≤ '5' ∧ b.isDigit then some ((a.toNat - 48) * 10 + (b.toNat - 48), r) else none
      | _ => none
    let secs : Int := (h * 3600 + m * 60 : Nat)
    some (if negative then -secs else secs, r)
  | [] => none

/-- Reads a timestamp; `none` for text that is not one. -/
def parse? (s : String) : Option Timestamp := do
  let r := s.toList
  let (y, r) ← field 4 true r
  let r ← literal '-' r
  let (mo, r) ← field 2 false r
  let r ← literal '-' r
  let (d, r) ← field 2 false r
  let r ← match r with
    | c :: rest => if c = 'T' ∨ c = 't' ∨ c = ' ' then some rest else none
    | [] => none
  let (h, r) ← field 2 false r
  let r ← literal ':' r
  let (mi, r) ← field 2 false r
  let r ← literal ':' r
  let (sec, r) ← field 2 false r
  let (ns, r) ← fraction r
  let r := r.dropWhile Text.isBlank
  let (off, r) ← if (r.take 3).map Char.toUpper = ['U', 'T', 'C'] then some (0, r.drop 3) else offset r
  if !(r.all Text.isBlank) then none
  let (mo, d, h, mi, sec) := (mo.toNat, d.toNat, h.toNat, mi.toNat, sec.toNat)
  if y < firstYear ∨ y > lastYear ∨ mo < 1 ∨ mo > 12 ∨ d < 1 ∨ d > daysInMonth y mo ∨
    h > 23 ∨ mi > 59 ∨ sec > 60 ∨ off.natAbs ≥ 86400 then none
  let (sec, ns) := if sec = 60 then (59, ns + 1000000000) else (sec, ns)
  let utc := daysFromCivil y mo d * 86400 + (h * 3600 + mi * 60 + sec : Nat) - off
  if utc < daysFromCivil firstYear 1 1 * 86400 ∨ utc ≥ (daysFromCivil lastYear 12 31 + 1) * 86400 then none
  pure ⟨utc, ns⟩

end Timestamp

end Confine
