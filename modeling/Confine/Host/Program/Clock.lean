import Confine.Host.Program.Basic
import Confine.Host.Program.About
import Confine.Timestamp
/-!
# Dates

`date` writes an instant in a format: by default the current one, or one that `-d`
describes, or the time of a file with `-r`. The host's clock runs in UTC.

An instant is shown through its civil time: the year, month and day of the proleptic
Gregorian calendar, the time of day, the day of the week and of the year. A format is
text with `%` directives in the manner of `strftime`: a directive may carry flags
(`-` for no padding, `_` for blanks, `0` for zeros, `^` for capitals, `#` for the other
case), a width, and colons before `z`.

A date text is read item by item: `@` and a number of seconds; a calendar date
(`2024-02-29`, `2/29/2024`, `Feb 29 2024`, `29 Feb 2024`); a time of day
(`13:05[:09[.5]]`, with `am` or `pm`, and an offset such as `+0100` after it); a
time zone (`UTC`, `GMT`, `Z`); a day of the week; relative items (`3 days`,
`-2 weeks`, `1 year ago`, `next month`, `yesterday`, `tomorrow`); `now` and `today`;
and a bare number, which is a year after a date, a date of eight digits, or hours and
minutes. A date without a time of day means its midnight.
-/

namespace Confine.Host.Program

open Confine.Shell

/-- An instant in civil time, in UTC. -/
structure CivilTime where
  year : Int
  month : Nat
  day : Nat
  hour : Nat
  minute : Nat
  second : Nat
  nanos : Nat
  /-- The day of the week, Sunday being 0. -/
  weekday : Nat
  /-- The day of the year, the first being 0. -/
  yearDay : Nat
  /-- Seconds since 1970-01-01 00:00:00 UTC. -/
  epoch : Int

/-- The civil time of an instant. -/
def CivilTime.ofSeconds (secs : Int) (nanos : Nat) : CivilTime :=
  let days := secs / 86400
  let rest := (secs % 86400).toNat
  let (y, m, d) := Timestamp.civilFromDays days
  { year := y, month := m, day := d, hour := rest / 3600, minute := rest / 60 % 60,
    second := rest % 60, nanos, weekday := ((days + 4) % 7).toNat,
    yearDay := (days - Timestamp.daysFromCivil y 1 1).toNat, epoch := secs }

/-- The names of the days of the week, from Sunday. -/
def weekdayNames : List String :=
  ["Sunday", "Monday", "Tuesday", "Wednesday", "Thursday", "Friday", "Saturday"]

/-- The names of the months. -/
def monthNames : List String :=
  ["January", "February", "March", "April", "May", "June", "July", "August", "September",
   "October", "November", "December"]

/-- The number of ISO weeks of a year: 53 when it starts on a Thursday, or on a
Wednesday in a leap year. -/
def isoWeeksIn (y : Int) : Nat :=
  let p (x : Int) : Int := (x + x / 4 - x / 100 + x / 400) % 7
  if p y == 4 || p (y - 1) == 3 then 53 else 52

/-- The ISO year and week of a civil time. -/
def CivilTime.isoWeek (t : CivilTime) : Int × Nat :=
  let wd : Int := if t.weekday = 0 then 7 else t.weekday
  let w : Int := ((t.yearDay : Int) + 1 + 10 - wd) / 7
  if w < 1 then (t.year - 1, isoWeeksIn (t.year - 1))
  else if w > isoWeeksIn t.year then (t.year + 1, 1)
  else (t.year, w.toNat)

/-! ### Formats -/

/-- How a directive asks for padding: by default, none, blanks or zeros. -/
inductive Padding where
  | usual
  | none
  | blanks
  | zeros
  deriving BEq

/-- A directive's flags and width. -/
structure Directive where
  padding : Padding := .usual
  upper : Bool := false
  swapCase : Bool := false
  width : Option Nat := none
  colons : Nat := 0

/-- A number padded as a directive asks: to its usual width with its usual padding
character unless the flags or the width say otherwise. -/
def Directive.number (d : Directive) (usualWidth : Nat) (usualPad : Char) (v : Int) : String :=
  let digits := (Nat.toDigits 10 v.natAbs)
  let sign := if v < 0 then "-" else ""
  let width := d.width.getD usualWidth
  let padChar := match d.padding with
    | .usual => usualPad
    | .blanks => ' '
    | _ => '0'
  if d.padding == .none then sign ++ String.ofList digits
  else
    let fill := width - (digits.length + sign.length)
    if padChar = '0' then sign ++ String.ofList (List.replicate fill '0' ++ digits)
    else String.ofList (List.replicate fill ' ') ++ sign ++ String.ofList digits

/-- A word padded with blanks to the width, in capitals when asked. -/
def Directive.word (d : Directive) (w : String) (swapDown : Bool) : String :=
  let w := if d.upper then w.toUpper else if d.swapCase then (if swapDown then w.toLower else w.toUpper) else w
  let fill := d.width.getD 0 - w.length
  let padChar := if d.padding == .zeros then '0' else ' '
  String.ofList (List.replicate fill padChar) ++ w

/-- The offset from UTC, zero here, in the form the colons ask for. -/
def offsetText (colons : Nat) : String :=
  match colons with
  | 1 => "+00:00"
  | 2 => "+00:00:00"
  | 3 => "+00"
  | _ => "+0000"

mutual

/-- The text of one directive's conversion. -/
def conversion (fuel : Nat) (t : CivilTime) (d : Directive) (c : Char) : Option String :=
  match fuel with
  | 0 => none
  | fuel + 1 =>
  let hour12 := if t.hour % 12 = 0 then 12 else t.hour % 12
  let composite (f : String) : String :=
    let s := formatTime fuel t f.toList
    if d.upper then s.toUpper else s
  match c with
  | 'a' => some (d.word ((weekdayNames.getD t.weekday "").take 3).toString false)
  | 'A' => some (d.word (weekdayNames.getD t.weekday "") false)
  | 'b' | 'h' => some (d.word ((monthNames.getD (t.month - 1) "").take 3).toString false)
  | 'B' => some (d.word (monthNames.getD (t.month - 1) "") false)
  | 'c' => some (composite "%a %b %e %H:%M:%S %Y")
  | 'C' => some (d.number 2 '0' (t.year / 100))
  | 'd' => some (d.number 2 '0' t.day)
  | 'D' => some (composite "%m/%d/%y")
  | 'e' => some (d.number 2 ' ' t.day)
  | 'F' => some (composite "%Y-%m-%d")
  | 'g' => some (d.number 2 '0' (t.isoWeek.1 % 100))
  | 'G' => some (d.number 4 '0' t.isoWeek.1)
  | 'H' => some (d.number 2 '0' t.hour)
  | 'I' => some (d.number 2 '0' hour12)
  | 'j' => some (d.number 3 '0' (t.yearDay + 1))
  | 'k' => some (d.number 2 ' ' t.hour)
  | 'l' => some (d.number 2 ' ' hour12)
  | 'm' => some (d.number 2 '0' t.month)
  | 'M' => some (d.number 2 '0' t.minute)
  | 'n' => some "\n"
  | 'N' =>
    let digits := String.ofList (let ds := Nat.toDigits 10 t.nanos; List.replicate (9 - ds.length) '0' ++ ds)
    let width := d.width.getD 9
    some (if width ≤ 9 then (digits.take width).toString else digits ++ String.ofList (List.replicate (width - 9) '0'))
  | 'p' => some (d.word (if t.hour < 12 then "AM" else "PM") true)
  | 'P' => some (d.word (if t.hour < 12 then "am" else "pm") false)
  | 'q' => some (d.number 1 '0' ((t.month - 1) / 3 + 1))
  | 'r' => some (composite "%I:%M:%S %p")
  | 'R' => some (composite "%H:%M")
  | 's' => some (d.number 1 '0' t.epoch)
  | 'S' => some (d.number 2 '0' t.second)
  | 't' => some "\t"
  | 'T' => some (composite "%H:%M:%S")
  | 'u' => some (d.number 1 '0' (if t.weekday = 0 then 7 else t.weekday))
  | 'U' => some (d.number 2 '0' ((t.yearDay + 7 - t.weekday) / 7))
  | 'V' => some (d.number 2 '0' t.isoWeek.2)
  | 'w' => some (d.number 1 '0' t.weekday)
  | 'W' => some (d.number 2 '0' ((t.yearDay + 7 - (t.weekday + 6) % 7) / 7))
  | 'x' => some (composite "%m/%d/%y")
  | 'X' => some (composite "%H:%M:%S")
  | 'y' => some (d.number 2 '0' (t.year % 100))
  | 'Y' => some (d.number 4 '0' t.year)
  | 'z' => some (offsetText d.colons)
  | 'Z' => some (d.word "UTC" true)
  | '%' => some "%"
  | _ => none

/-- A format with its directives replaced. -/
def formatTime (fuel : Nat) (t : CivilTime) (fmt : List Char) : String :=
  match fuel with
  | 0 => ""
  | fuel + 1 =>
  match fmt with
  | [] => ""
  | '%' :: rest =>
    let flags := rest.takeWhile ("_-0^#".toList.contains ·)
    let afterFlags := rest.drop flags.length
    let ds := afterFlags.takeWhile Char.isDigit
    let afterWidth := afterFlags.drop ds.length
    let colons := afterWidth.takeWhile (· == ':')
    let body := afterWidth.drop colons.length
    let body := match body with
      | 'E' :: more => more
      | 'O' :: more => more
      | more => more
    let d : Directive :=
      { padding := flags.foldl (fun p f => match f with
          | '-' => .none
          | '_' => .blanks
          | '0' => .zeros
          | _ => p) .usual,
        upper := flags.contains '^', swapCase := flags.contains '#',
        width := if ds.isEmpty then none else some (digitsValue ds), colons := colons.length }
    match body with
    | c :: more =>
      let ok := colons.isEmpty || c = 'z'
      match (if ok then conversion fuel t d c else none) with
      | some text => text ++ formatTime fuel t more
      | none =>
        let used := rest.length - more.length
        "%" ++ String.ofList (rest.take used) ++ formatTime fuel t more
    | [] => "%" ++ String.ofList rest
  | c :: rest => String.singleton c ++ formatTime fuel t rest

end

/-! ### Reading dates -/

/-- A word of a date text: a number with its digits, a word in lower case, or a sign
or mark. -/
inductive DateToken where
  | number (value : Nat) (digits : Nat)
  | word (w : String)
  | mark (c : Char)
  deriving BEq, Repr

/-- The words of a date text. Parenthesized comments are dropped. -/
def dateTokens : Nat → List Char → List DateToken
  | 0, _ => []
  | _, [] => []
  | k + 1, c :: rest =>
    if isCSpace c then dateTokens k rest
    else if c.isDigit then
      let ds := (c :: rest).takeWhile Char.isDigit
      .number (digitsValue ds) ds.length :: dateTokens k ((c :: rest).drop ds.length)
    else if c.isAlpha then
      let w := (c :: rest).takeWhile fun x => x.isAlpha || x = '.'
      .word (String.ofList ((w.filter (· != '.')).map Char.toLower)) :: dateTokens k ((c :: rest).drop w.length)
    else if c = '(' then dateTokens k ((rest.dropWhile (· != ')')).drop 1)
    else .mark c :: dateTokens k rest

/-- What a date text sets. -/
structure DateItems where
  /-- The year (none: the current one), month and day. -/
  date : Option (Option Int × Nat × Nat) := none
  /-- Hours, minutes, seconds and nanoseconds. -/
  time : Option (Nat × Nat × Nat × Nat) := none
  /-- The offset of the time given, east of UTC, in seconds. -/
  zone : Option Int := none
  weekday : Option Nat := none
  years : Int := 0
  months : Int := 0
  days : Int := 0
  seconds : Int := 0
  /-- Whether a relative item was read, so that the current time of day is kept. -/
  relative : Bool := false
  /-- `@` and a number of seconds, with nanoseconds. -/
  absolute : Option (Int × Nat) := none

/-- The number of a month's name or its first three letters. -/
def monthOf (w : String) : Option Nat :=
  let i := monthNames.findIdx? fun m => m.toLower == w || (m.toLower.take 3).toString == w ||
    (w == "sept" && m == "September")
  i.map (· + 1)

/-- The number of a weekday's name, its first three letters, or common shortenings. -/
def weekdayOf (w : String) : Option Nat :=
  weekdayNames.findIdx? fun d => d.toLower == w || (d.toLower.take 3).toString == w ||
    (w == "tues" && d == "Tuesday") || (w == "wednes" && d == "Wednesday") ||
    (w == "thur" && d == "Thursday") || (w == "thurs" && d == "Thursday")

/-- A relative unit: its count in months or in seconds. -/
def unitOf (w : String) : Option (Int × Int) :=
  match w with
  | "year" | "years" => some (12, 0)
  | "month" | "months" => some (1, 0)
  | "fortnight" | "fortnights" => some (0, 14 * 86400)
  | "week" | "weeks" => some (0, 7 * 86400)
  | "day" | "days" => some (0, 86400)
  | "hour" | "hours" => some (0, 3600)
  | "minute" | "minutes" | "min" | "mins" => some (0, 60)
  | "second" | "seconds" | "sec" | "secs" => some (0, 1)
  | _ => none

/-- A year as written: two digits stand for 1969 to 2068. -/
def fullYear (v digits : Nat) : Int :=
  if digits ≤ 2 then (if v < 69 then 2000 + v else 1900 + v) else v

/-- Add a relative amount of units. -/
def DateItems.shift (it : DateItems) (n : Int) (unit : Int × Int) : DateItems :=
  let (months, secs) := unit
  if secs % 86400 == 0 && secs != 0 then
    { it with days := it.days + n * (secs / 86400), relative := true }
  else
    { it with months := it.months + n * months, seconds := it.seconds + n * secs, relative := true }

/-- The relative amounts turned around, as `ago` does. -/
def DateItems.backwards (it : DateItems) : DateItems :=
  let flip (x : Int) : Int := 0 - x
  { it with years := flip it.years, months := flip it.months, days := flip it.days, seconds := flip it.seconds }

/-- Reads a time of day after its hours: minutes, perhaps seconds and a fraction, then
`am` or `pm` and an offset. -/
def readTime (it : DateItems) (h : Nat) (ts : List DateToken) : Option (DateItems × List DateToken) :=
  match ts with
  | .mark ':' :: .number mi _ :: rest =>
    let (sec, ns, rest) := match rest with
      | .mark ':' :: .number s _ :: .mark '.' :: .number f fd :: more =>
        (s, (if fd ≥ 9 then f / Nat.pow 10 (fd - 9) else f * Nat.pow 10 (9 - fd)), more)
      | .mark ':' :: .number s _ :: .mark ',' :: .number f fd :: more =>
        (s, (if fd ≥ 9 then f / Nat.pow 10 (fd - 9) else f * Nat.pow 10 (9 - fd)), more)
      | .mark ':' :: .number s _ :: more => (s, 0, more)
      | more => (0, 0, more)
    let (h, rest, bad) : Nat × List DateToken × Bool := match rest with
      | .word "am" :: more => (if h = 12 then 0 else h, more, h > 12 || h = 0)
      | .word "pm" :: more => (if h = 12 then 12 else h + 12, more, h > 12 || h = 0)
      | more => (h, more, false)
    if bad || h > 23 || mi > 59 || sec > 60 then none
    else
      let it := { it with time := some (h, mi, sec, ns) }
      match rest with
      | .mark s :: .number z zd :: more =>
        if s = '+' || s = '-' then
          let (hh, mm, more) := match more with
            | .mark ':' :: .number m _ :: after => (z, m, after)
            | after => if zd ≤ 2 then (z, 0, after) else (z / 100, z % 100, after)
          let off : Int := (hh * 3600 + mm * 60 : Nat)
          if hh > 24 || mm > 59 then none
          else some ({ it with zone := some (if s = '-' then -off else off) }, more)
        else some (it, rest)
      | _ => some (it, rest)
  | _ => none

/-- The items of a date text, or none when it is not a date. -/
def readItems : Nat → DateItems → List DateToken → Option DateItems
  | 0, _, _ => none
  | _, it, [] => some it
  | k + 1, it, ts =>
    match ts with
    | .mark ',' :: rest => readItems k it rest
    | .mark '@' :: rest =>
      let (neg, rest) := match rest with
        | .mark '-' :: more => (true, more)
        | .mark '+' :: more => (false, more)
        | more => (false, more)
      match rest with
      | .number v _ :: more =>
        let (ns, more) := match more with
          | .mark '.' :: .number f fd :: after =>
            ((if fd ≥ 9 then f / Nat.pow 10 (fd - 9) else f * Nat.pow 10 (9 - fd)), after)
          | .mark ',' :: .number f fd :: after =>
            ((if fd ≥ 9 then f / Nat.pow 10 (fd - 9) else f * Nat.pow 10 (9 - fd)), after)
          | after => (0, after)
        let (secs, ns) : Int × Nat :=
          if neg then (if ns = 0 then (-(v : Int), 0) else (-(v : Int) - 1, 1000000000 - ns)) else (v, ns)
        if it.absolute.isSome || !more.isEmpty then none
        else some { it with absolute := some (secs, ns) }
      | _ => none
    | .number y yd :: .mark '-' :: .number m _ :: .mark '-' :: .number d _ :: rest =>
      if it.date.isSome then none
      else
        let it := { it with date := some (some (fullYear y yd), m, d) }
        match rest with
        | .word "t" :: .number h _ :: more =>
          match readTime it h more with
          | some (it, more) => readItems k it more
          | none => none
        | _ => readItems k it rest
    | .number m _ :: .mark '/' :: .number d _ :: .mark '/' :: .number y yd :: rest =>
      if it.date.isSome then none else readItems k { it with date := some (some (fullYear y yd), m, d) } rest
    | .number m _ :: .mark '/' :: .number d _ :: rest =>
      if it.date.isSome then none else readItems k { it with date := some (none, m, d) } rest
    | .number h _ :: .mark ':' :: rest =>
      if it.time.isSome then none
      else match readTime it h (.mark ':' :: rest) with
        | some (it, more) => readItems k it more
        | none => none
    | .number d _ :: .word w :: rest =>
      match monthOf w with
      | some m =>
        if it.date.isSome then none
        else match rest with
          | .number y yd :: more =>
            match more with
            | .mark ':' :: _ => readItems k { it with date := some (none, m, d) } rest
            | _ => readItems k { it with date := some (some (fullYear y yd), m, d) } more
          | _ => readItems k { it with date := some (none, m, d) } rest
      | none =>
        match unitOf w with
        | some u => readItems k (it.shift d u) rest
        | none => none
    | .mark s :: .number n _ :: .word w :: rest =>
      if s = '+' || s = '-' then
        match unitOf w with
        | some u => readItems k (it.shift (if s = '-' then -(n : Int) else n) u) rest
        | none => none
      else none
    | .word w :: rest =>
      match monthOf w with
      | some m =>
        if it.date.isSome then none
        else match rest with
          | .number d _ :: .mark ',' :: .number y yd :: more =>
            readItems k { it with date := some (some (fullYear y yd), m, d) } more
          | .number d _ :: .number y yd :: more =>
            match more with
            | .mark ':' :: _ => readItems k { it with date := some (none, m, d) } (.number y yd :: more)
            | _ => readItems k { it with date := some (some (fullYear y yd), m, d) } more
          | .number d _ :: more => readItems k { it with date := some (none, m, d) } more
          | more => readItems k { it with date := some (none, m, 1) } more
      | none =>
        match weekdayOf w with
        | some wd => readItems k { it with weekday := some wd } rest
        | none =>
          match w with
          | "utc" | "gmt" | "ut" | "z" => readItems k { it with zone := some 0 } rest
          | "now" | "today" => readItems k { it with relative := true } rest
          | "yesterday" => readItems k (it.shift (-1) (0, 86400)) rest
          | "tomorrow" => readItems k (it.shift 1 (0, 86400)) rest
          | "ago" => readItems k it.backwards rest
          | "next" | "last" | "this" =>
            let n : Int := if w == "next" then 1 else if w == "last" then -1 else 0
            match rest with
            | .word u :: more =>
              match unitOf u, weekdayOf u with
              | some unit, _ => readItems k (it.shift n unit) more
              | none, some wd => readItems k { it with weekday := some wd } more
              | none, none => none
            | _ => none
          | _ =>
            match unitOf w with
            | some u => readItems k (it.shift 1 u) rest
            | none => none
    | .number v digits :: rest =>
      let yearless := match it.date with
        | some (none, _, _) => true
        | _ => false
      if yearless && !it.relative && (it.time.isSome || digits > 2) then
        match it.date with
        | some (_, m, d) => readItems k { it with date := some (some (fullYear v digits), m, d) } rest
        | none => none
      else if digits > 4 then
        if it.date.isSome then none
        else readItems k { it with date := some (some (v / 10000 : Nat), v / 100 % 100, v % 100) } rest
      else if it.time.isSome then none
      else
        let (h, mi) := if digits ≤ 2 then (v, 0) else (v / 100, v % 100)
        if h > 23 || mi > 59 then none
        else readItems k { it with time := some (h, mi, 0, 0) } rest
    | _ => none

/-- The instant a date text describes, with `now` as the current one; none when the
text is not a date or names a day that does not exist. -/
def parseDate (text : String) (now : Int × Nat) : Option (Int × Nat) := do
  let it ← readItems (text.length + 2) {} (dateTokens (text.length + 1) text.toList)
  match it.absolute with
  | some a =>
    if it.date.isSome || it.time.isSome then none
    else some (a.1 + it.days * 86400 + it.seconds, a.2)
  | none =>
    let cur := CivilTime.ofSeconds now.1 now.2
    let (y, m, d) := match it.date with
      | some (y, m, d) => (y.getD cur.year, m, d)
      | none => (cur.year, cur.month, cur.day)
    if m < 1 || m > 12 || d < 1 || d > Timestamp.daysInMonth y m then none
    let midnight := it.date.isSome || (it.weekday.isSome && !it.relative)
    let (h, mi, s, ns) := match it.time with
      | some t => t
      | none => if midnight then (0, 0, 0, 0) else (cur.hour, cur.minute, cur.second, cur.nanos)
    -- months and years move the calendar fields; the day may run past the month's end
    let totalMonths : Int := y * 12 + (m - 1 : Nat) + it.months
    let y := totalMonths / 12
    let m := (totalMonths % 12).toNat + 1
    let day0 := Timestamp.daysFromCivil y m 1 + ((d : Int) - 1) + it.days
    let day0 := match it.weekday with
      | some wd => day0 + (((wd : Int) - (day0 + 4) % 7) % 7)
      | none => day0
    let (s, ns) := if s = 60 then (59, ns + 1000000000) else (s, ns)
    let secs := day0 * 86400 + (h * 3600 + mi * 60 + s : Nat) - it.zone.getD 0 + it.seconds
    some (secs + (ns / 1000000000 : Nat), ns % 1000000000)

/-! ### The program -/

/-- The option table of `date`. -/
def dateOptions : OptionTable where
  short := [('d', .value), ('f', .value), ('I', .maybe), ('r', .value), ('R', .nothing),
    ('s', .value), ('u', .nothing)]
  long := [⟨"date", .value, "d"⟩, ⟨"debug", .nothing, "debug"⟩, ⟨"file", .value, "f"⟩,
    ⟨"iso-8601", .maybe, "I"⟩, ⟨"reference", .value, "r"⟩, ⟨"rfc-email", .nothing, "R"⟩,
    ⟨"rfc-822", .nothing, "R"⟩, ⟨"rfc-2822", .nothing, "R"⟩, ⟨"rfc-3339", .value, "rfc-3339"⟩,
    ⟨"set", .value, "s"⟩, ⟨"uct", .nothing, "u"⟩, ⟨"utc", .nothing, "u"⟩,
    ⟨"universal", .nothing, "u"⟩] ++ standardLong

/-- The formats of `-I`, by precision. -/
def isoFormats : List (String × String) :=
  [("date", "%Y-%m-%d"), ("hours", "%Y-%m-%dT%H%:z"), ("minutes", "%Y-%m-%dT%H:%M%:z"),
   ("seconds", "%Y-%m-%dT%H:%M:%S%:z"), ("ns", "%Y-%m-%dT%H:%M:%S,%N%:z")]

/-- The formats of `--rfc-3339`, by precision. -/
def rfc3339Formats : List (String × String) :=
  [("date", "%Y-%m-%d"), ("seconds", "%Y-%m-%d %H:%M:%S%:z"), ("ns", "%Y-%m-%d %H:%M:%S.%N%:z")]

/-- Print an instant in a format. -/
def showInstant (format : String) (at_ : Int × Nat) : M Unit := do
  let t := CivilTime.ofSeconds at_.1 at_.2
  say (formatTime (4 * format.length + 8) t format.toList ++ "\n")

/-- `date`. -/
def date (args : List String) : M Nat := do
  let usage (msg : String) : M Nat := do
    complain "date" msg; tryHelp "date"; return 1
  match dateOptions.read args with
  | .error e => usage e.message
  | .ok parsed =>
  if let some code ← aboutRequest "date" parsed then return code
  -- the output format each option asks for
  let mut format : Option String := none
  for (key, value) in parsed.options do
    let asked ← match key with
      | "I" =>
        match value with
        | none => pure (some "%Y-%m-%d")
        | some v =>
          match matchChoice "iso-8601" isoFormats v with
          | .ok f => pure (some f)
          | .error msg => complain "date" msg; tryHelp "date"; return 1
      | "rfc-3339" =>
        match matchChoice "rfc-3339" rfc3339Formats (value.getD "") with
        | .ok f => pure (some f)
        | .error msg => complain "date" msg; tryHelp "date"; return 1
      | "R" => pure (some "%a, %d %b %Y %H:%M:%S %z")
      | _ => pure none
    if let some f := asked then
      if format.isSome then complain "date" "multiple output formats specified"; return 1
      format := some f
  let dates := parsed.options.filterMap fun (k, v) => if k == "d" then v else none
  let setText := (parsed.last? "s").bind id
  let reference := (parsed.last? "r").bind id
  let batch := (parsed.last? "f").bind id
  let specified := !dates.isEmpty || reference.isSome || batch.isSome
  if dates.length + (if batch.isSome then 1 else 0) + (if reference.isSome then 1 else 0) > 1 then
    return ← usage "the options to specify dates for printing are mutually exclusive"
  if setText.isSome && specified then
    return ← usage "the options to print and set the time may not be used together"
  match parsed.operands with
  | _ :: extra :: _ => return ← usage ("extra operand " ++ quoteAlways extra)
  | [op] =>
    if op.startsWith "+" then
      if format.isSome then complain "date" "multiple output formats specified"; return 1
      format := some (op.drop 1).toString
    else if specified || setText.isSome then
      return ← usage ("the argument " ++ quoteAlways op ++ " lacks a leading '+';\n" ++
        "when using an option to specify date(s), any non-option\n" ++
        "argument must be a format string beginning with '+'")
  | [] => pure ()
  let shown := format.getD "%a %b %e %H:%M:%S %Z %Y"
  let clock : Int × Nat := ((((← now) / 1000000000 : Nat) : Int), (← now) % 1000000000)
  if let some file := batch then
    let text ← match ← openInput 9 file with
      | .ok () => readToEnd 9
      | .error e =>
        complain "date" (quoteName file ++ ": " ++ e.text)
        return 1
    let mut status := 0
    let lines := (Text.Octets.ofBytes text).splitOn "\n"
    let lines := if lines.getLast? == some "" then lines.dropLast else lines
    for line in lines do
      match parseDate line clock with
      | some at_ => showInstant shown at_
      | none =>
        complain "date" ("invalid date " ++ quoteAlways line)
        status := 1
    return status
  if let some file := reference then
    match ← statPath file with
    | .ok _ => showInstant shown (0, 0); return 0
    | .error e => complain "date" (quoteName file ++ ": " ++ e.text); return 1
  let text := dates.getLast?.orElse fun _ => setText
  match text with
  | some t =>
    match parseDate t clock with
    | some at_ =>
      let mut status := 0
      if setText.isSome then
        complain "date" "cannot set date: Operation not permitted"
        status := 1
      showInstant shown at_
      return status
    | none => complain "date" ("invalid date " ++ quoteAlways t); return 1
  | none =>
    match parsed.operands with
    | [op] =>
      if op.startsWith "+" then showInstant shown clock; return 0
      else
        complain "date" ("invalid date " ++ quoteAlways op)
        return 1
    | _ => showInstant shown clock; return 0

end Confine.Host.Program
