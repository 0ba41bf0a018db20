import Confine.Shell.Arith
import Confine.Double.Fixed
import Confine.Extended.Basic
/-!
# The `printf` and `echo` formats

Byte strings (one character per byte) in, byte strings out.

Escapes in a format: `\\`, `\a`, `\b`, `\e`, `\f`, `\n`, `\r`, `\t`, `\v` and up to
three octal digits `\NNN`; any other backslash stands for itself. In a `%b` argument, and in
every argument of `echo`, octal escapes may also be written `\0NNN`, and `\c` ends all
output at once.

Directives are `%` with flags `-+ #0`, a width and a precision (each a number or `*`,
taken from the arguments as a 32-bit integer), and one of `d i o u x X c s b` or of the float conversions
`f F e E g G a A`; `%%` is a percent sign. Missing arguments count as empty or zero;
`%c` of an empty argument is the zero byte.
A numeric argument is read as C's `strtoimax`, `strtoumax` or `strtod` reads it; text
that is not a number, or a number out of range, warns and counts what was read. An
argument that starts with a quote stands for the code of the byte after the quote.
The format is used again while arguments remain, at least once. A letter that is no
conversion, or a `%` at the end, is an error that discards the output.
-/

namespace Confine.Shell.Format

/-- An escape at the head of `cs` (after its backslash): the byte it stands for, or
`none` for a backslash that stands for itself, and the rest. -/
def escape (cs : List Char) : Option Char × List Char :=
  match cs with
  | '\\' :: r => (some '\\', r)
  | 'a' :: r => (some '\x07', r)
  | 'b' :: r => (some '\x08', r)
  | 'f' :: r => (some '\x0c', r)
  | 'n' :: r => (some '\n', r)
  | 'r' :: r => (some '\r', r)
  | 't' :: r => (some '\t', r)
  | 'v' :: r => (some '\x0b', r)
  | 'e' :: r => (some '\x1b', r)
  | _ =>
    let ds := (cs.takeWhile fun c => '0' ≤ c && c ≤ '7').take 3
    if ds.isEmpty then (none, cs)
    else
      let v := ds.foldl (fun acc c => acc * 8 + (c.toNat - '0'.toNat)) 0
      (some (Char.ofNat (v % 256)), cs.drop ds.length)

/-- Expand the escapes of a `%b` argument or an `echo` word: the bytes, and whether a
`\c` ended the output. -/
def expandBackslashes : Nat → List Char → List Char × Bool
  | 0, _ => ([], false)
  | _, [] => ([], false)
  | fuel + 1, '\\' :: rest =>
    match rest with
    | 'c' :: _ => ([], true)
    | '0' :: d :: r =>
      if '0' ≤ d && d ≤ '7' then
        let (c, r') := escape (d :: r)
        let (out, stop) := expandBackslashes fuel r'
        ((c.getD '\\') :: out, stop)
      else
        let (c, r') := escape ('0' :: d :: r)
        let (out, stop) := expandBackslashes fuel r'
        ((c.getD '\\') :: out, stop)
    | _ =>
      match escape rest with
      | (some c, r') =>
        let (out, stop) := expandBackslashes fuel r'
        (c :: out, stop)
      | (none, r') =>
        let (out, stop) := expandBackslashes fuel r'
        ('\\' :: out, stop)
  | fuel + 1, c :: rest =>
    let (out, stop) := expandBackslashes fuel rest
    (c :: out, stop)

/-- The escapes of a whole word expanded. -/
def backslashes (s : String) : List Char × Bool := expandBackslashes (s.length + 1) s.toList

/-- A directive's flags, width and precision. -/
structure Spec where
  left : Bool := false
  plus : Bool := false
  space : Bool := false
  alt : Bool := false
  zero : Bool := false
  width : Nat := 0
  precision : Option Nat := none
  deriving Repr

/-- Pad to the width, on the right for `-`, else on the left. -/
def pad (sp : Spec) (body : List Char) : List Char :=
  let fill := List.replicate (sp.width - body.length) ' '
  if sp.left then body ++ fill else fill ++ body

def digitChars (base : Nat) (upper : Bool) (n : Nat) : List Char :=
  let ds := Nat.toDigits base n
  if upper then ds.map Char.toUpper else ds

/-- Digits widened to a precision with leading zeros; a zero with precision zero has
no digits at all. -/
def withPrecision (sp : Spec) (digits : List Char) : List Char :=
  match sp.precision with
  | some 0 => if digits = ['0'] then [] else digits
  | some p => List.replicate (p - digits.length) '0' ++ digits
  | none => digits

/-- A number in C's integer conversions: `sign` is the sign text, `digits` the
magnitude already widened to the precision, `pfx` the alternate-form prefix. Zeros
pad the width only when no precision is given. -/
def integerLayout (sp : Spec) (sign : List Char) (digits : List Char) (pfx : List Char) : List Char :=
  let head := sign ++ pfx
  if sp.zero && !sp.left && sp.precision.isNone then
    head ++ List.replicate (sp.width - head.length - digits.length) '0' ++ digits
  else pad sp (head ++ digits)

/-- A number in C's integer conversions, its digits widened to the precision. -/
def integer (sp : Spec) (sign : List Char) (digits : List Char) (pfx : List Char) : List Char :=
  integerLayout sp sign (withPrecision sp digits) pfx

/-- `%d` and `%i`. -/
def signed (sp : Spec) (v : Int) : List Char :=
  let sign := if v < 0 then ['-'] else if sp.plus then ['+'] else if sp.space then [' '] else []
  integer sp sign (Nat.toDigits 10 v.natAbs) []

/-- `%o`, `%u`, `%x` and `%X`. The alternate form of `%o` makes the first digit a zero,
even of a zero with precision zero; that of `%x` prefixes `0x` to a number other than
zero. -/
def unsigned (sp : Spec) (conv : Char) (n : Nat) : List Char :=
  match conv with
  | 'o' =>
    let ds := withPrecision sp (Nat.toDigits 8 n)
    let ds := if sp.alt && ds.head? != some '0' then '0' :: ds else ds
    integerLayout sp [] ds []
  | 'x' => integer sp [] (digitChars 16 false n) (if sp.alt && n != 0 then ['0', 'x'] else [])
  | 'X' => integer sp [] (digitChars 16 true n) (if sp.alt && n != 0 then ['0', 'X'] else [])
  | _ => integer sp [] (Nat.toDigits 10 n) []

/-- A warning about a numeric argument. -/
inductive Warning where
  | notNumeric (arg : String)
  | partlyNumeric (arg : String)
  | outOfRange (arg : String)
  deriving Repr

def Warning.message : Warning → String
  | .notNumeric a => a ++ ": expected numeric value"
  | .partlyNumeric a => a ++ ": not completely converted"
  | .outOfRange a => a ++ ": Numerical result out of range"

/-- The code of the byte after a leading quote, if the argument starts with one. -/
def quotedCode (arg : String) : Option Nat :=
  match arg.toList with
  | q :: rest => if q = '\'' || q = '"' then some ((rest.head?.map Char.toNat).getD 0) else none
  | [] => none

/-- The warning for a number that was read: none when all of the argument was used and
the number was in range. -/
def conversionWarning (arg : String) (used : Bool) (rest : List Char) (inRange : Bool) :
    Option Warning :=
  if !used then (if arg.isEmpty then none else some (.notNumeric arg))
  else if !rest.isEmpty then some (.partlyNumeric arg)
  else if !inRange then some (.outOfRange arg)
  else none

/-- An optional sign after blanks: whether it is a minus, and the rest. -/
def afterSign (cs : List Char) : Bool × List Char :=
  match cs.dropWhile Arith.isBlank with
  | '-' :: r => (true, r)
  | '+' :: r => (false, r)
  | r => (false, r)

/-- A numeric argument read as `strtoimax` with base 0 reads it: a value beyond the
signed 64-bit range is clamped, with a warning. -/
def number (arg : String) : Int × Option Warning :=
  match quotedCode arg with
  | some c => (c, none)
  | none =>
    let (neg, digits) := afterSign arg.toList
    let (used, v, rest) := Arith.readMagnitude digits
    let exact : Int := if neg then -(v : Int) else v
    let value := Arith.saturate exact
    (if used = 0 then 0 else value, conversionWarning arg (used != 0) rest (value == exact))

/-- A numeric argument read as `strtoumax` with base 0 reads it: a negative number
counts from `2 ^ 64` down, and a magnitude past the largest unsigned 64-bit value is
clamped to it, with a warning. -/
def unsignedNumber (arg : String) : Nat × Option Warning :=
  match quotedCode arg with
  | some c => (c, none)
  | none =>
    let (neg, digits) := afterSign arg.toList
    let (used, v, rest) := Arith.readMagnitude digits
    let top := Nat.pow 2 64
    let value := if v ≥ top then top - 1 else if neg then (top - v) % top else v
    (if used = 0 then 0 else value, conversionWarning arg (used != 0) rest (v < top))

/-- Hexadecimal digits at the head: how many, their value, and the rest. -/
def hexDigits (cs : List Char) : Nat × Nat × List Char := Arith.digitsIn 16 cs 0

/-- Decimal digits at the head: how many, their value, and the rest. -/
def decimalDigits (cs : List Char) : Nat × Nat × List Char := Arith.digitsIn 10 cs 0

/-- An exponent at the head after its letter: a sign and decimal digits, or nothing
when no digit follows. -/
def exponentPart (cs : List Char) : Option (Int × List Char) :=
  let (neg, body) := match cs with
    | '-' :: r => (true, r)
    | '+' :: r => (false, r)
    | r => (false, r)
  let (n, v, rest) := decimalDigits body
  if n = 0 then none else some (if neg then -(v : Int) else v, rest)

/-- A finite number as it was written: digits times a power of ten, or a hexadecimal
significand times a power of two. -/
inductive Written where
  | decimal (digits : Nat) (exp10 : Int)
  | binary (significand : Nat) (exp2 : Int)

/-- The digits of a written number, without their power. -/
def Written.digits : Written → Nat
  | .decimal d _ => d
  | .binary m _ => m

/-- The exact magnitude of a written number as a fraction. -/
def Written.ratio : Written → Nat × Nat
  | .decimal d e => if 0 ≤ e then (d * Nat.pow 10 e.toNat, 1) else (d, Nat.pow 10 e.natAbs)
  | .binary m e =>
    let (a, b) := Double.twoPow e
    (m * a, b)

/-- Whether reading a written number as a double underflowed: the double is below the
normal range and not exactly the number written. -/
def Written.underflows (w : Written) (d : Double) : Bool :=
  match d with
  | .finite _ m e =>
    m < Double.hiddenBit && w.digits != 0 &&
      (m == 0 ||
        let (x, y) := w.ratio
        let (a, b) := Double.ratio m e
        a * y != x * b)
  | _ => false

/-- The head of a text as `strtod` reads it, after blanks and a sign: an infinity,
not-a-number, a hexadecimal float with a binary exponent, or a decimal float. The
magnitude, the finite number as written (none for an infinity or not-a-number), and the
rest; none when nothing is a number. -/
def floatHead (cs : List Char) : Option (Double × Option Written × List Char) :=
  let lower := (cs.take 8).map Char.toLower
  if lower == "infinity".toList then some (.infinite false, none, cs.drop 8)
  else if lower.take 3 == "inf".toList then some (.infinite false, none, cs.drop 3)
  else if lower.take 3 == "nan".toList then
    let rest := cs.drop 3
    let rest := match rest with
      | '(' :: more =>
        let inner := more.takeWhile fun c => c.isAlphanum || c = '_'
        if (more.drop inner.length).head? == some ')' then more.drop (inner.length + 1) else rest
      | _ => rest
    some (.nan, none, rest)
  else
    -- digits, a point and more digits, in a base; at least one digit in all
    let mantissa (digits : List Char → Nat × Nat × List Char) (base : Nat) (body : List Char) :
        Option (Nat × Nat × List Char) :=
      let (n1, v1, r1) := digits body
      let (n2, v2, r2) := match r1 with
        | '.' :: more => digits more
        | r => (0, 0, r)
      if n1 + n2 = 0 then none
      else some (v1 * Nat.pow base n2 + v2, n2, r2)
    let exponent (letters : List Char) (rest : List Char) : Int × List Char :=
      match rest with
      | c :: more => if letters.contains c then (exponentPart more).getD (0, rest) else (0, rest)
      | [] => (0, [])
    let hex : Option (Double × Option Written × List Char) := match cs with
      | '0' :: x :: body =>
        if x = 'x' || x = 'X' then
          (mantissa hexDigits 16 body).map fun (mant, places, rest) =>
            let (e, rest) := exponent ['p', 'P'] rest
            let (a, b) := Double.twoPow (e - 4 * (places : Int))
            (Double.ofRatio false (mant * a) b, some (.binary mant (e - 4 * (places : Int))), rest)
        else none
      | _ => none
    match hex with
    | some r => some r
    | none =>
      (mantissa decimalDigits 10 cs).map fun (mant, places, rest) =>
        let (e, rest) := exponent ['e', 'E'] rest
        (Double.ofDecimal false mant (e - places), some (.decimal mant (e - places)), rest)

/-- A float argument as `strtod` reads it: a result past the largest double, or one
below the normal range that is not exactly the number written, is out of range and
warns. -/
def floatNumber (arg : String) : Double × Option Warning :=
  match quotedCode arg with
  | some c => (Double.ofNat c, none)
  | none =>
    let (neg, body) := afterSign arg.toList
    match floatHead body with
    | none => (.finite false 0 0, conversionWarning arg false [] true)
    | some (d, written, rest) =>
      let inRange := match d, written with
        | .infinite _, some _ => false
        | _, some w => !w.underflows d
        | _, none => true
      (if neg then d.neg else d, conversionWarning arg true rest inRange)

/-- The hexadecimal text of a double's magnitude, `%a`: one digit before the point,
the fraction's hexadecimal digits (as many as it needs, or rounded to a precision),
and a binary exponent. -/
def hexFloat (m : Nat) (e : Int) (precision : Option Nat) (alt upper : Bool) : String :=
  let (lead, frac, exp) : Nat × Nat × Int :=
    if m = 0 then (0, 0, 0)
    else if m ≥ Double.hiddenBit then (1, m - Double.hiddenBit, e + 52)
    else (0, m, -1022)
  let full := 13
  let (lead, digits) := match precision with
    | none =>
      let ds := Nat.toDigits 16 frac
      let ds := List.replicate (full - ds.length) '0' ++ ds
      (lead, (ds.reverse.dropWhile (· == '0')).reverse)
    | some p =>
      if p ≥ full then
        let ds := Nat.toDigits 16 frac
        (lead, List.replicate (full - ds.length) '0' ++ ds ++ List.replicate (p - full) '0')
      else
        let total := Double.roundDiv (lead * Nat.pow 16 full + frac) (Nat.pow 16 (full - p))
        let ds := Nat.toDigits 16 (total % Nat.pow 16 p)
        (total / Nat.pow 16 p, if p = 0 then [] else List.replicate (p - ds.length) '0' ++ ds)
  let text := "0x" ++ String.ofList (Nat.toDigits 16 lead) ++
    (if digits.isEmpty && !alt then "" else "." ++ String.ofList digits) ++
    "p" ++ (if exp < 0 then "-" else "+") ++ String.ofList (Nat.toDigits 10 exp.natAbs)
  if upper then text.toUpper else text

/-- The sign a float conversion writes: `-` for a negative number, else what the
flags ask for. -/
def signText (sp : Spec) (negative : Bool) : String :=
  if negative then "-" else if sp.plus then "+" else if sp.space then " " else ""

/-- A head and a body padded to the width: with zeros between them when asked, else
with blanks. -/
def padNumber (sp : Spec) (head body : List Char) : List Char :=
  if sp.zero && !sp.left then head ++ List.replicate (sp.width - head.length - body.length) '0' ++ body
  else pad sp (head ++ body)

/-- A decimal float conversion, `%f %F %e %E %g %G`, of the exact number
`± num / den`. -/
def rational (sp : Spec) (conv : Char) (negative : Bool) (num den : Nat) : List Char :=
  let upper := conv.isUpper
  let p := sp.precision.getD 6
  let body := match conv with
    | 'e' | 'E' => Double.scientificText num den p sp.alt upper
    | 'g' | 'G' => Double.generalText num den p sp.alt upper
    | _ => Double.fixedText num den p sp.alt
  padNumber sp (signText sp negative).toList body.toList

/-- A float conversion, `%f %F %e %E %g %G %a %A`, of a double: the sign, then the
digits, padded to the width; zeros pad after the sign when asked, but never an
infinity or not-a-number. -/
def floating (sp : Spec) (conv : Char) (d : Double) : List Char :=
  let upper := conv.isUpper
  let sign := signText sp d.isNegative
  let word (w : String) : List Char := pad sp (sign ++ (if upper then w.toUpper else w)).toList
  match d with
  | .nan => word "nan"
  | .infinite _ => word "inf"
  | .finite negative m e =>
    if conv = 'a' || conv = 'A' then
      let body := hexFloat m e sp.precision sp.alt upper
      padNumber sp (sign.toList ++ body.toList.take 2) (body.toList.drop 2)
    else
      let (num, den) := Double.ratio m e
      rational sp conv negative num den

/-- A float conversion, `%f %F %e %E %g %G %a %A`, of an extended-precision number,
laid out as for a double; not-a-number shows its sign. -/
def extended (sp : Spec) (conv : Char) (x : Extended) : List Char :=
  let upper := conv.isUpper
  let sign := signText sp x.isNegative
  let word (w : String) : List Char := pad sp (sign ++ (if upper then w.toUpper else w)).toList
  match x with
  | .nan _ => word "nan"
  | .infinite _ => word "inf"
  | .finite negative m e =>
    if conv = 'a' || conv = 'A' then
      let body := Extended.hexText m e sp.precision sp.alt upper
      padNumber sp (sign.toList ++ body.toList.take 2) (body.toList.drop 2)
    else
      let (num, den) := Extended.ratio m e
      rational sp conv negative num den

/-- Why a run through the format stopped with an error. -/
inductive Failure where
  /-- A letter that is no conversion, with the directive up to it. -/
  | invalid (directive : List Char)
  /-- A `%` with nothing after it. -/
  | missing
  deriving Repr

/-- The message of a failure. -/
def Failure.message : Failure → String
  | .invalid d => String.ofList d ++ ": invalid directive"
  | .missing => "missing format character"

/-- What running a format produced. -/
structure Output where
  text : List Char
  warnings : List Warning
  /-- A `\c` ended the output. -/
  stopped : Bool
  /-- What stopped the format with an error. -/
  failure : Option Failure
  deriving Repr

/-- The flags of a directive. -/
def flags : Nat → Spec → List Char → Spec × List Char
  | 0, sp, cs => (sp, cs)
  | fuel + 1, sp, c :: cs =>
    if c = '-' then flags fuel { sp with left := true } cs
    else if c = '+' then flags fuel { sp with plus := true } cs
    else if c = ' ' then flags fuel { sp with space := true } cs
    else if c = '#' then flags fuel { sp with alt := true } cs
    else if c = '0' then flags fuel { sp with zero := true } cs
    else (sp, c :: cs)
  | _, sp, [] => (sp, [])

/-- The state of one run through the format. -/
structure Run where
  args : List String
  out : List Char
  warnings : List Warning
  /-- Whether any directive took an argument. -/
  consumed : Bool

/-- Take the next argument. -/
def Run.take (r : Run) : Option String × Run :=
  match r.args with
  | a :: rest => (some a, { r with args := rest, consumed := true })
  | [] => (none, { r with consumed := true })

/-- Take an argument read by a reader of numbers, with its warning. -/
def Run.takeWith (read : String → α × Option Warning) (zero : α) (r : Run) : α × Run :=
  let (a, r) := r.take
  match a with
  | none => (zero, r)
  | some s =>
    let (v, w) := read s
    (v, { r with warnings := r.warnings ++ w.toList })

/-- Take a numeric argument. -/
def Run.takeNumber (r : Run) : Int × Run := r.takeWith number 0 

def Run.emit (r : Run) (cs : List Char) : Run := { r with out := r.out ++ cs }

/-- Digits at the head, as a number. -/
def readDigits (cs : List Char) : Option Nat × List Char :=
  let ds := cs.takeWhile Char.isDigit
  if ds.isEmpty then (none, cs)
  else (some (ds.foldl (fun a c => a * 10 + (c.toNat - '0'.toNat)) 0), cs.drop ds.length)

/-- One pass over the format. Ends early on `\c` (`stopped`) or an invalid directive. -/
def pass : Nat → List Char → Run → Run × Bool × Option Failure
  | 0, _, r => (r, false, none)
  | _, [], r => (r, false, none)
  | fuel + 1, '\\' :: rest, r =>
    match escape rest with
    | (some c, r') => pass fuel r' (r.emit [c])
    | (none, r') => pass fuel r' (r.emit ['\\'])
  | fuel + 1, '%' :: '%' :: rest, r => pass fuel rest (r.emit ['%'])
  | fuel + 1, '%' :: rest, r =>
    let (sp, cs) := flags (rest.length + 1) {} rest
    -- width
    let (sp, cs, r) := match cs with
      | '*' :: more =>
        let (w, r) := r.takeNumber
        let w := Int.bmod w (Nat.pow 2 32)
        let sp := if w < 0 then { sp with left := true, width := w.natAbs } else { sp with width := w.toNat }
        (sp, more, r)
      | _ =>
        let (w, more) := readDigits cs
        ({ sp with width := w.getD 0 }, more, r)
    -- precision
    let (sp, cs, r) := match cs with
      | '.' :: '*' :: more =>
        let (p, r) := r.takeNumber
        let p := Int.bmod p (Nat.pow 2 32)
        ({ sp with precision := if p < 0 then none else some p.toNat }, more, r)
      | '.' :: more =>
        let (p, more) := readDigits more
        ({ sp with precision := some (p.getD 0) }, more, r)
      | _ => (sp, cs, r)
    match cs with
    | conv :: more =>
      if conv = 'd' || conv = 'i' then
        let (v, r) := r.takeNumber
        pass fuel more (r.emit (signed sp v))
      else if conv = 'o' || conv = 'u' || conv = 'x' || conv = 'X' then
        let (v, r) := r.takeWith unsignedNumber 0
        pass fuel more (r.emit (unsigned sp conv v))
      else if "fFeEgGaA".toList.contains conv then
        let (v, r) := r.takeWith floatNumber (.finite false 0 0)
        pass fuel more (r.emit (floating sp conv v))
      else if conv = 'c' then
        let (a, r) := r.take
        let c := match (a.getD "").toList with
          | c :: _ => c
          | [] => '\x00'
        pass fuel more (r.emit (pad sp [c]))
      else if conv = 's' then
        let (a, r) := r.take
        let body := (a.getD "").toList
        let body := match sp.precision with | some p => body.take p | none => body
        pass fuel more (r.emit (pad sp body))
      else if conv = 'b' then
        let (a, r) := r.take
        let (body, stop) := backslashes (a.getD "")
        let body := match sp.precision with | some p => body.take p | none => body
        let r := r.emit (pad sp body)
        if stop then (r, true, none) else pass fuel more r
      else (r, false, some (.invalid ('%' :: (rest.take (rest.length - more.length)))))
    | [] => (r, false, some .missing)
  | fuel + 1, c :: rest, r => pass fuel rest (r.emit [c])

/-- Run `printf`: the format once, then again while arguments remain and the format
takes any. -/
def printf (format : String) (args : List String) : Output :=
  go (args.length + 1) ⟨args, [], [], false⟩
where
  go : Nat → Run → Output
  | 0, r => ⟨r.out, r.warnings, false, none⟩
  | fuel + 1, r =>
    let (r', stop, bad) := pass (format.length + 1) format.toList { r with consumed := false }
    if stop || bad.isSome then ⟨r'.out, r'.warnings, stop, bad⟩
    else if r'.consumed && !r'.args.isEmpty then go fuel r'
    else ⟨r'.out, r'.warnings, false, none⟩

/-- The `echo` builtin: a first word `-n` drops the final newline; every word has its
escapes expanded; words are joined by spaces; `\c` ends the output. -/
def echo (words : List String) : List Char :=
  let (newline, words) := match words with
    | "-n" :: rest => (false, rest)
    | ws => (true, ws)
  go words newline
where
  go : List String → Bool → List Char
  | [], nl => if nl then ['\n'] else []
  | [w], nl =>
    let (cs, stop) := backslashes w
    if stop then cs else cs ++ (if nl then ['\n'] else [])
  | w :: rest, nl =>
    let (cs, stop) := backslashes w
    if stop then cs else cs ++ [' '] ++ go rest nl

end Confine.Shell.Format
