import Confine.Double.Fixed
import Confine.Numeral

/-!
# Extended-precision numbers

Some utilities compute in the extended-precision format of the x86 processors: a
64-bit significand whose leading bit is stored, and exponents wide enough for numbers
from about `3.6e-4951` to `1.19e4932`. A number is kept by what it stands for, as a
double is: a sign, a whole significand below `2 ^ 64` and the power of two of its last
bit, or an infinity, or not-a-number.

Every operation rounds the exact result to the nearest number, a tie going to the
even significand, so sums and products are those of the processor.
-/

namespace Confine

/-- An extended-precision number: a finite `± significand * 2 ^ exponent`, an infinity,
or not-a-number with a sign. The numbers made by `Extended.ofRatio` are canonical:
`significand < 2 ^ 64` and `-16445 ≤ exponent ≤ 16320`, with `2 ^ 63 ≤ significand`
unless `exponent = -16445`; a zero has exponent zero and keeps its sign. -/
inductive Extended where
  | finite (negative : Bool) (significand : Nat) (exponent : Int)
  | infinite (negative : Bool)
  | nan (negative : Bool)
  deriving DecidableEq, Repr, Inhabited

namespace Extended

/-- The exponent of the last significand bit of the smallest numbers. -/
def leastExponent : Int := -16445

/-- The exponent of the last significand bit of the largest numbers. -/
def greatestExponent : Int := 16320

/-- The smallest significand of a number that is not subnormal. -/
def leadingBit : Nat := Nat.pow 2 63

/-- The number nearest to `± num / den`, a tie going to the even significand. A value
that rounds past the largest finite number is an infinity, one that rounds below the
smallest is a zero of its sign. A zero denominator gives an infinity. -/
def ofRatio (negative : Bool) (num den : Nat) : Extended :=
  if num = 0 then .finite negative 0 0
  else if den = 0 then .infinite negative
  else
    let q := max (Double.log2Ratio num den - 63) leastExponent
    let (n, d) := if 0 ≤ q then (num, den * Nat.pow 2 q.toNat) else (num * Nat.pow 2 q.natAbs, den)
    let m := Double.roundDiv n d
    let (m, q) := if m = Nat.pow 2 64 then (leadingBit, q + 1) else (m, q)
    if q > greatestExponent then .infinite negative
    else if m = 0 then .finite negative 0 0
    else .finite negative m q

/-- The number nearest to `± digits * 10 ^ exp10`. A decimal whose size is beyond every
number by more than ten powers of ten is decided by its size alone, so that the exact
fraction stays small. -/
def ofDecimal (negative : Bool) (digits : Nat) (exp10 : Int) : Extended :=
  if digits = 0 then .finite negative 0 0
  else if (Double.digitCount digits : Int) + exp10 > 4945 then .infinite negative
  else if (Double.digitCount digits : Int) + exp10 < -4965 then .finite negative 0 0
  else if 0 ≤ exp10 then ofRatio negative (digits * Nat.pow 10 exp10.toNat) 1
  else ofRatio negative digits (Nat.pow 10 exp10.natAbs)

/-- The number nearest to `± significand * 2 ^ exp2`. -/
def ofBinary (negative : Bool) (significand : Nat) (exp2 : Int) : Extended :=
  if significand = 0 then .finite negative 0 0
  else if (Nat.log2 significand : Int) + exp2 > 16400 then .infinite negative
  else if (Nat.log2 significand : Int) + exp2 < -16500 then .finite negative 0 0
  else
    let (a, b) := Double.twoPow exp2
    ofRatio negative (significand * a) b

/-- The number nearest to a whole number. -/
def ofInt (i : Int) : Extended := ofRatio (i < 0) i.natAbs 1

/-- The number with the other sign. -/
def neg : Extended → Extended
  | .finite s m e => .finite (!s) m e
  | .infinite s => .infinite (!s)
  | .nan s => .nan (!s)

/-- Whether a number is finite. -/
def isFinite : Extended → Bool
  | .finite _ _ _ => true
  | _ => false

/-- Whether a number has its sign bit set. -/
def isNegative : Extended → Bool
  | .finite s _ _ => s
  | .infinite s => s
  | .nan s => s

/-- Whether a number is not-a-number. -/
def isNan : Extended → Bool
  | .nan _ => true
  | _ => false

/-- Whether a number is zero, of either sign. -/
def isZero : Extended → Bool
  | .finite _ 0 _ => true
  | _ => false

/-- The exact value of a finite number as a sign and a fraction. -/
def ratio (m : Nat) (e : Int) : Nat × Nat :=
  let (a, b) := Double.twoPow e
  (m * a, b)

/-- Two finite magnitudes `m * 2 ^ e` and `n * 2 ^ f` as whole numbers over one power
of two. -/
def aligned (m : Nat) (e : Int) (n : Nat) (f : Int) : Nat × Nat × Int :=
  let low := min e f
  (m * Nat.pow 2 (e - low).toNat, n * Nat.pow 2 (f - low).toNat, low)

/-- The not-a-number an invalid operation makes, which has the sign bit set. -/
def indefinite : Extended := .nan true

/-- The rounded sum of two numbers. An exact zero sum is a positive zero unless both
addends are negative. -/
def add : Extended → Extended → Extended
  | .nan s, _ => .nan s
  | _, .nan t => .nan t
  | .infinite s, .infinite t => if s == t then .infinite s else indefinite
  | .infinite s, _ => .infinite s
  | _, .infinite t => .infinite t
  | .finite s m e, .finite t n f =>
    let (a, b, low) := aligned m e n f
    let x : Int := (if s then -(a : Int) else a) + (if t then -(b : Int) else b)
    if x = 0 then .finite (s && t) 0 0
    else ofBinary (x < 0) x.natAbs low

/-- The rounded product of two numbers. -/
def mul : Extended → Extended → Extended
  | .nan s, _ => .nan s
  | _, .nan t => .nan t
  | .finite s m e, .finite t n f => if m * n = 0 then .finite (s != t) 0 0 else ofBinary (s != t) (m * n) (e + f)
  | .infinite s, .finite t n _ => if n = 0 then indefinite else .infinite (s != t)
  | .finite s m _, .infinite t => if m = 0 then indefinite else .infinite (s != t)
  | .infinite s, .infinite t => .infinite (s != t)

/-- The order of two numbers that are not not-a-number: negative infinity, the finite
numbers by value (the two zeros equal), positive infinity. -/
def compareNumbers : Extended → Extended → Ordering
  | .infinite s, .infinite t => if s == t then .eq else if s then .lt else .gt
  | .infinite s, _ => if s then .lt else .gt
  | _, .infinite t => if t then .gt else .lt
  | .finite s m e, .finite t n f =>
    let (a, b, _) := aligned m e n f
    let x : Int := if s then -(a : Int) else a
    let y : Int := if t then -(b : Int) else b
    compare x y
  | _, _ => .eq

/-- Whether one number is below another; never when either is not-a-number. -/
def lt (a b : Extended) : Bool :=
  match a, b with
  | .nan _, _ => false
  | _, .nan _ => false
  | _, _ => compareNumbers a b == .lt

/-- Whether two numbers are equal; not-a-number equals nothing. -/
def eqv (a b : Extended) : Bool :=
  match a, b with
  | .nan _, _ => false
  | _, .nan _ => false
  | _, _ => compareNumbers a b == .eq

/-- The number nearest to a numeral. -/
def ofNumeral (negative : Bool) : Numeral → Extended
  | .infinity => .infinite negative
  | .notANumber => .nan negative
  | .decimal d e => ofDecimal negative d e
  | .binary m e => ofBinary negative m e

/-- Whether rounding a numeral to a number left the range: finite digits became an
infinity, or a number below the normal range that is not exactly the numeral. -/
def leftRange (n : Numeral) (v : Extended) : Bool :=
  match n, v with
  | .infinity, _ => false
  | .notANumber, _ => false
  | _, .infinite _ => true
  | _, .finite _ m e =>
    m < leadingBit && n.digits != 0 && (m == 0 || !Numeral.sameRatio (ratio m e) n.ratio)
  | _, .nan _ => false

/-- A number read from the head of a text as `strtold` reads it: the number, whether
reading it left the range, and the rest; none when nothing there is a number. -/
def read (cs : List Char) : Option (Extended × Bool × List Char) :=
  (Numeral.read cs).map fun (negative, n, rest) =>
    let v := ofNumeral negative n
    (v, leftRange n v, rest)

/-- The hexadecimal text of a magnitude, `%La`: the significand's first hexadecimal
digit before the point and its other fifteen after it, trailing zeros dropped, then a
binary exponent; with a precision, the digits are rounded to it, a tie going to the
even digit, and a first digit that overflows becomes `1` with the exponent four more.
Zero is `0x0p+0`. -/
def hexText (m : Nat) (e : Int) (precision : Option Nat) (alt upper : Bool) : String :=
  let (lead, frac, exp) : Nat × Nat × Int :=
    if m = 0 then (0, 0, 0)
    else if m ≥ leadingBit then (m / Nat.pow 2 60, m % Nat.pow 2 60, e + 60)
    else (m / Nat.pow 2 60, m % Nat.pow 2 60, leastExponent + 60)
  let full := 15
  let pad (n width : Nat) : List Char :=
    let ds := Nat.toDigits 16 n
    List.replicate (width - ds.length) '0' ++ ds
  let (lead, digits, exp) : Nat × List Char × Int := match precision with
    | none => (lead, ((pad frac full).reverse.dropWhile (· == '0')).reverse, exp)
    | some p =>
      if p ≥ full then (lead, pad frac full ++ List.replicate (p - full) '0', exp)
      else
        let total := Double.roundDiv (lead * Nat.pow 16 full + frac) (Nat.pow 16 (full - p))
        let newLead := total / Nat.pow 16 p
        if newLead ≥ 16 then (1, List.replicate p '0', exp + 4)
        else (newLead, if p = 0 then [] else pad (total % Nat.pow 16 p) p, exp)
  let text := "0x" ++ String.ofList (Nat.toDigits 16 lead) ++
    (if digits.isEmpty && !alt then "" else "." ++ String.ofList digits) ++
    "p" ++ (if exp < 0 then "-" else "+") ++ String.ofList (Nat.toDigits 10 exp.natAbs)
  if upper then text.toUpper else text

end Extended

end Confine
