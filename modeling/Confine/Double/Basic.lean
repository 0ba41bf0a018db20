/-!
# Doubles

Settings files, environment variables and JSON numbers are read into double-precision
binary floating-point numbers, and every later step, whether rounding to a count or
printing, sees only the double. A double is kept here by what it stands for: a sign, a
whole significand below `2 ^ 53` and a power of two, or one of the infinities, or
not-a-number.

Reading is exact rounding: `Double.ofRatio` takes a positive fraction to the nearest
double, a tie going to the even significand, and the product and quotient of two
doubles are rounded the same way.
-/

namespace Confine

/-- A double-precision binary floating-point number: a finite number
`± mantissa * 2 ^ exponent`, an infinity, or not-a-number. The numbers made by
`Double.ofRatio` are canonical: `mantissa < 2 ^ 53` and `-1074 ≤ exponent ≤ 971`, with
`2 ^ 52 ≤ mantissa` unless `exponent = -1074`; a zero has exponent zero and keeps its
sign. -/
inductive Double where
  | finite (negative : Bool) (mantissa : Nat) (exponent : Int)
  | infinite (negative : Bool)
  | nan
  deriving DecidableEq, Repr, Inhabited

namespace Double

/-- The exponent of the least significand bit of the smallest doubles. -/
def leastExponent : Int := -1074

/-- The exponent of the least significand bit of the largest doubles. -/
def greatestExponent : Int := 971

/-- The smallest significand of a double that is not subnormal. -/
def hiddenBit : Nat := Nat.pow 2 52

/-- Two to an integer power as a fraction: a numerator and a denominator, one of them
one. -/
def twoPow (e : Int) : Nat × Nat :=
  if 0 ≤ e then (Nat.pow 2 e.toNat, 1) else (1, Nat.pow 2 e.natAbs)

/-- `⌊log₂ (num / den)⌋` for positive `num` and `den`. The logarithms of the two parts
bound it to two neighbours, and one comparison decides between them. -/
def log2Ratio (num den : Nat) : Int :=
  let k : Int := (Nat.log2 num : Int) - Nat.log2 den
  if num * Nat.pow 2 (-k).toNat < den * Nat.pow 2 k.toNat then k - 1 else k

/-- `n / d` rounded to the nearest whole number, a tie going to the even one. -/
def roundDiv (n d : Nat) : Nat :=
  let q := n / d
  let r := n % d
  if 2 * r > d || (2 * r == d && q % 2 == 1) then q + 1 else q

/-- The double nearest to `± num / den`, a tie going to the even significand. A value
that rounds past the largest finite double is an infinity, one that rounds below the
smallest is a zero of its sign. A zero denominator gives an infinity. -/
def ofRatio (negative : Bool) (num den : Nat) : Double :=
  if num = 0 then .finite negative 0 0
  else if den = 0 then .infinite negative
  else
    let q := max (log2Ratio num den - 52) leastExponent
    let (n, d) := if 0 ≤ q then (num, den * Nat.pow 2 q.toNat) else (num * Nat.pow 2 q.natAbs, den)
    let m := roundDiv n d
    let (m, q) := if m = Nat.pow 2 53 then (hiddenBit, q + 1) else (m, q)
    if q > greatestExponent then .infinite negative
    else if m = 0 then .finite negative 0 0
    else .finite negative m q

/-- The double nearest to a natural number. -/
def ofNat (n : Nat) : Double := ofRatio false n 1

/-- The number of decimal digits of a natural number; zero has one. -/
def digitCount (n : Nat) : Nat := (Nat.toDigits 10 n).length

/-- The double nearest to `± digits * 10 ^ exp10`. A decimal whose size is beyond every
double by more than ten powers of ten is decided by its size alone, so that the exact
fraction stays small. -/
def ofDecimal (negative : Bool) (digits : Nat) (exp10 : Int) : Double :=
  if digits = 0 then .finite negative 0 0
  else if (digitCount digits : Int) + exp10 > 320 then .infinite negative
  else if (digitCount digits : Int) + exp10 < -335 then .finite negative 0 0
  else if 0 ≤ exp10 then ofRatio negative (digits * Nat.pow 10 exp10.toNat) 1
  else ofRatio negative digits (Nat.pow 10 exp10.natAbs)

/-- The double with the other sign. -/
def neg : Double → Double
  | .finite s m e => .finite (!s) m e
  | .infinite s => .infinite (!s)
  | .nan => .nan

/-- The sign bit of a double; not-a-number has none. -/
def isNegative : Double → Bool
  | .finite s _ _ => s
  | .infinite s => s
  | .nan => false

/-- Whether a double is a number other than an infinity. -/
def isFinite : Double → Bool
  | .finite _ _ _ => true
  | _ => false

/-- The rounded product of two doubles. -/
def mul : Double → Double → Double
  | .nan, _ => .nan
  | _, .nan => .nan
  | .finite s m e, .finite t n f =>
    let (a, b) := twoPow (e + f)
    ofRatio (s != t) (m * n * a) b
  | .infinite s, .finite t n _ => if n = 0 then .nan else .infinite (s != t)
  | .finite s m _, .infinite t => if m = 0 then .nan else .infinite (s != t)
  | .infinite s, .infinite t => .infinite (s != t)

/-- The rounded quotient of two doubles. -/
def div : Double → Double → Double
  | .nan, _ => .nan
  | _, .nan => .nan
  | .finite s m e, .finite t n f =>
    if n = 0 then (if m = 0 then .nan else .infinite (s != t))
    else
      let (a, b) := twoPow (e - f)
      ofRatio (s != t) (m * a) (n * b)
  | .finite s _ _, .infinite t => .finite (s != t) 0 0
  | .infinite s, .finite t _ _ => .infinite (s != t)
  | .infinite _, .infinite _ => .nan

/-- A double rounded to a whole number, a half away from zero, as a natural number: a
negative number, a zero and not-a-number give zero, an infinity gives none. -/
def roundHalfAway : Double → Option Nat
  | .finite true _ _ => some 0
  | .finite false m e =>
    let (a, b) := twoPow e
    some ((2 * m * a + b) / (2 * b))
  | .infinite false => none
  | .infinite true => some 0
  | .nan => some 0

end Double

end Confine
