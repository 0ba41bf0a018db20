import Confine.Double.Basic

/-!
# The shortest decimal of a double

A double is printed with the fewest significant digits that read back as the same
double, and of the decimals with that many digits the one nearest to it.

The reals that read back as a double `m * 2 ^ e` form an interval around it, reaching
halfway to each neighbour; its ends belong to it when `m` is even, since a tie rounds
to the even significand. Below the smallest significand of a binade the lower
neighbour is twice as close. For one digit, then two, and so on up to seventeen, the
two decimals of that many digits on either side of the value are tested against the
interval, in exact arithmetic; the first length with a hit wins, and of two hits the
nearer, an exact tie going to the even digits. When some decimal of a length lies in
the interval, so does one of the value's two neighbours of that length, since the
interval holds the value.

Printers differ in how they lay the digits out: a `Layout` says which sizes are written
positionally, whether a whole number ends in `.0`, and how an exponent is signed.
-/

namespace Confine.Double

/-- `⌊log₁₀ (num / den)⌋` for positive `num` and `den`. The digit counts bound it to
two neighbours, and one comparison decides between them. -/
def log10Ratio (num den : Nat) : Int :=
  let k : Int := (digitCount num : Int) - digitCount den
  if num * Nat.pow 10 (-k).toNat < den * Nat.pow 10 k.toNat then k - 1 else k

/-- The decimal digits of a positive finite double `m * 2 ^ e` with the fewest digits
that read back as it, the nearest of those: the digits and the power of ten of the last
one. -/
def shortestDigits (m : Nat) (e : Int) : Nat × Int :=
  -- Everything is measured in units of `2 ^ (e - 2)`: the value is `4 * m`, the
  -- interval reaches from `4 * m - lo` to `4 * m + 2`.
  let lo : Nat := if m = hiddenBit && e > leastExponent then 1 else 2
  let inclusive := m % 2 == 0
  let (sn, sd) := twoPow (e - 2)
  -- how `c * 10 ^ k` compares with `x` units
  let cmp (c : Nat) (k : Int) (x : Nat) : Ordering :=
    compare (c * Nat.pow 10 k.toNat * sd) (x * sn * Nat.pow 10 (-k).toNat)
  let inside (c : Nat) (k : Int) : Bool :=
    let below := cmp c k (4 * m - lo)
    let above := cmp c k (4 * m + 2)
    (below == .gt || (inclusive && below == .eq)) && (above == .lt || (inclusive && above == .eq))
  let top := log10Ratio (4 * m * sn) sd
  let attempt (n : Nat) : Option (Nat × Int) :=
    let k := top - n + 1
    let c := (4 * m * sn * Nat.pow 10 (-k).toNat) / (sd * Nat.pow 10 k.toNat)
    match inside c k, inside (c + 1) k with
    | true, true =>
      match cmp (2 * c + 1) k (8 * m) with
      | .gt => some (c, k)
      | .lt => some (c + 1, k)
      | .eq => some (if c % 2 == 0 then c else c + 1, k)
    | true, false => some (c, k)
    | false, true => some (c + 1, k)
    | false, false => none
  match (List.range 17).findSome? fun i => attempt (i + 1) with
  | some r => r
  | none =>
    let k := top - 16
    ((4 * m * sn * Nat.pow 10 (-k).toNat) / (sd * Nat.pow 10 k.toNat), k)

/-- How a printer lays out the shortest digits of a double. -/
structure Layout where
  /-- The range `[low, high)` of decimal exponents, the power of ten of the leading
  digit, written positionally; the rest are written with an exponent. None writes all
  positionally. -/
  positional : Option (Int × Int)
  /-- Whether a whole number written positionally ends in `.0`. -/
  wholePoint : Bool
  /-- Whether a positive exponent has a plus sign. -/
  plusExponent : Bool

/-- Digits without their trailing zeros, the power of ten raised to match. -/
def trimZeros (c : Nat) (k : Int) : List Char × Int :=
  let ds := Nat.toDigits 10 c
  let kept := (ds.reverse.dropWhile (· == '0')).reverse
  (kept, k + (ds.length - kept.length : Nat))

/-- The text of the digits `ds` times `10 ^ k`, positionally. -/
def positionalText (ds : List Char) (k : Int) (wholePoint : Bool) : String :=
  let len : Int := ds.length
  let point := len + k
  if 0 ≤ k then
    String.ofList (ds ++ List.replicate k.toNat '0') ++ (if wholePoint then ".0" else "")
  else if 0 < point then
    String.ofList (ds.take point.toNat) ++ "." ++ String.ofList (ds.drop point.toNat)
  else "0." ++ String.ofList (List.replicate point.natAbs '0' ++ ds)

/-- The text of the digits `ds` times `10 ^ k` with an exponent: one digit before the
point, the point only when more digits follow. -/
def exponentText (ds : List Char) (k : Int) (plus : Bool) : String :=
  let exp := (ds.length : Int) - 1 + k
  let mantissa := match ds with
    | d :: rest@(_ :: _) => String.ofList (d :: '.' :: rest)
    | _ => String.ofList ds
  let sign := if exp < 0 then "-" else if plus then "+" else ""
  mantissa ++ "e" ++ sign ++ String.ofList (Nat.toDigits 10 exp.natAbs)

/-- The text of a double in a layout. Not-a-number is `NaN`, the infinities `inf` and
`-inf`, and a negative zero keeps its sign. -/
def Layout.text (l : Layout) : Double → String
  | .nan => "NaN"
  | .infinite negative => if negative then "-inf" else "inf"
  | .finite negative m e =>
    let sign := if negative then "-" else ""
    if m = 0 then sign ++ "0" ++ (if l.wholePoint then ".0" else "")
    else
      let (c, k) := shortestDigits m e
      let (ds, k) := trimZeros c k
      let lead := (ds.length : Int) - 1 + k
      let positional := match l.positional with
        | none => true
        | some (low, high) => low ≤ lead && lead < high
      sign ++ (if positional then positionalText ds k l.wholePoint else exponentText ds k l.plusExponent)

/-- Plain text: always positional, a whole number without a point. -/
def Layout.plain : Layout := ⟨none, false, false⟩

/-- Plain text, but a whole number ends in `.0`, so that the text reads as a float. -/
def Layout.pointed : Layout := ⟨none, true, false⟩

/-- Compact text: positional from `10 ^ -5` up to below `10 ^ 16`, a whole number ending
in `.0`, and otherwise an exponent with its sign always written. -/
def Layout.compact : Layout := ⟨some (-5, 16), true, true⟩

end Confine.Double
