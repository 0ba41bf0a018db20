import Confine.Double.Shortest

/-!
# Doubles to a fixed number of digits

The conversions of a C `printf` write a double with a fixed number of digits after the
point (`%f`), with one digit before the point and an exponent (`%e`), or with a fixed
number of significant digits in whichever of the two suits the size (`%g`). Each rounds
the exact value of the double to the digits it keeps, a tie going to the even last
digit.
-/

namespace Confine.Double

/-- The magnitude of a finite double as a fraction. -/
def ratio (m : Nat) (e : Int) : Nat × Nat :=
  let (a, b) := twoPow e
  (m * a, b)

/-- The magnitude `num / den` rounded to a multiple of `10 ^ k`, as the number of
multiples; a tie goes to the even one. -/
def roundToPower (num den : Nat) (k : Int) : Nat :=
  roundDiv (num * Nat.pow 10 (-k).toNat) (den * Nat.pow 10 k.toNat)

/-- Digits with a point before the last `places` of them, padded with zeros in front
so that one digit stands before the point. -/
def pointAt (n : Nat) (places : Nat) (keepPoint : Bool) : String :=
  let ds := Nat.toDigits 10 n
  let ds := List.replicate (places + 1 - ds.length) '0' ++ ds
  let whole := ds.take (ds.length - places)
  let frac := ds.drop (ds.length - places)
  String.ofList whole ++ (if places = 0 && !keepPoint then "" else "." ++ String.ofList frac)

/-- The exponent of a scientific form: a sign and at least two digits. -/
def exponentDigits (x : Int) : String :=
  let ds := Nat.toDigits 10 x.natAbs
  (if x < 0 then "-" else "+") ++ String.ofList (List.replicate (2 - ds.length) '0' ++ ds)

/-- A magnitude with `places` digits after the point. -/
def fixedText (num den : Nat) (places : Nat) (keepPoint : Bool) : String :=
  pointAt (roundToPower num den (-(places : Int))) places keepPoint

/-- A magnitude rounded to `digits` significant digits: the digits and the power of ten
of the first. Zero has power zero. -/
def significant (num den : Nat) (digits : Nat) : Nat × Int :=
  if num = 0 then (0, 0)
  else
    let x := log10Ratio num den
    let n := roundToPower num den (x - digits + 1)
    if n ≥ Nat.pow 10 digits then (roundToPower num den (x - digits + 2), x + 1) else (n, x)

/-- A magnitude with one digit before the point, `places` after it, and an exponent. -/
def scientificText (num den : Nat) (places : Nat) (keepPoint : Bool) (upper : Bool) : String :=
  let (n, x) := significant num den (places + 1)
  pointAt n places keepPoint ++ (if upper then "E" else "e") ++ exponentDigits x

/-- Drops trailing zeros after a point, and the point when nothing follows it. -/
def dropTrailingZeros (s : String) : String :=
  if s.contains '.' then
    let cs := (s.toList.reverse.dropWhile (· == '0'))
    String.ofList (match cs with
      | '.' :: rest => rest.reverse
      | _ => cs.reverse)
  else s

/-- A magnitude with `precision` significant digits (at least one), written positionally
when its exponent is from -4 up to below the precision, else with an exponent; trailing
zeros are dropped unless `keep`. -/
def generalText (num den : Nat) (precision : Nat) (keep : Bool) (upper : Bool) : String :=
  let p := max precision 1
  let (_, x) := significant num den p
  if -4 ≤ x && x < p then
    let t := fixedText num den (p - 1 - x).toNat keep
    if keep then t else dropTrailingZeros t
  else
    let t := scientificText num den (p - 1) keep upper
    if keep then t
    else
      match t.splitOn (if upper then "E" else "e") with
      | [mant, exp] => dropTrailingZeros mant ++ (if upper then "E" else "e") ++ exp
      | _ => t

end Confine.Double
