import Confine.Settings.Value
import Confine.Double.Basic

/-!
# Numbers written as text

Settings that arrive as text, such as environment variables and plain YAML scalars,
are numbers when their text reads as one. A signed 64-bit integer is an optional sign
and decimal digits within range. A float is an optional sign and either `inf`,
`infinity` or `nan` in any case, or digits with at most one point and at least one
digit, followed by an optional exponent `e` or `E` with an optional sign and digits.

A float is read as the nearest double.
-/

namespace Confine.Settings.Number

/-- The smallest signed 64-bit value. -/
def int64Min : Int := -(Nat.pow 2 63 : Int)

/-- The largest signed 64-bit value. -/
def int64Max : Int := (Nat.pow 2 63 : Int) - 1

/-- Whether an integer is a signed 64-bit value. -/
def isInt64 (i : Int) : Bool := int64Min ≤ i && i ≤ int64Max

/-- Whether every character is a decimal digit, and there is at least one. -/
def allDigits (cs : List Char) : Bool := !cs.isEmpty && cs.all Char.isDigit

/-- The value of decimal digits. -/
def digitsValue (cs : List Char) : Nat := cs.foldl (fun acc c => acc * 10 + (c.toNat - 48)) 0

/-- A signed 64-bit integer written in decimal, with an optional sign. -/
def int64? (s : String) : Option Int :=
  let (sign, body) : Int × List Char := match s.toList with
    | '+' :: rest => (1, rest)
    | '-' :: rest => (-1, rest)
    | cs => (1, cs)
  if allDigits body then
    let i := sign * digitsValue body
    if isInt64 i then some i else none
  else none

/-- An unsigned 64-bit integer written in decimal, with an optional plus sign. -/
def uint64? (s : String) : Option Nat :=
  let body := match s.toList with
    | '+' :: rest => rest
    | cs => cs
  if allDigits body then
    let n := digitsValue body
    if n < Nat.pow 2 64 then some n else none
  else none

/-- The number of decimal digits of a positive number. -/
def digitCount (n : Nat) : Nat := (Nat.toDigits 10 n).length

/-- A float written in decimal, with an optional sign and exponent, or one of the
words for an infinity and not-a-number. -/
def float? (s : String) : Option Value :=
  let (negative, body) : Bool × String := match s.toList with
    | '+' :: rest => (false, String.ofList rest)
    | '-' :: rest => (true, String.ofList rest)
    | cs => (false, String.ofList cs)
  let word := body.toLower
  if word == "inf" || word == "infinity" then some (.float (.infinite negative))
  else if word == "nan" then some (.float .nan)
  else
    let cs := body.toList
    let mantissa := cs.takeWhile fun c => c.isDigit || c == '.'
    let rest := cs.drop mantissa.length
    let whole := mantissa.takeWhile Char.isDigit
    let afterWhole := mantissa.drop whole.length
    let frac := match afterWhole with
      | '.' :: ds => some ds
      | _ => none
    let shapeOk := match afterWhole with
      | [] => !whole.isEmpty
      | '.' :: ds => ds.all Char.isDigit && !(whole.isEmpty && ds.isEmpty)
      | _ => false
    let exponent : Option Int := match rest with
      | [] => some 0
      | c :: es =>
        if c == 'e' || c == 'E' then
          match es with
          | '+' :: ds => if allDigits ds then some (digitsValue ds : Int) else none
          | '-' :: ds => if allDigits ds then some (-(digitsValue ds : Int)) else none
          | ds => if allDigits ds then some (digitsValue ds : Int) else none
        else none
    match shapeOk, exponent with
    | true, some e =>
      let fd := frac.getD []
      some (.float (Double.ofDecimal negative (digitsValue (whole ++ fd)) (e - fd.length)))
    | _, _ => none

/-- A double as an unsigned 64-bit count: rounded to the nearest whole number, a half
away from zero, a negative number and not-a-number giving zero and a number past the
largest count giving the largest. -/
def countOf (d : Double) : Nat :=
  match d.roundHalfAway with
  | some n => min n (Nat.pow 2 64 - 1)
  | none => Nat.pow 2 64 - 1

end Confine.Settings.Number
