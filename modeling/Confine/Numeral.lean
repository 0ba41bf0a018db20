/-!
# Floating-point text as C reads it

`strtod` and its kin read, after white space and a sign, an infinity (`inf` or
`infinity`), not-a-number (`nan`, optionally followed by letters, digits and `_` in
parentheses), a hexadecimal significand after `0x` with an optional binary exponent
after `p`, or decimal digits with at most one point and an optional exponent after
`e`; letters in any case, and at least one digit in a significand. What they read is a
`Numeral`, the number exactly as written; rounding it to a format is the format's
business.

Exponents beyond a hundred thousand in size are held at that bound: every format
takes such a number to an infinity or a zero all the same.
-/

namespace Confine

/-- A number as written: an infinity, not-a-number, decimal digits times a power of
ten, or a hexadecimal significand times a power of two. -/
inductive Numeral where
  | infinity
  | notANumber
  | decimal (digits : Nat) (exp10 : Int)
  | binary (significand : Nat) (exp2 : Int)
  deriving Repr, BEq

namespace Numeral

/-- The white space C skips: blank, tab, line feed, carriage return, vertical tab
and form feed. -/
def isBlank (c : Char) : Bool :=
  c = ' ' || c = '\t' || c = '\n' || c = '\r' || c = '\x0b' || c = '\x0c'

/-- The value of a digit in bases up to 36; 99 for a character that is none. -/
def digitValue (c : Char) : Nat :=
  if c.isDigit then c.toNat - '0'.toNat
  else if 'a' ≤ c && c ≤ 'z' then c.toNat - 'a'.toNat + 10
  else if 'A' ≤ c && c ≤ 'Z' then c.toNat - 'A'.toNat + 10
  else 99

/-- Leading digits of a base: how many, their value, and the rest. -/
def digitsIn (base : Nat) : List Char → Nat → Nat × Nat × List Char
  | c :: cs, acc =>
    if digitValue c < base then
      let r := digitsIn base cs (acc * base + digitValue c)
      (r.1 + 1, r.2)
    else (0, acc, c :: cs)
  | [], acc => (0, acc, [])

/-- The largest exponent kept; beyond it every format overflows or underflows. -/
def exponentBound : Nat := 100000

/-- An exponent after its letter: a sign and decimal digits, held at the bound, and the
rest; none when no digit follows, so that the letter is not part of the number. -/
def exponentPart (cs : List Char) : Option (Int × List Char) :=
  let (neg, body) := match cs with
    | '-' :: r => (true, r)
    | '+' :: r => (false, r)
    | r => (false, r)
  let (n, v, rest) := digitsIn 10 body 0
  if n = 0 then none
  else
    let v : Int := min v exponentBound
    some (if neg then -v else v, rest)

/-- Digits, a point and more digits in a base, with at least one digit in all: the
value of all the digits, how many followed the point, and the rest. -/
def significandPart (base : Nat) (cs : List Char) : Option (Nat × Nat × List Char) :=
  let (n1, v1, r1) := digitsIn base cs 0
  let (n2, v2, r2) := match r1 with
    | '.' :: more => digitsIn base more 0
    | r => (0, 0, r)
  if n1 + n2 = 0 then none
  else some (v1 * Nat.pow base n2 + v2, n2, r2)

/-- An exponent after one of two letters, or none (zero) when it is not there. -/
def exponentAfter (letters : List Char) (cs : List Char) : Int × List Char :=
  match cs with
  | c :: more => if letters.contains c then (exponentPart more).getD (0, cs) else (0, cs)
  | [] => (0, [])

/-- A numeral at the head of characters, with no blanks or sign before it, and the
rest; none when nothing there is a number. -/
def readUnsigned (cs : List Char) : Option (Numeral × List Char) :=
  let lower := (cs.take 8).map Char.toLower
  if lower == "infinity".toList then some (.infinity, cs.drop 8)
  else if lower.take 3 == "inf".toList then some (.infinity, cs.drop 3)
  else if lower.take 3 == "nan".toList then
    let rest := cs.drop 3
    let rest := match rest with
      | '(' :: more =>
        let inner := more.takeWhile fun c => c.isAlphanum || c = '_'
        if (more.drop inner.length).head? == some ')' then more.drop (inner.length + 1) else rest
      | _ => rest
    some (.notANumber, rest)
  else
    let hex : Option (Numeral × List Char) := match cs with
      | '0' :: x :: body =>
        if x = 'x' || x = 'X' then
          (significandPart 16 body).map fun (m, places, rest) =>
            let (e, rest) := exponentAfter ['p', 'P'] rest
            (.binary m (e - 4 * (places : Int)), rest)
        else none
      | _ => none
    match hex with
    | some r => some r
    | none =>
      (significandPart 10 cs).map fun (m, places, rest) =>
        let (e, rest) := exponentAfter ['e', 'E'] rest
        (.decimal m (e - places), rest)

/-- A numeral at the head of characters after blanks and a sign: whether it is
negative, the numeral, and the rest; none when nothing there is a number. -/
def read (cs : List Char) : Option (Bool × Numeral × List Char) :=
  let (negative, body) := match cs.dropWhile isBlank with
    | '-' :: r => (true, r)
    | '+' :: r => (false, r)
    | r => (false, r)
  (readUnsigned body).map fun (n, rest) => (negative, n, rest)

/-- The digits of a finite numeral without their power; zero for the others. -/
def digits : Numeral → Nat
  | .decimal d _ => d
  | .binary m _ => m
  | _ => 0

/-- Whether two fractions are equal. -/
def sameRatio (a b : Nat × Nat) : Bool := a.1 * b.2 == b.1 * a.2

/-- The exact magnitude of a finite numeral as a fraction; zero for the others. -/
def ratio : Numeral → Nat × Nat
  | .decimal d e => if 0 ≤ e then (d * Nat.pow 10 e.toNat, 1) else (d, Nat.pow 10 e.natAbs)
  | .binary m e => if 0 ≤ e then (m * Nat.pow 2 e.toNat, 1) else (m, Nat.pow 2 e.natAbs)
  | _ => (0, 1)

end Numeral

end Confine
