/-!
# Hexadecimal byte text

Bytes are written as two lowercase hexadecimal digits each. Reading accepts either
case and refuses an odd length or a character that is no hexadecimal digit.
-/

namespace Confine.Text.Hex

/-- The lowercase digit for a value below 16. -/
def digit (n : Nat) : Char :=
  if n < 10 then Char.ofNat (48 + n) else Char.ofNat (87 + n)

/-- The two digits of one byte. -/
def byteChars (b : UInt8) : List Char := [digit (b.toNat / 16), digit (b.toNat % 16)]

/-- The lowercase hexadecimal text of a byte list. -/
def render (bs : List UInt8) : String := String.ofList (bs.flatMap byteChars)

/-- The value of one hexadecimal digit of either case. -/
def digitValue? (c : Char) : Option Nat :=
  if '0' ≤ c ∧ c ≤ '9' then some (c.toNat - 48)
  else if 'a' ≤ c ∧ c ≤ 'f' then some (c.toNat - 87)
  else if 'A' ≤ c ∧ c ≤ 'F' then some (c.toNat - 55)
  else none

/-- Reads pairs of digits. -/
def parseChars : List Char → Option (List UInt8)
  | [] => some []
  | hi :: lo :: rest => do
    let h ← digitValue? hi
    let l ← digitValue? lo
    let tail ← parseChars rest
    pure (UInt8.ofNat (h * 16 + l) :: tail)
  | [_] => none

/-- Reads hexadecimal text; `none` for an odd length or a non-digit. -/
def parse? (s : String) : Option (List UInt8) := parseChars s.toList

@[simp] theorem parseChars_nil : parseChars [] = some [] := rfl

end Confine.Text.Hex
