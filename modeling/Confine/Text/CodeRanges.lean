import Confine.Text.Hex

/-!
# Tables of code point ranges

A character property is kept as a text of hexadecimal code points and inclusive
ranges `first-last`, separated by commas and in increasing order, which reads into a
sorted array of ranges; whether a character has the property is then a search by
halving the array.
-/

namespace Confine.Text

/-- One entry of a table as an inclusive range. -/
def rangeOf (item : String) : Nat × Nat :=
  let bound := fun (s : String) => s.toList.foldl (fun acc c => acc * 16 + (Hex.digitValue? c).getD 0) 0
  match item.splitOn "-" with
  | [a, b] => (bound a, bound b)
  | _ => (bound item, bound item)

/-- The ranges of a table. -/
def rangesOf (table : String) : Array (Nat × Nat) := ((table.splitOn ",").map rangeOf).toArray

/-- Whether some range of a sorted array, between two of its indices, holds a code
point. Each step halves the indices, so the fuel needs to be the bit length of the
array's size. -/
def rangesHold (rs : Array (Nat × Nat)) (n : Nat) : Nat → Nat → Nat → Bool
  | 0, _, _ => false
  | fuel + 1, lo, hi =>
    if lo ≥ hi then false
    else
      let mid := (lo + hi) / 2
      let (a, b) := rs.getD mid (0, 0)
      if n < a then rangesHold rs n fuel lo mid
      else if n > b then rangesHold rs n fuel (mid + 1) hi
      else true

/-- Whether a sorted array of ranges holds a code point. -/
def Ranges.hold (rs : Array (Nat × Nat)) (n : Nat) : Bool :=
  rangesHold rs n (Nat.log2 rs.size + 2) 0 rs.size

/-- The blocks of ideographs assigned above `U+20000`, as ranges `[first, end)`. -/
def ideographBlocks : List (Nat × Nat) :=
  [(0x20000, 0x2a6e0), (0x2a700, 0x2b73a), (0x2b740, 0x2b81e), (0x2b820, 0x2cea2),
   (0x2ceb0, 0x2ebe1), (0x2ebf0, 0x2ee5e), (0x2f800, 0x2fa1e), (0x30000, 0x3134b),
   (0x31350, 0x323b0)]

/-- Whether a code point lies in an ideograph block above `U+20000`. -/
def isIdeographAbove (n : Nat) : Bool := ideographBlocks.any fun (a, b) => a ≤ n && n < b

end Confine.Text
