/-!
# UTF-8 bytes and lossy text

Output of a child process is raw bytes. Clients see it as text in which every maximal
ill-formed subsequence is replaced by one U+FFFD, the substitution the Unicode
standard recommends ("maximal subparts"). Encoding a text is the usual UTF-8 encoding.

Decoding is total and consumes at least one byte per character it yields; a byte
below 0x80 is always a character of its own (`decode_ascii`).
-/

namespace Confine.Text.Utf8

/-- The replacement character that stands for an ill-formed subsequence. -/
def replacement : Char := '�'

/-- A continuation byte, `10xxxxxx`. -/
def isCont (b : UInt8) : Bool := 0x80 ≤ b && b ≤ 0xBF

/-- For a lead byte of a sequence of two or more bytes: its length and the range
allowed for the second byte, which rules out overlong forms, surrogates and code
points above U+10FFFF. `none` for bytes that start no multi-byte sequence. -/
def leadShape (b : UInt8) : Option (Nat × UInt8 × UInt8) :=
  if b < 0xC2 then none
  else if b < 0xE0 then some (2, 0x80, 0xBF)
  else if b = 0xE0 then some (3, 0xA0, 0xBF)
  else if b = 0xED then some (3, 0x80, 0x9F)
  else if b < 0xF0 then some (3, 0x80, 0xBF)
  else if b = 0xF0 then some (4, 0x90, 0xBF)
  else if b < 0xF4 then some (4, 0x80, 0xBF)
  else if b = 0xF4 then some (4, 0x80, 0x8F)
  else none

/-- The payload bits of a lead byte of an `n`-byte sequence, with the continuation
payloads appended. -/
def codePoint (n : Nat) (b : UInt8) (cs : List UInt8) : Nat :=
  cs.foldl (fun acc c => acc * 64 + c.toNat % 64) (b.toNat % Nat.pow 2 (7 - n))

/-- One step of lossy decoding after the byte `b`: the character that `b` starts,
and the bytes left over, which are a suffix of `rest`. An ill-formed sequence yields
the replacement character and leaves the offending byte for the next step. -/
def step (b : UInt8) (rest : List UInt8) : Char × {r : List UInt8 // r.length ≤ rest.length} :=
  if b < 0x80 then (Char.ofNat b.toNat, ⟨rest, Nat.le_refl _⟩)
  else match leadShape b, rest with
  | some (n, lo, hi), c1 :: rest1 =>
    if lo ≤ c1 && c1 ≤ hi then
      if n = 2 then (Char.ofNat (codePoint 2 b [c1]), ⟨rest1, Nat.le_succ _⟩)
      else match rest1 with
        | c2 :: rest2 =>
          if isCont c2 then
            if n = 3 then (Char.ofNat (codePoint 3 b [c1, c2]), ⟨rest2, Nat.le_succ_of_le (Nat.le_succ _)⟩)
            else match rest2 with
              | c3 :: rest3 =>
                if isCont c3 then
                  (Char.ofNat (codePoint 4 b [c1, c2, c3]),
                    ⟨rest3, Nat.le_succ_of_le (Nat.le_succ_of_le (Nat.le_succ _))⟩)
                else (replacement, ⟨c3 :: rest3, Nat.le_succ_of_le (Nat.le_succ _)⟩)
              | [] => (replacement, ⟨[], Nat.zero_le _⟩)
          else (replacement, ⟨c2 :: rest2, Nat.le_succ _⟩)
        | [] => (replacement, ⟨[], Nat.zero_le _⟩)
    else (replacement, ⟨c1 :: rest1, Nat.le_refl _⟩)
  | _, rest => (replacement, ⟨rest, Nat.le_refl _⟩)

/-- Lossy decoding to characters. -/
def decode : List UInt8 → List Char
  | [] => []
  | b :: rest => (step b rest).1 :: decode (step b rest).2.1
termination_by bs => bs.length
decreasing_by
  have h := (step b rest).2.2
  simp only [List.length_cons]
  omega

/-- Lossy decoding to a string. -/
def decodeLossy (bs : List UInt8) : String := String.ofList (decode bs)

/-- The UTF-8 encoding of a character list. -/
def encodeChars (cs : List Char) : List UInt8 := cs.flatMap String.utf8EncodeChar

/-- The UTF-8 encoding of a string. -/
def encode (s : String) : List UInt8 := encodeChars s.toList

@[simp] theorem decode_nil : decode [] = [] := by simp [decode]

theorem decode_cons (b : UInt8) (rest : List UInt8) :
    decode (b :: rest) = (step b rest).1 :: decode (step b rest).2.1 := by
  rw [decode]

theorem decode_ascii (b : UInt8) (rest : List UInt8) (h : b < 0x80) :
    decode (b :: rest) = Char.ofNat b.toNat :: decode rest := by
  have hs : step b rest = (Char.ofNat b.toNat, ⟨rest, Nat.le_refl _⟩) := by
    unfold step
    rw [if_pos h]
  rw [decode_cons, hs]

end Confine.Text.Utf8
