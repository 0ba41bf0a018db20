import Confine.Settings.Value
import Confine.Double.Basic
import Confine.Text.Hex
import Confine.Text.Utf8

/-!
# JSON documents

A JSON document is read into a settings tree. Of two equal keys in one object the
later one wins.

A number without a point or an exponent is an integer when it fits an unsigned 64-bit
word, or a signed one when negative; a negative zero is the double `-0.0`. Every other
number is a double, computed the way a fast reader does it: the significand is taken
as a 64-bit word, the digits past its room only raising the power of ten, it is
rounded to a double, and that is multiplied or divided by the double nearest to the
power of ten. A product past the largest double is refused as out of range; an
exponent too large for a 32-bit word gives zero when negative or when the significand
is zero.

A document that is not well formed is refused with the reason and the place, as a
line and a column counted in bytes: `expected value at line 1 column 1`. A failure at
the next byte names that byte's column; a failure after the last byte names the
column of the last byte read.
-/

namespace Confine.Settings.Json

/-- Why a document is refused. -/
inductive Problem where
  | eofValue
  | eofObject
  | eofList
  | eofString
  | expectedValue
  | expectedIdent
  | expectedColon
  | expectedObjectEnd
  | expectedListEnd
  | keyNotString
  | trailingComma
  | trailingCharacters
  | invalidNumber
  | numberOutOfRange
  | invalidEscape
  | controlCharacter
  | loneSurrogate
  | unexpectedEndOfEscape
  deriving DecidableEq, Repr

/-- The reason as the message says it. -/
def Problem.text : Problem → String
  | .eofValue => "EOF while parsing a value"
  | .eofObject => "EOF while parsing an object"
  | .eofList => "EOF while parsing a list"
  | .eofString => "EOF while parsing a string"
  | .expectedValue => "expected value"
  | .expectedIdent => "expected ident"
  | .expectedColon => "expected \x60:\x60"
  | .expectedObjectEnd => "expected \x60,\x60 or \x60\x7d\x60"
  | .expectedListEnd => "expected \x60,\x60 or \x60]\x60"
  | .keyNotString => "key must be a string"
  | .trailingComma => "trailing comma"
  | .trailingCharacters => "trailing characters"
  | .invalidNumber => "invalid number"
  | .numberOutOfRange => "number out of range"
  | .invalidEscape => "invalid escape"
  | .controlCharacter => "control character (\\u0000-\\u001F) found while parsing a string"
  | .loneSurrogate => "lone leading surrogate in hex escape"
  | .unexpectedEndOfEscape => "unexpected end of hex escape"

/-- A refusal: the reason and the byte index whose position the message names. -/
structure Failure where
  problem : Problem
  index : Nat
  deriving Repr

/-- Where reading stands: the bytes left and how many were read. -/
structure Cursor where
  rest : List UInt8
  index : Nat

/-- A reader of a part of a document. -/
abbrev Reader := StateT Cursor (Except Failure)

/-- The next byte. -/
def peek : Reader (Option UInt8) := do return (← get).rest.head?

/-- Steps over a byte. -/
def bump : Reader Unit := modify fun c => match c.rest with
  | _ :: r => ⟨r, c.index + 1⟩
  | [] => c

/-- Refuses at the next byte. -/
def failNext (p : Problem) : Reader α := do
  let c ← get
  throw ⟨p, if c.rest.isEmpty then c.index else c.index + 1⟩

/-- Refuses at the last byte read. -/
def failHere (p : Problem) : Reader α := do throw ⟨p, (← get).index⟩

/-- Skips white space. -/
def skipSpace : Reader Unit := modify fun c =>
  let ws := c.rest.takeWhile fun b => b == 0x20 || b == 0x09 || b == 0x0A || b == 0x0D
  ⟨c.rest.drop ws.length, c.index + ws.length⟩

/-- Reads the rest of a word such as `null`. -/
def word (rest : List UInt8) : Reader Unit := do
  for b in rest do
    match ← peek with
    | none => failHere .eofValue
    | some x =>
      if x == b then bump
      else
        bump
        failHere .expectedIdent

/-- Four hex digits of an escape. With fewer than four bytes left the string ends
early; the four are read before their digits are judged. -/
def hex4 : Reader Nat := do
  let c ← get
  match c.rest with
  | a :: b :: d :: e :: rest =>
    set (⟨rest, c.index + 4⟩ : Cursor)
    match [a, b, d, e].mapM fun x => Text.Hex.digitValue? (Char.ofNat x.toNat) with
    | some vs => pure (vs.foldl (fun n v => n * 16 + v) 0)
    | none => failHere .invalidEscape
  | rest =>
    set (⟨[], c.index + rest.length⟩ : Cursor)
    failHere .eofString

/-- Steps over the next byte when it is the given one; otherwise steps over whatever
is there and refuses the escape as cut short. -/
def expectEscapeByte (b : UInt8) : Reader Unit := do
  match ← peek with
  | none => failHere .eofString
  | some x =>
    bump
    if x != b then failHere .unexpectedEndOfEscape

/-- Reads the rest of a string after its opening quote. -/
def string : Nat → List UInt8 → Reader String
  | 0, acc => pure (Text.Utf8.decodeLossy acc.reverse)
  | n + 1, acc => do
    match ← peek with
    | none => failHere .eofString
    | some 0x22 => bump; pure (Text.Utf8.decodeLossy acc.reverse)
    | some 0x5C =>
      bump
      match ← peek with
      | none => failHere .eofString
      | some e =>
        bump
        let simple : Option UInt8 := match e with
          | 0x22 => some 0x22 | 0x5C => some 0x5C | 0x2F => some 0x2F | 0x62 => some 0x08
          | 0x66 => some 0x0C | 0x6E => some 0x0A | 0x72 => some 0x0D | 0x74 => some 0x09
          | _ => none
        match simple with
        | some b => string n (b :: acc)
        | none =>
          if e != 0x75 then failHere .invalidEscape
          let hi ← hex4
          let code ← if 0xD800 ≤ hi && hi < 0xDC00 then do
              expectEscapeByte 0x5C
              expectEscapeByte 0x75
              let lo ← hex4
              if lo < 0xDC00 || lo > 0xDFFF then failHere .loneSurrogate
              pure (0x10000 + (hi - 0xD800) * 0x400 + (lo - 0xDC00))
            else if 0xDC00 ≤ hi && hi < 0xE000 then failHere .loneSurrogate
            else pure hi
          string n ((String.utf8EncodeChar (Char.ofNat code)).reverse ++ acc)
    | some b =>
      if b < 0x20 then bump; failHere .controlCharacter
      bump
      string n (b :: acc)

/-- Takes digit bytes. -/
def digits : Reader (List UInt8) := do
  let c ← get
  let ds := c.rest.takeWhile fun b => 0x30 ≤ b && b ≤ 0x39
  set (⟨c.rest.drop ds.length, c.index + ds.length⟩ : Cursor)
  return ds

/-- The largest unsigned 64-bit value. -/
def wordMax : Nat := Nat.pow 2 64 - 1

/-- Whether a digit byte. -/
def isDigit (b : UInt8) : Bool := 0x30 ≤ b && b ≤ 0x39

/-- Appends digits to a significand while it stays within a 64-bit word: the
significand, and the digits that did not fit, the first of them included. -/
def accumulate (s : Nat) : List UInt8 → Nat × List UInt8
  | [] => (s, [])
  | d :: rest =>
    let v := s * 10 + (d.toNat - 48)
    if v > wordMax then (s, d :: rest) else accumulate v rest

/-- The double nearest to a power of ten. -/
def powerOfTen (k : Nat) : Double := Double.ofNat (Nat.pow 10 k)

/-- Scales a double by a power of ten the way the reader does: by the double nearest to
the power when it is at most `10 ^ 308`, else, for a negative power, by `10 ^ -308`
first; a zero stays as it is. None when the product is past the largest double. Three
divisions by `10 ^ 308` bring every double to zero, which bounds the steps. -/
def scaleByTen : Nat → Double → Int → Option Double
  | fuel, f, e =>
    if e.natAbs ≤ 308 then
      if 0 ≤ e then
        let g := f.mul (powerOfTen e.toNat)
        if g.isFinite then some g else none
      else some (f.div (powerOfTen e.natAbs))
    else if f = .finite false 0 0 then some f
    else if 0 ≤ e then none
    else match fuel with
      | 0 => some (.finite false 0 0)
      | n + 1 => scaleByTen n (f.div (powerOfTen 308)) (e + 308)

/-- The double of a significand and a power of ten, with a sign. -/
def fromParts (negative : Bool) (significand : Nat) (exponent : Int) : Reader Value :=
  match scaleByTen 4 (Double.ofNat significand) exponent with
  | some d => pure (.float (if negative then d.neg else d))
  | none => failHere .numberOutOfRange

/-- An exponent clamped to a signed 32-bit word. -/
def clampExponent (e : Int) : Int := max (-(Nat.pow 2 31 : Int)) (min e ((Nat.pow 2 31 : Int) - 1))

/-- Reads an exponent after its letter and makes the double. An exponent past a 32-bit
word gives zero, unless the significand is not zero and the exponent positive. -/
def exponentPart (negative : Bool) (significand : Nat) (start : Int) : Reader Value := do
  bump
  let positiveExp ← match ← peek with
    | some 0x2B => bump; pure true
    | some 0x2D => bump; pure false
    | _ => pure true
  match ← peek with
  | none => failHere .eofValue
  | some b =>
    bump
    if !isDigit b then failHere .invalidNumber
    let ds ← digits
    let all := b :: ds
    let limit := Nat.pow 2 31 - 1
    -- the digits read up to the one that passes a 32-bit word
    let (exp, excess) := accumulateBelow limit 0 all
    match excess with
    | some used =>
      -- the reader stops right after the digit that overflowed
      let c ← get
      set (⟨(all.drop used) ++ c.rest, c.index - (all.length - used)⟩ : Cursor)
      if significand != 0 && positiveExp then failHere .numberOutOfRange
      let _ ← digits
      pure (.float (.finite negative 0 0))
    | none =>
      let e := if positiveExp then start + exp else start - exp
      fromParts negative significand (clampExponent e)
where
  /-- Appends digits while the value stays within a bound: the value, and how many
  digits were read when one passed the bound. -/
  accumulateBelow (limit : Nat) (v : Nat) : List UInt8 → Nat × Option Nat
    | [] => (v, none)
    | d :: rest =>
      let w := v * 10 + (d.toNat - 48)
      if w > limit then (v, some 1)
      else match accumulateBelow limit w rest with
        | (x, some k) => (x, some (k + 1))
        | r => r

/-- Reads the fraction after its point and goes on to the exponent. Fraction digits are
appended to the significand while it has room; the rest are passed over. -/
def fractionPart (negative : Bool) (significand : Nat) (start : Int) : Reader Value := do
  bump
  let ds ← digits
  let (s, excess) := accumulate significand ds
  let taken := ds.length - excess.length
  if ds.isEmpty then
    if (← peek).isNone then failHere .eofValue else failNext .invalidNumber
  let e := start - taken
  match ← peek with
  | some 0x65 | some 0x45 => exponentPart negative s e
  | _ => fromParts negative s e

/-- Reads a number at its first byte. -/
def number : Reader Value := do
  let negative := (← peek) == some 0x2D
  if negative then bump
  match ← peek with
  | none => failHere .eofValue
  | some 0x30 =>
    bump
    if (← peek).any isDigit then failNext .invalidNumber
    afterWhole negative 0 0 false
  | some b =>
    if !isDigit b then failNext .invalidNumber
    let ds ← digits
    let (s, excess) := accumulate 0 ds
    afterWhole negative s excess.length (!excess.isEmpty)
where
  /-- Goes on after the whole part: a significand, the power of ten that the digits
  past its room give, and whether there were such digits. -/
  afterWhole (negative : Bool) (s : Nat) (e : Nat) (long : Bool) : Reader Value := do
    match ← peek with
    | some 0x2E => fractionPart negative s e
    | some 0x65 | some 0x45 => exponentPart negative s e
    | _ =>
      if long then fromParts negative s e
      else if !negative then pure (.int s)
      else if s = 0 then pure (.float (.finite true 0 0))
      else if s ≤ Nat.pow 2 63 then pure (.int (-(s : Int)))
      else pure (.float (Double.ofRatio true s 1))

/-- Sets a key, the later of two equal keys winning. -/
def setKey (entries : List (String × Value)) (k : String) (v : Value) : List (String × Value) :=
  if entries.any (·.1 == k) then entries.map fun (k', x) => if k' == k then (k', v) else (k', x)
  else entries ++ [(k, v)]

mutual

/-- Reads a value. -/
def value : Nat → Reader Value
  | 0 => failNext .expectedValue
  | fuel + 1 => do
    skipSpace
    match ← peek with
    | none => failNext .eofValue
    | some 0x6E => bump; word [0x75, 0x6C, 0x6C]; pure .null
    | some 0x74 => bump; word [0x72, 0x75, 0x65]; pure (.bool true)
    | some 0x66 => bump; word [0x61, 0x6C, 0x73, 0x65]; pure (.bool false)
    | some 0x22 => bump; return .str (← string fuel [])
    | some 0x5B => bump; list fuel fuel [] true
    | some 0x7B => bump; object fuel fuel [] true
    | some b =>
      if b == 0x2D || (0x30 ≤ b && b ≤ 0x39) then number
      else failNext .expectedValue

/-- Reads the items of a list after its opening bracket. -/
def list (fuel : Nat) : Nat → List Value → Bool → Reader Value
  | 0, acc, _ => pure (.list acc.reverse)
  | n + 1, acc, first => do
    skipSpace
    match ← peek with
    | none => failNext .eofList
    | some 0x5D =>
      if first then bump; return .list acc.reverse
      else failNext .trailingComma
    | _ =>
      let v ← value fuel
      skipSpace
      match ← peek with
      | none => failNext .eofList
      | some 0x2C => bump; list fuel n (v :: acc) false
      | some 0x5D => bump; return .list (v :: acc).reverse
      | some _ => failNext .expectedListEnd

/-- Reads the entries of an object after its opening brace. -/
def object (fuel : Nat) : Nat → List (String × Value) → Bool → Reader Value
  | 0, acc, _ => pure (.table acc)
  | n + 1, acc, first => do
    skipSpace
    match ← peek with
    | none => failNext .eofObject
    | some 0x7D =>
      if first then bump; return .table acc
      else failNext .trailingComma
    | some 0x22 =>
      bump
      let key ← string fuel []
      skipSpace
      match ← peek with
      | none => failNext .eofObject
      | some 0x3A => bump
      | some _ => failNext .expectedColon
      let v ← value fuel
      skipSpace
      match ← peek with
      | none => failNext .eofObject
      | some 0x2C => bump; object fuel n (setKey acc key v) false
      | some 0x7D => bump; return .table (setKey acc key v)
      | some _ => failNext .expectedObjectEnd
    | some _ => failNext .keyNotString

end

/-- The line and column of a byte index: lines from 1, the column counting the bytes
since the last line break. -/
def position (bytes : List UInt8) (index : Nat) : Nat × Nat :=
  let before := bytes.take index
  let line := before.count 0x0A + 1
  let col := (before.reverse.takeWhile (· != 0x0A)).length
  (line, col)

/-- The text of a refusal. -/
def Failure.render (f : Failure) (bytes : List UInt8) : String :=
  let (line, col) := position bytes f.index
  s!"{f.problem.text} at line {line} column {col}"

/-- Reads a document, or the text of the refusal. -/
def parse (text : String) : Except String Value :=
  let bytes := Text.Utf8.encode text
  let fuel := bytes.length + 2
  let whole : Reader Value := do
    let v ← value fuel
    skipSpace
    if (← peek).isSome then failNext .trailingCharacters
    pure v
  match whole.run ⟨bytes, 0⟩ with
  | .ok (v, _) => .ok v
  | .error f => .error (f.render bytes)

end Confine.Settings.Json
