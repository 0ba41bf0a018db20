/-!
# Shell arithmetic

The language of `$(( … ))`: signed 64-bit integers that wrap, C operators with C
precedence, assignment operators on shell variables, and short-circuit `&&`, `||`
and `?:` that skip both assignments and errors in the branch not taken.

Numbers are read as C's `strtoimax` with base 0 reads them: `0x` for hexadecimal, a
leading `0` for octal, decimal otherwise, saturating on overflow. A variable's value
is read the same way, may carry a sign and surrounding blanks, and an empty or unset
variable is zero; any other text, or a value out of range, is an illegal number.
Division truncates toward zero; dividing the least number by minus one is refused
as the processor refuses it. A shift uses its count modulo 64.

Errors carry the whole expression text, as the shell reports them.
-/

namespace Confine.Shell.Arith

/-- Binary operators, tightest first in `prec`. -/
inductive BinOp where
  | mul | div | rem | add | sub | shl | shr | lt | le | gt | ge | eq | ne
  | band | bxor | bor
  deriving DecidableEq, Repr

/-- Tokens of an arithmetic expression. -/
inductive Token where
  | num (value : Int)
  | var (name : String)
  | bin (op : BinOp)
  /-- `=` when `op` is none, else the compound assignment `op=`. -/
  | assign (op : Option BinOp)
  | land | lor | not | bnot | lparen | rparen | question | colon
  /-- A character that starts no token. -/
  | bad
  | stop
  deriving DecidableEq, Repr

/-- Binding strength of a binary operator: lower binds tighter. -/
def BinOp.prec : BinOp → Nat
  | .mul | .div | .rem => 0
  | .add | .sub => 1
  | .shl | .shr => 2
  | .lt | .le | .gt | .ge => 3
  | .eq | .ne => 4
  | .band => 5
  | .bxor => 6
  | .bor => 7

/-- One past the loosest binary precedence. -/
def maxPrec : Nat := 8

/-- Wrap an integer to the signed 64-bit range. -/
def wrap (x : Int) : Int := Int.bmod x (Nat.pow 2 64)

/-- The 64-bit two's complement pattern of an integer. -/
def bits (x : Int) : Nat := (x % (Nat.pow 2 64 : Int)).toNat

/-- The signed value of a 64-bit pattern. -/
def ofBits (n : Nat) : Int := wrap n

def largest : Int := (Nat.pow 2 63 : Int) - 1
def smallest : Int := -(Nat.pow 2 63 : Int)

/-- Saturate to the signed 64-bit range, as a conversion that overflows does. -/
def saturate (x : Int) : Int := if x > largest then largest else if x < smallest then smallest else x

def digitValue (c : Char) : Nat :=
  if c.isDigit then c.toNat - '0'.toNat
  else if 'a' ≤ c && c ≤ 'z' then c.toNat - 'a'.toNat + 10
  else if 'A' ≤ c && c ≤ 'Z' then c.toNat - 'A'.toNat + 10
  else 99

/-- Leading digits of `base`, their value and the rest. -/
def digitsIn (base : Nat) : List Char → Nat → Nat × Nat × List Char
  | c :: cs, acc =>
    if digitValue c < base then
      let r := digitsIn base cs (acc * base + digitValue c)
      (r.1 + 1, r.2)
    else (0, acc, c :: cs)
  | [], acc => (0, acc, [])

/-- An unsigned number as `strtoimax` with base 0 reads it: the value, how many
characters it used (0 if none), and the rest. -/
def readMagnitude (cs : List Char) : Nat × Nat × List Char :=
  match cs with
  | '0' :: x :: rest =>
    if (x = 'x' || x = 'X') && (match rest with | d :: _ => digitValue d < 16 | [] => false) then
      let (n, v, r) := digitsIn 16 rest 0
      (n + 2, v, r)
    else
      let (n, v, r) := digitsIn 8 (x :: rest) 0
      (n + 1, v, r)
  | _ =>
    let (n, v, r) := digitsIn 10 cs 0
    (n, v, r)

def isBlank (c : Char) : Bool := c = ' ' || c = '\t' || c = '\n' || c = '\r' || c = '\x0b' || c = '\x0c'

/-- A variable's value as a number: `none` for an illegal number. -/
def valueOf? (s : String) : Option Int :=
  let cs := s.toList.dropWhile isBlank
  let (neg, body) := match cs with
    | '-' :: r => (true, r)
    | '+' :: r => (false, r)
    | r => (false, r)
  let (used, v, rest) := readMagnitude body
  let value : Int := if neg then -(v : Int) else v
  if used = 0 then
    if (s.toList.dropWhile isBlank).isEmpty then some 0 else none
  else if value > largest || value < smallest then none
  else if (rest.dropWhile isBlank).isEmpty then some value else none

def isNameStart (c : Char) : Bool := c.isAlpha || c = '_'
def isNameChar (c : Char) : Bool := c.isAlphanum || c = '_'

/-- The token after an operator character that may be followed by `=`. -/
def withAssign (op : BinOp) : List Char → Token × List Char
  | '=' :: r => (.assign (some op), r)
  | r => (.bin op, r)

/-- The next token and the rest of the text. -/
def next : List Char → Token × List Char
  | [] => (.stop, [])
  | c :: rest =>
    if c = ' ' || c = '\t' || c = '\n' then next rest
    else if c.isDigit then
      let (_, v, r) := readMagnitude (c :: rest)
      (.num (saturate v), r)
    else if isNameStart c then
      let name := rest.takeWhile isNameChar
      (.var (String.ofList (c :: name)), rest.dropWhile isNameChar)
    else match c, rest with
      | '=', '=' :: r => (.bin .eq, r)
      | '=', r => (.assign none, r)
      | '>', '=' :: r => (.bin .ge, r)
      | '>', '>' :: r => withAssign .shr r
      | '>', r => (.bin .gt, r)
      | '<', '=' :: r => (.bin .le, r)
      | '<', '<' :: r => withAssign .shl r
      | '<', r => (.bin .lt, r)
      | '|', '|' :: r => (.lor, r)
      | '|', r => withAssign .bor r
      | '&', '&' :: r => (.land, r)
      | '&', r => withAssign .band r
      | '!', '=' :: r => (.bin .ne, r)
      | '!', r => (.not, r)
      | '(', r => (.lparen, r)
      | ')', r => (.rparen, r)
      | '*', r => withAssign .mul r
      | '/', r => withAssign .div r
      | '%', r => withAssign .rem r
      | '+', r => withAssign .add r
      | '-', r => withAssign .sub r
      | '~', r => (.bnot, r)
      | '^', r => withAssign .bxor r
      | '?', r => (.question, r)
      | ':', r => (.colon, r)
      | _, r => (.bad, r)

/-- The tokens of a text, ending with `stop` (or at the first `bad`, which ends
reading as well). -/
def tokenize (cs : List Char) : List Token :=
  go cs.length cs
where
  go : Nat → List Char → List Token
  | 0, _ => [.stop]
  | fuel + 1, cs =>
    match next cs with
    | (.stop, _) => [.stop]
    | (.bad, _) => [.bad]
    | (t, r) => t :: go fuel r

/-- Why an expression has no value. -/
inductive Error where
  | expectingPrimary
  | expectingEof
  | expectingParen
  | expectingColon
  | divisionByZero
  | illegalNumber (text : String)
  /-- The least number divided by minus one, which the processor refuses with a
  floating-point exception signal. -/
  | quotientTrap
  deriving DecidableEq, Repr

/-- The shell's message for an error in the expression `source`. -/
def Error.message (source : String) : Error → String
  | .expectingPrimary => "arithmetic expression: expecting primary: \"" ++ source ++ "\""
  | .expectingEof => "arithmetic expression: expecting EOF: \"" ++ source ++ "\""
  | .expectingParen => "arithmetic expression: expecting ')': \"" ++ source ++ "\""
  | .expectingColon => "arithmetic expression: expecting ':': \"" ++ source ++ "\""
  | .divisionByZero => "arithmetic expression: division by zero: \"" ++ source ++ "\""
  | .illegalNumber t => "Illegal number: " ++ t
  | .quotientTrap => "arithmetic exception"

/-- Apply a binary operator; division and remainder by zero fail. -/
def apply (op : BinOp) (a b : Int) : Except Error Int :=
  let truth (p : Bool) : Int := if p then 1 else 0
  match op with
  | .mul => pure (wrap (a * b))
  | .div =>
    if b = 0 then throw .divisionByZero
    else if a = smallest && b = -1 then throw .quotientTrap
    else pure (wrap (Int.tdiv a b))
  | .rem =>
    if b = 0 then throw .divisionByZero
    else if a = smallest && b = -1 then throw .quotientTrap
    else pure (wrap (Int.tmod a b))
  | .add => pure (wrap (a + b))
  | .sub => pure (wrap (a - b))
  | .shl => pure (wrap (a * (Nat.pow 2 (bits b % 64) : Int)))
  | .shr => pure (Int.fdiv a (Nat.pow 2 (bits b % 64) : Int))
  | .lt => pure (truth (decide (a < b)))
  | .le => pure (truth (decide (a ≤ b)))
  | .gt => pure (truth (decide (a > b)))
  | .ge => pure (truth (decide (a ≥ b)))
  | .eq => pure (truth (decide (a = b)))
  | .ne => pure (truth (decide (a ≠ b)))
  | .band => pure (ofBits (bits a &&& bits b))
  | .bxor => pure (ofBits (bits a ^^^ bits b))
  | .bor => pure (ofBits (bits a ||| bits b))

/-- The evaluation state: the tokens left and the variables assigned so far, newest
first, over the shell's own lookup. -/
structure State where
  tokens : List Token
  assigned : List (String × Int)

abbrev Eval := StateT State (Except Error)

def peek : Eval Token := do
  match (← get).tokens with
  | t :: _ => pure t
  | [] => pure .stop

def advance : Eval Unit := modify fun s => { s with tokens := s.tokens.drop 1 }

section
variable (lookup : String → Option String)

/-- The value of a variable: assigned in this expression, or the shell's. -/
def value (name : String) : Eval Int := do
  match (← get).assigned.lookup name with
  | some v => pure v
  | none =>
    let text := (lookup name).getD ""
    match valueOf? text with
    | some v => pure v
    | none => throw (.illegalNumber text)

mutual

/-- Evaluation by precedence climbing; `skip` suppresses effects and errors in a
branch that is not taken. The fuel bounds the nesting, which the token count bounds. -/
def assignment : Nat → Bool → Eval Int
  | 0, _ => throw .expectingPrimary
  | fuel + 1, skip => do
    let s ← get
    match s.tokens with
    | .var name :: .assign op :: _ =>
      advance; advance
      let rhs ← assignment fuel skip
      if skip then pure rhs
      else
        let result ← match op with
          | none => pure rhs
          | some o => do apply o (← value lookup name) rhs
        modify fun st => { st with assigned := (name, result) :: st.assigned }
        pure result
    | _ => conditional fuel skip

/-- `a ? b : c`, right-associative. -/
def conditional : Nat → Bool → Eval Int
  | 0, _ => throw .expectingPrimary
  | fuel + 1, skip => do
    let a ← logical fuel true skip
    if (← peek) != .question then pure a
    else
      advance
      let b ← assignment fuel (skip || a == 0)
      if (← peek) != .colon then throw .expectingColon
      advance
      let c ← conditional fuel (skip || a != 0)
      pure (if a != 0 then b else c)

/-- `||` when `orLevel`, else `&&`; both right-nested and short-circuit. -/
def logical : Nat → Bool → Bool → Eval Int
  | 0, _, _ => throw .expectingPrimary
  | fuel + 1, orLevel, skip => do
    let a ← if orLevel then logical fuel false skip else binary fuel maxPrec skip
    let tok := if orLevel then Token.lor else Token.land
    if (← peek) != tok then pure a
    else
      advance
      let b ← logical fuel orLevel (if orLevel then skip || a != 0 else skip || a == 0)
      pure (if orLevel then (if a != 0 || b != 0 then 1 else 0)
        else (if a != 0 && b != 0 then 1 else 0))

/-- Binary operators binding tighter than `limit`, left-associative. -/
def binary : Nat → Nat → Bool → Eval Int
  | 0, _, _ => throw .expectingPrimary
  | fuel + 1, limit, skip => do
    let a ← unary fuel skip
    climb fuel limit skip a

def climb : Nat → Nat → Bool → Int → Eval Int
  | 0, _, _, _ => throw .expectingPrimary
  | fuel + 1, limit, skip, a => do
    match (← peek) with
    | .bin op =>
      if op.prec < limit then
        advance
        let b ← binary fuel op.prec skip
        let r ← if skip then pure b else apply op a b
        climb fuel limit skip r
      else pure a
    | _ => pure a

/-- Numbers, variables, parentheses and the prefix operators. -/
def unary : Nat → Bool → Eval Int
  | 0, _ => throw .expectingPrimary
  | fuel + 1, skip => do
    let t ← peek
    advance
    match t with
    | .num v => pure v
    | .var name => if skip then pure 0 else value lookup name
    | .lparen =>
      let v ← assignment fuel skip
      if (← peek) != .rparen then throw .expectingParen
      advance
      pure v
    | .bin .add => unary fuel skip
    | .bin .sub => do pure (wrap (-(← unary fuel skip)))
    | .not => do pure (if (← unary fuel skip) == 0 then 1 else 0)
    | .bnot => do pure (wrap (-(← unary fuel skip) - 1))
    | _ => throw .expectingPrimary

end

end

/-- Evaluate an expression: its value and the assignments it made, in order. -/
def eval (lookup : String → Option String) (source : String) :
    Except Error (Int × List (String × Int)) := do
  let toks := tokenize source.toList
  let fuel := 16 * (toks.length + 2)
  let (v, st) ← (assignment lookup fuel false).run ⟨toks, []⟩
  match st.tokens with
  | .stop :: _ | [] => pure (v, st.assigned.reverse)
  | _ => throw .expectingEof

/-- The decimal text of a value. -/
def render (v : Int) : String := toString v

theorem wrap_range (x : Int) : smallest ≤ wrap x ∧ wrap x ≤ largest := by
  unfold wrap smallest largest
  have h64 : Nat.pow 2 64 = 18446744073709551616 := rfl
  have h63 : Nat.pow 2 63 = 9223372036854775808 := rfl
  have lo := @Int.le_bmod x (Nat.pow 2 64) (by rw [h64]; decide)
  have hi := @Int.bmod_lt x (Nat.pow 2 64) (by rw [h64]; decide)
  rw [h64] at lo hi
  rw [h64, h63]
  omega

end Confine.Shell.Arith
