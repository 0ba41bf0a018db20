import Confine.Shell.Format
/-!
# Conditional expressions

The language of `test` and `[`. With three arguments whose middle one is a binary
operator, or with `(`…`)` or a leading `!` around fewer, the arguments are read by
count as the standard prescribes; otherwise by the grammar

    or   := and ("-o" and)*        and := not ("-a" not)*
    not  := "!" not | primary      primary := "(" or ")" | unary-op arg
                                           | arg binary-op arg | arg

A word that looks like a unary operator is an operand when the word after it is the
last one, or is followed by a binary operator. Numbers for the integer comparisons
are decimal, with optional sign and blanks around. A word left over is an error
naming the last word read.
-/

namespace Confine.Shell.Condition

/-- What a file test can see of a path. -/
inductive Kind where
  | regular (size : Nat)
  | directory
  | charDevice
  | other
  deriving DecidableEq, Repr

/-- The questions the evaluator asks of the host. -/
structure Probe where
  /-- The kind of what a path names, following links; `none` if nothing. -/
  kind : String → Option Kind
  /-- Whether a path is itself a symbolic link. -/
  isLink : String → Bool
  /-- Whether a descriptor is a terminal. -/
  isTerminal : Nat → Bool
  /-- Where a path leads, following links, as the names from the root; `none` if
  nothing is there. Two paths name one file when they lead to one place. -/
  place : String → Option (List String)

/-- Why an expression is malformed. -/
inductive Error where
  | missingBracket
  | unexpectedOperator (word : String)
  | argumentExpected (op : Option String)
  | closingParen
  | illegalNumber (word : String)
  deriving DecidableEq, Repr

def Error.message : Error → String
  | .missingBracket => "missing ]"
  | .unexpectedOperator w => w ++ ": unexpected operator"
  | .argumentExpected (some op) => op ++ ": argument expected"
  | .argumentExpected none => "argument expected"
  | .closingParen => "closing paren expected"
  | .illegalNumber w => "Illegal number: " ++ w

def unaryOps : List String :=
  ["-r", "-w", "-x", "-e", "-f", "-d", "-c", "-b", "-p", "-u", "-g", "-k", "-s", "-t", "-z",
   "-n", "-h", "-L", "-S", "-O", "-G"]

def binaryOps : List String :=
  ["=", "!=", "<", ">", "-eq", "-ne", "-ge", "-gt", "-le", "-lt", "-nt", "-ot", "-ef"]

/-- Token classes of a word at a position. -/
inductive Tok where
  | eoi
  | operand
  | unary (op : String)
  | binary (op : String)
  | bor | band | bnot | lparen | rparen
  deriving DecidableEq, Repr

/-- A word read as an operator, if it is one. -/
def opOf (s : String) : Option Tok :=
  if unaryOps.contains s then some (.unary s)
  else if binaryOps.contains s then some (.binary s)
  else if s = "-o" then some .bor
  else if s = "-a" then some .band
  else if s = "!" then some .bnot
  else if s = "(" then some .lparen
  else if s = ")" then some .rparen
  else none

def isBinary (s : String) : Bool := binaryOps.contains s

/-- The class of the word at the head of `ws`: a unary operator followed by a last
word or by a binary operator is an operand, and so is a `(` that is last. -/
def classify (ws : List String) : Tok :=
  match ws with
  | [] => .eoi
  | s :: rest =>
    match opOf s with
    | some (.unary op) =>
      let operandHere := match rest with
        | [] => true
        | [_] => false
        | next :: _ => isBinary next
      if operandHere then .operand else .unary op
    | some .lparen => if rest.isEmpty then .operand else .lparen
    | some t => t
    | none => .operand

/-- A decimal number as the comparisons read it. -/
def number (s : String) : Except Error Int :=
  let cs := s.toList.dropWhile Arith.isBlank
  let (neg, body) := match cs with
    | '-' :: r => (true, r)
    | '+' :: r => (false, r)
    | r => (false, r)
  let (used, v, rest) := Arith.digitsIn 10 body 0
  if used = 0 || !(rest.dropWhile Arith.isBlank).isEmpty then .error (.illegalNumber s)
  else .ok (Arith.saturate (if neg then -(v : Int) else v))

/-- A file test. -/
def fileTest (p : Probe) (op : String) (arg : String) : Except Error Bool :=
  match op with
  | "-z" => pure arg.isEmpty
  | "-n" => pure (!arg.isEmpty)
  | "-t" => do
    let n ← number arg
    pure (n ≥ 0 && p.isTerminal n.toNat)
  | "-h" | "-L" => pure (p.isLink arg)
  | _ =>
    let k := p.kind arg
    pure <| match op with
      | "-e" => k.isSome
      | "-f" => match k with | some (.regular _) => true | _ => false
      | "-d" => k == some .directory
      | "-c" => k == some .charDevice
      | "-s" => match k with
        | some (.regular n) => n > 0
        | some .directory => true
        | _ => false
      | "-r" | "-w" | "-O" | "-G" => k.isSome
      | "-x" => match k with | some .directory => true | _ => false
      | _ => false

/-- A binary comparison. Files carry no times here, so neither of two is newer. -/
def compare (p : Probe) (op a b : String) : Except Error Bool :=
  match op with
  | "=" => pure (a = b)
  | "!=" => pure (a ≠ b)
  | "<" => pure (decide (a < b))
  | ">" => pure (decide (b < a))
  | "-ef" =>
    pure <| match p.place a, p.place b with
      | some x, some y => x == y
      | _, _ => false
  | "-nt" | "-ot" => pure false
  | _ => do
    let x ← number a
    let y ← number b
    pure <| match op with
      | "-eq" => x = y
      | "-ne" => x ≠ y
      | "-ge" => x ≥ y
      | "-gt" => x > y
      | "-le" => x ≤ y
      | _ => x < y

/-- The grammar, over the words left. Each function returns its value and the words
after the last one it read, with that last word. -/
abbrev Parse := StateT (List String × String) (Except Error)

def peekTok : Parse Tok := do return classify (← get).1

def take : Parse String := do
  let (ws, last) ← get
  match ws with
  | w :: rest => set (rest, w); pure w
  | [] => set (ws, last); pure ""

section
variable (p : Probe)

mutual

def orExpr : Nat → Parse Bool
  | 0 => throw (.argumentExpected none)
  | n + 1 => do
    let a ← andExpr n
    if (← peekTok) == .bor then
      let _ ← take
      let b ← orExpr n
      pure (a || b)
    else pure a

def andExpr : Nat → Parse Bool
  | 0 => throw (.argumentExpected none)
  | n + 1 => do
    let a ← notExpr n
    if (← peekTok) == .band then
      let _ ← take
      let b ← andExpr n
      pure (a && b)
    else pure a

def notExpr : Nat → Parse Bool
  | 0 => throw (.argumentExpected none)
  | n + 1 => do
    if (← peekTok) == .bnot then
      let _ ← take
      pure (!(← notExpr n))
    else primary n

def primary : Nat → Parse Bool
  | 0 => throw (.argumentExpected none)
  | n + 1 => do
    match ← peekTok with
    | .eoi => pure false
    | .lparen =>
      let _ ← take
      if (← peekTok) == .rparen then
        let _ ← take
        pure false
      else
        let v ← orExpr n
        if (← peekTok) != .rparen then throw .closingParen
        let _ ← take
        pure v
    | .unary op =>
      let _ ← take
      match (← get).1 with
      | [] => throw (.argumentExpected (some op))
      | _ =>
        let arg ← take
        match fileTest p op arg with
        | .ok v => pure v
        | .error e => throw e
    | _ =>
      let a ← take
      match (← get).1 with
      | op :: _ :: _ =>
        if isBinary op then
          let _ ← take
          let b ← take
          match compare p op a b with
          | .ok v => pure v
          | .error e => throw e
        else pure (!a.isEmpty)
      | [op] =>
        if isBinary op then
          let _ ← take
          throw (.argumentExpected (some op))
        else pure (!a.isEmpty)
      | [] => pure (!a.isEmpty)

end

end

/-- Evaluate by the grammar; a word left over is an error. -/
def byGrammar (p : Probe) (ws : List String) : Except Error Bool := do
  let (v, (rest, last)) ← (orExpr p (4 * ws.length + 8)).run (ws, "")
  match rest with
  | [] => pure v
  | _ => throw (.unexpectedOperator last)

/-- Evaluate the arguments of `test`: the counted special cases first. -/
def evaluate (p : Probe) (ws : List String) : Except Error Bool :=
  go ws.length ws false
where
  go : Nat → List String → Bool → Except Error Bool
  | 0, ws, neg => (byGrammar p ws).map (· != neg)
  | fuel + 1, ws, neg =>
    match ws with
    | [] => pure neg
    | [a, op, b] =>
      if isBinary op then (compare p op a b).map (· != neg)
      else fourCase fuel ws neg
    | [_, _, _, _] => fourCase fuel ws neg
    | _ => (byGrammar p ws).map (· != neg)
  fourCase (fuel : Nat) (ws : List String) (neg : Bool) : Except Error Bool :=
    if ws.head? == some "(" && ws.getLast? == some ")" then
      (byGrammar p (ws.drop 1).dropLast).map (· != neg)
    else if ws.head? == some "!" then go fuel (ws.drop 1) (!neg)
    else (byGrammar p ws).map (· != neg)

/-- `[`: the last argument must be `]`. -/
def bracket (p : Probe) (ws : List String) : Except Error Bool :=
  if ws.getLast? == some "]" then evaluate p ws.dropLast else .error .missingBracket

end Confine.Shell.Condition
