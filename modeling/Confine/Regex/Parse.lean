import Confine.Regex.Basic

/-!
# Reading a regular expression

A pattern is read in one of two dialects. In a *basic* expression `\(`, `\)`, `\{`,
`\}`, `\|`, `\+` and `\?` are the operators and the bare characters stand for
themselves; `*` at the start of an expression, `^` anywhere but at the start, and `$`
anywhere but at the end are ordinary characters. In an *extended* expression the
operators are bare, `^` and `$` always anchor, a repetition operator with nothing to
repeat is dropped, a `\x7b` that does not start a valid interval is an ordinary
character, and so is a `)` that closes nothing.

Both dialects know bracket expressions with ranges and the classes of the C locale,
back references `\1` to `\9` to groups already closed, and the word operators `\w`,
`\W`, `\s`, `\S`, `\b`, `\B`, `\<`, `\>`, and the subject anchors.

Reading also collects warnings about a backslash before a character it does not
make special, and about a repetition operator at the start of an extended
expression. A bracket expression written like a class without its outer brackets
(`[:space:]`) is refused once the rest of the pattern has read well.
-/

namespace Confine.Regex

/-- The dialect a pattern is written in. -/
inductive Dialect where
  | basic
  | extended
  deriving Repr, BEq

/-- The reader's state: the bytes left, the groups opened and closed so far, how deep
the groups are open, the warnings in reverse order, and whether a bracket expression
looked like a bare class. -/
structure Reader where
  rest : List UInt8
  opened : Nat := 0
  closed : List Nat := []
  depth : Nat := 0
  warnings : List String := []
  confusing : Bool := false

/-- Reading a pattern: the reader's state, and the problem that stops it. -/
abbrev ReadM := StateT Reader (Except Problem)

namespace Read

def peek : ReadM (Option UInt8) := do return (← get).rest.head?

def peekAt (n : Nat) : ReadM (Option UInt8) := do return (← get).rest[n]?

def bump : ReadM Unit := modify fun r => { r with rest := r.rest.drop 1 }

def warn (msg : String) : ReadM Unit := modify fun r => { r with warnings := msg :: r.warnings }

/-- The byte of an ASCII character. -/
def code (c : Char) : UInt8 := c.toNat.toUInt8

/-- The ranges of a character class of the C locale. -/
def classRanges : String → Option (List (UInt8 × UInt8))
  | "alpha" => some [(65, 90), (97, 122)]
  | "digit" => some [(48, 57)]
  | "alnum" => some [(48, 57), (65, 90), (97, 122)]
  | "upper" => some [(65, 90)]
  | "lower" => some [(97, 122)]
  | "space" => some [(9, 13), (32, 32)]
  | "blank" => some [(9, 9), (32, 32)]
  | "punct" => some [(33, 47), (58, 64), (91, 96), (123, 126)]
  | "print" => some [(32, 126)]
  | "graph" => some [(33, 126)]
  | "cntrl" => some [(0, 31), (127, 127)]
  | "xdigit" => some [(48, 57), (65, 70), (97, 102)]
  | _ => none

/-- The word constituents. -/
def wordRanges : List (UInt8 × UInt8) := [(48, 57), (65, 90), (95, 95), (97, 122)]

/-- The text of bytes, one character each. -/
def text (bs : List UInt8) : String := String.ofList (bs.map fun b => Char.ofNat b.toNat)

/-- The name between `[:` and `:]` (or the same with `=` or `.`), the opening already
read: the bytes up to the closing pair, which is read too. -/
def bracketName (mark : UInt8) : ReadM (List UInt8) := do
  let r ← get
  let rec find : List UInt8 → List UInt8 → Option (List UInt8 × List UInt8)
    | a :: b :: rest, acc => if a = mark && b = code ']' then some (acc.reverse, rest) else find (b :: rest) (a :: acc)
    | _, _ => none
  match find r.rest [] with
  | some (name, rest) => set { r with rest }; return name
  | none => throw .unmatchedBracket

/-- One element of a bracket expression that can end a range: a byte, or a
collating symbol of one byte. -/
inductive Element where
  | byte (b : UInt8)
  | ranges (rs : List (UInt8 × UInt8))

/-- Reads one element of a bracket expression. -/
def element : ReadM Element := do
  match ← peek, ← peekAt 1 with
  | none, _ => throw .unmatchedBracket
  | some 91, some m =>
    if m = code ':' then
      bump; bump
      let name ← bracketName m
      match classRanges (text name) with
      | some rs => return .ranges rs
      | none => throw .badClass
    else if m = code '=' || m = code '.' then
      bump; bump
      match ← bracketName m with
      | [b] => return .byte b
      | _ => throw .badCollation
    else bump; return .byte 91
  | some b, _ => bump; return .byte b

/-- A bracket expression after its `[`. -/
def bracket : ReadM ByteSet := do
  let negated := (← peek) = some (code '^')
  if negated then bump
  let body := (← get).rest
  let mut ranges : List (UInt8 × UInt8) := []
  let mut first := true
  for _ in [0:body.length + 1] do
    match ← peek with
    | none => throw .unmatchedBracket
    | some b =>
      if b = code ']' && !first then
        bump
        break
      first := false
      match ← element with
      | .ranges rs => ranges := ranges ++ rs
      | .byte lo =>
        if (← peek) = some (code '-') && (← peekAt 1) != some (code ']') && (← peekAt 1).isSome then
          bump
          match ← element with
          | .byte hi =>
            if hi < lo then throw .badRange
            ranges := ranges ++ [(lo, hi)]
          | .ranges _ => throw .badRange
        else ranges := ranges ++ [(lo, lo)]
  -- the text between the brackets, to see whether it reads like a bare class
  let used := body.take (body.length - (← get).rest.length)
  let inner := used.dropLast
  if inner.head? = some (code ':') && inner.getLast? = some (code ':') && inner.any (· != code ':') then
    modify fun r => { r with confusing := true }
  return { negated, ranges }

/-- The outcome of reading an interval after its opening brace. -/
inductive Interval where
  /-- A valid interval. -/
  | bounds (least : Nat) (most : Option Nat)
  /-- Not an interval: the brace is an ordinary character. -/
  | ordinary

/-- The largest count an interval may give. -/
def dupMax : Nat := 32767

/-- Whether the closing brace of an interval is at hand. -/
def atClose (d : Dialect) : ReadM Bool := do
  match d with
  | .extended => return (← peek) = some (code '}')
  | .basic => return (← peek) = some (code '\\') && (← peekAt 1) = some (code '}')

/-- Reads a number of an interval up to the closing brace or a comma, which are left
unread. The result is `none` when there are no digits and `some none` when anything
but digits stands there; the flag tells whether the pattern ran out first. -/
def intervalNumber (d : Dialect) : ReadM (Option (Option Nat) × Bool) := do
  let mut n : Option (Option Nat) := none
  for _ in [0:(← get).rest.length + 1] do
    if ← atClose d then return (n, false)
    match ← peek with
    | none => return (some none, true)
    | some b =>
      if b = code ',' then return (n, false)
      bump
      if b = code '\\' then
        if (← peek).isSome then bump
        n := some none
      else if code '0' ≤ b && b ≤ code '9' then
        let v := (b - code '0').toNat
        n := some (match n with
          | none => some v
          | some (some m) => some (Nat.min (dupMax + 1) (m * 10 + v))
          | some none => none)
      else n := some none
  return (some none, true)

/-- Reads an interval after its opening brace. `\x7bn\x7d`, `\x7bn,\x7d`, `\x7bn,m\x7d` and
`\x7b,m\x7d` are intervals. One that is not well formed is an error in a basic expression
(an unmatched brace when the pattern runs out) and an ordinary brace in an extended
one, where reading goes on just after the brace. Bounds out of order or a stray comma
are errors in both, and so is a bound above `dupMax`. -/
def interval (d : Dialect) : ReadM Interval := do
  let saved ← get
  let (first, ranOut) ← interval.first d
  let invalid (ranOut : Bool) : ReadM Interval := do
    match d with
    | .extended => set saved; return .ordinary
    | .basic => throw (if ranOut then .unmatchedBrace else .badInterval)
  match first with
  | some none => invalid ranOut
  | _ =>
    let least := match first with
      | some (some v) => v
      | _ => 0
    let (most, ranOut2) ← if ← atClose d then pure (some (some least), false)
      else do
        bump
        let (second, ranOut2) ← intervalNumber d
        match second with
        | none => pure (some none, ranOut2)
        | some (some v) => pure (some (some v), ranOut2)
        | some none => pure (none, ranOut2)
    match most with
    | none => invalid ranOut2
    | some m =>
      if !(← atClose d) then throw .badInterval
      if m.any (· < least) then throw .badInterval
      if m.getD least > dupMax then throw .tooBig
      match d with
      | .extended => bump
      | .basic => bump; bump
      return .bounds least m
where
  /-- The first number: `{}` with no digits and no comma is an error in both dialects. -/
  first (d : Dialect) : ReadM (Option (Option Nat) × Bool) := do
    let (n, ranOut) ← intervalNumber d
    match n with
    | none => if (← peek) = some (code ',') then return (some (some 0), false) else throw .badInterval
    | _ => return (n, ranOut)

/-- The bytes after which a backslash is meaningful to the matcher, so that no
warning is given for it. -/
def escapable : List Char :=
  ['\\', '^', '$', '1', '2', '3', '4', '5', '6', '7', '8', '9', '`', '\'', '<', '>', 'b', 'B',
   '?', '*', '+', '\x7b', '|', '\n', '(', ')', '.', 's', 'S', 'w', 'W', '[']

/-- The warning for a backslash before a byte that it does not make special. -/
def strayWarning (b : UInt8) : String :=
  if b < 32 || b ≥ 127 then "stray \\ before unprintable character"
  else if b = 32 then "stray \\ before white space"
  else "stray \\ before " ++ String.singleton (Char.ofNat b.toNat)

/-- An escape after its backslash, other than the dialect's operators. -/
def escape : ReadM Pattern := do
  match ← peek with
  | none => throw .trailingBackslash
  | some b =>
    bump
    let c := Char.ofNat b.toNat
    if '1' ≤ c && c ≤ '9' then
      let k := c.toNat - '0'.toNat
      if (← get).closed.contains k then return .backref k else throw .badBackref
    match c with
    | 'w' => return .byte { ranges := wordRanges }
    | 'W' => return .byte { negated := true, ranges := wordRanges }
    | 's' => return .byte { ranges := [(9, 13), (32, 32)] }
    | 'S' => return .byte { negated := true, ranges := [(9, 13), (32, 32)] }
    | 'b' => return .anchor .wordBoundary
    | 'B' => return .anchor .notWordBoundary
    | '<' => return .anchor .wordStart
    | '>' => return .anchor .wordEnd
    | '`' => return .anchor .start
    | '\'' => return .anchor .finish
    | _ =>
      if !escapable.contains c then warn (strayWarning b)
      return .byte (.single b)

/-- Whether an expression matches only the empty string at a place. -/
def isAnchor : Pattern → Bool
  | .anchor _ => true
  | _ => false

/-- The repetition operator at hand, if any, read and applied to an expression. -/
def repetition (d : Dialect) (r : Pattern) : ReadM (Option Pattern) := do
  match d, ← peek, ← peekAt 1 with
  | _, some 42, _ => bump; return some (.rep r 0 none)
  | .extended, some 43, _ => bump; return some (.rep r 1 none)
  | .extended, some 63, _ => bump; return some (.rep r 0 (some 1))
  | .extended, some 123, _ =>
    let saved ← get
    bump
    match ← interval d with
    | .bounds l m => return some (.rep r l m)
    | .ordinary => set saved; return none
  | .basic, some 92, some 43 => bump; bump; return some (.rep r 1 none)
  | .basic, some 92, some 63 => bump; bump; return some (.rep r 0 (some 1))
  | .basic, some 92, some 123 =>
    bump; bump
    match ← interval d with
    | .bounds l m => return some (.rep r l m)
    | .ordinary => return none
  | _, _, _ => return none

mutual

/-- Alternatives up to the end of the pattern or of the group open. -/
def alternation (d : Dialect) : Nat → ReadM Pattern
  | 0 => throw .tooBig
  | fuel + 1 => do
    let first ← branch d fuel
    let mut alts := [first]
    for _ in [0:(← get).rest.length + 1] do
      match d, ← peek, ← peekAt 1 with
      | .extended, some 124, _ =>
        bump
        alts := alts ++ [← branch d fuel]
      | .basic, some 92, some 124 =>
        bump; bump
        alts := alts ++ [← branch d fuel]
      | _, _, _ => break
    return Pattern.altAll alts

/-- A branch: pieces up to an alternation bar, the end of a group or the end. -/
def branch (d : Dialect) : Nat → ReadM Pattern
  | 0 => throw .tooBig
  | fuel + 1 => do
    let mut items : List Pattern := []
    let mut atStart := true
    for _ in [0:(← get).rest.length + 1] do
      let c ← peek
      let c1 ← peekAt 1
      let depth := (← get).depth
      -- where the branch ends
      let stop := match d, c, c1 with
        | _, none, _ => true
        | .extended, some 124, _ => true
        | .extended, some 41, _ => depth > 0
        | .basic, some 92, some 124 => true
        | .basic, some 92, some 41 => true
        | _, _, _ => false
      if stop then
        if d == .basic && c = some 92 && c1 = some 41 && depth = 0 then throw .unmatchedClose
        break
      -- a repetition operator with nothing to repeat
      if d == .extended && atStart && (c = some 42 || c = some 43 || c = some 63) then
        warn (String.singleton (Char.ofNat (c.getD 0).toNat) ++ " at start of expression")
        bump
        continue
      if d == .extended && atStart && c = some 123 then
        let saved ← get
        bump
        match ← interval d with
        | .bounds _ _ =>
          warn "\x7b...\x7d at start of expression"
          continue
        | .ordinary => set saved
      let atom ← atomAt d atStart fuel
      let mut piece := atom
      if !isAnchor atom then
        for _ in [0:(← get).rest.length + 1] do
          match ← repetition d piece with
          | some r => piece := r
          | none => break
      atStart := isAnchor atom
      items := items ++ [piece]
    return Pattern.seqAll items

/-- One atom; `atStart` tells whether nothing but anchors precedes it in its branch. -/
def atomAt (d : Dialect) (atStart : Bool) : Nat → ReadM Pattern
  | 0 => throw .tooBig
  | fuel + 1 => do
    let c ← peek
    let c1 ← peekAt 1
    match d, c with
    | _, some 46 => bump; return .byte .every
    | _, some 91 => bump; return .byte (← bracket)
    | .extended, some 40 => bump; groupAfterOpen d fuel
    | .extended, some 94 => bump; return .anchor .start
    | .extended, some 36 => bump; return .anchor .finish
    | .basic, some 94 =>
      bump
      return if atStart then .anchor .start else .byte (.single 94)
    | .basic, some 36 =>
      bump
      let r := (← get).rest
      let ends := r.isEmpty || r.take 2 == [92, 41] || r.take 2 == [92, 124]
      return if ends then .anchor .finish else .byte (.single 36)
    | .basic, some 92 =>
      match c1 with
      | some 40 => bump; bump; groupAfterOpen d fuel
      | some 123 =>
        -- an interval with nothing to repeat is an ordinary brace
        bump; bump; return .byte (.single 123)
      | some 125 => bump; bump; return .byte (.single 125)
      | some 43 => bump; bump; return .byte (.single 43)
      | some 63 => bump; bump; return .byte (.single 63)
      | _ => bump; escape
    | .extended, some 92 =>
      match c1 with
      | some b =>
        if b = 40 || b = 41 || b = 124 || b = 123 || b = 43 || b = 63 then
          bump; bump; return .byte (.single b)
        else bump; escape
      | none => bump; escape
    | _, some b => bump; return .byte (.single b)
    | _, none => return .empty

/-- A group after its opening parenthesis: its body, then the closing one. -/
def groupAfterOpen (d : Dialect) : Nat → ReadM Pattern
  | 0 => throw .tooBig
  | fuel + 1 => do
    let index := (← get).opened + 1
    modify fun r => { r with opened := index, depth := r.depth + 1 }
    let body ← alternation d fuel
    match d, ← peek, ← peekAt 1 with
    | .extended, some 41, _ => bump
    | .basic, some 92, some 41 => bump; bump
    | _, _, _ => throw .unmatchedOpen
    modify fun r => { r with depth := r.depth - 1, closed := index :: r.closed }
    return .group index body

end

end Read

/-- A compiled pattern, with the warnings its reading gave. -/
structure Compiled where
  regex : Pattern
  warnings : List String

/-- Compiles a pattern of a dialect. -/
def compile (d : Dialect) (pattern : List UInt8) : Except Problem Compiled :=
  match (Read.alternation d (2 * pattern.length + 8)).run { rest := pattern } with
  | .error e => .error e
  | .ok (r, st) =>
    if !st.rest.isEmpty then
      -- only a close that matches nothing can stop the reading early
      .error .unmatchedClose
    else if st.confusing then .error .classSyntax
    else .ok { regex := r, warnings := st.warnings.reverse }

end Confine.Regex
