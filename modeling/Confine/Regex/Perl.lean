import Confine.Regex.Parse

/-!
# Reading a Perl-style pattern

The searcher's `-P` patterns are written as Perl writes them, over bytes. Operators
are bare: `|`, groups `( )`, the repetitions `*`, `+`, `?` and `{n}`, `{n,}`, `{n,m}`,
each of which a `?` makes lazy (a `+` after one, which asks for a possessive
repetition, is read as greedy). A `{` that starts no valid repetition stands for
itself. `.` is any byte but a line feed, `^` and `$` anchor at the ends.

Groups are numbered from one; `(?:...)` does not capture, `(?<name>...)`,
`(?P<name>...)` and `(?'name'...)` capture under a name, `(?=...)`, `(?!...)`,
`(?<=...)` and `(?<!...)` look ahead and behind (behind only by a fixed length),
`(?#...)` is a comment, and `(?i)`, `(?s)`, `(?m)`, `(?x)` with `-` to turn them off
set options up to the end of the group, or only inside `(?i:...)`.

Escapes: `\d \D \w \W \s \S \h \H \v \V \N` are classes, `\b \B \A \z \Z \G` anchors,
`\n \t \r \f \e \a`, `\xHH`, `\x{H...}`, `\0oo`, `\o{...}` and `\cX` bytes, `\1`…`\9`
and `\g` or `\k` references, `\Q...\E` quotes, and any other byte that is not a
letter or a digit stands for itself. A problem is reported in the words of the
library that reads such patterns.
-/

namespace Confine.Regex.Perl

/-- The options that hold while reading: ignoring case, `.` matching a line feed, and
white space and comments being ignored. -/
structure Options where
  caseless : Bool := false
  dotAll : Bool := false
  extended : Bool := false
  deriving Inhabited

/-- The reader's state: the bytes left, the groups opened so far, the names of named
groups with their numbers, the largest group a reference names, and the options. -/
structure State where
  rest : List UInt8
  groups : Nat := 0
  names : List (String × Nat) := []
  largestReference : Nat := 0
  options : Options := {}

/-- Reading: the state, and the message that stops it. -/
abbrev ReadP := StateT State (Except String)

def peek : ReadP (Option UInt8) := do return (← get).rest.head?

def peekAt (n : Nat) : ReadP (Option UInt8) := do return (← get).rest[n]?

def bump : ReadP Unit := modify fun s => { s with rest := s.rest.drop 1 }

/-- The byte of an ASCII character. -/
def code (c : Char) : UInt8 := c.toNat.toUInt8

/-- Whether a byte is an ASCII digit. -/
def isDigitByte (b : UInt8) : Bool := 48 ≤ b && b ≤ 57

/-- Whether a byte is an ASCII letter or digit. -/
def isAlnumByte (b : UInt8) : Bool :=
  isDigitByte b || (65 ≤ b && b ≤ 90) || (97 ≤ b && b ≤ 122)

/-- The value of a hexadecimal digit byte. -/
def hexByteValue (b : UInt8) : Option Nat :=
  if isDigitByte b then some (b.toNat - 48)
  else if 97 ≤ b && b ≤ 102 then some (b.toNat - 87)
  else if 65 ≤ b && b ≤ 70 then some (b.toNat - 55)
  else none

/-- The ranges outside some ranges, over all bytes. -/
def complementRanges (rs : List (UInt8 × UInt8)) : List (UInt8 × UInt8) :=
  (List.range 256).foldl (fun (acc : List (UInt8 × UInt8)) i =>
    let b := i.toUInt8
    if rs.any (fun (lo, hi) => lo ≤ b && b ≤ hi) then acc
    else match acc with
      | (lo, hi) :: more => if hi.toNat + 1 == i then (lo, b) :: more else (b, b) :: acc
      | [] => [(b, b)]) [] |>.reverse

/-- Ranges with the letters they hold in the other case added. -/
def foldRanges (rs : List (UInt8 × UInt8)) : List (UInt8 × UInt8) :=
  rs ++ rs.filterMap (fun (lo, hi) =>
    let l := max lo 65
    let h := min hi 90
    if l ≤ h then some (l + 32, h + 32) else none) ++
  rs.filterMap (fun (lo, hi) =>
    let l := max lo 97
    let h := min hi 122
    if l ≤ h then some (l - 32, h - 32) else none)

/-- A set of bytes under the options: both cases of its letters when case is
ignored. -/
def setOf (o : Options) (negated : Bool) (rs : List (UInt8 × UInt8)) : Pattern :=
  .byte { negated, ranges := if o.caseless then foldRanges rs else rs }

/-- The ranges of a class escape letter, and whether it is the complement. -/
def classEscape (c : UInt8) : Option (List (UInt8 × UInt8)) :=
  match Char.ofNat c.toNat with
  | 'd' => some [(48, 57)]
  | 'D' => some (complementRanges [(48, 57)])
  | 'w' => some Read.wordRanges
  | 'W' => some (complementRanges Read.wordRanges)
  | 's' => some [(9, 13), (32, 32)]
  | 'S' => some (complementRanges [(9, 13), (32, 32)])
  | 'h' => some [(9, 9), (32, 32), (160, 160)]
  | 'H' => some (complementRanges [(9, 9), (32, 32), (160, 160)])
  | 'v' => some [(10, 13), (133, 133)]
  | 'V' => some (complementRanges [(10, 13), (133, 133)])
  | _ => none

/-- The bytes, read as the first 256 code points, of a general property class. -/
def propertyRanges (name : String) : Option (List (UInt8 × UInt8)) :=
  let upper : List (UInt8 × UInt8) := [(65, 90), (192, 214), (216, 222)]
  let lower : List (UInt8 × UInt8) := [(97, 122), (181, 181), (223, 246), (248, 255)]
  let otherLetters : List (UInt8 × UInt8) := [(170, 170), (186, 186)]
  match name with
  | "L" | "L&" => some (upper ++ lower ++ otherLetters)
  | "Lu" => some upper
  | "Ll" => some lower
  | "Nd" => some [(48, 57)]
  | "N" => some [(48, 57), (178, 179), (185, 185), (188, 190)]
  | "Z" | "Zs" => some [(32, 32), (160, 160)]
  | "Any" => some [(0, 255)]
  | "Xan" => some ([(48, 57), (178, 179), (185, 185), (188, 190)] ++ upper ++ lower ++ otherLetters)
  | "Xwd" => some ([(48, 57), (95, 95), (178, 179), (185, 185), (188, 190)] ++ upper ++ lower ++ otherLetters)
  | _ => none

/-- The byte of a one-letter escape that stands for a byte. -/
def byteEscape (c : UInt8) : Option UInt8 :=
  match Char.ofNat c.toNat with
  | 'n' => some 10
  | 't' => some 9
  | 'r' => some 13
  | 'f' => some 12
  | 'e' => some 27
  | 'a' => some 7
  | _ => none

/-- Reads digits of a base, at most `most` of them: how many and their value. -/
def digitsOf (base : Nat) : Nat → ReadP (Nat × Nat)
  | 0 => return (0, 0)
  | most + 1 => do
    match ← peek with
    | some b =>
      match hexByteValue b with
      | some v =>
        if v < base then
          bump
          let (n, rest) ← digitsOf base most
          return (n + 1, v * Nat.pow base n + rest)
        else return (0, 0)
      | none => return (0, 0)
    | none => return (0, 0)

/-- Reads up to a closing brace: the bytes before it; the brace is read too. -/
def untilBrace : Nat → ReadP (Option (List UInt8))
  | 0 => return none
  | k + 1 => do
    match ← peek with
    | some 125 => bump; return some []
    | some b => bump; return (← untilBrace k).map (b :: ·)
    | none => return none

/-- The byte an escape at hand stands for, after the backslash, when it stands for a
byte: the value, kept to eight bits. -/
def byteValueEscape (c : UInt8) : ReadP (Option Nat) := do
  match Char.ofNat c.toNat with
  | 'x' =>
    if (← peek) == some 123 then
      bump
      let fuel := (← get).rest.length + 1
      match ← untilBrace fuel with
      | some ds =>
        let vals := ds.filterMap hexByteValue
        if vals.length != ds.length || ds.isEmpty then throw "non-hex character in \\x\x7b\x7d (closing brace missing?)"
        return some (vals.foldl (fun a v => a * 16 + v) 0)
      | none => throw "non-hex character in \\x\x7b\x7d (closing brace missing?)"
    else
      let (_, v) ← digitsOf 16 2
      return some v
  | 'o' =>
    if (← peek) != some 123 then throw "missing opening brace after \\o"
    bump
    let fuel := (← get).rest.length + 1
    match ← untilBrace fuel with
    | some ds =>
      if ds.isEmpty || !ds.all (fun b => 48 ≤ b && b ≤ 55) then throw "non-octal character in \\o\x7b\x7d (closing brace missing?)"
      return some (ds.foldl (fun a b => a * 8 + (b.toNat - 48)) 0)
    | none => throw "non-octal character in \\o\x7b\x7d (closing brace missing?)"
  | '0' =>
    let (_, v) ← digitsOf 8 2
    return some v
  | 'c' =>
    match ← peek with
    | some b =>
      bump
      let up := if 97 ≤ b && b ≤ 122 then b - 32 else b
      return some (Nat.xor up.toNat 64 % 256)
    | none => throw "\\c at end of pattern"
  | _ => return (byteEscape c).map (·.toNat)

/-- One item of a class: the ranges it adds. -/
def classItem : ReadP (List (UInt8 × UInt8)) := do
  let readOne : ReadP (Sum UInt8 (List (UInt8 × UInt8))) := do
    match ← peek with
    | none => throw "missing terminating ] for character class"
    | some 92 =>
      bump
      match ← peek with
      | none => throw "\\ at end of pattern"
      | some c =>
        bump
        match classEscape c with
        | some rs => return .inr rs
        | none =>
          if c == code 'b' then return .inl 8
          match ← byteValueEscape c with
          | some v => return .inl (v % 256).toUInt8
          | none =>
            if isAlnumByte c then throw "escape sequence is invalid in character class"
            return .inl c
    | some 91 =>
      -- a class of the C locale, [:name:] or [:^name:]
      if (← peekAt 1) == some 58 then
        let rest := (← get).rest.drop 2
        let (negated, body) := match rest with
          | 94 :: more => (true, more)
          | more => (false, more)
        let name := body.takeWhile (fun b => b != 58 && b != 93)
        let after := body.drop name.length
        if after.take 2 == [58, 93] then
          match Read.classRanges (Read.text name) with
          | some rs =>
            modify fun s => { s with rest := after.drop 2 }
            return .inr (if negated then complementRanges rs else rs)
          | none => throw "unknown POSIX class name"
        else
          bump
          return .inl 91
      else
        bump
        return .inl 91
    | some b => bump; return .inl b
  let startItem ← readOne
  match startItem with
  | .inr rs => return rs
  | .inl lo =>
    -- a range, unless the minus ends the class
    if (← peek) == some 45 && (← peekAt 1) != some 93 && (← peekAt 1) != none then
      bump
      match ← readOne with
      | .inl hi =>
        if hi < lo then throw "range out of order in character class"
        return [(lo, hi)]
      | .inr rs => return (lo, lo) :: (45, 45) :: rs
    else return [(lo, lo)]

/-- The items of a class up to its closing bracket. -/
def classItems (o : Options) : Nat → Bool → ReadP (List (UInt8 × UInt8))
  | 0, _ => throw "missing terminating ] for character class"
  | k + 1, first => do
    match ← peek with
    | none => throw "missing terminating ] for character class"
    | some 93 =>
      if first then
        bump
        return (93, 93) :: (← classItems o k false)
      else bump; return []
    | some _ =>
      let rs ← classItem
      return rs ++ (← classItems o k false)

/-- A class after its opening bracket. -/
def bracketClass (o : Options) : ReadP Pattern := do
  let negated ← do
    if (← peek) == some 94 then bump; pure true else pure false
  let fuel := (← get).rest.length + 1
  let rs ← classItems o fuel true
  return setOf o negated rs

/-- Skips white space and comments when the extended option holds. -/
def skipSpace : Nat → ReadP Unit
  | 0 => return
  | k + 1 => do
    if !(← get).options.extended then return
    match ← peek with
    | some b =>
      if b == 32 || (9 ≤ b && b ≤ 13) then bump; skipSpace k
      else if b == 35 then
        modify fun s => { s with rest := (s.rest.dropWhile (· != 10)).drop 1 }
        skipSpace k
      else return
    | none => return

/-- The number of a named group. -/
def groupNamed (name : List UInt8) : ReadP Nat := do
  match (← get).names.lookup (Read.text name) with
  | some i => return i
  | none => throw "reference to non-existent subpattern"

/-- Notes a reference to a group. -/
def noteReference (i : Nat) : ReadP Unit :=
  modify fun s => { s with largestReference := max s.largestReference i }

/-- Reads a name up to a closing byte; the closing byte is read too. -/
def nameUntil (close : UInt8) : ReadP (List UInt8) := do
  let s ← get
  let name := s.rest.takeWhile (· != close)
  if name.length == s.rest.length then throw "syntax error in subpattern name (missing terminator?)"
  set { s with rest := s.rest.drop (name.length + 1) }
  return name

/-- An escape outside a class, after its backslash. -/
def escapeAtom (o : Options) : ReadP Pattern := do
  match ← peek with
  | none => throw "\\ at end of pattern"
  | some c =>
    bump
    match classEscape c with
    | some rs => return setOf o false rs
    | none =>
    match Char.ofNat c.toNat with
    | 'b' => return .anchor .wordBoundary
    | 'B' => return .anchor .notWordBoundary
    | 'A' => return .anchor .start
    | 'z' | 'Z' => return .anchor .finish
    | 'G' | 'K' => return .empty
    | 'N' => return .byte { negated := true, ranges := [(10, 10)] }
    | 'Q' =>
      let s ← get
      let body := s.rest
      let quoteEnd := (List.range (body.length + 1)).find? fun i =>
        (body.drop i).take 2 == [92, code 'E'] || i == body.length
      let n := quoteEnd.getD body.length
      let quoted := body.take n
      set { s with rest := body.drop (n + 2) }
      return Pattern.seqAll (quoted.map fun b => setOf o false [(b, b)])
    | 'E' => return .empty
    | 'g' =>
      let (negative, braces) ← do
        if (← peek) == some 123 then
          bump
          if (← peek) == some 45 then bump; pure (true, true) else pure (false, true)
        else if (← peek) == some 45 then bump; pure (true, false)
        else pure (false, false)
      let (n, v) ← digitsOf 10 5
      if n == 0 then
        if braces then
          let name ← nameUntil 125
          return .backref (← groupNamed name)
        throw "a numbered reference must not be zero"
      if braces then
        if (← peek) != some 125 then throw "\\g is not followed by a braced, angle-bracketed, or quoted name/number or by a plain number"
        bump
      let groups := (← get).groups
      let index := if negative then groups + 1 - v else v
      noteReference index
      return .backref index
    | 'k' =>
      let close ← do
        match ← peek with
        | some 60 => bump; pure (62 : UInt8)
        | some 39 => bump; pure (39 : UInt8)
        | some 123 => bump; pure (125 : UInt8)
        | _ => throw "\\k is not followed by a braced, angle-bracketed, or quoted name"
      let name ← nameUntil close
      return .backref (← groupNamed name)
    | 'p' | 'P' =>
      let name ← do
        if (← peek) == some 123 then
          bump
          let fuel := (← get).rest.length + 1
          match ← untilBrace fuel with
          | some n => pure n
          | none => throw "malformed \\P or \\p sequence"
        else match ← peek with
          | some b => bump; pure [b]
          | none => throw "malformed \\P or \\p sequence"
      let (negated, name) := match name with
        | 94 :: more => (true, more)
        | n => (false, n)
      match propertyRanges (Read.text name) with
      | some rs => return setOf o (negated != (c == code 'P')) rs
      | none => throw "unknown property name after \\P or \\p"
    | _ =>
      if 49 ≤ c && c ≤ 57 then
        -- a back reference, digits as long as they go
        let (n, more) ← digitsOf 10 4
        let v := (c.toNat - 48) * Nat.pow 10 n + more
        noteReference v
        return .backref v
      match ← byteValueEscape c with
      | some v => let b := (v % 256).toUInt8; return setOf o false [(b, b)]
      | none =>
        if isAlnumByte c then throw "unrecognized character follows \\"
        return setOf o false [(c, c)]

/-- The length every match of a pattern has, if they all have one. -/
def fixedLength : Pattern → Option Nat
  | .empty => some 0
  | .byte _ => some 1
  | .anchor _ => some 0
  | .look _ _ _ => some 0
  | .group _ body => fixedLength body
  | .seq a b => do return (← fixedLength a) + (← fixedLength b)
  | .alt a b => do
    let x ← fixedLength a
    let y ← fixedLength b
    if x == y then some x else none
  | .rep body least most =>
    match most with
    | some m => if m == least then (fixedLength body).map (· * m) else none
    | none => none
  | .lazy body least most =>
    match most with
    | some m => if m == least then (fixedLength body).map (· * m) else none
    | none => none
  | .backref _ => none

/-- Whether every branch of an alternation has a fixed length, as a look-behind needs. -/
def branchesFixed : Pattern → Bool
  | .alt a b => branchesFixed a && branchesFixed b
  | p => (fixedLength p).isSome

/-- Option letters of `(?...)`: the options after them. -/
def applyLetters (o : Options) (on : Bool) (c : UInt8) : Option Options :=
  match Char.ofNat c.toNat with
  | 'i' => some { o with caseless := on }
  | 's' => some { o with dotAll := on }
  | 'x' => some { o with extended := on }
  | 'm' | 'n' | 'U' | 'J' => some o
  | _ => none

/-- Reads option letters up to `)` or `:`: the options and the byte that ended them. -/
def optionLetters (o : Options) : Nat → Bool → ReadP (Options × UInt8)
  | 0, _ => throw "missing closing parenthesis"
  | k + 1, on => do
    match ← peek with
    | none => throw "missing closing parenthesis"
    | some 41 => bump; return (o, 41)
    | some 58 => bump; return (o, 58)
    | some 45 => bump; optionLetters o k false
    | some c =>
      match applyLetters o on c with
      | some o => bump; optionLetters o k on
      | none => throw "unrecognized character after (? or (?-"

/-- A repetition's bounds after `{`, when they form one: the least, the most, and the
bytes after the closing brace. -/
def braceBounds (rest : List UInt8) : Option (Nat × Option Nat × List UInt8) :=
  let d1 := rest.takeWhile isDigitByte
  let r1 := rest.drop d1.length
  let value (ds : List UInt8) : Nat := ds.foldl (fun a b => a * 10 + (b.toNat - 48)) 0
  if d1.isEmpty then none
  else match r1 with
    | 125 :: after => some (value d1, some (value d1), after)
    | 44 :: more =>
      let d2 := more.takeWhile isDigitByte
      match more.drop d2.length with
      | 125 :: after => some (value d1, (if d2.isEmpty then none else some (value d2)), after)
      | _ => none
    | _ => none

mutual

/-- Alternatives separated by `|`, up to a `)` or the end. -/
def alternation : Nat → ReadP Pattern
  | 0 => throw "parentheses are too deeply nested"
  | k + 1 => do
    let first ← branch k
    match ← peek with
    | some 124 =>
      bump
      let rest ← alternation k
      return .alt first rest
    | _ => return first

/-- Pieces in sequence, up to a `|`, a `)` or the end. -/
def branch : Nat → ReadP Pattern
  | 0 => throw "parentheses are too deeply nested"
  | k + 1 => do
    skipSpace ((← get).rest.length + 1)
    match ← peek with
    | none => return .empty
    | some 124 => return .empty
    | some 41 => return .empty
    | some _ =>
      let p ← piece k
      let rest ← branch k
      return match rest with
        | .empty => p
        | r => .seq p r

/-- An atom with the repetitions after it. -/
def piece : Nat → ReadP Pattern
  | 0 => throw "parentheses are too deeply nested"
  | k + 1 => do
    let a ← atom k
    repetitions k a false

/-- Repetitions applied to an atom; `done` once a repetition was read. -/
def repetitions : Nat → Pattern → Bool → ReadP Pattern
  | 0, a, _ => return a
  | k + 1, a, done => do
    skipSpace ((← get).rest.length + 1)
    let bounds : Option (Nat × Option Nat) ← do
      match ← peek with
      | some 42 => bump; pure (some (0, none))
      | some 43 => bump; pure (some (1, none))
      | some 63 => bump; pure (some (0, some 1))
      | some 123 =>
        match braceBounds ((← get).rest.drop 1) with
        | some (l, m, after) =>
          if l > 65535 || (m.getD 0) > 65535 then throw "number too big in \x7b\x7d quantifier"
          if m.any (· < l) then throw "numbers out of order in \x7b\x7d quantifier"
          modify fun s => { s with rest := after }
          pure (some (l, m))
        | none => pure none
      | _ => pure none
    match bounds with
    | none => return a
    | some (l, m) =>
      if done then throw "quantifier does not follow a repeatable item"
      match a with
      | .anchor _ => throw "quantifier does not follow a repeatable item"
      | .empty => throw "quantifier does not follow a repeatable item"
      | _ => pure ()
      let lazy ← do
        match ← peek with
        | some 63 => bump; pure true
        | some 43 => bump; pure false
        | _ => pure false
      let r := if lazy then Pattern.lazy a l m else Pattern.rep a l m
      repetitions k r true

/-- One atom. -/
def atom : Nat → ReadP Pattern
  | 0 => throw "parentheses are too deeply nested"
  | k + 1 => do
    let o := (← get).options
    match ← peek with
    | none => return .empty
    | some b =>
      match Char.ofNat b.toNat with
      | '(' => bump; group k
      | ')' => throw "unmatched closing parenthesis"
      | '[' => bump; bracketClass o
      | '.' =>
        bump
        return if o.dotAll then .byte .every else .byte { negated := true, ranges := [(10, 10)] }
      | '^' => bump; return .anchor .start
      | '$' => bump; return .anchor .finish
      | '\\' => bump; escapeAtom o
      | '*' | '+' | '?' => throw "quantifier does not follow a repeatable item"
      | '{' =>
        if (braceBounds ((← get).rest.drop 1)).isSome then
          throw "quantifier does not follow a repeatable item"
        bump
        return setOf o false [(b, b)]
      | _ => bump; return setOf o false [(b, b)]

/-- A group after its opening parenthesis, up to and with its closing one. -/
def group : Nat → ReadP Pattern
  | 0 => throw "parentheses are too deeply nested"
  | k + 1 => do
    let saved := (← get).options
    let closeGroup (body : Pattern) : ReadP Pattern := do
      if (← peek) != some 41 then throw "missing closing parenthesis"
      bump
      modify fun s => { s with options := saved }
      return body
    let capture (name : Option (List UInt8)) : ReadP Pattern := do
      let index := (← get).groups + 1
      let named (s : State) : List (String × Nat) := match name with
        | some n => s.names ++ [(Read.text n, index)]
        | none => s.names
      modify fun s => { s with groups := index, names := named s }
      let body ← alternation k
      closeGroup (.group index body)
    if (← peek) != some 63 then return ← capture none
    bump
    match ← peek with
    | some 58 => bump; closeGroup (← alternation k)
    | some 124 => bump; closeGroup (← alternation k)
    | some 62 => bump; closeGroup (← alternation k)
    | some 61 => bump; closeGroup (.look false false (← alternation k))
    | some 33 => bump; closeGroup (.look false true (← alternation k))
    | some 35 =>
      let s ← get
      let body := s.rest.dropWhile (· != 41)
      if body.isEmpty then throw "missing ) after (?# comment"
      set { s with rest := body.drop 1 }
      return .empty
    | some 60 =>
      bump
      match ← peek with
      | some 61 | some 33 =>
        let negated := (← peek) == some 33
        bump
        let body ← alternation k
        if !branchesFixed body then throw "lookbehind assertion is not fixed length"
        closeGroup (.look true negated body)
      | _ => capture (some (← nameUntil 62))
    | some 39 => bump; capture (some (← nameUntil 39))
    | some 80 =>
      bump
      match ← peek with
      | some 60 => bump; capture (some (← nameUntil 62))
      | some 61 =>
        bump
        let name ← nameUntil 41
        return .backref (← groupNamed name)
      | _ => throw "unrecognized character after (?P"
    | _ =>
      let fuel := (← get).rest.length + 1
      let (o, ended) ← optionLetters saved fuel true
      if ended == 41 then
        -- the options hold to the end of the enclosing group
        modify fun s => { s with options := o }
        return .empty
      else
        modify fun s => { s with options := o }
        closeGroup (← alternation k)

end

/-- Compiles a pattern, or gives the message that rejects it. -/
def compile (pattern : List UInt8) : Except String Pattern := do
  let fuel := 4 * pattern.length + 8
  let (p, s) ← (alternation fuel).run { rest := pattern }
  if !s.rest.isEmpty then
    match s.rest.head? with
    | some 41 => throw "unmatched closing parenthesis"
    | _ => throw "missing closing parenthesis"
  if s.largestReference > s.groups then throw "reference to non-existent subpattern"
  return p

end Confine.Regex.Perl
