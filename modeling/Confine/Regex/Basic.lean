/-!
# Regular expressions over bytes

The patterns of the text searcher are POSIX regular expressions read in the C
locale: every byte is one character, letters fold only within ASCII, and a word
constituent is an ASCII letter, a digit or an underscore.

A compiled pattern is a tree: sets of bytes (a literal byte, `.` and bracket
expressions are all sets), zero-width assertions, numbered groups with back
references to them, sequence, alternation and bounded repetition, greedy or lazy,
and looking ahead or behind. Why a pattern does
not compile is a `Problem`, worded as the matcher reports it.
-/

namespace Confine.Regex

/-- Whether a byte is a word constituent: an ASCII letter, a digit or `_`. -/
def isWordByte (b : UInt8) : Bool :=
  (48 ≤ b && b ≤ 57) || (65 ≤ b && b ≤ 90) || (97 ≤ b && b ≤ 122) || b = 95

/-- The lowercase of an ASCII letter; other bytes are kept. -/
def lower (b : UInt8) : UInt8 := if 65 ≤ b && b ≤ 90 then b + 32 else b

/-- The uppercase of an ASCII letter; other bytes are kept. -/
def upper (b : UInt8) : UInt8 := if 97 ≤ b && b ≤ 122 then b - 32 else b

/-- A set of bytes: ranges of bytes, or all bytes outside them. -/
structure ByteSet where
  negated : Bool := false
  ranges : List (UInt8 × UInt8)
  deriving Repr, BEq

namespace ByteSet

/-- The set of one byte. -/
def single (b : UInt8) : ByteSet := { ranges := [(b, b)] }

/-- Every byte, as `.` matches. -/
def every : ByteSet := { negated := true, ranges := [] }

/-- Whether a byte lies in one of the ranges. -/
def hits (s : ByteSet) (b : UInt8) : Bool := s.ranges.any fun (lo, hi) => lo ≤ b && b ≤ hi

/-- Whether the set admits a byte. Ignoring case, the ranges stand for their letters
in both cases before the set is negated. -/
def admits (s : ByteSet) (ignoreCase : Bool) (b : UInt8) : Bool :=
  let inRanges := s.hits b || (ignoreCase && (s.hits (lower b) || s.hits (upper b)))
  s.negated != inRanges

end ByteSet

/-- A zero-width assertion about a place in the subject. -/
inductive Anchor where
  /-- The start of the subject. -/
  | start
  /-- The end of the subject. -/
  | finish
  /-- A word constituent on exactly one side. -/
  | wordBoundary
  /-- A word constituent on both sides or on neither. -/
  | notWordBoundary
  /-- A word constituent after and none before. -/
  | wordStart
  /-- A word constituent before and none after. -/
  | wordEnd
  deriving Repr, BEq

/-- A compiled regular expression. Groups are numbered from one in the order of their
opening parentheses. -/
inductive Pattern where
  /-- The empty string. -/
  | empty
  /-- One byte of a set. -/
  | byte (set : ByteSet)
  /-- A place where an assertion holds. -/
  | anchor (a : Anchor)
  /-- A group that records what its body matched. -/
  | group (index : Nat) (body : Pattern)
  /-- The text a group last matched, again. -/
  | backref (index : Nat)
  /-- One expression, then another. -/
  | seq (first second : Pattern)
  /-- One expression or another. -/
  | alt (left right : Pattern)
  /-- At least `least` and at most `most` (unbounded when `none`) repetitions. -/
  | rep (body : Pattern) (least : Nat) (most : Option Nat)
  /-- Repetitions as `rep`, the fewest tried first where the order of trying counts. -/
  | lazy (body : Pattern) (least : Nat) (most : Option Nat)
  /-- A place where the body matches just after (or, `behind`, just before) it; or,
  when `negated`, where it does not. -/
  | look (behind negated : Bool) (body : Pattern)
  deriving Repr

namespace Pattern

/-- The sequence of a list of expressions. -/
def seqAll : List Pattern → Pattern
  | [] => .empty
  | [r] => r
  | r :: rest => .seq r (seqAll rest)

/-- The alternation of a list of expressions. -/
def altAll : List Pattern → Pattern
  | [] => .empty
  | [r] => r
  | r :: rest => .alt r (altAll rest)

/-- The literal string of bytes. -/
def literal (bs : List UInt8) : Pattern := seqAll (bs.map fun b => .byte (.single b))

/-- The number of groups: the largest index of a group. -/
def groupCount : Pattern → Nat
  | .group i body => Nat.max i (groupCount body)
  | .seq a b => Nat.max (groupCount a) (groupCount b)
  | .alt a b => Nat.max (groupCount a) (groupCount b)
  | .rep body _ _ => groupCount body
  | .lazy body _ _ => groupCount body
  | .look _ _ body => groupCount body
  | _ => 0

end Pattern

/-- Why a pattern does not compile. -/
inductive Problem where
  | unmatchedBracket
  | unmatchedOpen
  | unmatchedClose
  | unmatchedBrace
  | badInterval
  | badBackref
  | trailingBackslash
  | badRange
  | badClass
  | badCollation
  | classSyntax
  | tooBig
  deriving Repr, BEq

/-- The message of a problem. -/
def Problem.message : Problem → String
  | .unmatchedBracket => "Unmatched [, [^, [:, [., or [="
  | .unmatchedOpen => "Unmatched ( or \\("
  | .unmatchedClose => "Unmatched ) or \\)"
  | .unmatchedBrace => "Unmatched \\\x7b"
  | .badInterval => "Invalid content of \\\x7b\\\x7d"
  | .badBackref => "Invalid back reference"
  | .trailingBackslash => "Trailing backslash"
  | .badRange => "Invalid range end"
  | .badClass => "Invalid character class name"
  | .badCollation => "Invalid collation character"
  | .classSyntax => "character class syntax is [[:space:]], not [:space:]"
  | .tooBig => "Regular expression too big"

end Confine.Regex
