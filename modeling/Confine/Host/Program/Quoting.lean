import Confine.Host.Program.Basic
/-!
# Quoting styles for names

A program that lists names writes each in a quoting style. Every style works on bytes,
as the C locale sees them: a byte prints if it is between a blank and a tilde.

* `literal` writes a name as it is.
* `shellAlways` puts it in single quotes; `shell` only when a shell would otherwise
  read it as something else.
* `shellEscapeAlways` and `shellEscape` do the same, and write a byte that does not
  print as an escape inside `$'...'`.
* `c` puts it in double quotes, with C escapes; `cMaybe` only when an escape is needed.
* `escape` writes C escapes without quotes.
* `locale` and `clocale` are `c` with single quotes, and with double quotes.

A style that leaves the outer quotes out for as long as it can starts again with them
when a byte needs them. A name in single quotes that holds a single quote and nothing
that C and a shell read differently is written in double quotes instead. A caller may
name further bytes to escape, or, for a style that leaves quotes out, to quote.
-/

namespace Confine.Host.Program

/-- The ways of quoting a name. -/
inductive QuotingStyle where
  | literal
  | shell
  | shellAlways
  | shellEscape
  | shellEscapeAlways
  | c
  | cMaybe
  | escape
  | locale
  | clocale
  deriving BEq, Repr, Inhabited

/-- The styles by the names options give them, in the order they are listed. -/
def quotingStyleNames : List (String × QuotingStyle) :=
  [("literal", .literal), ("shell", .shell), ("shell-always", .shellAlways),
   ("shell-escape", .shellEscape), ("shell-escape-always", .shellEscapeAlways), ("c", .c),
   ("c-maybe", .cMaybe), ("escape", .escape), ("locale", .locale), ("clocale", .clocale)]

/-- One pass of quoting, its style set up. -/
structure QuotingPass where
  /-- Whether the pass quotes as a shell reads, in single quotes. -/
  shell : Bool
  /-- Whether bytes may be written as backslash escapes. -/
  backslash : Bool
  /-- Whether the outer quotes are left out while nothing needs them. -/
  elide : Bool
  opening : List Char
  closing : List Char
  /-- The further bytes to escape or quote, if the caller named any. -/
  these : Option (List Char)

/-- The pass a style starts with. -/
def QuotingStyle.pass (s : QuotingStyle) (these : Option (List Char)) : QuotingPass :=
  match s with
  | .literal => ⟨false, false, false, [], [], these⟩
  | .c => ⟨false, true, false, ['"'], ['"'], these⟩
  | .cMaybe => ⟨false, true, true, ['"'], ['"'], these⟩
  | .escape => ⟨false, true, false, [], [], these⟩
  | .locale => ⟨false, true, false, ['\''], ['\''], these⟩
  | .clocale => ⟨false, true, false, ['"'], ['"'], these⟩
  | .shell => ⟨true, false, true, ['\''], ['\''], these⟩
  | .shellAlways => ⟨true, false, false, ['\''], ['\''], these⟩
  | .shellEscape => ⟨true, true, true, ['\''], ['\''], these⟩
  | .shellEscapeAlways => ⟨true, true, false, ['\''], ['\''], these⟩

/-- What a pass has written, backwards, and what it has seen. -/
structure QuotingState where
  out : List Char := []
  /-- Whether a `$'...'` is open. -/
  pendingEnd : Bool := false
  /-- Whether a single quote was met. -/
  single : Bool := false
  /-- Whether every byte so far means the same to C and to a shell. -/
  compat : Bool := true

namespace QuotingPass

/-- Bytes that no style quotes. -/
def safe (c : Char) : Bool :=
  c.isAlphanum || "%+,-./:]_".toList.contains c

/-- Begins an escape: a backslash, inside `$'...'` for a shell; `none` when the outer
quotes are left out, which an escape needs. -/
def startEscape (p : QuotingPass) (st : QuotingState) : Option QuotingState :=
  if p.elide then none
  else
    let (out, pending) := if p.shell && !st.pendingEnd then ("'$'".toList.reverse ++ st.out, true)
      else (st.out, st.pendingEnd)
    some { st with out := '\\' :: out, pendingEnd := pending }

/-- Writes a byte; one that is not part of an escape first closes an open `$'...'`. -/
def store (escaping : Bool) (c : Char) (compat : Bool) (st : QuotingState) : QuotingState :=
  let st := if st.pendingEnd && !escaping then { st with out := '\'' :: '\'' :: st.out, pendingEnd := false }
    else st
  { st with out := c :: st.out, compat := st.compat && compat }

/-- Writes a byte as an escape. -/
def storeEscaped (p : QuotingPass) (c : Char) (compat : Bool) (st : QuotingState) :
    Option QuotingState :=
  (p.startEscape st).map (store true c compat)

/-- Writes a byte that needs nothing of its own: escaped if the caller named it (or it
closes the quotes), else as it is. -/
def plain (p : QuotingPass) (escaping : Bool) (c : Char) (compat : Bool) (st : QuotingState) :
    Option QuotingState :=
  let named := ((p.backslash && !p.shell) || p.elide) && (p.these.getD []).contains c
  let closes := p.backslash && !p.shell && p.closing == [c]
  if named || closes then p.storeEscaped c compat st else some (store escaping c compat st)

/-- One byte of a name of `len` bytes at place `i`, with the byte after it. -/
def step (p : QuotingPass) (len i : Nat) (c : Char) (next : Option Char) (st : QuotingState) :
    Option QuotingState :=
  if p.backslash && !p.shell && p.closing == [c] && p.elide then none else
  let letter (e : Char) : Option QuotingState :=
    if p.backslash then p.storeEscaped e false st else p.plain false c false st
  let special (compat : Bool) : Option QuotingState :=
    if p.shell && p.elide then none else p.plain false c compat st
  match c with
  | '\x00' =>
    if p.backslash then do
      let st ← p.startEscape st
      let st := if !p.shell && (next.map Char.isDigit).getD false then
          { st with out := '0' :: '0' :: st.out } else st
      p.plain true '0' false st
    else p.plain false c false st
  | '?' => special false
  | '\x07' => letter 'a'
  | '\x08' => letter 'b'
  | '\x0c' => letter 'f'
  | '\x0b' => letter 'v'
  | '\n' => if p.shell && p.elide then none else letter 'n'
  | '\r' => if p.shell && p.elide then none else letter 'r'
  | '\t' => if p.shell && p.elide then none else letter 't'
  | '\\' =>
    if p.shell then (if p.elide then none else some (store false c false st))
    else if p.backslash && p.elide && p.these.isSome then some (store false c false st)
    else letter '\\'
  | '{' | '}' => if len != 1 then p.plain false c false st else special true
  | '#' | '~' => if i != 0 then p.plain false c false st else special true
  | ' ' => special true
  | '!' | '"' | '$' | '&' | '(' | ')' | '*' | ';' | '<' | '=' | '>' | '[' | '^' | '`' | '|' =>
    special false
  | '\'' =>
    let st := { st with single := true }
    if p.shell then
      if p.elide then none
      else p.plain false c true { st with out := "'\\'".toList.reverse ++ st.out, pendingEnd := false }
    else p.plain false c true st
  | _ =>
    if safe c then p.plain false c true st
    else
      let printable := isPrintableByte c
      if p.backslash && !printable then do
        let st ← p.startEscape st
        let n := c.toNat % 256
        let digit (d : Nat) : Char := Char.ofNat (48 + d)
        some (store true (digit (n % 8)) false
          { st with out := digit (n / 8 % 8) :: digit (n / 64) :: st.out })
      else p.plain false c printable st

/-- The bytes of a name, one after another. -/
def steps (p : QuotingPass) (len : Nat) : Nat → List Char → QuotingState → Option QuotingState
  | _, [], st => some st
  | i, c :: rest, st => do
    let st ← p.step len i c rest.head? st
    p.steps len (i + 1) rest st

end QuotingPass

/-- A name quoted in a style, with further bytes to quote; `fuel` bounds the passes
that start again. -/
def QuotingStyle.quoteWith : Nat → QuotingStyle → Option (List Char) → List Char → List Char
  | 0, _, _, s => s
  | fuel + 1, style, these, s =>
    let p := style.pass these
    let again : List Char :=
      -- the outer quotes are needed after all
      let style' := if p.shell then (if p.backslash then QuotingStyle.shellEscapeAlways else .shellAlways)
        else .c
      QuotingStyle.quoteWith fuel style' none s
    let start : QuotingState := { out := if p.elide then [] else p.opening.reverse }
    match p.steps s.length 0 s start with
    | none => again
    | some st =>
      if st.out.isEmpty && p.shell && p.elide then again
      else if p.shell && !p.elide && st.single && st.compat then QuotingStyle.quoteWith fuel .c these s
      else (if p.elide then st.out else p.closing.reverse ++ st.out).reverse

/-- A name quoted in a style, with further bytes to quote. -/
def QuotingStyle.quote (style : QuotingStyle) (these : List Char) (s : String) : String :=
  String.ofList (QuotingStyle.quoteWith 3 style (some these) s.toList)

end Confine.Host.Program
