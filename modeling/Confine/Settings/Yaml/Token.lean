/-!
# YAML tokens

The first stage of reading YAML turns the text into tokens: the indicators of block
and flow collections, keys and values, anchors, aliases, tags and scalars, each with
the place where it starts.

Block structure is found from indentation. Each block collection opened at a deeper
column pushes that column on a stack, and a token at a shallower column closes the
collections above it with block-end tokens. A `key:` in a block also pushes an
indentation one column past the key that opens no collection, so that what follows
on later lines must be indented past the key; a later token on the same column
removes it again.

A plain or quoted scalar may turn out to be a key, which is only known when a `:`
follows it. The scanner remembers, per flow level, where such a possible simple key
started, and inserts the key token, and a block-mapping start when one is due, back
at that place when the `:` comes. It therefore reads ahead until no remembered key
could still change the token to hand out next. A possible key on a block line that
starts at the current indentation is required: the line must then go on to a `:`.

Places count characters from zero, lines from one and columns from zero. The text
ends at its end or at its first NUL character.
-/

namespace Confine.Settings.Yaml

/-- A place in the text: the characters before it, its line from one and its column
from zero. -/
structure Mark where
  index : Nat
  line : Nat
  col : Nat
  deriving Repr, Inhabited, DecidableEq

/-- Why a text is not YAML, and where that was found. -/
structure Problem where
  mark : Mark
  info : String
  deriving Repr, Inhabited

/-- The text of a problem: what was wrong, then its place with a column from one. -/
def Problem.render (p : Problem) : String :=
  p.info ++ " at byte " ++ toString p.mark.index ++ " line " ++ toString p.mark.line ++
    " column " ++ toString (p.mark.col + 1)

/-- How a scalar was written. -/
inductive Style where
  | plain
  | singleQuoted
  | doubleQuoted
  | literal
  | folded
  deriving Repr, Inhabited, DecidableEq

/-- What a token is. -/
inductive TokenKind where
  | streamStart
  | streamEnd
  | versionDirective
  | tagDirective (handle pfx : String)
  | documentStart
  | documentEnd
  | blockSequenceStart
  | blockMappingStart
  | blockEnd
  | flowSequenceStart
  | flowSequenceEnd
  | flowMappingStart
  | flowMappingEnd
  | blockEntry
  | flowEntry
  | key
  | value
  | alias (name : String)
  | anchor (name : String)
  | tag (handle suffix : String)
  | scalar (style : Style) (text : String)
  deriving Repr, Inhabited

/-- A token and where it starts. -/
structure Token where
  mark : Mark
  kind : TokenKind
  deriving Repr, Inhabited

/-- A place where a simple key may have started. -/
structure SimpleKey where
  possible : Bool := false
  required : Bool := false
  tokenNumber : Nat := 0
  mark : Mark := ⟨0, 0, 0⟩
  deriving Repr, Inhabited

/-- An indentation on the stack: the one before it, and whether leaving it closes a
block collection. -/
structure Indent where
  previous : Int
  needsBlockEnd : Bool
  deriving Repr, Inhabited

/-- The scanner's state. -/
structure Scanner where
  rest : List Char
  mark : Mark := ⟨0, 1, 0⟩
  /-- Tokens found and not handed out yet, the next first. -/
  queue : List Token := []
  streamStartProduced : Bool := false
  streamEndProduced : Bool := false
  /-- The place where a `:` right after a JSON-like key counts as a value indicator. -/
  adjacentValueAllowedAt : Nat := 0
  simpleKeyAllowed : Bool := false
  /-- Possible simple keys, one per flow level, the innermost first. -/
  simpleKeys : List SimpleKey := []
  indent : Int := -1
  /-- Indentations left behind, the latest first. -/
  indents : List Indent := []
  flowLevel : Nat := 0
  tokensParsed : Nat := 0
  tokenAvailable : Bool := false
  /-- Only blanks have been read since the last line break. -/
  leadingWhitespace : Bool := true
  deriving Inhabited

/-- The scanner over a text, which ends at its first NUL character. -/
def Scanner.ofText (text : String) : Scanner :=
  { rest := text.toList.takeWhile (· != '\x00') }

/-- Scanning: state, and a problem that stops it. -/
abbrev ScanM := StateT Scanner (Except Problem)

namespace Scan

/-! ### Characters -/

/-- The end of the text, as the character classes see it. -/
def eof : Char := '\x00'

def isBlank (c : Char) : Bool := c = ' ' || c = '\t'
def isBreak (c : Char) : Bool := c = '\n' || c = '\r'
def isZ (c : Char) : Bool := c = eof
def isBreakZ (c : Char) : Bool := isBreak c || isZ c
def isBlankZ (c : Char) : Bool := isBlank c || isBreakZ c
def isFlow (c : Char) : Bool := c = ',' || c = '[' || c = ']' || c = '{' || c = '}'
def isDigit (c : Char) : Bool := '0' ≤ c && c ≤ '9'
def isAlpha (c : Char) : Bool := c.isAlphanum || c = '_' || c = '-'
def isHex (c : Char) : Bool := isDigit c || ('a' ≤ c && c ≤ 'f') || ('A' ≤ c && c ≤ 'F')

/-- The value of a hexadecimal digit. -/
def hexValue (c : Char) : Nat :=
  if isDigit c then c.toNat - '0'.toNat
  else if 'a' ≤ c && c ≤ 'f' then c.toNat - 'a'.toNat + 10
  else c.toNat - 'A'.toNat + 10

/-- Whether a character may appear in a tag. -/
def isUriChar (c : Char) : Bool :=
  c.isAlphanum || "-;/?:@&=+$,_.!~*'()[]%#".toList.contains c

def isTagChar (c : Char) : Bool := isUriChar c && !isFlow c && c != '!'

/-- Whether a character may appear in an anchor's name. -/
def isAnchorChar (c : Char) : Bool := !isBlankZ c && !isFlow c

/-! ### Reading -/

/-- The character `n` places ahead, or the end. -/
def peekAt (n : Nat) : ScanM Char := do
  return ((← get).rest[n]?).getD eof

def ch : ScanM Char := peekAt 0

def fail (mark : Mark) (info : String) : ScanM α := throw ⟨mark, info⟩

def here : ScanM Mark := do return (← get).mark

/-- Consumes a character that is not a blank or a break. -/
def skipNonBlank : ScanM Unit := modify fun s =>
  { s with rest := s.rest.drop 1, mark := { s.mark with index := s.mark.index + 1, col := s.mark.col + 1 },
           leadingWhitespace := false }

/-- Consumes a blank. -/
def skipBlank : ScanM Unit := modify fun s =>
  { s with rest := s.rest.drop 1, mark := { s.mark with index := s.mark.index + 1, col := s.mark.col + 1 } }

/-- Consumes a line feed or a carriage return as the end of a line. -/
def skipNl : ScanM Unit := modify fun s =>
  { s with rest := s.rest.drop 1, mark := ⟨s.mark.index + 1, s.mark.line + 1, 0⟩, leadingWhitespace := true }

/-- Consumes a line break: a carriage return and line feed, or either alone. -/
def skipLinebreak : ScanM Unit := do
  if (← ch) = '\r' && (← peekAt 1) = '\n' then
    skipBlank; skipNl
  else if isBreak (← ch) then skipNl

/-- Consumes a line break, adding a line feed to a text. -/
def readBreak (s : String) : ScanM String := do
  if (← ch) = '\r' && (← peekAt 1) = '\n' then skipBlank
  skipNl
  return s.push '\n'

def skipN (n : Nat) : ScanM Unit := do
  for _ in [0:n] do skipNonBlank

/-- The result of skipping blanks to the end of a line: whether a tab and whether a
space was met. -/
structure Skipped where
  foundTabs : Bool
  hasYamlWs : Bool

/-- Skips blanks, and a comment after them, up to the end of the line; tabs only
when asked. A comment must follow a blank. -/
def skipWsToEol (tabs : Bool) : ScanM Skipped := do
  let mut tab := false
  let mut ws := false
  for _ in [0:(← get).rest.length + 1] do
    let c ← ch
    if c = ' ' then
      ws := true; skipBlank
    else if c = '\t' && tabs then
      tab := true; skipBlank
    else if c = '#' then
      if !tab && !ws then fail (← here) "comments must be separated from other tokens by whitespace"
      for _ in [0:(← get).rest.length + 1] do
        if isBreakZ (← ch) then break
        skipNonBlank
      break
    else break
  return ⟨tab, ws⟩

/-! ### Tokens, keys and indentation -/

def push (t : Token) : ScanM Unit := modify fun s => { s with queue := s.queue ++ [t] }

/-- Inserts a token `k` places into the queue. -/
def insertAt (k : Nat) (t : Token) : ScanM Unit := modify fun s =>
  { s with queue := s.queue.take k ++ t :: s.queue.drop k }

def allowSimpleKey : ScanM Unit := modify fun s => { s with simpleKeyAllowed := true }
def disallowSimpleKey : ScanM Unit := modify fun s => { s with simpleKeyAllowed := false }

/-- Forgets the possible simple key of the current flow level; a required one cannot
be forgotten. -/
def removeSimpleKey : ScanM Unit := do
  let s ← get
  match s.simpleKeys with
  | k :: rest =>
    if k.possible && k.required then fail s.mark "simple key expected"
    set { s with simpleKeys := { k with possible := false } :: rest }
  | [] => pure ()

/-- Remembers that a simple key may start here. -/
def saveSimpleKey : ScanM Unit := do
  let s ← get
  if s.simpleKeyAllowed then
    let required := s.flowLevel == 0 && s.indent == (s.mark.col : Int) &&
      (s.indents.head?.map (·.needsBlockEnd)).getD false
    let k : SimpleKey := { possible := true, required, tokenNumber := s.tokensParsed + s.queue.length,
                           mark := s.mark }
    removeSimpleKey
    modify fun s => { s with simpleKeys := k :: s.simpleKeys.drop 1 }

/-- Possible keys that can no longer be keys: in a block, a key cannot span lines or
run past 1024 characters. -/
def staleSimpleKeys : ScanM Unit := do
  let s ← get
  let mut keys := []
  for k in s.simpleKeys do
    if k.possible && s.flowLevel == 0 && (k.mark.line < s.mark.line || k.mark.index + 1024 < s.mark.index) then
      if k.required then fail s.mark "simple key expect ':'"
      keys := keys ++ [{ k with possible := false }]
    else keys := keys ++ [k]
  set { s with simpleKeys := keys }

/-- Closes the block collections indented past a column. -/
def unrollIndent (col : Int) : ScanM Unit := do
  if (← get).flowLevel > 0 then return
  for _ in [0:(← get).indents.length + 1] do
    let s ← get
    if s.indent ≤ col then break
    match s.indents with
    | i :: rest =>
      set { s with indent := i.previous, indents := rest }
      if i.needsBlockEnd then push ⟨s.mark, .blockEnd⟩
    | [] => break

/-- Removes the indentations that open no collection from the top of the stack. -/
def unrollNonBlockIndents : ScanM Unit := do
  for _ in [0:(← get).indents.length + 1] do
    let s ← get
    match s.indents with
    | i :: rest =>
      if i.needsBlockEnd then break
      set { s with indent := i.previous, indents := rest }
    | [] => break

/-- Opens a block collection at a column deeper than the current indentation, with
its start token put at token number `number` or last. -/
def rollIndent (col : Nat) (number : Option Nat) (kind : TokenKind) (mark : Mark) : ScanM Unit := do
  if (← get).flowLevel > 0 then return
  let s ← get
  if s.indent ≤ col then
    match s.indents with
    | i :: rest => if !i.needsBlockEnd then set { s with indent := i.previous, indents := rest }
    | [] => pure ()
  let s ← get
  if s.indent < col then
    set { s with indents := ⟨s.indent, true⟩ :: s.indents, indent := col }
    match number with
    | some n => insertAt (n - s.tokensParsed) ⟨mark, kind⟩
    | none => push ⟨mark, kind⟩

/-- Adds an indentation one column deeper that opens no collection. -/
def rollOneColIndent : ScanM Unit := do
  let s ← get
  if s.flowLevel == 0 && (s.indents.head?.map (·.needsBlockEnd)).getD false then
    set { s with indents := ⟨s.indent, false⟩ :: s.indents, indent := s.indent + 1 }

def increaseFlowLevel : ScanM Unit := modify fun s =>
  { s with simpleKeys := {} :: s.simpleKeys, flowLevel := s.flowLevel + 1 }

def decreaseFlowLevel : ScanM Unit := modify fun s =>
  if s.flowLevel > 0 then { s with flowLevel := s.flowLevel - 1, simpleKeys := s.simpleKeys.drop 1 } else s

/-! ### Between tokens -/

/-- Skips blanks, line breaks and comments up to the next token. A tab in the
indentation of a block line with content is refused. -/
def skipToNextToken : ScanM Unit := do
  for _ in [0:(← get).rest.length + 1] do
    let s ← get
    let c ← ch
    if c = '\t' && !s.indents.isEmpty && s.leadingWhitespace && (s.mark.col : Int) < s.indent then
      let _ ← skipWsToEol true
      if !isBreakZ (← ch) then fail (← here) "tabs disallowed within this context (block indentation)"
    else if isBlank c then skipBlank
    else if isBreak c then
      skipLinebreak
      if (← get).flowLevel == 0 then allowSimpleKey
    else if c = '#' then
      for _ in [0:(← get).rest.length + 1] do
        if isBreakZ (← ch) then break
        skipNonBlank
    else break

/-! ### Scalars -/

/-- The character an escape in a double-quoted scalar stands for. -/
def escape (start : Mark) : ScanM Char := do
  let c ← peekAt 1
  let simple : Option Char := match c with
    | '0' => some '\x00'
    | 'a' => some '\x07'
    | 'b' => some '\x08'
    | 't' | '\t' => some '\t'
    | 'n' => some '\n'
    | 'v' => some '\x0b'
    | 'f' => some '\x0c'
    | 'r' => some '\r'
    | 'e' => some '\x1b'
    | ' ' => some ' '
    | '"' => some '"'
    | '/' => some '/'
    | '\\' => some '\\'
    | 'N' => some '\x85'
    | '_' => some '\xa0'
    | 'L' => some ' '
    | 'P' => some ' '
    | _ => none
  let length : Nat := match c with
    | 'x' => 2
    | 'u' => 4
    | 'U' => 8
    | _ => 0
  if simple.isNone && length = 0 then
    fail start "while parsing a quoted scalar, found unknown escape character"
  skipN 2
  match simple with
  | some r => return r
  | none =>
    let mut v := 0
    for i in [0:length] do
      let d ← peekAt i
      if !isHex d then fail start "while parsing a quoted scalar, did not find expected hexadecimal number"
      v := v * 16 + hexValue d
    if v > 0x10FFFF || (0xD800 ≤ v && v ≤ 0xDFFF) then
      fail start "while parsing a quoted scalar, found invalid Unicode character escape code"
    skipN length
    return Char.ofNat v

/-- Reads the characters of a quoted scalar up to a blank, a break or its closing
quote; true when an escaped line break was read. -/
def quotedRun (single : Bool) (start : Mark) (acc : String) : ScanM (String × Bool) := do
  let mut acc := acc
  for _ in [0:(← get).rest.length + 1] do
    let c ← ch
    if isBlankZ c then break
    let n ← peekAt 1
    if c = '\'' && n = '\'' && single then
      acc := acc.push '\''; skipN 2
    else if c = '\'' && single then break
    else if c = '"' && !single then break
    else if c = '\\' && !single && isBreak n then
      skipNonBlank; skipLinebreak
      return (acc, true)
    else if c = '\\' && !single then
      acc := acc.push (← escape start)
    else
      acc := acc.push c; skipNonBlank
  return (acc, false)

/-- Whether a document marker, `---` or `...` and then a blank or the end, is next. -/
def nextIsDocumentIndicator : ScanM Bool := do
  let c0 ← peekAt 0
  let c1 ← peekAt 1
  let c2 ← peekAt 2
  let c3 ← peekAt 3
  return ((c0 = '-' && c1 = '-' && c2 = '-') || (c0 = '.' && c1 = '.' && c2 = '.')) && isBlankZ c3

/-- Whether a document marker starts here, at the first column. -/
def atDocumentIndicator : ScanM Bool := do
  return (← here).col == 0 && (← nextIsDocumentIndicator)

/-- A single- or double-quoted scalar. Line breaks inside fold into a space, or into
the breaks after the first. -/
def scanFlowScalar (single : Bool) : ScanM Token := do
  let start ← here
  skipNonBlank
  let mut text := ""
  let mut leadingBreak := ""
  let mut trailingBreaks := ""
  let mut whitespaces := ""
  for _ in [0:(← get).rest.length + 1] do
    if ← atDocumentIndicator then
      fail start "while scanning a quoted scalar, found unexpected document indicator"
    if isZ (← ch) then fail start "while scanning a quoted scalar, found unexpected end of stream"
    if ((← here).col : Int) < (← get).indent then fail start "invalid indentation in quoted scalar"
    let (t, escapedBreak) ← quotedRun single start text
    text := t
    let mut leadingBlanks := escapedBreak
    let c ← ch
    if (c = '\'' && single) || (c = '"' && !single) then break
    for _ in [0:(← get).rest.length + 1] do
      let c ← ch
      if isBlank c then
        if leadingBlanks then
          if c = '\t' && ((← here).col : Int) < (← get).indent then
            fail (← here) "tab cannot be used as indentation"
          skipBlank
        else
          whitespaces := whitespaces.push c; skipBlank
      else if isBreak c then
        if leadingBlanks then trailingBreaks ← readBreak trailingBreaks
        else
          whitespaces := ""
          leadingBreak ← readBreak leadingBreak
          leadingBlanks := true
      else break
    if leadingBlanks then
      if leadingBreak.isEmpty then
        text := text ++ trailingBreaks
        trailingBreaks := ""
      else
        text := if trailingBreaks.isEmpty then text.push ' ' else text ++ trailingBreaks
        trailingBreaks := ""
        leadingBreak := ""
    else
      text := text ++ whitespaces
      whitespaces := ""
  skipNonBlank
  let _ ← skipWsToEol true
  let s ← get
  let c ← ch
  let fine := (isFlow c && (c = ',' || c = '}' || c = ']') && s.flowLevel > 0) || isBreakZ c ||
    (c = ':' && s.flowLevel == 0 && start.line == s.mark.line) || (c = ':' && s.flowLevel > 0)
  if !fine then fail s.mark "invalid trailing content after double-quoted scalar"
  return ⟨start, .scalar (if single then .singleQuoted else .doubleQuoted) text⟩

/-- Whether the next character may go on a plain scalar. -/
def canBePlain (inFlow : Bool) : ScanM Bool := do
  let c ← ch
  let n ← peekAt 1
  if c = ':' && (isBlankZ n || (inFlow && isFlow n)) then return false
  if inFlow && isFlow c then return false
  return true

/-- A plain scalar: it ends before `: `, before a comment, before a flow indicator in
a flow collection, or at a line indented no deeper than the block it is in. Line
breaks inside fold as in quoted scalars. -/
def scanPlainScalar : ScanM Token := do
  unrollNonBlockIndents
  let indent := (← get).indent + 1
  let start ← here
  if (← get).flowLevel > 0 && (start.col : Int) < indent then
    fail start "invalid indentation in flow construct"
  let mut text := ""
  let mut whitespaces := ""
  let mut leadingBreak := ""
  let mut trailingBreaks := ""
  let inFlow := (← get).flowLevel > 0
  for _ in [0:(← get).rest.length + 1] do
    if ((← get).leadingWhitespace && (← nextIsDocumentIndicator)) || (← ch) = '#' then break
    if inFlow && (← ch) = '-' && isFlow (← peekAt 1) then
      fail (← here) "plain scalar cannot start with '-' followed by ,[]\x7b\x7d"
    if !isBlankZ (← ch) && (← canBePlain inFlow) then
      if (← get).leadingWhitespace then
        if leadingBreak.isEmpty then
          text := text ++ leadingBreak ++ trailingBreaks
        else
          text := if trailingBreaks.isEmpty then text.push ' ' else text ++ trailingBreaks
        trailingBreaks := ""
        leadingBreak := ""
        modify fun s => { s with leadingWhitespace := false }
      else
        text := text ++ whitespaces
        whitespaces := ""
      for _ in [0:(← get).rest.length + 1] do
        if isBlankZ (← ch) || !(← canBePlain inFlow) then break
        text := text.push (← ch)
        skipNonBlank
    let c ← ch
    if !(isBlank c || isBreak c) then break
    for _ in [0:(← get).rest.length + 1] do
      let c ← ch
      if isBlank c then
        if !(← get).leadingWhitespace then
          whitespaces := whitespaces.push c; skipBlank
        else if ((← here).col : Int) < indent && c = '\t' then
          let _ ← skipWsToEol true
          if !isBreakZ (← ch) then fail start "while scanning a plain scalar, found a tab"
        else skipBlank
      else if isBreak c then
        if (← get).leadingWhitespace then
          skipLinebreak
          trailingBreaks := trailingBreaks.push '\n'
        else
          whitespaces := ""
          skipLinebreak
          leadingBreak := leadingBreak.push '\n'
          modify fun s => { s with leadingWhitespace := true }
      else break
    if (← get).flowLevel == 0 && ((← here).col : Int) < indent then break
  if (← get).leadingWhitespace then allowSimpleKey
  if text.isEmpty then fail start "unexpected end of plain scalar"
  return ⟨start, .scalar .plain text⟩

/-- Skips the indentation of a block scalar's lines up to its column, and the empty
lines, adding a line feed for each. -/
def skipBlockIndent (indent : Nat) (breaks : String) : ScanM String := do
  let mut breaks := breaks
  for _ in [0:(← get).rest.length + 1] do
    for _ in [0:(← get).rest.length + 1] do
      if (← here).col < indent && (← ch) = ' ' then skipBlank else break
    if isBreak (← ch) then breaks ← readBreak breaks
    else break
  return breaks

/-- Skips the empty lines before a block scalar's first line and finds its column:
the deepest blank prefix met, and at least one past the enclosing block. -/
def skipFirstBlockIndent (breaks : String) : ScanM (Nat × String) := do
  let mut breaks := breaks
  let mut deepest := 0
  for _ in [0:(← get).rest.length + 1] do
    for _ in [0:(← get).rest.length + 1] do
      if (← ch) = ' ' then skipBlank else break
    deepest := max deepest (← here).col
    if isBreak (← ch) then breaks ← readBreak breaks
    else break
  let s ← get
  let indent := max deepest (s.indent + 1).toNat
  return (if s.indent > 0 then max indent 1 else indent, breaks)

/-- A literal (`|`) or folded (`>`) block scalar, with its chomping (`-` strips the
final line breaks, `+` keeps them all, and by default one is kept) and an optional
indentation digit. -/
def scanBlockScalar (literal : Bool) : ScanM Token := do
  let start ← here
  skipNonBlank
  unrollNonBlockIndents
  -- chomping: none clips, some false strips, some true keeps
  let mut chomping : Option Bool := none
  let mut increment := 0
  let c ← ch
  if c = '+' || c = '-' then
    chomping := some (c = '+')
    skipNonBlank
    let d ← ch
    if isDigit d then
      if d = '0' then fail start "while scanning a block scalar, found an indentation indicator equal to 0"
      increment := d.toNat - '0'.toNat
      skipNonBlank
  else if isDigit c then
    if c = '0' then fail start "while scanning a block scalar, found an indentation indicator equal to 0"
    increment := c.toNat - '0'.toNat
    skipNonBlank
    let d ← ch
    if d = '+' || d = '-' then
      chomping := some (d = '+')
      skipNonBlank
  let _ ← skipWsToEol true
  if !isBreakZ (← ch) then
    fail start "while scanning a block scalar, did not find expected comment or line break"
  let mut chompingBreak := ""
  if isBreak (← ch) then chompingBreak ← readBreak chompingBreak
  if (← ch) = '\t' then fail start "a block scalar content cannot start with a tab"
  let s ← get
  let mut indent : Nat := if increment > 0 then
      (if s.indent ≥ 0 then (s.indent + increment).toNat else increment) else 0
  let mut trailingBreaks := ""
  if indent = 0 then
    let (i, b) ← skipFirstBlockIndent trailingBreaks
    indent := i
    trailingBreaks := b
  else
    trailingBreaks ← skipBlockIndent indent trailingBreaks
  let style := if literal then Style.literal else Style.folded
  if isZ (← ch) then
    let line := (← here).line
    let contents := match chomping with
      | some false => ""
      | _ =>
        if line == start.line then ""
        else match chomping with
          | none => chompingBreak
          | _ => if trailingBreaks.isEmpty then chompingBreak else trailingBreaks
    return ⟨start, .scalar style contents⟩
  if (← here).col < indent && ((← here).col : Int) > (← get).indent then
    fail (← here) "wrongly indented line in block scalar"
  let mut text := ""
  let mut leadingBreak := ""
  let mut leadingBlank := false
  for _ in [0:(← get).rest.length + 1] do
    if !((← here).col == indent && !isZ (← ch)) then break
    if indent = 0 && (← atDocumentIndicator) then break
    let trailingBlank := isBlank (← ch)
    if !literal && !leadingBreak.isEmpty && !leadingBlank && !trailingBlank then
      text := text ++ trailingBreaks
      if trailingBreaks.isEmpty then text := text.push ' '
    else
      text := text ++ leadingBreak ++ trailingBreaks
    leadingBreak := ""
    trailingBreaks := ""
    leadingBlank := isBlank (← ch)
    for _ in [0:(← get).rest.length + 1] do
      if isBreakZ (← ch) then break
      text := text.push (← ch)
      skipBlank
    if isZ (← ch) then break
    leadingBreak ← readBreak leadingBreak
    trailingBreaks ← skipBlockIndent indent trailingBreaks
  if chomping != some false then
    text := text ++ leadingBreak
    if isZ (← ch) && (← here).col ≥ max indent 1 then text := text.push '\n'
  if chomping == some true then text := text ++ trailingBreaks
  return ⟨start, .scalar style text⟩

/-! ### Anchors, aliases and tags -/

def scanAnchor (isAlias : Bool) : ScanM Token := do
  let start ← here
  skipNonBlank
  let mut name := ""
  for _ in [0:(← get).rest.length + 1] do
    let c ← ch
    if !isAnchorChar c then break
    name := name.push c
    skipNonBlank
  if name.isEmpty then
    fail start "while scanning an anchor or alias, did not find expected alphabetic or numeric character"
  return ⟨start, if isAlias then .alias name else .anchor name⟩

/-- A tag handle: `!`, then letters, then `!` if there is one. -/
def scanTagHandle (start : Mark) : ScanM String := do
  if (← ch) != '!' then fail start "while scanning a tag, did not find expected '!'"
  let mut handle := "!"
  skipNonBlank
  for _ in [0:(← get).rest.length + 1] do
    let c ← ch
    if !isAlpha c then break
    handle := handle.push c
    skipNonBlank
  if (← ch) = '!' then
    handle := handle.push '!'
    skipNonBlank
  return handle

/-- The suffix of a tag, URI escapes decoded; `head` is text read before it, counted
without its `!`. -/
def scanTagSuffix (head : String) (start : Mark) : ScanM String := do
  let mut length := head.length
  let mut suffix := String.ofList (head.toList.drop 1)
  for _ in [0:(← get).rest.length + 1] do
    let c ← ch
    if !isTagChar c then break
    if c = '%' then
      let a ← peekAt 1
      let b ← peekAt 2
      if !isHex a || !isHex b then fail start "while parsing a tag, found an invalid escape sequence"
      suffix := suffix.push (Char.ofNat (hexValue a * 16 + hexValue b))
      skipN 3
    else
      suffix := suffix.push c
      skipNonBlank
    length := length + 1
  if length = 0 then fail start "while parsing a tag, did not find expected tag URI"
  return suffix

def scanTag : ScanM Token := do
  let start ← here
  let (handle, suffix) ← if (← peekAt 1) = '<' then do
      skipN 2
      let mut uri := ""
      for _ in [0:(← get).rest.length + 1] do
        let c ← ch
        if c = '>' || !isUriChar c then break
        uri := uri.push c
        skipNonBlank
      if (← ch) != '>' then fail start "while scanning a verbatim tag, did not find the expected '>'"
      skipNonBlank
      pure ("", uri)
    else do
      let handle ← scanTagHandle start
      if handle.length ≥ 2 && handle.endsWith "!" then
        pure (handle, ← scanTagSuffix "" start)
      else
        let suffix ← scanTagSuffix handle start
        if suffix.isEmpty then pure ("", "!") else pure ("!", suffix)
  let s ← get
  let c ← ch
  if isBlankZ c || (s.flowLevel > 0 && isFlow c) then return ⟨start, .tag handle suffix⟩
  fail start "while scanning a tag, did not find expected whitespace or line break"

/-! ### Directives -/

/-- A directive line: `%YAML` with a version, `%TAG` with a handle and a prefix;
others are passed over. -/
def scanDirective : ScanM (Option Token) := do
  let start ← here
  skipNonBlank
  let mut name := ""
  for _ in [0:(← get).rest.length + 1] do
    let c ← ch
    if !isAlpha c then break
    name := name.push c
    skipNonBlank
  if name.isEmpty then
    fail start "while scanning a directive, could not find expected directive name"
  let blanks : ScanM Unit := do
    for _ in [0:(← get).rest.length + 1] do
      if isBlank (← ch) then skipBlank else break
  if name = "YAML" then
    blanks
    for _ in [0:(← get).rest.length + 1] do
      let c ← ch
      if isDigit c || c = '.' then skipNonBlank else break
    let _ ← skipWsToEol true
    return some ⟨start, .versionDirective⟩
  else if name = "TAG" then
    blanks
    let handle ← scanTagHandle start
    blanks
    let mut pfx := ""
    for _ in [0:(← get).rest.length + 1] do
      let c ← ch
      if !isUriChar c then break
      pfx := pfx.push c
      skipNonBlank
    let _ ← skipWsToEol true
    return some ⟨start, .tagDirective handle pfx⟩
  else
    for _ in [0:(← get).rest.length + 1] do
      if isBreakZ (← ch) then break
      skipNonBlank
    return none

/-! ### Fetching tokens -/

def fetchStreamStart : ScanM Unit := do
  let s ← get
  set { s with indent := -1, streamStartProduced := true, simpleKeyAllowed := true,
               simpleKeys := [{}] }
  push ⟨s.mark, .streamStart⟩

def fetchStreamEnd : ScanM Unit := do
  let s ← get
  if s.mark.col != 0 then
    set { s with mark := { s.mark with col := 0, line := s.mark.line + 1 } }
  let s ← get
  for k in s.simpleKeys do
    if k.required && k.possible then fail s.mark "simple key expected"
  set { s with simpleKeys := s.simpleKeys.map fun (k : SimpleKey) => { k with possible := false } }
  unrollIndent (-1)
  removeSimpleKey
  disallowSimpleKey
  push ⟨(← here), .streamEnd⟩

def fetchDocumentIndicator (kind : TokenKind) : ScanM Unit := do
  unrollIndent (-1)
  removeSimpleKey
  disallowSimpleKey
  let m ← here
  skipN 3
  push ⟨m, kind⟩

def fetchFlowCollectionStart (kind : TokenKind) : ScanM Unit := do
  saveSimpleKey
  rollOneColIndent
  increaseFlowLevel
  allowSimpleKey
  let m ← here
  skipNonBlank
  let _ ← skipWsToEol true
  push ⟨m, kind⟩

def fetchFlowCollectionEnd (kind : TokenKind) : ScanM Unit := do
  removeSimpleKey
  decreaseFlowLevel
  disallowSimpleKey
  let m ← here
  skipNonBlank
  let _ ← skipWsToEol true
  if (← get).flowLevel > 0 then
    modify fun s => { s with adjacentValueAllowedAt := s.mark.index }
  push ⟨m, kind⟩

def fetchFlowEntry : ScanM Unit := do
  removeSimpleKey
  allowSimpleKey
  let m ← here
  skipNonBlank
  let _ ← skipWsToEol true
  push ⟨m, .flowEntry⟩

def fetchBlockEntry : ScanM Unit := do
  let s ← get
  if s.flowLevel > 0 then fail s.mark "\"-\" is only valid inside a block"
  if !s.simpleKeyAllowed then fail s.mark "block sequence entries are not allowed in this context"
  match s.queue.getLast? with
  | some ⟨m, .anchor _⟩ | some ⟨m, .tag _ _⟩ =>
    if s.mark.col == 0 && m.col == 0 && s.indent > -1 then fail m "invalid indentation for anchor"
  | _ => pure ()
  let m ← here
  skipNonBlank
  rollIndent m.col none .blockSequenceStart m
  let found ← skipWsToEol true
  if found.foundTabs && (← ch) = '-' && isBlankZ (← peekAt 1) then
    fail (← here) "'-' must be followed by a valid YAML whitespace"
  let _ ← skipWsToEol false
  let c ← ch
  if isBreak c || isFlow c then rollOneColIndent
  removeSimpleKey
  allowSimpleKey
  push ⟨(← here), .blockEntry⟩

def fetchKey : ScanM Unit := do
  let start ← here
  if (← get).flowLevel == 0 then
    if !(← get).simpleKeyAllowed then fail start "mapping keys are not allowed in this context"
    rollIndent start.col none .blockMappingStart start
  removeSimpleKey
  if (← get).flowLevel == 0 then allowSimpleKey else disallowSimpleKey
  skipNonBlank
  let _ ← skipWsToEol true
  push ⟨start, .key⟩

def fetchValue : ScanM Unit := do
  let s ← get
  let k := s.simpleKeys.headD {}
  let start := s.mark
  skipNonBlank
  if (← ch) = '\t' then
    let found ← skipWsToEol true
    if !found.hasYamlWs && ((← ch) = '-' || isAlpha (← ch)) then
      fail (← here) "':' must be followed by a valid YAML whitespace"
  if k.possible then
    insertAt (k.tokenNumber - (← get).tokensParsed) ⟨k.mark, .key⟩
    rollIndent k.mark.col (some k.tokenNumber) .blockMappingStart start
    rollOneColIndent
    modify fun s => { s with simpleKeys := { k with possible := false } :: s.simpleKeys.drop 1 }
    disallowSimpleKey
  else
    if (← get).flowLevel == 0 then
      if !(← get).simpleKeyAllowed then fail start "mapping values are not allowed in this context"
      rollIndent start.col none .blockMappingStart start
    rollOneColIndent
    if (← get).flowLevel == 0 then allowSimpleKey else disallowSimpleKey
  push ⟨start, .value⟩

def fetchAnchor (isAlias : Bool) : ScanM Unit := do
  saveSimpleKey
  disallowSimpleKey
  push (← scanAnchor isAlias)

def fetchTag : ScanM Unit := do
  saveSimpleKey
  disallowSimpleKey
  push (← scanTag)

def fetchBlockScalar (literal : Bool) : ScanM Unit := do
  saveSimpleKey
  allowSimpleKey
  push (← scanBlockScalar literal)

def fetchFlowScalar (single : Bool) : ScanM Unit := do
  saveSimpleKey
  disallowSimpleKey
  let t ← scanFlowScalar single
  modify fun s => { s with adjacentValueAllowedAt := s.mark.index }
  push t

def fetchPlainScalar : ScanM Unit := do
  saveSimpleKey
  disallowSimpleKey
  push (← scanPlainScalar)

/-- Finds the next token or tokens. -/
def fetchNextToken : ScanM Unit := do
  if !(← get).streamStartProduced then
    fetchStreamStart
    return
  skipToNextToken
  staleSimpleKeys
  let m ← here
  unrollIndent m.col
  let c ← ch
  let n ← peekAt 1
  if isZ c then
    fetchStreamEnd
    return
  if m.col == 0 && c = '%' then
    unrollIndent (-1)
    removeSimpleKey
    disallowSimpleKey
    match ← scanDirective with
    | some t => push t
    | none => pure ()
    return
  if m.col == 0 && c = '-' && n = '-' && (← peekAt 2) = '-' && isBlankZ (← peekAt 3) then
    fetchDocumentIndicator .documentStart
    return
  if m.col == 0 && c = '.' && n = '.' && (← peekAt 2) = '.' && isBlankZ (← peekAt 3) then
    fetchDocumentIndicator .documentEnd
    let _ ← skipWsToEol true
    if !isBreakZ (← ch) then fail (← here) "invalid content after document end marker"
    return
  if (m.col : Int) < (← get).indent then fail m "invalid indentation"
  let s ← get
  match c with
  | '[' => fetchFlowCollectionStart .flowSequenceStart
  | '{' => fetchFlowCollectionStart .flowMappingStart
  | ']' => fetchFlowCollectionEnd .flowSequenceEnd
  | '}' => fetchFlowCollectionEnd .flowMappingEnd
  | ',' => fetchFlowEntry
  | '*' => fetchAnchor true
  | '&' => fetchAnchor false
  | '!' => fetchTag
  | '\'' => fetchFlowScalar true
  | '"' => fetchFlowScalar false
  | '%' | '@' | '\x60' => fail m ("unexpected character: \x60" ++ String.singleton c ++ "'")
  | _ =>
    if c = '-' && isBlankZ n then fetchBlockEntry
    else if c = '?' && isBlankZ n then fetchKey
    else if c = ':' && isBlankZ n then fetchValue
    else if c = ':' && s.flowLevel > 0 && (isFlow n || s.mark.index == s.adjacentValueAllowedAt) then
      fetchValue
    else if c = '|' && s.flowLevel == 0 then fetchBlockScalar true
    else if c = '>' && s.flowLevel == 0 then fetchBlockScalar false
    else fetchPlainScalar

/-- Fetches tokens until the next one to hand out can no longer change: until one
is queued and no possible simple key could still put a key token before it. -/
def fetchMoreTokens : ScanM Unit := do
  for _ in [0:4 * (← get).rest.length + 16] do
    let s ← get
    let needMore ← if s.queue.isEmpty then pure true else do
      staleSimpleKeys
      let s ← get
      pure (s.simpleKeys.any fun k => k.possible && k.tokenNumber == s.tokensParsed)
    if !needMore then break
    fetchNextToken
  modify fun s => { s with tokenAvailable := true }

end Scan

/-- The next token, or none after the end of the stream. -/
def Scanner.next : ScanM (Option Token) := do
  if (← get).streamEndProduced then return none
  if !(← get).tokenAvailable then Scan.fetchMoreTokens
  let s ← get
  match s.queue with
  | [] => Scan.fail s.mark "did not find expected next token"
  | t :: rest =>
    set { s with queue := rest, tokenAvailable := false, tokensParsed := s.tokensParsed + 1,
                 streamEndProduced := s.streamEndProduced || (match t.kind with | .streamEnd => true | _ => false) }
    return some t

end Confine.Settings.Yaml
