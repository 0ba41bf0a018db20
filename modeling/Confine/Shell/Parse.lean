import Confine.Shell.Syntax

/-!
# The shell language: reading commands

Text is read one complete command at a time: everything up to the end of a line,
or up to the end of the text. A command that spans lines (an open quote, an `if`
without its `fi`) is read to its end. Reading fails with the shell's own words
for what it met and what it expected; a failure caused by running out of text says
so, since an interactive reader may then read another line and try again.

Here-document bodies follow the line that names them; they are kept in a table
that grows over the whole text, and a redirection refers to its body by number.
Command substitutions keep their source text, read when they are expanded.
-/

namespace Confine.Shell

/-- A lexical token. -/
inductive Token where
  | eof
  | newline
  | semi
  | amp
  | andIf
  | orIf
  | pipe
  | lparen
  | rparen
  | dsemi
  | redir (fd : Option Nat) (op : RedirOp)
  | heredoc (fd : Option Nat) (strip : Bool)
  | word (parts : List WordPart) (quoted : Bool)
  | keyword (k : String)
  deriving Repr, Inhabited

/-- How the shell names a token in a syntax error. -/
def Token.describe : Token → String
  | .eof => "end of file"
  | .newline => "newline"
  | .semi => "\";\""
  | .amp => "\"&\""
  | .andIf => "\"&&\""
  | .orIf => "\"||\""
  | .pipe => "\"|\""
  | .lparen => "\"(\""
  | .rparen => "\")\""
  | .dsemi => "\";;\""
  | .redir _ _ | .heredoc _ _ => "redirection"
  | .word _ _ => "word"
  | .keyword k => "\"" ++ k ++ "\""

/-- The reserved words. -/
def keywords : List String :=
  ["!", "case", "do", "done", "elif", "else", "esac", "fi", "for", "if", "in", "then",
   "until", "while", "\x7b", "\x7d"]

/-- Builtins that a function may not be named after. -/
def specialBuiltins : List String :=
  ["break", ":", ".", "continue", "eval", "exec", "exit", "export", "local", "readonly",
   "return", "set", "shift", "times", "trap", "unset"]

/-- A failure to read a command: the message, the line it was found on, and whether
the text ran out. -/
structure ParseError where
  message : String
  line : Nat
  atEnd : Bool
  deriving Repr, Inhabited

/-- A here-document whose body is still to be read. -/
structure PendingHere where
  index : Nat
  delimiter : String
  strip : Bool
  expand : Bool

/-- The reader's state: the text left, the current line, a token read ahead, and
the here-document bodies. -/
structure Reader where
  rest : List Char
  line : Nat
  pushed : Option Token := none
  last : Token := .eof
  pending : List PendingHere := []
  bodies : Array (List WordPart) := #[]
  /-- The aliases a command word may stand for. -/
  aliases : List (String × String) := []
  /-- Alias texts being read: the alias, how much text follows its text, and whether
  its text ends in a blank. An alias is not expanded again inside its own text. -/
  expanding : List (String × Nat × Bool) := []

abbrev P := StateT Reader (Except ParseError)

/-- What one read of a complete command gives. -/
inductive Step where
  | eof
  | empty
  | command (c : Command)
  deriving Repr

namespace Reader

def fail (msg : String) (atEnd : Bool := false) : P α := do
  let s ← get
  throw { message := msg, line := s.line, atEnd }

def outOfFuel : P α := fail "Command too complex"

def peek : P (Option Char) := do return (← get).rest.head?

def peek2 : P (Option Char) := do return ((← get).rest.drop 1).head?

/-- Consumes one character, counting lines. -/
def advance : P Unit :=
  modify fun s => match s.rest with
    | [] => s
    | c :: cs => { s with rest := cs, line := if c = '\n' then s.line + 1 else s.line }

/-- Consumes backslash-newline pairs. -/
def eatContinuations : Nat → P Unit
  | 0 => pure ()
  | n + 1 => do
    let s ← get
    match s.rest with
    | '\\' :: '\n' :: cs => set { s with rest := cs, line := s.line + 1 }; eatContinuations n
    | _ => pure ()

end Reader

open Reader

/-- Adds literal text to a part list kept last-first. -/
def pushLit (acc : List WordPart) (s : String) : List WordPart :=
  match acc with
  | .lit t :: rest => .lit (t ++ s) :: rest
  | _ => .lit s :: acc

/-- Characters that end an unquoted word. -/
def isWordEnd (c : Char) : Bool :=
  c = ' ' || c = '\t' || c = '\n' || c = ';' || c = '&' || c = '|' || c = '(' || c = ')' ||
  c = '<' || c = '>'

/-- Characters that can follow `$` as a one-character special parameter. -/
def isSpecialParam (c : Char) : Bool :=
  c = '@' || c = '*' || c = '#' || c = '?' || c = '-' || c = '$' || c = '!'

def isNameStart (c : Char) : Bool := c.isAlpha || c = '_'

def isNameChar (c : Char) : Bool := c.isAlphanum || c = '_'

/-- Reads characters while a test holds. -/
def takeWhileP (p : Char → Bool) : Nat → List Char → P (List Char)
  | 0, acc => pure acc.reverse
  | n + 1, acc => do
    match ← peek with
    | some c => if p c then do advance; takeWhileP p n (c :: acc) else pure acc.reverse
    | none => pure acc.reverse

/-- Reads single-quoted text after the opening quote. -/
def singleQuoted : Nat → List Char → P String
  | 0, _ => outOfFuel
  | n + 1, acc => do
    match ← peek with
    | none => fail "Unterminated quoted string" true
    | some '\'' => advance; pure (String.ofList acc.reverse)
    | some c => advance; singleQuoted n (c :: acc)

/-- Reads the source of a command substitution after `$(`, up to the matching `)`,
honouring quotes and nested parentheses. -/
def parenSource : Nat → Nat → List Char → P String
  | 0, _, _ => outOfFuel
  | n + 1, depth, acc => do
    match ← peek with
    | none => fail "end of file unexpected (expecting \")\")" true
    | some ')' =>
      advance
      if depth = 0 then pure (String.ofList acc.reverse) else parenSource n (depth - 1) (')' :: acc)
    | some '(' => advance; parenSource n (depth + 1) ('(' :: acc)
    | some '\'' =>
      advance
      let inner ← singleQuoted n []
      parenSource n depth ('\'' :: (inner.toList.reverse ++ '\'' :: acc))
    | some '\\' =>
      advance
      match ← peek with
      | some c => advance; parenSource n depth (c :: '\\' :: acc)
      | none => parenSource n depth ('\\' :: acc)
    | some '"' =>
      advance
      let inner ← dqSource n []
      parenSource n depth ('"' :: (inner.reverse ++ '"' :: acc))
    | some c => advance; parenSource n depth (c :: acc)
where
  /-- The raw text of a double-quoted string, last character first. -/
  dqSource : Nat → List Char → P (List Char)
    | 0, _ => outOfFuel
    | k + 1, acc => do
      match ← peek with
      | none => fail "Unterminated quoted string" true
      | some '"' => advance; pure acc
      | some '\\' =>
        advance
        match ← peek with
        | some c => advance; dqSource k (c :: '\\' :: acc)
        | none => dqSource k ('\\' :: acc)
      | some c => advance; dqSource k (c :: acc)

/-- Reads a backquoted command after the opening backquote. Inside, a backslash
before `$`, a backquote or a backslash (and a double quote, within double quotes)
only quotes that character. -/
def backquoted (inDq : Bool) : Nat → List Char → P String
  | 0, _ => outOfFuel
  | n + 1, acc => do
    match ← peek with
    | none => fail "EOF in backquote substitution" true
    | some '`' => advance; pure (String.ofList acc.reverse)
    | some '\\' =>
      advance
      match ← peek with
      | some c =>
        if c = '$' || c = '`' || c = '\\' || (inDq && c = '"') then do
          advance; backquoted inDq n (c :: acc)
        else if c = '\n' then do advance; backquoted inDq n acc
        else backquoted inDq n ('\\' :: acc)
      | none => backquoted inDq n ('\\' :: acc)
    | some c => advance; backquoted inDq n (c :: acc)

/-- The word of a braced expansion with the tilde at its start read as a home
directory, up to the first `/`, when nothing quoted or expanded comes before that. -/
def argTilde : List WordPart → List WordPart
  | .lit s :: rest =>
    match s.toList with
    | '~' :: more =>
      let user := more.takeWhile (· != '/')
      if user.length < more.length then
        .tilde (String.ofList user) :: .lit (String.ofList (more.drop user.length)) :: rest
      else if rest.isEmpty then [.tilde (String.ofList user)]
      else .lit s :: rest
    | _ => .lit s :: rest
  | parts => parts

/-- The operator of a braced parameter expansion after the name. -/
def braceOp : P (Option ParamOp) := do
  match ← peek with
  | some '}' => pure (some .plain)
  | some ':' =>
    advance
    match ← peek with
    | some '-' => advance; pure (some (.useDefault true))
    | some '=' => advance; pure (some (.assignDefault true))
    | some '?' => advance; pure (some (.errorIfUnset true))
    | some '+' => advance; pure (some (.useAlternative true))
    | _ => pure none
  | some '-' => advance; pure (some (.useDefault false))
  | some '=' => advance; pure (some (.assignDefault false))
  | some '?' => advance; pure (some (.errorIfUnset false))
  | some '+' => advance; pure (some (.useAlternative false))
  | some '%' =>
    advance
    if (← peek) = some '%' then do advance; pure (some (.removeSuffix true))
    else pure (some (.removeSuffix false))
  | some '#' =>
    advance
    if (← peek) = some '#' then do advance; pure (some (.removePrefix true))
    else pure (some (.removePrefix false))
  | _ => pure none

mutual

/-- Reads what follows a `$`. `inDq` tells whether it stands in double quotes. -/
def dollar (inDq : Bool) : Nat → P (List WordPart)
  | 0 => outOfFuel
  | n + 1 => do
    match ← peek with
    | some '(' =>
      if (← peek2) = some '(' then do
        advance; advance
        let parts ← arithBody n 0 []
        pure [.arith parts]
      else do
        advance
        let line := (← get).line
        let src ← parenSource n 0 []
        pure [.cmdSub src line]
    | some '{' =>
      advance
      let lengthOp ← do
        if (← peek) = some '#' then
          match ← peek2 with
          | some '}' => pure false
          | some c => if isNameChar c || isSpecialParam c then do advance; pure true else pure false
          | none => pure false
        else pure false
      let name ← do
        match ← peek with
        | some c =>
          if isNameStart c then
            String.ofList <$> takeWhileP isNameChar n []
          else if c.isDigit then String.ofList <$> takeWhileP Char.isDigit n []
          else if isSpecialParam c || c = '0' then do advance; pure (String.singleton c)
          else fail "Bad substitution"
        | none => fail "Missing '\x7d'" true
      if lengthOp then do
        if (← peek) = some '}' then do advance; pure [.param name .length []]
        else fail "Bad substitution"
      else do
        match ← braceOp with
        | none => fail "Bad substitution"
        | some .plain => advance; pure [.param name .plain []]
        | some op =>
          let arg ← braceArg inDq n []
          pure [.param name op (argTilde arg)]
    | some c =>
      if isNameStart c then do
        let name ← takeWhileP isNameChar n []
        pure [.param (String.ofList name) .plain []]
      else if c.isDigit || isSpecialParam c then do
        advance; pure [.param (String.singleton c) .plain []]
      else pure [.lit "$"]
    | none => pure [.lit "$"]

/-- Reads the word of a braced expansion up to its closing brace. -/
def braceArg (inDq : Bool) : Nat → List WordPart → P (List WordPart)
  | 0, _ => outOfFuel
  | n + 1, acc => do
    match ← peek with
    | none => fail "Missing '\x7d'" true
    | some '}' => advance; pure acc.reverse
    | some '\\' =>
      advance
      match ← peek with
      | some '\n' => advance; braceArg inDq n acc
      | some c => advance; braceArg inDq n (.escaped c :: acc)
      | none => braceArg inDq n (pushLit acc "\\")
    | some '\'' =>
      if inDq then do advance; braceArg inDq n (pushLit acc "'")
      else do advance; let s ← singleQuoted n []; braceArg inDq n (.squote s :: acc)
    | some '"' =>
      advance
      let parts ← dqBody n []
      braceArg inDq n (.dquote parts :: acc)
    | some '$' =>
      advance
      let parts ← dollar inDq n
      braceArg inDq n (parts.reverse ++ acc)
    | some '`' =>
      advance
      let line := (← get).line
      let src ← backquoted inDq n []
      braceArg inDq n (.cmdSub src line :: acc)
    | some c => advance; braceArg inDq n (pushLit acc (String.singleton c))

/-- Reads the inside of double quotes after the opening quote. -/
def dqBody : Nat → List WordPart → P (List WordPart)
  | 0, _ => outOfFuel
  | n + 1, acc => do
    match ← peek with
    | none => fail "Unterminated quoted string" true
    | some '"' => advance; pure acc.reverse
    | some '\\' =>
      advance
      match ← peek with
      | some '\n' => advance; dqBody n acc
      | some c =>
        if c = '$' || c = '`' || c = '"' || c = '\\' then do
          advance; dqBody n (.escaped c :: acc)
        else dqBody n (pushLit acc "\\")
      | none => dqBody n (pushLit acc "\\")
    | some '$' =>
      advance
      let parts ← dollar true n
      dqBody n (parts.reverse ++ acc)
    | some '`' =>
      advance
      let line := (← get).line
      let src ← backquoted true n []
      dqBody n (.cmdSub src line :: acc)
    | some c => advance; dqBody n (pushLit acc (String.singleton c))

/-- Reads an arithmetic expansion after `$((`, up to the `))` that closes it. -/
def arithBody : Nat → Nat → List WordPart → P (List WordPart)
  | 0, _, _ => outOfFuel
  | n + 1, depth, acc => do
    match ← peek with
    | none => fail "Missing '))'" true
    | some ')' =>
      advance
      if depth = 0 then do
        if (← peek) = some ')' then do advance; pure acc.reverse
        else fail "Missing '))'"
      else arithBody n (depth - 1) (pushLit acc ")")
    | some '(' => advance; arithBody n (depth + 1) (pushLit acc "(")
    | some '\\' =>
      advance
      match ← peek with
      | some '\n' => advance; arithBody n depth acc
      | some c => advance; arithBody n depth (.escaped c :: acc)
      | none => arithBody n depth (pushLit acc "\\")
    | some '$' =>
      advance
      let parts ← dollar true n
      arithBody n depth (parts.reverse ++ acc)
    | some '`' =>
      advance
      let line := (← get).line
      let src ← backquoted true n []
      arithBody n depth (.cmdSub src line :: acc)
    | some '"' =>
      advance
      let parts ← dqBody n []
      arithBody n depth (.dquote parts :: acc)
    | some '\'' =>
      advance
      let s ← singleQuoted n []
      arithBody n depth (.squote s :: acc)
    | some c => advance; arithBody n depth (pushLit acc (String.singleton c))

end

/-- Reads an unquoted word; `quoted` records whether any part was quoted or expanded. -/
def wordBody : Nat → List WordPart → Bool → P (List WordPart × Bool)
  | 0, _, _ => outOfFuel
  | n + 1, acc, quoted => do
    match ← peek with
    | none => pure (acc.reverse, quoted)
    | some c =>
      if isWordEnd c then pure (acc.reverse, quoted)
      else if c = '\\' then do
        advance
        match ← peek with
        | some '\n' => advance; wordBody n acc quoted
        | some d => advance; wordBody n (.escaped d :: acc) true
        | none => wordBody n (pushLit acc "\\") quoted
      else if c = '\'' then do
        advance
        let s ← singleQuoted n []
        wordBody n (.squote s :: acc) true
      else if c = '"' then do
        advance
        let parts ← dqBody n []
        wordBody n (.dquote parts :: acc) true
      else if c = '$' then do
        advance
        let parts ← dollar false n
        let isLit := match parts with | [.lit _] => true | _ => false
        wordBody n (if isLit then pushLit acc "$" else parts.reverse ++ acc) (quoted || !isLit)
      else if c = '`' then do
        advance
        let line := (← get).line
        let src ← backquoted false n []
        wordBody n (.cmdSub src line :: acc) true
      else if c = '~' && acc.isEmpty then do
        advance
        let user ← takeWhileP (fun d => !isWordEnd d && d != '/' && d != '\\' && d != '\'' &&
          d != '"' && d != '$' && d != '`') n []
        let user := String.ofList user
        match ← peek with
        | none => wordBody n [.tilde user] true
        | some d =>
          if isWordEnd d || d = '/' then wordBody n [.tilde user] true
          else wordBody n (pushLit [] ("~" ++ user)) quoted
      else do advance; wordBody n (pushLit acc (String.singleton c)) quoted

/-- The text of a word without its quotes, as a here-document delimiter uses it. -/
def delimiterText (parts : List WordPart) : String :=
  String.join (parts.map fun
    | .lit s => s
    | .escaped c => String.singleton c
    | .squote s => s
    | .dquote ps => String.join (ps.map fun
        | .lit s => s
        | .escaped c => String.singleton c
        | _ => "")
    | .param name _ _ => "$" ++ name
    | .tilde u => "~" ++ u
    | _ => "")

/-- Reads a here-document body's text as parts, expanding like double quotes except
that a double quote is an ordinary character. -/
def hereParts : Nat → List WordPart → P (List WordPart)
  | 0, _ => outOfFuel
  | n + 1, acc => do
    match ← peek with
    | none => pure acc.reverse
    | some '\\' =>
      advance
      match ← peek with
      | some '\n' => advance; hereParts n acc
      | some c =>
        if c = '$' || c = '`' || c = '\\' then do advance; hereParts n (.escaped c :: acc)
        else hereParts n (pushLit acc "\\")
      | none => hereParts n (pushLit acc "\\")
    | some '$' =>
      advance
      let parts ← dollar true n
      hereParts n (parts.reverse ++ acc)
    | some '`' =>
      advance
      let line := (← get).line
      let src ← backquoted true n []
      hereParts n (.cmdSub src line :: acc)
    | some c => advance; hereParts n (pushLit acc (String.singleton c))

/-- Reads lines up to a delimiter line; returns the body text. -/
def hereLines (delim : String) (strip : Bool) : Nat → List String → P String
  | 0, _ => outOfFuel
  | n + 1, acc => do
    let s ← get
    if s.rest.isEmpty then pure (String.join acc.reverse)
    else
      let lineChars := s.rest.takeWhile (· != '\n')
      let after := s.rest.drop (lineChars.length + 1)
      let had := lineChars.length < s.rest.length
      let shown := if strip then lineChars.dropWhile (· = '\t') else lineChars
      set { s with rest := after, line := if had then s.line + 1 else s.line }
      if String.ofList shown = delim then pure (String.join acc.reverse)
      else hereLines delim strip n ((String.ofList shown ++ "\n") :: acc)

/-- Reads the bodies of the pending here-documents, in order. -/
def readHereBodies (fuel : Nat) : P Unit := do
  let s ← get
  let pend := s.pending
  modify fun s => { s with pending := [] }
  for h in pend do
    let text ← hereLines h.delimiter h.strip fuel []
    let parts ← if h.expand then do
        let s ← get
        let saved := (s.rest, s.line)
        set { s with rest := text.toList }
        let parts ← hereParts fuel []
        modify fun s => { s with rest := saved.1, line := saved.2 }
        pure parts
      else pure [.lit text]
    modify fun s => { s with bodies := s.bodies.set! h.index parts }

/-- Reads the next token from the text. -/
def lexToken (fuel : Nat) : Nat → P Token
  | 0 => outOfFuel
  | n + 1 => do
    eatContinuations fuel
    match ← peek with
    | none => pure .eof
    | some c =>
      if c = ' ' || c = '\t' then do advance; lexToken fuel n
      else if c = '#' then do
        let _ ← takeWhileP (· != '\n') fuel []
        lexToken fuel n
      else if c = '\n' then do
        advance
        if !(← get).pending.isEmpty then readHereBodies fuel
        pure .newline
      else if c = '&' then do
        advance; eatContinuations fuel
        if (← peek) = some '&' then do advance; pure .andIf else pure .amp
      else if c = '|' then do
        advance; eatContinuations fuel
        if (← peek) = some '|' then do advance; pure .orIf else pure .pipe
      else if c = ';' then do
        advance; eatContinuations fuel
        if (← peek) = some ';' then do advance; pure .dsemi else pure .semi
      else if c = '(' then do advance; pure .lparen
      else if c = ')' then do advance; pure .rparen
      else if c = '<' || c = '>' then redirOp none
      else do
        let (parts, quoted) ← wordBody fuel [] false
        match parts, quoted with
        | [.lit digits], false =>
          if digits.toList.all Char.isDigit && (← peek).any (fun d => d = '<' || d = '>') then
            redirOp (some digits.toNat!)
          else pure (.word parts quoted)
        | _, _ => pure (.word parts quoted)
where
  redirOp (fd : Option Nat) : P Token := do
    match ← peek with
    | some '<' =>
      advance
      match ← peek with
      | some '<' =>
        advance
        if (← peek) = some '-' then do advance; pure (.heredoc fd true)
        else pure (.heredoc fd false)
      | some '&' => advance; pure (.redir fd .dupInput)
      | some '>' => advance; pure (.redir fd .readWrite)
      | _ => pure (.redir fd .input)
    | _ =>
      advance
      match ← peek with
      | some '>' => advance; pure (.redir fd .append)
      | some '&' => advance; pure (.redir fd .dupOutput)
      | some '|' => advance; pure (.redir fd .clobber)
      | _ => pure (.redir fd .output)

/-- The fuel a reader gets for one token: enough for the whole text. -/
def tokenFuel (s : Reader) : Nat := 4 * s.rest.length + 64

/-- Reads a token. With `kw`, an unquoted reserved word becomes a keyword; with `nl`,
newlines are skipped. With `aliased`, which `kw` implies, an unquoted word that names an
alias is replaced by the alias's text, and the token is read again from there; so is
the word that follows an alias text ending in a blank. -/
def readToken (kw nl : Bool) (aliased : Bool := false) : P Token := do
  let s ← get
  let before := s.rest.length
  let tok ← match s.pushed with
    | some t => do set { s with pushed := none }; pure t
    | none => lexToken (tokenFuel s) (tokenFuel s)
  let tok ← if nl then skipNewlines tok (tokenFuel (← get)) else pure tok
  let s ← get
  let tok ← resolve (kw || aliased) before tok (s.aliases.length + s.rest.length + 1)
  modify fun s => { s with last := tok }
  pure tok
where
  resolve (aliased : Bool) (before : Nat) (tok : Token) : Nat → P Token
    | 0 => pure tok
    | n + 1 => do
      let s ← get
      let after := s.rest.length
      let crossed := s.expanding.any fun (_, bound, blank) => blank && after < bound && bound ≤ before
      let live := s.expanding.filter fun (_, bound, _) => bound ≤ after
      set { s with expanding := live }
      match tok with
      | .word [.lit w] false =>
        if kw && keywords.contains w then pure (.keyword w)
        else if !(aliased || crossed) || live.any (·.1 == w) then pure tok
        else match s.aliases.lookup w with
          | none => pure tok
          | some v =>
            let blank := v.endsWith " " || v.endsWith "\t"
            let expanding := if v.isEmpty then live else (w, after, blank) :: live
            set { s with rest := v.toList ++ s.rest, expanding }
            let s ← get
            let tok ← lexToken (tokenFuel s) (tokenFuel s)
            resolve (aliased || crossed) (v.length + after) tok n
      | _ => pure tok
  skipNewlines (t : Token) : Nat → P Token
    | 0 => pure t
    | n + 1 => match t with
      | .newline => do
        let s ← get
        let t' ← match s.pushed with
          | some p => do set { s with pushed := none }; pure p
          | none => lexToken (tokenFuel s) (tokenFuel s)
        skipNewlines t' n
      | _ => pure t

/-- Puts the last token back. -/
def pushBack : P Unit := modify fun s => { s with pushed := some s.last }

/-- Fails on the last token: it was not expected here. -/
def unexpected : P α := do
  let s ← get
  fail (s.last.describe ++ " unexpected") (match s.last with | .eof => true | _ => false)

/-- Fails on the last token, naming what was expected instead. -/
def expecting (t : Token) : P α := do
  let s ← get
  fail (s.last.describe ++ " unexpected (expecting " ++ t.describe ++ ")")
    (match s.last with | .eof => true | _ => false)

/-- Whether the last token was the given keyword. -/
def isKeyword (t : Token) (k : String) : Bool :=
  match t with
  | .keyword k' => k' = k
  | _ => false

/-- Tokens that end a list. -/
def endsList : Token → Bool
  | .eof | .rparen | .dsemi => true
  | .keyword k => k = "do" || k = "done" || k = "elif" || k = "else" || k = "esac" ||
      k = "fi" || k = "then" || k = "\x7d"
  | _ => false

/-- The tildes of unquoted text in an assignment's value. The text is cut at each `:`;
a piece that starts with `~`, and is the start of the value or follows a `:`, stands
for a home directory up to its first `/`, provided the piece is closed: by a `/`, by a
`:`, or by the end of the word (`wordEnds`). -/
def litTildes (s : String) (atStart wordEnds : Bool) : List WordPart :=
  let segs := s.toList.splitOn ':'
  let n := segs.length
  let pieces := segs.zipIdx.map fun (seg, i) =>
    let closed := i + 1 < n || wordEnds || seg.contains '/'
    match seg with
    | '~' :: more =>
      if (i > 0 || atStart) && closed then
        let user := more.takeWhile (· != '/')
        WordPart.tilde (String.ofList user) ::
          (if user.length < more.length then [WordPart.lit (String.ofList (more.drop user.length))]
           else [])
      else [WordPart.lit (String.ofList seg)]
    | _ => [WordPart.lit (String.ofList seg)]
  (pieces.intersperse [WordPart.lit ":"]).flatten

/-- An assignment's value with its tildes: at its start, and after each `:` of its
unquoted text. -/
def valueTildes (parts : List WordPart) : List WordPart :=
  go parts true
where
  go : List WordPart → Bool → List WordPart
  | [], _ => []
  | .lit s :: rest, atStart => litTildes s atStart rest.isEmpty ++ go rest false
  | p :: rest, _ => p :: go rest false

/-- Splits an assignment word `name=value` into its name and value parts. -/
def assignmentOf : List WordPart → Option (String × List WordPart)
  | .lit s :: rest =>
    let cs := s.toList
    let name := cs.takeWhile (· != '=')
    if name.length < cs.length && isName (String.ofList name) then
      let value := String.ofList (cs.drop (name.length + 1))
      some (String.ofList name, valueTildes ((if value.isEmpty then [] else [.lit value]) ++ rest))
    else none
  | _ => none

/-- Reads the target word of a redirection, or registers a here-document. -/
def redirTarget (fd : Option Nat) (tok : Token) : P Redir := do
  let t ← readToken false false
  match t with
  | .word parts quoted =>
    match tok with
    | .heredoc _ strip =>
      let s ← get
      let index := s.bodies.size
      let h : PendingHere := ⟨index, delimiterText parts, strip, !quoted⟩
      set { s with bodies := s.bodies.push [], pending := s.pending ++ [h] }
      pure (.here (fd.getD 0) index (!quoted))
    | .redir _ op =>
      let dflt := match op with
        | .input | .dupInput | .readWrite => 0
        | _ => 1
      pure (.file (fd.getD dflt) op parts)
    | _ => unexpected
  | _ => unexpected

mutual

/-- Reads a list of and-or lists. `mode` 1 is the top level, which stops at the end
of a line; mode 0 is a compound body; mode 2 is a case arm, which may be empty. -/
def parseList (mode : Nat) : Nat → P Command
  | 0 => outOfFuel
  | n + 1 => listLoop mode (mode == 2) n []

def listLoop (mode : Nat) (mayEnd : Bool) : Nat → List (Command × Bool) → P Command
  | 0, _ => outOfFuel
  | n + 1, acc => do
    let tok ← readToken true (mode != 1)
    match tok with
    | .newline => pure (.list acc.reverse)
    | .eof => pushBack; pure (.list acc.reverse)
    | _ =>
      pushBack
      if mayEnd && endsList tok then pure (.list acc.reverse)
      else do
        let item ← parseAndOr n
        let next ← readToken false false
        let async := match next with | .amp => true | _ => false
        let acc := (item, async) :: acc
        match next with
        | .eof => pushBack; pure (.list acc.reverse)
        | .newline => pushBack; listLoop mode true n acc
        | .amp | .semi => listLoop mode true n acc
        | _ =>
          if mode == 1 then unexpected
          else do pushBack; pure (.list acc.reverse)

def parseAndOr : Nat → P Command
  | 0 => outOfFuel
  | n + 1 => do
    let first ← parsePipeline n
    andOrRest n first []

def andOrRest : Nat → Command → List (Connective × Command) → P Command
  | 0, _, _ => outOfFuel
  | n + 1, first, acc => do
    let tok ← readToken false false
    let conn := match tok with
      | .andIf => some Connective.andThen
      | .orIf => some Connective.orElse
      | _ => none
    match conn with
    | none =>
      pushBack
      pure (if acc.isEmpty then first else .andOr first acc.reverse)
    | some c =>
      let _ ← readToken true true
      pushBack
      let next ← parsePipeline n
      andOrRest n first ((c, next) :: acc)

def parsePipeline : Nat → P Command
  | 0 => outOfFuel
  | n + 1 => do
    let tok ← readToken true false
    let negate := isKeyword tok "!"
    if !negate then pushBack
    let first ← parseCommand n
    let stages ← pipeRest n [first]
    if stages.length == 1 && !negate then pure first
    else pure (.pipeline negate stages)

def pipeRest : Nat → List Command → P (List Command)
  | 0, _ => outOfFuel
  | n + 1, acc => do
    let tok ← readToken false false
    match tok with
    | .pipe =>
      let _ ← readToken true true
      pushBack
      let c ← parseCommand n
      pipeRest n (c :: acc)
    | _ => pushBack; pure acc.reverse

def parseCommand : Nat → P Command
  | 0 => outOfFuel
  | n + 1 => do
    let tok ← readToken true false
    match tok with
    | .keyword "if" =>
      let cond ← parseList 0 n
      let t ← readToken true false
      if !isKeyword t "then" then expecting (.keyword "then")
      let body ← parseList 0 n
      let (branches, otherwise) ← elifs n [(cond, body)]
      let t ← readToken true false
      if !isKeyword t "fi" then expecting (.keyword "fi")
      let redirs ← trailingRedirs n []
      pure (.ifThen branches otherwise redirs)
    | .keyword "while" | .keyword "until" =>
      let untilMode := isKeyword tok "until"
      let cond ← parseList 0 n
      let t ← readToken true false
      if !isKeyword t "do" then expecting (.keyword "do")
      let body ← parseList 0 n
      let t ← readToken true false
      if !isKeyword t "done" then expecting (.keyword "done")
      let redirs ← trailingRedirs n []
      pure (.loop untilMode cond body redirs)
    | .keyword "for" =>
      let v ← readToken false false
      let var ← match v with
        | .word [.lit name] false => if isName name then pure name else fail "Bad for loop variable"
        | _ => fail "Bad for loop variable"
      let t ← readToken true true
      let words ← if isKeyword t "in" then do
          let ws ← forWords n []
          let last := (← get).last
          match last with
          | .newline | .semi => pure (some ws)
          | _ => unexpected
        else do
          match t with
          | .semi => pure ()
          | _ => pushBack
          pure none
      let t ← readToken true true
      if !isKeyword t "do" then expecting (.keyword "do")
      let body ← parseList 0 n
      let t ← readToken true false
      if !isKeyword t "done" then expecting (.keyword "done")
      let redirs ← trailingRedirs n []
      pure (.forIn var words body redirs)
    | .keyword "case" =>
      let t ← readToken false false
      let subject ← match t with
        | .word parts _ => pure parts
        | _ => expecting (.word [] false)
      let t ← readToken true true
      if !isKeyword t "in" then expecting (.keyword "in")
      let arms ← caseArms n []
      let redirs ← trailingRedirs n []
      pure (.caseOf subject arms redirs)
    | .lparen =>
      let body ← parseList 0 n
      let t ← readToken false false
      match t with
      | .rparen => pure ()
      | _ => expecting .rparen
      let redirs ← trailingRedirs n []
      pure (.subshell body redirs)
    | .keyword "\x7b" =>
      let body ← parseList 0 n
      let t ← readToken true false
      if !isKeyword t "\x7d" then expecting (.keyword "\x7d")
      let redirs ← trailingRedirs n []
      pure (.group body redirs)
    | .word _ _ | .redir _ _ | .heredoc _ _ =>
      pushBack
      parseSimple n
    | _ => unexpected

def elifs : Nat → List (Command × Command) → P (List (Command × Command) × Option Command)
  | 0, _ => outOfFuel
  | n + 1, acc => do
    let t ← readToken true false
    if isKeyword t "elif" then do
      let cond ← parseList 0 n
      let t ← readToken true false
      if !isKeyword t "then" then expecting (.keyword "then")
      let body ← parseList 0 n
      elifs n ((cond, body) :: acc)
    else if isKeyword t "else" then do
      let body ← parseList 0 n
      pure (acc.reverse, some body)
    else do
      pushBack
      pure (acc.reverse, none)

def forWords : Nat → List (List WordPart) → P (List (List WordPart))
  | 0, _ => outOfFuel
  | n + 1, acc => do
    let t ← readToken false false
    match t with
    | .word parts _ => forWords n (parts :: acc)
    | _ => pure acc.reverse

def caseArms : Nat → List (List (List WordPart) × Command) → P (List (List (List WordPart) × Command))
  | 0, _ => outOfFuel
  | n + 1, acc => do
    let t ← readToken true true
    if isKeyword t "esac" then pure acc.reverse
    else do
      let t ← match t with
        | .lparen => readToken false false
        | _ => pure t
      let pats ← casePatterns n t []
      let body ← parseList 2 n
      let t ← readToken true true
      if isKeyword t "esac" then pure ((pats, body) :: acc).reverse
      else match t with
        | .dsemi => caseArms n ((pats, body) :: acc)
        | _ => expecting .dsemi

def casePatterns : Nat → Token → List (List WordPart) → P (List (List WordPart))
  | 0, _, _ => outOfFuel
  | n + 1, t, acc => do
    let pat ← match t with
      | .word parts _ => pure parts
      | .keyword k => pure [.lit k]
      | _ => unexpected
    let next ← readToken false false
    match next with
    | .pipe =>
      let t' ← readToken false false
      casePatterns n t' (pat :: acc)
    | .rparen => pure (pat :: acc).reverse
    | _ => expecting .rparen

def trailingRedirs : Nat → List Redir → P (List Redir)
  | 0, _ => outOfFuel
  | n + 1, acc => do
    let t ← readToken true false
    match t with
    | .redir fd _ | .heredoc fd _ =>
      let r ← redirTarget fd t
      trailingRedirs n (r :: acc)
    | _ => pushBack; pure acc.reverse

def parseSimple : Nat → P Command
  | 0 => outOfFuel
  | n + 1 => do
    let line := (← get).line
    simpleLoop line n [] [] []

def simpleLoop (line : Nat) : Nat → List (String × List WordPart) → List (List WordPart) →
    List Redir → P Command
  | 0, _, _, _ => outOfFuel
  | n + 1, assigns, words, redirs => do
    let t ← readToken false false words.isEmpty
    match t with
    | .word parts _ =>
      match (if words.isEmpty then assignmentOf parts else none) with
      | some a => simpleLoop line n (a :: assigns) words redirs
      | none => simpleLoop line n assigns (parts :: words) redirs
    | .redir fd _ | .heredoc fd _ =>
      let r ← redirTarget fd t
      simpleLoop line n assigns words (r :: redirs)
    | .lparen =>
      match words, assigns, redirs with
      | [name], [], [] =>
        let t ← readToken false false
        match t with
        | .rparen => pure ()
        | _ => expecting .rparen
        let fname := match name with
          | [.lit s] => s
          | _ => ""
        if !isName fname || specialBuiltins.contains fname then fail "Bad function name"
        let _ ← readToken true true
        pushBack
        let body ← parseCommand n
        pure (.funDef fname body)
      | _, _, _ => pushBack; finish line assigns words redirs
    | _ => pushBack; finish line assigns words redirs
where
  finish (line : Nat) (assigns : List (String × List WordPart)) (words : List (List WordPart))
      (redirs : List Redir) : P Command :=
    pure (.simple assigns.reverse words.reverse redirs.reverse line)

end

/-- The fuel for one complete command. -/
def commandFuel (s : Reader) : Nat := 8 * s.rest.length + 64

/-- Reads the next complete command. -/
def readCommand : P Step := do
  let t ← readToken true false
  match t with
  | .eof => pure .eof
  | .newline => pure .empty
  | _ =>
    pushBack
    let c ← parseList 1 (commandFuel (← get))
    pure (.command c)

/-- A reader at the start of a text. -/
def Reader.ofText (text : String) (line : Nat := 1) (bodies : Array (List WordPart) := #[]) :
    Reader :=
  { rest := text.toList, line, bodies }

/-- Reads every command of a text, for a command substitution or an `eval`. -/
def readAll (text : String) (line : Nat) (bodies : Array (List WordPart))
    (aliases : List (String × String) := []) :
    Except ParseError (Command × Array (List WordPart)) :=
  let rec go : Nat → Reader → List (Command × Bool) → Except ParseError (Command × Array (List WordPart))
    | 0, s, acc => .ok (.list acc.reverse, s.bodies)
    | k + 1, s, acc =>
      match readCommand.run s with
      | .error e => .error e
      | .ok (.eof, s') => .ok (.list acc.reverse, s'.bodies)
      | .ok (.empty, s') => go k s' acc
      | .ok (.command c, s') => go k s' ((c, false) :: acc)
  go (text.length + 1) { Reader.ofText text line bodies with aliases } []

end Confine.Shell
