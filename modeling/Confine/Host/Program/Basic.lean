import Confine.Shell.State
/-!
# What programs share

Programs of the host run in the shell's monad on their own process state. They
report errors as `name: message` on the error stream, quote file names in messages
when a shell would need quotes for them, read their input in chunks as it arrives,
and open files by path from their working directory.
-/

namespace Confine.Host.Program

open Confine.Shell

/-- Bytes of a byte string. -/
def bytes (s : String) : List UInt8 := Text.Octets.toBytes s

/-- Whether a character is white space to C. -/
def isCSpace (c : Char) : Bool :=
  c = ' ' || c = '\t' || c = '\n' || c = '\x0b' || c = '\x0c' || c = '\r'

/-- The digits of a list as a number. -/
def digitsValue (ds : List Char) : Nat :=
  ds.foldl (fun acc d => acc * 10 + (d.toNat - '0'.toNat)) 0

/-- Dropping a prefix never lengthens a list. -/
theorem dropWhile_length_le {α : Type} (p : α → Bool) (l : List α) :
    (l.dropWhile p).length ≤ l.length := by
  induction l with
  | nil => simp
  | cons x xs ih =>
    rw [List.dropWhile_cons]
    split
    · simp only [List.length_cons]; omega
    · simp

/-- Write a byte string to standard output. -/
def say (s : String) : M Unit := putStr 1 s

/-- The name a program was run by, which its messages carry: its first argument as
given, a path included; `fallback` when there is none. -/
def invokedName (fallback : String) : M String := do
  let a := (← getSh).arg0
  return if a.isEmpty then fallback else a

/-- Report `name: message` on the error stream, under the name the program was run
by. -/
def complain (name msg : String) : M Unit := do
  putStr 2 ((← invokedName name) ++ ": " ++ msg ++ "\n")

/-- The status a program ends with when a write to its standard output failed, for
the programs that check their output as they end and report the failure as a write
error; `none` for the others. -/
def writeFailureStatus : String → Option Nat
  | "ls" | "sort" | "grep" => some 2
  | "expr" | "tty" => some 3
  | "env" => some 125
  | "cut" | "uniq" | "od" | "head" | "tail" | "tr" | "wc" | "seq" | "mkdir" | "touch"
  | "rm" | "pwd" | "echo" | "printf" | "uname" | "id" | "whoami" | "date" | "basename"
  | "dirname" | "true" | "false" | "test" | "[" | "stty" => some 1
  | _ => none

/-- Reads a line of standard input as the answer to a question: whether it starts
with `y` or `Y`. The end of input answers no. -/
def readAnswer : M Bool := do
  let mut line : List UInt8 := []
  for _ in [0:4096] do
    match ← readFd 0 1 with
    | some [b] => if b == 10 then break else line := line ++ [b]
    | _ => break
  return match line.head? with
    | some b => b == 121 || b == 89
    | none => false

/-- The usual hint after a usage error. -/
def tryHelp (name : String) : M Unit := do
  putStr 2 ("Try '" ++ (← invokedName name) ++ " --help' for more information.\n")

/-- Characters that need no quoting in a message. -/
def plainChar (c : Char) : Bool :=
  c.isAlphanum || "._/+-:=@%^,".toList.contains c || c.toNat ≥ 128

/-- Whether a byte prints as itself in the C locale. -/
def isPrintableByte (c : Char) : Bool := 32 ≤ c.toNat && c.toNat < 127

/-- The letter of a control character's C escape, for those that have one. -/
def escapeLetter (c : Char) : Option Char :=
  match c with
  | '\x07' => some 'a'
  | '\x08' => some 'b'
  | '\x0c' => some 'f'
  | '\n' => some 'n'
  | '\r' => some 'r'
  | '\t' => some 't'
  | '\x0b' => some 'v'
  | _ => none

/-- Whether a byte at place `i` of a text of `len` bytes makes a shell read the text
other than as one plain word: a byte that does not print, a character special to
shells, `#` or `~` in front, or a brace on its own; with `colon`, a colon too. -/
def needsQuoting (colon : Bool) (len i : Nat) (c : Char) : Bool :=
  !isPrintableByte c || "\\?'!\"$&()*;<=>[^`| ".toList.contains c ||
    (i == 0 && (c == '#' || c == '~')) || (len == 1 && (c == '{' || c == '}')) ||
    (colon && c == ':')

/-- Whether a byte at place `i` of a text of `len` bytes means the same between double
quotes in C and in a shell. -/
def doubleQuoteSafe (len i : Nat) (c : Char) : Bool :=
  c.isAlphanum || "%+,-./:]_ '@".toList.contains c ||
    (i == 0 && (c == '#' || c == '~')) || (len == 1 && (c == '{' || c == '}'))

/-- A text in single quotes: a single quote written `'\''`, and control bytes and bytes
that do not print as escapes inside `$'...'`, which closes and opens around them.
`pending` tells that a `$'...'` is open. -/
def singleQuoted : List Char → Bool → List Char
  | [], _ => ['\'']
  | c :: rest, pending =>
    let open_ : List Char := if pending then [] else "'$'".toList
    if c == '\'' then "'\\''".toList ++ singleQuoted rest false
    else match escapeLetter c with
      | some e => open_ ++ ['\\', e] ++ singleQuoted rest true
      | none =>
        if !isPrintableByte c then
          let n := c.toNat % 256
          let digit (d : Nat) : Char := Char.ofNat (48 + d)
          open_ ++ ['\\', digit (n / 64), digit (n / 8 % 8), digit (n % 8)] ++ singleQuoted rest true
        else (if pending then ['\'', '\''] else []) ++ c :: singleQuoted rest false

/-- A text quoted for a shell only when it needs it: as it is when a shell reads it
as one plain word; in double quotes when it holds a single quote and nothing that
double quotes would change; else in single quotes, with `$'...'` escapes for bytes that
do not print. An empty text is `''`. With `colon`, a colon needs quotes too. -/
def shellQuote (colon : Bool) (s : String) : String :=
  let cs := s.toList
  let len := cs.length
  if !cs.isEmpty && !(cs.zipIdx.any fun (c, i) => needsQuoting colon len i c) then s
  else if cs.contains '\'' && cs.zipIdx.all (fun (c, i) => doubleQuoteSafe len i c) then
    "\"" ++ s ++ "\""
  else String.ofList ('\'' :: singleQuoted cs false)

/-- A file name as messages show it: quoted for a shell when it needs it, a colon
included. -/
def quoteName (s : String) : String := shellQuote true s

/-- A file name as messages that always quote it show it: as `quoteName` writes it,
in single quotes even when it needs none. -/
def quoteFile (s : String) : String :=
  let cs := s.toList
  if cs.contains '\'' && cs.zipIdx.all (fun (c, i) => doubleQuoteSafe cs.length i c) then
    "\"" ++ s ++ "\""
  else String.ofList ('\'' :: singleQuoted cs false)

/-- A text as usage messages quote it: always in single quotes, with a backslash
before a backslash or a single quote and control characters written as C escapes. -/
def quoteAlways (s : String) : String :=
  let escape (c : Char) : List Char :=
    match c with
    | '\\' => ['\\', '\\']
    | '\'' => ['\\', '\'']
    | '\n' => ['\\', 'n']
    | '\t' => ['\\', 't']
    | '\r' => ['\\', 'r']
    | '\x07' => ['\\', 'a']
    | '\x08' => ['\\', 'b']
    | '\x0b' => ['\\', 'v']
    | '\x0c' => ['\\', 'f']
    | _ =>
      if c.toNat < 32 || c.toNat = 127 then
        let ds := Nat.toDigits 8 c.toNat
        '\\' :: (List.replicate (3 - ds.length) '0' ++ ds)
      else [c]
  "'" ++ String.ofList (s.toList.flatMap escape) ++ "'"

/-- The value of a variable in the program's environment. -/
def environValue (name : String) : M (Option String) := do
  return match (← getSh).vars.lookup name with
    | some v => if v.exported then v.value else none
    | none => none

/-- Run `body` again while it returns `true`, within the evaluation budget. -/
def repeatWhile (body : M Bool) : M Unit := do
  let limit := (← get).steps + 1
  for _ in [0:limit] do
    useStep
    if !(← body) then break

/-- Whether reading a descriptor never comes to an end: the zero device, or a feed
that repeats a pattern once its queued data is read. -/
def endlessInput (fd : Nat) : M Bool := do
  match ← fd? fd with
  | some .zero | some .full => return true
  | some (.feed id) =>
    match ((← get).feeds[id]?).map (·.finish) with
    | some (Host.FeedEnd.endless _) => return true
    | _ => return false
  | _ => return false

/-- The pattern an input repeats from now on without end, if it does: the zero device,
or a feed whose queued data is used up and that repeats a pattern. -/
def endlessPattern (fd : Nat) : M (Option (List UInt8)) := do
  match ← fd? fd with
  | some .zero | some .full => return some [0]
  | some (.feed id) =>
    match (← get).feeds[id]? with
    | some f =>
      match f.chunks, f.finish with
      | [], Host.FeedEnd.endless p => return some p
      | _, _ => return none
    | none => return none
  | _ => return none

/-- Whether a descriptor reads a regular file. -/
def regularInput (fd : Nat) : M Bool := do
  match ← fd? fd with
  | some (.feed id) => return (((← get).feeds[id]?).bind (·.fileSize)).isSome
  | _ => return false

/-- Read a descriptor to its end; on an input without end the reader waits forever. -/
def readToEnd (fd : Nat) : M (List UInt8) := do
  if ← endlessInput fd then discard (waitUntil none)
  let limit := (← get).steps + 1
  let mut acc : Array (List UInt8) := #[]
  for _ in [0:limit] do
    useStep
    match ← readFd fd 65536 with
    | some chunk => acc := acc.push chunk
    | none => break
  return acc.toList.flatten

/-- What a program file holds when read as data. -/
def programImage : List UInt8 := [0x7f, 0x45, 0x4c, 0x46, 2, 1, 1, 0]

/-- Open a path for reading as descriptor `n`. -/
def openInput (n : Nat) (path : String) : M (Except Errno Unit) := do
  match ← statPath path with
  | .error e => return .error e
  | .ok (_, node) =>
    let t ← now
    let target : Except Errno Fd ← match node with
      | .file content => do pure (.ok (Fd.feed (← newFeed (Feed.ofFile t content))))
      | .program _ => do pure (.ok (Fd.feed (← newFeed (Feed.ofFile t programImage))))
      | .device .null => pure (.ok .null)
      | .device .zero | .device .full => pure (.ok .zero)
      | .device (.descriptor k) =>
        match ← fd? k with
        | some f => pure (.ok f)
        | none => pure (.error .noEntry)
      | .device .terminal =>
        if (← get).onTerminal then pure (.ok .terminal) else pure (.error .noDevice)
      | .dir _ => pure (.error .isDir)
      | .link _ => pure (.error .noEntry)
    match target with
    | .ok f => modifySh (·.setFd n (some f)); return .ok ()
    | .error e => return .error e

/-- The text of an error for messages. -/
def errText (e : Errno) : String := e.text

/-- A decimal number of bytes or lines, with an optional multiplier suffix. -/
def parseCount (s : String) : Option Nat :=
  let cs := s.toList
  let ds := cs.takeWhile Char.isDigit
  if ds.isEmpty then none
  else
    let n := ds.foldl (fun a c => a * 10 + (c.toNat - '0'.toNat)) 0
    match String.ofList (cs.drop ds.length) with
    | "" => some n
    | "b" => some (n * 512)
    | "k" | "K" | "KiB" => some (n * 1024)
    | "kB" | "KB" => some (n * 1000)
    | "M" | "MiB" => some (n * 1024 * 1024)
    | "MB" => some (n * 1000 * 1000)
    | _ => none

/-- Whether standard descriptor `n` is the terminal. -/
def isTerminal (n : Nat) : M Bool := do return (← fd? n) == some .terminal

end Confine.Host.Program
