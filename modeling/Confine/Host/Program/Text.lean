import Confine.Host.Program.Basic
import Confine.Host.Program.Options
import Confine.Host.Program.About
/-!
# Text filters

`cat`, `wc`, `yes` and `tee`, as the GNU tools behave on the inputs a shell gives
them. `cat` and `tee` write what they read as it arrives; `wc` writes when its input
ends. An unknown option is a usage error with status 1.
-/

namespace Confine.Host.Program

open Confine.Shell

/-- Copy descriptor `src` to standard output until its end. -/
def copyOut (src : Nat) : M Unit := do
  let budget := (← get).steps + 1
  for _ in [0:budget] do
    useStep
    match ← endlessPattern src with
    | some p =>
      pourEndless 1 p
      break
    | none =>
      match ← readFd src 131072 with
      | some chunk => put 1 chunk
      | none => break

/-- How `cat` shows its input. -/
structure CatRequest where
  number : Bool := false
  numberNonblank : Bool := false
  squeeze : Bool := false
  showEnds : Bool := false
  showTabs : Bool := false
  showNonprinting : Bool := false

/-- What `cat` carries from byte to byte and from input to input: the last line
number written, and the line feeds just seen: -1 inside a line, 0 at the start of a
line, 1 after one empty line, 2 after more. -/
structure CatState where
  line : Nat := 0
  newlines : Int := 0

namespace CatRequest

/-- Whether the bytes are copied unchanged. -/
def plain (r : CatRequest) : Bool :=
  !(r.number || r.squeeze || r.showEnds || r.showTabs || r.showNonprinting)

/-- How a byte other than a line feed is shown: unprintable bytes as `^X` and `M-`
forms with `-v`, tabs as `^I` with `-T`. -/
def showByte (r : CatRequest) (b : UInt8) : List UInt8 :=
  if r.showNonprinting then
    if b ≥ 32 then
      if b < 127 then [b]
      else if b = 127 then [94, 63]
      else if b ≥ 160 then
        if b < 255 then [77, 45, b - 128] else [77, 45, 94, 63]
      else [77, 45, 94, b - 128 + 64]
    else if b = 9 && !r.showTabs then [9]
    else [94, b + 64]
  else if b = 9 && r.showTabs then [94, 73]
  else [b]

/-- The next line number, right-aligned in six columns and followed by a tab. -/
def numberText (n : Nat) : List UInt8 :=
  let ds := Nat.toDigits 10 n
  bytes (String.ofList (List.replicate (6 - ds.length) ' ' ++ ds) ++ "\t")

/-- Shows a chunk: the bytes written and the state after it. -/
def feed (r : CatRequest) (st : CatState) (chunk : List UInt8) : List UInt8 × CatState :=
  let (out, st) := chunk.foldl (fun (out, st) b =>
    if b = 10 then
      let nl := st.newlines + 1
      if nl ≥ 2 && r.squeeze then (out, { st with newlines := 2 })
      else
        let nl := if nl ≥ 2 then 2 else nl
        let (out, line) := if nl > 0 && r.number && !r.numberNonblank then
            ((numberText (st.line + 1)).reverse ++ out, st.line + 1)
          else (out, st.line)
        let out := if r.showEnds then 10 :: 36 :: out else 10 :: out
        (out, { line, newlines := nl })
    else
      let (out, line) := if st.newlines ≥ 0 && r.number then
          ((numberText (st.line + 1)).reverse ++ out, st.line + 1)
        else (out, st.line)
      ((r.showByte b).reverse ++ out, { line, newlines := -1 })) ([], st)
  (out.reverse, st)

end CatRequest

/-- The option table of `cat`. -/
def catOptions : OptionTable where
  short := [('A', .nothing), ('b', .nothing), ('e', .nothing), ('E', .nothing), ('n', .nothing),
    ('s', .nothing), ('t', .nothing), ('T', .nothing), ('u', .nothing), ('v', .nothing)]
  long := [⟨"show-all", .nothing, "A"⟩, ⟨"number-nonblank", .nothing, "b"⟩,
    ⟨"show-ends", .nothing, "E"⟩, ⟨"number", .nothing, "n"⟩, ⟨"squeeze-blank", .nothing, "s"⟩,
    ⟨"show-tabs", .nothing, "T"⟩, ⟨"show-nonprinting", .nothing, "v"⟩,
    ⟨"help", .nothing, "help"⟩, ⟨"version", .nothing, "version"⟩]

/-- Shows descriptor `src` as a request asks, from a state; the state after it. -/
def showInput (r : CatRequest) (src : Nat) (st : CatState) : M CatState := do
  let mut st := st
  let budget := (← get).steps + 1
  for _ in [0:budget] do
    useStep
    if let some _ ← endlessPattern src then
      discard (waitUntil none)
    match ← readFd src 65536 with
    | some chunk =>
      let (out, st') := r.feed st chunk
      put 1 out
      st := st'
    | none => break
  return st

/-- `cat [OPTION]... [FILE]...`: each operand in turn, `-` or none being standard
input. -/
def cat (args : List String) : M Nat := do
  match catOptions.read args with
  | .error e => complain "cat" e.message; tryHelp "cat"; return 1
  | .ok parsed =>
  if let some code ← aboutRequest "cat" parsed then return code
  let r : CatRequest := parsed.options.foldl (fun r (k, _) =>
    match k with
    | "A" => { r with showNonprinting := true, showEnds := true, showTabs := true }
    | "b" => { r with number := true, numberNonblank := true }
    | "e" => { r with showNonprinting := true, showEnds := true }
    | "E" => { r with showEnds := true }
    | "n" => { r with number := true }
    | "s" => { r with squeeze := true }
    | "t" => { r with showNonprinting := true, showTabs := true }
    | "T" => { r with showTabs := true }
    | "v" => { r with showNonprinting := true }
    | _ => r) {}
  if (← fd? 1).isNone then
    complain "cat" ("standard output: " ++ Errno.badDescriptor.text)
    return 1
  let files := if parsed.operands.isEmpty then ["-"] else parsed.operands
  let mut status := 0
  let mut st : CatState := {}
  for f in files do
    let src ← if f = "-" then
        if (← fd? 0).isNone then
          complain "cat" ("-: " ++ Errno.badDescriptor.text)
          status := 1
          pure none
        else pure (some 0)
      else match ← openInput 9 f with
        | .ok () => pure (some 9)
        | .error e =>
          complain "cat" (quoteName f ++ ": " ++ e.text)
          status := 1
          pure none
    if let some src := src then
      if r.plain then copyOut src else st ← showInput r src st
  if files.contains "-" && (← fd? 0).isNone then
    complain "cat" ("closing standard input: " ++ Errno.badDescriptor.text)
    return 1
  return status

/-- A count right-aligned to a width. -/
def padCount (width n : Nat) : String :=
  let s := String.ofList (Nat.toDigits 10 n)
  String.ofList (List.replicate (width - s.length) ' ') ++ s

/-- What `stat` tells of an input of `wc`: none when it fails, else the size of a
regular file, or none for anything else. Standard input is `-`. -/
def inputStat (f : String) : M (Option (Option Nat)) := do
  if f = "-" then
    match ← fd? 0 with
    | some (.feed id) => return some (((← get).feeds[id]?).bind (·.fileSize))
    | some _ => return some none
    | none => return none
  else match ← statPath f with
    | .ok (_, .file content) => return some (some content.length)
    | .ok (_, .program _) => return some (some programImage.length)
    | .ok _ => return some none
    | .error _ => return none

/-- The width of `wc`'s columns: one for a single count of a single input, or when the
first input cannot be looked at; else the digits of the total size of the regular
files, and at least seven when some input is not a regular file. -/
def countWidth (inputs : List String) (kinds : Nat) : M Nat := do
  if inputs.length = 1 && kinds = 1 then return 1
  let stats ← inputs.mapM inputStat
  match stats.head? with
  | some (some _) =>
    let known := stats.filterMap (fun x => x)
    let minimum := if known.any Option.isNone then 7 else 1
    let total := (known.filterMap (fun x => x)).foldl (· + ·) 0
    return max (Nat.toDigits 10 total).length minimum
  | _ => return 1

/-- The counts of `wc`: lines, words, characters, bytes and the widest line. -/
structure WcCounts where
  lines : Nat := 0
  words : Nat := 0
  chars : Nat := 0
  bytes : Nat := 0
  widest : Nat := 0

/-- Counts bytes. In the C locale a character is a byte; a word is a run of printable
bytes other than spaces, which unprintable bytes neither start nor end; a line's width
counts printable bytes as one column and tabs to the next multiple of eight, and
carriage returns and form feeds start it again. -/
def wcCount (data : List UInt8) : WcCounts :=
  let (c, pos, inWord) := data.foldl (fun ((c : WcCounts), (pos : Nat), (inWord : Bool)) b =>
    let endWord (c : WcCounts) : WcCounts := { c with words := c.words + (if inWord then 1 else 0) }
    if b = 10 || b = 13 || b = 12 then
      let c := if b = 10 then { c with lines := c.lines + 1 } else c
      (endWord { c with widest := Nat.max c.widest pos }, 0, false)
    else if b = 9 then (endWord c, pos + 8 - pos % 8, false)
    else if b = 32 then (endWord c, pos + 1, false)
    else if b = 11 then (endWord c, pos, false)
    else if 32 < b && b < 127 then (c, pos + 1, true)
    else (c, pos, inWord)) (({} : WcCounts), 0, false)
  { c with widest := Nat.max c.widest pos, words := c.words + (if inWord then 1 else 0),
           chars := data.length, bytes := data.length }

/-- The option table of `wc`. -/
def wcOptions : OptionTable where
  short := [('c', .nothing), ('l', .nothing), ('L', .nothing), ('m', .nothing), ('w', .nothing)]
  long := [⟨"bytes", .nothing, "c"⟩, ⟨"chars", .nothing, "m"⟩, ⟨"lines", .nothing, "l"⟩,
    ⟨"max-line-length", .nothing, "L"⟩, ⟨"words", .nothing, "w"⟩,
    ⟨"files0-from", .value, "files0"⟩, ⟨"help", .nothing, "help"⟩,
    ⟨"version", .nothing, "version"⟩]

/-- `wc [OPTION]... [FILE]...`: lines, words, characters, bytes and the widest line
(`-l`, `-w`, `-m`, `-c`, `-L`; lines, words and bytes by default), in that order,
with a total line when there is more than one operand. -/
def wc (args : List String) : M Nat := do
  match wcOptions.read args with
  | .error e => complain "wc" e.message; tryHelp "wc"; return 1
  | .ok parsed =>
  if let some code ← aboutRequest "wc" parsed then return code
  let has (k : String) := parsed.has k
  let byDefault := !(has "l" || has "w" || has "m" || has "c" || has "L")
  let shown : List (WcCounts → Nat) :=
    (if has "l" || byDefault then [WcCounts.lines] else []) ++
    (if has "w" || byDefault then [WcCounts.words] else []) ++
    (if has "m" then [WcCounts.chars] else []) ++
    (if has "c" || byDefault then [WcCounts.bytes] else []) ++
    (if has "L" then [WcCounts.widest] else [])
  let files := parsed.operands
  let inputs := if files.isEmpty then ["-"] else files
  let width ← countWidth inputs shown.length
  let line (c : WcCounts) (name : String) : String :=
    " ".intercalate (shown.map fun f => padCount width (f c)) ++
      (if name.isEmpty then "" else " " ++ name) ++ "\n"
  let mut status := 0
  let mut total : WcCounts := {}
  let closed := (← fd? 0).isNone
  for f in inputs do
    let named := if files.isEmpty then "" else f
    let got ← if f = "-" then
        if closed then
          -- a closed standard input fails to read, and counts as empty
          complain "wc" ((if files.isEmpty then quoteName "standard input" else f) ++ ": " ++
            Errno.badDescriptor.text)
          status := 1
          pure (some [])
        else pure (some (← readToEnd 0))
      else match ← openInput 9 f with
        | .ok () => pure (some (← readToEnd 9))
        | .error .isDir =>
          complain "wc" (quoteName f ++ ": " ++ Errno.isDir.text)
          status := 1
          pure (some [])
        | .error e =>
          complain "wc" (quoteName f ++ ": " ++ e.text)
          status := 1
          pure none
    if let some data := got then
      let c := wcCount data
      total := { lines := total.lines + c.lines, words := total.words + c.words,
                 chars := total.chars + c.chars, bytes := total.bytes + c.bytes,
                 widest := Nat.max total.widest c.widest }
      say (line c named)
  if inputs.length > 1 then say (line total "total")
  if closed && inputs.contains "-" then
    complain "wc" ("-: " ++ Errno.badDescriptor.text)
    return 1
  return status

/-- The option table of `yes`, which knows only `--help` and `--version`. -/
def yesOptions : OptionTable where
  short := []
  long := standardLong

/-- `yes`: its operands (or `y`) and a line feed, without end. -/
def yes (args : List String) : M Nat := do
  match yesOptions.read args with
  | .error e => complain "yes" e.message; tryHelp "yes"; return 1
  | .ok parsed =>
  if let some code ← aboutRequest "yes" parsed then return code
  let line := if parsed.operands.isEmpty then "y" else " ".intercalate parsed.operands
  if (← fd? 1).isNone then
    complain "yes" ("standard output: " ++ Errno.badDescriptor.text)
    return 1
  pourEndless 1 (bytes (line ++ "\n"))
  return 0

/-- The option table of `tee`. -/
def teeOptions : OptionTable where
  short := [('a', .nothing), ('i', .nothing), ('p', .nothing)]
  long := [⟨"append", .nothing, "a"⟩, ⟨"ignore-interrupts", .nothing, "i"⟩,
    ⟨"output-error", .maybe, "p"⟩] ++ standardLong

/-- `tee`: standard input to standard output and to each file (`-a` appends). A file
that cannot be opened is reported, and makes the status 1. -/
def tee (args : List String) : M Nat := do
  match teeOptions.read args with
  | .error e => complain "tee" e.message; tryHelp "tee"; return 1
  | .ok parsed =>
  if let some code ← aboutRequest "tee" parsed then return code
  let append := parsed.has "a"
  let mut status := 0
  let mut targets : List (List String) := []
  for f in parsed.operands do
    match ← creationPlace f with
    | .ok (dir, name) =>
      let names := dir ++ [Text.Octets.toText name]
      match (← get).fs.get? names with
      | some (.dir _) =>
        complain "tee" (quoteName f ++ ": " ++ Errno.isDir.text)
        status := 1
      | _ =>
        modify fun w =>
          let keep := match w.fs.get? names with
            | some (.file c) => if append then c else []
            | _ => []
          { w with fs := (w.fs.put? names (.file keep)).getD w.fs }
        targets := targets ++ [names]
    | .error e =>
      complain "tee" (quoteName f ++ ": " ++ e.text)
      status := 1
  repeatWhile do
    match ← readFd 0 65536 with
    | none => pure false
    | some chunk =>
      put 1 chunk
      for names in targets do
        modify fun w =>
          let old := match w.fs.get? names with | some (.file c) => c | _ => []
          { w with fs := (w.fs.put? names (.file (old ++ chunk))).getD w.fs }
      pure true
  if (← fd? 0).isNone then
    complain "tee" ("read error: " ++ Errno.badDescriptor.text)
    complain "tee" ("standard input: " ++ Errno.badDescriptor.text)
    return 1
  return status

end Confine.Host.Program
