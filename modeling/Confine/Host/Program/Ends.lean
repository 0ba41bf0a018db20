import Confine.Host.Program.Basic
import Confine.Host.Program.Options
import Confine.Host.Program.About

/-!
# The ends of inputs

`head` writes the first part of each input and `tail` the last part: ten lines by
default, `-n` lines, or `-c` bytes. A count that `head` reads with a leading `-` means
all but that many at the end; a count that `tail` reads with a leading `+` means from
that line or byte on. Lines end at line feeds, or at zero bytes with `-z`, and a last
line without its end still counts. With more than one input each part is headed by
`==> name <==`, unless `-q`; `-v` heads even a single one.

A count is decimal with an optional multiplier: `b` (512), or `k`, `K`, `m`, `M`, `G`,
`T`, `P`, `E`, `Z`, `Y` for powers of 1024, of 1000 when `B` follows (`kB`); `KiB`
says 1024 outright. The older forms `head -5`, `tail -5` and `tail +5` are still read.

`head` reads no more than it needs and gives back to a regular file what it read past
the last line it wrote, so that the next reader starts there. `tail` reads each input
to its end, unless it counts from the start, when it writes as the input arrives;
with `-f` it then waits for more, which never comes, unless every input is a pipe.
-/

namespace Confine.Host.Program

open Confine.Shell

/-! ### Counts -/

/-- Why a count does not read. -/
inductive CountProblem where
  /-- Not a count at all. -/
  | invalid
  /-- A count beyond the largest one, `2^64 - 1`. -/
  | tooLarge
  deriving BEq

/-- The largest count. -/
def countLimit : Nat := Nat.pow 2 64 - 1

/-- The power of the base that a multiplier letter stands for. -/
def multiplierPower : Char → Option Nat
  | 'k' | 'K' => some 1
  | 'm' | 'M' => some 2
  | 'G' => some 3
  | 'T' => some 4
  | 'P' => some 5
  | 'E' => some 6
  | 'Z' => some 7
  | 'Y' => some 8
  | _ => none

/-- Reads a count: optional white space and `+`, decimal digits, and an optional
multiplier, which alone, at the very start, stands for one of it. -/
def readCount (s : String) : Except CountProblem Nat := do
  let cs := s.toList
  let body := cs.dropWhile isCSpace
  if body.head? == some '-' then throw .invalid
  let unsigned := match body with
    | '+' :: r => r
    | r => r
  let ds := unsigned.takeWhile Char.isDigit
  let (value, rest) ← if ds.isEmpty then
      match cs with
      | c :: _ => if c = 'b' || (multiplierPower c).isSome then pure (1, cs) else throw .invalid
      | [] => throw .invalid
    else pure (digitsValue ds, unsigned.drop ds.length)
  match rest with
  | [] => if value > countLimit then throw .tooLarge else pure value
  | c :: more =>
    let (scaled, used) ← match c, multiplierPower c with
      | 'b', _ => pure (value * 512, 1)
      | _, some p =>
        match more with
        | 'i' :: 'B' :: _ => pure (value * Nat.pow 1024 p, 3)
        | 'B' :: _ | 'D' :: _ => pure (value * Nat.pow 1000 p, 2)
        | _ => pure (value * Nat.pow 1024 p, 1)
      | _, none => throw .invalid
    if !(rest.drop used).isEmpty then throw .invalid
    if scaled > countLimit then throw .tooLarge else pure scaled

/-- The message refusing a count, given what it counts and its text. -/
def CountProblem.message (p : CountProblem) (what text : String) : String :=
  "invalid number of " ++ what ++ ": " ++ quoteAlways text ++
    (if p == .tooLarge then ": Value too large for defined data type" else "")

/-! ### Records -/

/-- The records of bytes: the pieces that end with the delimiter, and the rest after
the last one if there is a rest. -/
def records (delim : UInt8) (bs : List UInt8) : List (List UInt8) :=
  go bs [] []
where
  go : List UInt8 → List UInt8 → List (List UInt8) → List (List UInt8)
  | [], cur, acc => (if cur.isEmpty then acc else cur.reverse :: acc).reverse
  | b :: rest, cur, acc =>
    if b = delim then go rest [] ((b :: cur).reverse :: acc) else go rest (b :: cur) acc

/-- Splits bytes after the `n`-th delimiter: the bytes through it, the bytes after it,
and how many delimiters are still wanted, zero when it was found. -/
def splitAfter (delim : UInt8) (n : Nat) (bs : List UInt8) : List UInt8 × List UInt8 × Nat :=
  go n bs []
where
  go : Nat → List UInt8 → List UInt8 → List UInt8 × List UInt8 × Nat
  | 0, bs, acc => (acc.reverse, bs, 0)
  | n + 1, [], acc => (acc.reverse, [], n + 1)
  | n + 1, b :: bs, acc => if b = delim then go n bs (b :: acc) else go (n + 1) bs (b :: acc)

/-! ### Requests -/

/-- What `head` or `tail` keeps of each input. -/
structure EndsRequest where
  /-- Whether lines are counted, else bytes. -/
  lines : Bool := true
  count : Nat := 10
  /-- For `head`, all but the last `count`; for `tail`, from the `count`-th on. -/
  otherEnd : Bool := false
  delimiter : UInt8 := 10
  /-- Headers always, never, or (`none`) when there are several inputs. -/
  headers : Option Bool := none
  /-- Whether `tail` waits for more at the end. -/
  follow : Bool := false

namespace EndsRequest

/-- What `head` writes of a whole input. -/
def firstPart (r : EndsRequest) (data : List UInt8) : List UInt8 :=
  if r.lines then
    let rs := records r.delimiter data
    (if r.otherEnd then rs.take (rs.length - r.count) else rs.take r.count).flatten
  else if r.otherEnd then data.take (data.length - r.count) else data.take r.count

/-- What `tail` writes of a whole input. -/
def lastPart (r : EndsRequest) (data : List UInt8) : List UInt8 :=
  if r.lines then
    let rs := records r.delimiter data
    (if r.otherEnd then rs.drop (r.count - 1) else rs.drop (rs.length - r.count)).flatten
  else if r.otherEnd then data.drop (r.count - 1) else data.drop (data.length - r.count)

/-- Whether headers are written for a number of inputs. -/
def showHeaders (r : EndsRequest) (inputs : Nat) : Bool := r.headers.getD (inputs > 1)

end EndsRequest

/-- The header of an input, after the first one set off by an empty line. -/
def endsHeader (first : Bool) (name : String) : String :=
  (if first then "" else "\n") ++ "==> " ++ (if name = "-" then "standard input" else name) ++ " <==\n"

/-- The letters of the older form `-5cqv` after its digits, for `head`: how the count
is read and what else it asks. -/
def oldHeadLetters (r : EndsRequest) (letters : List Char) : Except Char (EndsRequest × String) :=
  letters.foldlM (fun (r, suffix) c =>
    match c with
    | 'c' => .ok ({ r with lines := false }, "")
    | 'b' | 'k' | 'm' => .ok ({ r with lines := false }, String.singleton c)
    | 'l' => .ok ({ r with lines := true }, suffix)
    | 'q' => .ok ({ r with headers := some false }, suffix)
    | 'v' => .ok ({ r with headers := some true }, suffix)
    | 'z' => .ok ({ r with delimiter := 0 }, suffix)
    | _ => .error c) (r, "")

/-- The digit letters, which only the older form may use. -/
def digitOptions : List (Char × Takes) := "0123456789".toList.map (·, .nothing)

/-- The option table of `head`. -/
def headOptions : OptionTable where
  short := [('c', .value), ('n', .value), ('q', .nothing), ('v', .nothing), ('z', .nothing)] ++
    digitOptions
  long := [⟨"bytes", .value, "c"⟩, ⟨"lines", .value, "n"⟩, ⟨"quiet", .nothing, "q"⟩,
    ⟨"silent", .nothing, "q"⟩, ⟨"verbose", .nothing, "v"⟩, ⟨"zero-terminated", .nothing, "z"⟩,
    ⟨"presume-input-pipe", .nothing, "presume"⟩, ⟨"help", .nothing, "help"⟩,
    ⟨"version", .nothing, "version"⟩]

/-- The option table of `tail`. -/
def tailOptions : OptionTable where
  short := [('c', .value), ('n', .value), ('f', .nothing), ('F', .nothing), ('q', .nothing),
    ('s', .value), ('v', .nothing), ('z', .nothing)] ++ digitOptions
  long := [⟨"bytes", .value, "c"⟩, ⟨"lines", .value, "n"⟩, ⟨"follow", .maybe, "f"⟩,
    ⟨"retry", .nothing, "retry"⟩, ⟨"max-unchanged-stats", .value, "stats"⟩,
    ⟨"pid", .value, "pid"⟩, ⟨"quiet", .nothing, "q"⟩, ⟨"silent", .nothing, "q"⟩,
    ⟨"sleep-interval", .value, "s"⟩, ⟨"verbose", .nothing, "v"⟩,
    ⟨"zero-terminated", .nothing, "z"⟩, ⟨"presume-input-pipe", .nothing, "presume"⟩,
    ⟨"help", .nothing, "help"⟩, ⟨"version", .nothing, "version"⟩]

/-- Applies the options read by `head` or `tail` (`name`) to a request. `-n` and `-c`
take a count with a leading `-` for `head` or `+` for `tail`. A digit letter is the
older form out of place. -/
def applyEndsOptions (name : String) (r : EndsRequest) (opts : List (String × Option String)) :
    Except String EndsRequest :=
  opts.foldlM (fun r (key, value) =>
    let v := value.getD ""
    match key with
    | "c" | "n" =>
      let lines := key == "n"
      let (other, text) : Bool × String := match v.toList with
        | '-' :: rest => (name == "head", String.ofList rest)
        | '+' :: _ => (name == "tail", v)
        | _ => (false, v)
      match readCount text with
      -- for tail, counting from the start once asked stays so
      | .ok n => .ok { r with lines, count := n, otherEnd := other || (name == "tail" && r.otherEnd) }
      | .error p => .error (p.message (if lines then "lines" else "bytes") text)
    | "q" => .ok { r with headers := some false }
    | "v" => .ok { r with headers := some true }
    | "z" => .ok { r with delimiter := 0 }
    | "f" =>
      match value with
      | none => .ok { r with follow := true }
      | some v => (matchChoice "follow" [("descriptor", 0), ("name", 1)] v).map fun _ =>
          { r with follow := true }
    | "F" => .ok { r with follow := true }
    | "s" =>
      if !v.isEmpty && v.toList.all (fun c => c.isDigit || c = '.') then .ok r
      else .error ("invalid number of seconds: " ++ quoteAlways v)
    | k =>
      match k.toList with
      | [d] =>
        if d.isDigit then
          .error (if name = "head" then "invalid trailing option -- " ++ k
            else "option used in invalid context -- " ++ k)
        else .ok r
      | _ => .ok r) r

/-! ### Running -/

/-- Copies the first `count` records or bytes of descriptor `src` to standard output as
they arrive. What was read past the last record goes back to a regular file. -/
def copyFirst (src : Nat) (r : EndsRequest) : M Unit := do
  if r.lines && r.delimiter != 0 && r.count > 0 && (← fd? src) == some .zero then
    discard (waitUntil none)
  let mut left := r.count
  let budget := (← get).steps + 1
  for _ in [0:budget] do
    useStep
    if left = 0 then break
    let ask := if r.lines then 8192 else Nat.min left 8192
    match ← readFd src ask with
    | none => break
    | some chunk =>
      if r.lines then
        let (out, rest, k) := splitAfter r.delimiter left chunk
        put 1 out
        left := k
        if k = 0 && !rest.isEmpty && (← regularInput src) then unreadFd src rest
      else
        put 1 (chunk.take left)
        left := left - Nat.min left chunk.length

/-- Copies descriptor `src` from its `count`-th record or byte on, as it arrives. -/
def copyFrom (src : Nat) (r : EndsRequest) : M Unit := do
  if (← fd? src) == some .zero then
    if !r.lines || r.delimiter = 0 then pourEndless 1 [0] else discard (waitUntil none)
  let mut skip := r.count - 1
  let budget := (← get).steps + 1
  for _ in [0:budget] do
    useStep
    match ← readFd src 8192 with
    | none => break
    | some chunk =>
      if skip = 0 then put 1 chunk
      else if r.lines then
        let (_, rest, k) := splitAfter r.delimiter skip chunk
        skip := k
        if k = 0 then put 1 rest
      else
        put 1 (chunk.drop skip)
        skip := skip - Nat.min skip chunk.length

/-- Opens an input of `head` or `tail`: standard input for `-`, else descriptor 9. -/
def openEnd (f : String) : M (Except Errno Nat) := do
  if f = "-" then return .ok 0
  match ← openInput 9 f with
  | .ok () => return .ok 9
  | .error e => return .error e

/-- `head [OPTION]... [FILE]...`. -/
def head (args : List String) : M Nat := do
  let old : Except String (EndsRequest × List String) := match args with
    | a :: rest =>
      match a.toList with
      | '-' :: d :: more =>
        if d.isDigit then
          let ds := (d :: more).takeWhile Char.isDigit
          match oldHeadLetters {} ((d :: more).drop ds.length) with
          | .error c => .error ("invalid trailing option -- " ++ String.singleton c)
          | .ok (r, suffix) =>
            let text := String.ofList ds ++ suffix
            match readCount text with
            | .ok n => .ok ({ r with count := n }, rest)
            | .error p => .error (p.message (if r.lines then "lines" else "bytes") text)
        else .ok ({}, args)
      | _ => .ok ({}, args)
    | [] => .ok ({}, args)
  let parsed : Except String (EndsRequest × ReadOptions) := do
    let (r, rest) ← old
    let got ← (headOptions.read rest).mapError (·.message)
    let r ← applyEndsOptions "head" r got.options
    return (r, got)
  match parsed with
  | .error msg =>
    complain "head" msg
    if msg.startsWith "invalid number" then return 1
    tryHelp "head"; return 1
  | .ok (r, got) =>
  if let some code ← aboutRequest "head" got then return code
  let operands := got.operands
  let files := if operands.isEmpty then ["-"] else operands
  let headers := r.showHeaders files.length
  let closed := (← fd? 0).isNone
  let mut first := true
  let mut status := 0
  for f in files do
    if f = "-" && closed then
      if headers then
        say (endsHeader first f)
        first := false
      complain "head" ("error reading " ++ quoteFile "standard input" ++ ": " ++ Errno.badDescriptor.text)
      status := 1
      continue
    match ← openEnd f with
    | .error .isDir =>
      if headers then
        say (endsHeader first f)
        first := false
      complain "head" ("error reading " ++ quoteFile f ++ ": Is a directory")
      status := 1
    | .error e =>
      complain "head" ("cannot open " ++ quoteFile f ++ " for reading: " ++ e.text)
      status := 1
    | .ok src =>
      if headers then
        say (endsHeader first f)
        first := false
      if r.otherEnd then put 1 (r.firstPart (← readToEnd src))
      else copyFirst src r
  if closed && files.contains "-" then
    complain "head" ("-: " ++ Errno.badDescriptor.text)
    return 1
  return status

/-- The older form of `tail`'s options, `-5`, `+5`, `-5c`, `+5lf` and the like, which
is read only as the first argument and with at most one file after it. -/
def oldTail (args : List String) : Option (Except String (EndsRequest × List String)) :=
  match args with
  | a :: rest =>
    let fits := match rest with
      | [] | ["--"] | ["--", _] => true
      | [x] => !(x.startsWith "-" && x.length > 1)
      | _ => false
    if !fits then none else
    let (fromStart, body) := match a.toList with
      | '+' :: b => (some true, b)
      | '-' :: b => (if b.isEmpty || b = ['c'] then none else some false, b)
      | _ => (none, [])
    match fromStart with
    | none => none
    | some start =>
      let ds := body.takeWhile Char.isDigit
      let afterDigits := body.drop ds.length
      let (unit, afterUnit) : Option Bool × List Char := match afterDigits with
        | 'b' :: r => (some false, r)
        | 'c' :: r => (some false, r)
        | 'l' :: r => (some true, r)
        | r => (none, r)
      let defaultCount := if afterDigits.head? == some 'b' then 5120 else 10
      let (follow, afterFollow) := match afterUnit with
        | 'f' :: r => (true, r)
        | r => (false, r)
      if !afterFollow.isEmpty then none
      else
        let count : Except String Nat :=
          if ds.isEmpty then .ok defaultCount
          else match readCount (String.ofList ds) with
            | .ok n => .ok (if afterDigits.head? == some 'b' then n * 512 else n)
            | .error p => .error ("invalid number: " ++ quoteAlways a ++
              (if p == .tooLarge then ": Numerical result out of range" else ""))
        some (count.map fun n =>
          ({ lines := unit.getD true, count := n, otherEnd := start, follow }, rest))
  | [] => none

/-- `tail [OPTION]... [FILE]...`. -/
def tail (args : List String) : M Nat := do
  let parsed : Except String (EndsRequest × ReadOptions) := do
    let (r, rest) ← (oldTail args).getD (.ok ({}, args))
    let got ← (tailOptions.read rest).mapError (·.message)
    let r ← applyEndsOptions "tail" r got.options
    return (r, got)
  match parsed with
  | .error msg =>
    complain "tail" msg
    if msg.startsWith "invalid number" || msg.startsWith "option used" then return 1
    tryHelp "tail"; return 1
  | .ok (r, got) =>
  if let some code ← aboutRequest "tail" got then return code
  let operands := got.operands
  let files := if operands.isEmpty then ["-"] else operands
  let headers := r.showHeaders files.length
  let closed := (← fd? 0).isNone
  let mut first := true
  let mut status := 0
  let mut followed := false
  for f in files do
    if f = "-" && closed then
      if headers then
        say (endsHeader first f)
        first := false
      complain "tail" ("cannot fstat " ++ quoteFile "standard input" ++ ": " ++ Errno.badDescriptor.text)
      status := 1
      continue
    match ← openEnd f with
    | .error .isDir =>
      if headers then
        say (endsHeader first f)
        first := false
      complain "tail" ("error reading " ++ quoteFile f ++ ": Is a directory")
      status := 1
    | .error e =>
      complain "tail" ("cannot open " ++ quoteFile f ++ " for reading: " ++ e.text)
      status := 1
    | .ok src =>
      if headers then
        say (endsHeader first f)
        first := false
      -- a pipe is not followed
      if f != "-" || (← regularInput src) || (← fd? src) == some .terminal then followed := true
      if r.otherEnd then copyFrom src r
      else put 1 (r.lastPart (← readToEnd src))
  if r.follow then
    if followed then discard (waitUntil none)
    else if status != 0 then
      complain "tail" "no files remaining"
  if closed && files.contains "-" then
    complain "tail" ("-: " ++ Errno.badDescriptor.text)
    return 1
  return status

end Confine.Host.Program
