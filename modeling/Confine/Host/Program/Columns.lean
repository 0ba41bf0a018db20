import Confine.Host.Program.Basic
import Confine.Host.Program.Options
import Confine.Host.Program.About
import Confine.Regex.Basic

/-!
# Columns and repeated lines

`cut` prints selected parts of each line: bytes (`-b`, and `-c`, which is the same
in the C locale) or fields separated by a delimiter (`-f`, `-d`, a tab by default).
A list names positions from one, as single numbers and ranges `n-m`, `n-` and `-m`,
separated by commas; the parts come out in their order in the line, whatever the
order of the list. A line without the delimiter is printed whole, unless `-s`.

`uniq` prints each run of equal adjacent lines once, comparing lines after skipping
fields (`-f`) and characters (`-s`), at most so many characters (`-w`), and
ignoring case (`-i`); `-c` counts the runs, `-d` keeps only repeated runs, `-u` only
single lines and `-D` every line of the repeated runs.
-/

namespace Confine.Host.Program

open Confine.Shell

/-- A list of positions: ranges from one, each with an end or open. -/
abbrev PositionList := List (Nat × Option Nat)

/-- Whether a position is in a list. -/
def PositionList.has (l : PositionList) (i : Nat) : Bool :=
  l.any fun (lo, hi) => lo ≤ i && hi.all (i ≤ ·)

/-- Reads a list of positions; `fields` words the messages for fields rather than for
byte positions. -/
def readPositions (fields : Bool) (text : String) : Except String PositionList := do
  let items := (text.splitOn ",").flatMap fun s => (s.splitOn " ").flatMap (·.splitOn "\t")
  if text.isEmpty then
    throw (if fields then "missing list of fields" else "missing list of byte/character positions")
  let number (s : String) : Except String Nat :=
    if !s.isEmpty && s.toList.all Char.isDigit then
      let n := s.toNat!
      if n = 0 then
        throw (if fields then "fields are numbered from 1" else "byte/character positions are numbered from 1")
      else pure n
    else throw ((if fields then "invalid field value " else "invalid byte/character position ") ++
      quoteAlways s)
  let mut out : PositionList := []
  for item in items do
    if item.isEmpty then continue
    match item.splitOn "-" with
    | [single] => let n ← number single; out := out ++ [(n, some n)]
    | [lo, hi] =>
      if lo.isEmpty && hi.isEmpty then
        throw (if fields then "invalid field range" else "invalid byte or character range")
      let l ← if lo.isEmpty then pure 1 else number lo
      if hi.isEmpty then out := out ++ [(l, none)]
      else
        let h ← number hi
        if h < l then throw "invalid decreasing range"
        out := out ++ [(l, some h)]
    | _ => throw ((if fields then "invalid field value " else "invalid byte/character position ") ++
        quoteAlways item)
  return out

/-- What `cut` was asked. -/
structure CutRequest where
  /-- Fields rather than bytes. -/
  fields : Bool := false
  list : PositionList := []
  delimiter : UInt8 := 9
  outputDelimiter : Option (List UInt8) := none
  onlyDelimited : Bool := false
  complement : Bool := false
  eol : UInt8 := 10

/-- The part of one line that `cut` prints, without its line end; `none` when the line
is dropped. -/
def CutRequest.cutLine (r : CutRequest) (line : List UInt8) : Option (List UInt8) :=
  let keep (i : Nat) : Bool := r.list.has i != r.complement
  if r.fields then
    if !line.contains r.delimiter then
      if r.onlyDelimited then none else some line
    else
      let parts := line.splitOn r.delimiter
      let chosen := parts.zipIdx.filterMap fun (p, i) => if keep (i + 1) then some p else none
      some ((r.outputDelimiter.getD [r.delimiter]).intercalate chosen)
  else
    let marked := line.zipIdx.map fun (b, i) => (b, keep (i + 1))
    match r.outputDelimiter with
    | none => some (marked.filterMap fun (b, k) => if k then some b else none)
    | some sep =>
      -- runs of kept bytes, joined by the output delimiter
      let runs := (marked.splitBy fun a b => a.2 == b.2).filterMap fun run =>
        if run.head?.any (·.2) then some (run.map (·.1)) else none
      some (sep.intercalate runs)

/-- The option table of `cut`. -/
def cutOptions : OptionTable where
  short := [('b', .value), ('c', .value), ('d', .value), ('f', .value), ('n', .nothing),
    ('s', .nothing), ('z', .nothing)]
  long := [⟨"bytes", .value, "b"⟩, ⟨"characters", .value, "c"⟩, ⟨"delimiter", .value, "d"⟩,
    ⟨"fields", .value, "f"⟩, ⟨"only-delimited", .nothing, "s"⟩,
    ⟨"output-delimiter", .value, "output-delimiter"⟩, ⟨"complement", .nothing, "complement"⟩,
    ⟨"zero-terminated", .nothing, "z"⟩, ⟨"help", .nothing, "help"⟩, ⟨"version", .nothing, "version"⟩]

/-- What the options of `cut` ask, or the message refusing them. -/
def readCutOptions (opts : List (String × Option String)) : Except String CutRequest := do
  let mut r : CutRequest := {}
  let mut kind : Option (Bool × String) := none
  let mut delimiterGiven := false
  for (key, value) in opts do
    let v := value.getD ""
    match key with
    | "b" | "c" | "f" =>
      if kind.isSome then throw "only one list may be specified"
      kind := some (key = "f", v)
    | "d" =>
      match Text.Octets.toBytes v with
      | [b] => r := { r with delimiter := b }
      | [] => r := { r with delimiter := 0 }
      | _ => throw "the delimiter must be a single character"
      delimiterGiven := true
    | "s" => r := { r with onlyDelimited := true }
    | "z" => r := { r with eol := 0 }
    | "complement" => r := { r with complement := true }
    | "output-delimiter" => r := { r with outputDelimiter := some (Text.Octets.toBytes v) }
    | _ => pure ()
  match kind with
  | none => throw "you must specify a list of bytes, characters, or fields"
  | some (fields, text) =>
    if !fields && delimiterGiven then
      throw "an input delimiter may be specified only when operating on fields"
    if !fields && r.onlyDelimited then
      throw "suppressing non-delimited lines makes sense\n\tonly when operating on fields"
    let list ← readPositions fields text
    return { r with fields, list }

/-- The lines of input data, each without its end; a last line without an end counts
as a line. -/
def splitLines (eol : UInt8) (data : List UInt8) : List (List UInt8) :=
  let parts := data.splitOn eol
  if parts.getLast? == some [] then parts.dropLast else parts

/-- Reads an operand whole: standard input for `-`, else the file; a file that cannot
be read is reported under the program's name. -/
def readOperand (program f : String) : M (Option (List UInt8)) := do
  if f = "-" then return some (← readToEnd 0)
  match ← openInput 9 f with
  | .ok () => return some (← readToEnd 9)
  | .error e =>
    complain program (f ++ ": " ++ e.text)
    return none

/-- `cut OPTION... [FILE]...`. -/
def cut (args : List String) : M Nat := do
  match cutOptions.read args with
  | .error e =>
    complain "cut" e.message; tryHelp "cut"; return 1
  | .ok parsed =>
  if let some code ← aboutRequest "cut" parsed then return code
  match readCutOptions parsed.options with
  | .error msg =>
    complain "cut" msg; tryHelp "cut"; return 1
  | .ok r =>
  let files := if parsed.operands.isEmpty then ["-"] else parsed.operands
  let closed := (← fd? 0).isNone
  let mut status := 0
  for f in files do
    if f = "-" && closed then
      complain "cut" ("-: " ++ Errno.badDescriptor.text)
      status := 1
      continue
    match ← readOperand "cut" f with
    | none => status := 1
    | some data =>
      put 1 ((splitLines r.eol data).flatMap fun l =>
        match r.cutLine l with
        | some out => out ++ [r.eol]
        | none => [])
  -- standard input is closed at the end, which fails again if it was never open
  if closed && files.contains "-" then
    complain "cut" ("-: " ++ Errno.badDescriptor.text)
    return 1
  return status

/-- Where `uniq --all-repeated` puts an empty line: nowhere, before each run, or
between runs. -/
inductive RunBreak where
  | none
  | prepend
  | separate
  deriving BEq

/-- Where `uniq --group` puts an empty line: between groups, before each, after each,
or both. -/
inductive GroupBreak where
  | separate
  | prepend
  | append
  | both
  deriving BEq

/-- What `uniq` was asked. A run of equal lines shows its first line when it is the
only one of the run and `unique` is set, or when there are more and `firstRepeated` is
set; the later lines of a run show when `laterRepeated` is set. -/
structure UniqRequest where
  count : Bool := false
  unique : Bool := true
  firstRepeated : Bool := true
  laterRepeated : Bool := false
  runBreak : RunBreak := .none
  group : Option GroupBreak := none
  ignoreCase : Bool := false
  skipFields : Nat := 0
  skipChars : Nat := 0
  checkChars : Option Nat := none
  eol : UInt8 := 10

/-- The part of a line that is compared. -/
def UniqRequest.key (r : UniqRequest) (line : List UInt8) : List UInt8 :=
  let isBlank (b : UInt8) : Bool := b = 32 || b = 9
  let skipOne (cs : List UInt8) : List UInt8 :=
    let cs := cs.dropWhile isBlank
    cs.dropWhile fun b => !isBlank b
  let afterFields := (List.range r.skipFields).foldl (fun cs _ => skipOne cs) line
  let afterChars := afterFields.drop r.skipChars
  let checked := match r.checkChars with
    | some n => afterChars.take n
    | none => afterChars
  if r.ignoreCase then checked.map Regex.lower else checked

/-- A line as `uniq` writes it, when it shows: `matched` tells a later line of a run,
`seen` how many lines of its run came before the next line. -/
def UniqRequest.writeLine (r : UniqRequest) (line : List UInt8) (matched : Bool) (seen : Nat) :
    List UInt8 :=
  let shows := if seen == 0 then r.unique else if !matched then r.firstRepeated else r.laterRepeated
  if !shows then [] else
  let countText := if r.count then
      let s := toString (seen + 1)
      bytes (String.ofList (List.replicate (7 - s.length) ' ') ++ s ++ " ")
    else []
  countText ++ line ++ [r.eol]

/-- The output of `uniq` for lines, each given without its end, when every run shows
once and without counts: the first line of each run, or with `--group` every line and
empty lines between the groups. -/
def UniqRequest.renderFirsts (r : UniqRequest) (lines : List (List UInt8)) : List UInt8 :=
  let (out, _, printed) := lines.foldl (fun (out, prev, printed) line =>
    let k := r.key line
    let fresh := prev != some k
    let before : Bool := match r.group with
      | some g => fresh && (g == .prepend || g == .both || (printed && (g == .append || g == .separate)))
      | none => false
    let out := if before then out ++ [r.eol] else out
    if fresh || r.group.isSome then (out ++ line ++ [r.eol], some k, true)
    else (out, prev, printed)) ([], none, false)
  let after := match r.group with
    | some .both | some .append => printed
    | _ => false
  if after then out ++ [r.eol] else out

/-- The output of `uniq` for lines, each given without its end: each line is compared
with the last one kept, runs are counted, and `--all-repeated` puts its empty lines
where a run of more than one line starts. -/
def UniqRequest.render (r : UniqRequest) (lines : List (List UInt8)) : List UInt8 :=
  if r.unique && r.firstRepeated && !r.count then r.renderFirsts lines else
  match lines with
  | [] => []
  | first :: rest =>
    let (out, prev, seen, _) := rest.foldl (fun (out, prev, seen, firstBreak) line =>
      let matched := r.key line == r.key prev
      let seen := if matched then seen + 1 else seen
      let (out, firstBreak) :=
        if r.runBreak == .none then (out, firstBreak)
        else if !matched then (out, if seen > 0 then false else firstBreak)
        else if seen == 1 && (r.runBreak == .prepend || (r.runBreak == .separate && !firstBreak)) then
          (out ++ [r.eol], firstBreak)
        else (out, firstBreak)
      if !matched || r.laterRepeated then
        (out ++ r.writeLine prev matched seen, line, if matched then seen else 0, firstBreak)
      else (out, prev, seen, firstBreak)) ([], first, 0, true)
    out ++ r.writeLine prev false seen

/-- The option table of `uniq`. -/
def uniqOptions : OptionTable where
  short := [('c', .nothing), ('d', .nothing), ('D', .nothing), ('f', .value), ('i', .nothing),
    ('s', .value), ('u', .nothing), ('w', .value), ('z', .nothing)]
  long := [⟨"count", .nothing, "c"⟩, ⟨"repeated", .nothing, "d"⟩,
    ⟨"all-repeated", .maybe, "D"⟩, ⟨"skip-fields", .value, "f"⟩,
    ⟨"ignore-case", .nothing, "i"⟩, ⟨"skip-chars", .value, "s"⟩, ⟨"unique", .nothing, "u"⟩,
    ⟨"check-chars", .value, "w"⟩, ⟨"zero-terminated", .nothing, "z"⟩,
    ⟨"group", .maybe, "group"⟩, ⟨"help", .nothing, "help"⟩, ⟨"version", .nothing, "version"⟩]

/-- The ways `uniq --all-repeated` may break runs, by name. -/
def runBreaks : List (String × RunBreak) :=
  [("none", .none), ("prepend", .prepend), ("separate", .separate)]

/-- The ways `uniq --group` may break groups, by name. -/
def groupBreaks : List (String × GroupBreak) :=
  [("separate", .separate), ("prepend", .prepend), ("append", .append), ("both", .both)]

/-- `uniq [OPTION]... [INPUT [OUTPUT]]`. -/
def uniq (args : List String) : M Nat := do
  match uniqOptions.read args with
  | .error e =>
    complain "uniq" e.message; tryHelp "uniq"; return 1
  | .ok parsed =>
  if let some code ← aboutRequest "uniq" parsed then return code
  let mut r : UniqRequest := {}
  let mut counted := false
  for (key, value) in parsed.options do
    let v := value.getD ""
    let count (what : String) : Except String Nat :=
      if !v.isEmpty && v.toList.all Char.isDigit then .ok v.toNat!
      else .error (v ++ ": invalid number of " ++ what)
    match key with
    | "c" => r := { r with count := true }; counted := true
    | "d" => r := { r with unique := false }; counted := true
    | "D" =>
      counted := true
      match value with
      | none => r := { r with unique := false, laterRepeated := true, runBreak := .none }
      | some v =>
        match matchChoice "all-repeated" runBreaks v with
        | .ok b => r := { r with unique := false, laterRepeated := true, runBreak := b }
        | .error msg => complain "uniq" msg; tryHelp "uniq"; return 1
    | "u" => r := { r with firstRepeated := false }; counted := true
    | "group" =>
      match value with
      | none => r := { r with group := some .separate }
      | some v =>
        match matchChoice "group" groupBreaks v with
        | .ok g => r := { r with group := some g }
        | .error msg => complain "uniq" msg; tryHelp "uniq"; return 1
    | "i" => r := { r with ignoreCase := true }
    | "z" => r := { r with eol := 0 }
    | "f" | "s" | "w" =>
      let what := if key = "f" then "fields to skip" else if key = "s" then "bytes to skip" else "bytes to compare"
      match count what with
      | .ok n =>
        r := match key with
          | "f" => { r with skipFields := n }
          | "s" => { r with skipChars := n }
          | _ => { r with checkChars := some n }
      | .error msg =>
        complain "uniq" msg
        return 1
    | _ => pure ()
  if r.group.isSome && counted then
    complain "uniq" "--group is mutually exclusive with -c/-d/-D/-u"
    tryHelp "uniq"
    return 1
  if r.laterRepeated && r.count then
    complain "uniq" "printing all duplicated lines and repeat counts is meaningless"
    tryHelp "uniq"
    return 1
  match parsed.operands with
  | _ :: _ :: extra :: _ =>
    complain "uniq" ("extra operand " ++ quoteAlways extra)
    tryHelp "uniq"
    return 1
  | operands =>
    let input := operands.headD "-"
    if input = "-" && (← fd? 0).isNone then
      complain "uniq" ("error reading " ++ quoteFile "-")
      return 1
    match ← readOperand "uniq" input with
    | none => return 1
    | some data =>
      let out := r.render (splitLines r.eol data)
      match operands with
      | [_, target] =>
        match ← creationPlace target with
        | .ok (dir, name) =>
          let names := dir ++ [Text.Octets.toText name]
          modify fun w => { w with fs := (w.fs.put? names (.file out)).getD w.fs }
          return 0
        | .error e =>
          complain "uniq" (target ++ ": " ++ e.text)
          return 1
      | _ =>
        put 1 out
        return 0

end Confine.Host.Program
