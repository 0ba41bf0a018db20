import Confine.Host.Program.Basic
import Confine.Host.Program.About
import Confine.Host.Program.Options
import Confine.Regex.Parse
import Confine.Regex.Match
import Confine.Regex.Backtrack
import Confine.Regex.Perl

/-!
# Searching text for patterns

`grep` prints the lines of its inputs that match one of its patterns. The patterns
are basic regular expressions, extended ones (`-E`) or fixed strings (`-F`); each line
of a pattern is a pattern of its own. A line is *selected* when some pattern matches
it, or when none does under `-v`. `-i` ignores ASCII case, `-w` asks for a match that
is a whole word and `-x` for one that is the whole line.

Selected lines are printed, each after the input's name when there are several
inputs (`-H`, `-h`), its number (`-n`) and its byte offset (`-b`). `-o` prints only
the matched parts, `-c` the number of selected lines, `-l` and `-L` the names of the
inputs with and without them, and `-q` nothing. `-m` stops after so many selected
lines. `-A`, `-B` and `-C` print lines of context around selected ones, with `--`
between groups that do not touch. An input that holds a NUL byte is binary: its lines
are not printed, and a note says that it matched.

The status is 0 when a line was selected, 1 when none was, and 2 on an error, unless
`-q` found a line first.
-/

namespace Confine.Host.Program

open Confine.Shell Confine.Regex

/-- How patterns are written. -/
inductive PatternKind where
  | basic
  | extended
  | fixed
  | perl
  deriving BEq

/-- The colors of colored output, as select graphic rendition parameters: matches
in selected and in context lines, whole selected and context lines, names, line
numbers, byte offsets and separators; and whether to leave out the erase to the end
of the line after each. -/
structure Palette where
  selectedMatch : String := "01;31"
  contextMatch : String := "01;31"
  selectedLine : String := ""
  contextLine : String := ""
  fileName : String := "35"
  lineNumber : String := "32"
  byteOffset : String := "32"
  separator : String := "36"
  noErase : Bool := false

namespace Palette

/-- The bytes that start a color; nothing for no color. -/
def start (p : Palette) (sgr : String) : List UInt8 :=
  if sgr.isEmpty then [] else bytes ("\x1b[" ++ sgr ++ "m" ++ (if p.noErase then "" else "\x1b[K"))

/-- The bytes that end a color; nothing for no color. -/
def stop (p : Palette) (sgr : String) : List UInt8 :=
  if sgr.isEmpty then [] else bytes ("\x1b[m" ++ (if p.noErase then "" else "\x1b[K"))

/-- Bytes in a color. -/
def paint (p : Palette) (sgr : String) (bs : List UInt8) : List UInt8 := p.start sgr ++ bs ++ p.stop sgr

/-- The palette after the settings of `GREP_COLORS`: `name=value` items separated by
colons; `mt` sets both match colors, `ne` leaves out the erase. -/
def read (p : Palette) (settings : String) : Palette :=
  (settings.splitOn ":").foldl (fun p item =>
    match item.splitOn "=" with
    | [k, v] =>
      match k with
      | "mt" => { p with selectedMatch := v, contextMatch := v }
      | "ms" => { p with selectedMatch := v }
      | "mc" => { p with contextMatch := v }
      | "sl" => { p with selectedLine := v }
      | "cx" => { p with contextLine := v }
      | "fn" => { p with fileName := v }
      | "ln" => { p with lineNumber := v }
      | "bn" => { p with byteOffset := v }
      | "se" => { p with separator := v }
      | _ => p
    | ["ne"] => { p with noErase := true }
    | _ => p) p

end Palette

/-- What the search was asked for. -/
structure SearchRequest where
  kind : PatternKind := .basic
  ignoreCase : Bool := false
  invert : Bool := false
  words : Bool := false
  wholeLines : Bool := false
  count : Bool := false
  /-- `some true` lists inputs with a selected line, `some false` those without. -/
  list : Option Bool := none
  quiet : Bool := false
  noMessages : Bool := false
  onlyMatching : Bool := false
  lineNumbers : Bool := false
  byteOffsets : Bool := false
  /-- `-H` or `-h`, the last one given. -/
  names : Option Bool := none
  maxCount : Option Nat := none
  after : Option Nat := none
  before : Option Nat := none
  context : Option Nat := none
  text : Bool := false
  nullNames : Bool := false
  nullData : Bool := false
  label : String := "(standard input)"
  separator : Option String := some "--"
  initialTab : Bool := false
  recursive : Bool := false
  /-- Whether an input found to be binary counts as matching nothing. -/
  skipBinary : Bool := false
  /-- The colors of the output, when it is colored. -/
  colors : Option Palette := none
  /-- Whether to color the output when it goes to a terminal. -/
  colorAuto : Bool := false

namespace SearchRequest

/-- The byte that ends lines. -/
def eol (r : SearchRequest) : UInt8 := if r.nullData then 0 else 10

/-- Lines of context after a selected line. -/
def afterLines (r : SearchRequest) : Option Nat := r.after.orElse fun _ => r.context

/-- Lines of context before a selected line. -/
def beforeLines (r : SearchRequest) : Option Nat := r.before.orElse fun _ => r.context

/-- Whether context was asked for at all, which brings group separators. -/
def hasContext (r : SearchRequest) : Bool := r.afterLines.isSome || r.beforeLines.isSome

/-- Whether lines themselves are printed. -/
def printsLines (r : SearchRequest) : Bool := !r.quiet && !r.count && r.list.isNone

end SearchRequest

/-- The compiled patterns, and whether a match is the first one a backtracking
matcher reaches rather than the longest. -/
structure Matcher where
  patterns : List Pattern
  ordered : Bool := false

namespace Matcher

/-- The ends of matches from a place, farthest first, over all patterns. -/
def endsFrom (m : Matcher) (ignoreCase : Bool) (line : Array UInt8) (start : Nat) : List Nat :=
  ((m.patterns.flatMap fun r => r.endsFrom line ignoreCase start).eraseDups).mergeSort (· ≥ ·)

/-- Whether a match from `s` to `e` stands as a whole word: no word constituent just
before it or just after it. -/
def wordAligned (text : Array UInt8) (s e : Nat) : Bool :=
  let before := s > 0 && (text[s - 1]?.map isWordByte).getD false
  let after := (text[e]?.map isWordByte).getD false
  !before && !after

/-- The first match at or after a place that the request accepts: under `-x` only the
whole line, under `-w` the leftmost match, and the longest from there, that stands as
a word; else the leftmost-longest match. -/
def firstMatch (m : Matcher) (req : SearchRequest) (line : Array UInt8) (origin : Nat) :
    Option (Nat × Nat) :=
  if m.ordered then
    (List.range (line.size + 1 - origin)).findSome? fun i =>
      m.patterns.findSome? fun r => (r.firstEnd line req.ignoreCase (origin + i)).map fun e => (origin + i, e)
  else if req.wholeLines then
    if origin = 0 && (m.endsFrom req.ignoreCase line 0).contains line.size then some (0, line.size)
    else none
  else
    (List.range (line.size + 1 - origin)).findSome? fun i =>
      let s := origin + i
      match m.endsFrom req.ignoreCase line s with
      | [] => none
      | longest :: rest =>
        if !req.words then some (s, longest)
        else
          let candidates := longest :: rest.filter (· > s)
          (candidates.find? fun e => wordAligned line s e).map fun e => (s, e)

/-- Whether a line matches. -/
def accepts (m : Matcher) (req : SearchRequest) (line : Array UInt8) : Bool :=
  (m.firstMatch req line 0).isSome

/-- The non-empty matches of a line, left to right, each starting where the one
before ended. -/
def spans (m : Matcher) (req : SearchRequest) (line : Array UInt8) : List (Nat × Nat) :=
  go (line.size + 1) 0
where
  go : Nat → Nat → List (Nat × Nat)
    | 0, _ => []
    | fuel + 1, origin =>
      match m.firstMatch req line origin with
      | none => []
      | some (s, e) =>
        if e = s then (if s < line.size then go fuel (s + 1) else [])
        else (s, e) :: go fuel e

end Matcher

/-- The patterns compiled, with the warnings their reading gave, or the message that
rejects them. A Perl-style pattern must be a single one; `-x` and `-w` are written
into it. -/
def compilePatterns (req : SearchRequest) (lines : List (List UInt8)) :
    Except String (Matcher × List String) := do
  match req.kind with
  | .fixed => return (⟨lines.map Pattern.literal, false⟩, [])
  | .perl =>
    match lines with
    | [line] =>
      let wrapped :=
        if req.wholeLines then bytes "^(?:" ++ line ++ bytes ")$"
        else if req.words then bytes "(?<!\\w)(?:" ++ line ++ bytes ")(?!\\w)"
        else line
      let p ← Perl.compile wrapped
      return (⟨[p], true⟩, [])
    | _ => throw "the -P option only supports a single pattern"
  | .basic | .extended =>
    let d := if req.kind == .basic then Dialect.basic else Dialect.extended
    let compiled ← (lines.mapM (compile d)).mapError (·.message)
    return (⟨compiled.map (·.regex), false⟩, compiled.flatMap (·.warnings))

/-- The search through one input so far. -/
structure Scan where
  /-- Lines read. -/
  lineNo : Nat := 0
  /-- The byte offset of the next line. -/
  offset : Nat := 0
  /-- Lines selected. -/
  selected : Nat := 0
  /-- Lines of trailing context still to print. -/
  pending : Nat := 0
  /-- The number of the last line printed. -/
  lastShown : Option Nat := none
  /-- Lines not printed since then, newest last, with their numbers and offsets. -/
  recent : List (Nat × Nat × List UInt8) := []
  /-- The most is reached: only trailing context is still printed. -/
  finishing : Bool := false
  /-- No more lines are wanted. -/
  stop : Bool := false
  /-- Lines selected before the input was found to be binary, once it was. -/
  binaryFrom : Option Nat := none
  /-- Output so far, in reverse order of pieces. -/
  out : List (List UInt8) := []

namespace Scan

/-- Adds output. -/
def emit (sc : Scan) (bytes : List UInt8) : Scan := { sc with out := bytes :: sc.out }

/-- The head of a printed line: the input's name, the line number and the byte
offset, each followed by the separator (`:` for selected lines, `-` for context), in
their colors when the output is colored. With `-T` the numbers take nineteen columns
and a tab ends the head, unless what follows is empty. -/
def head (req : SearchRequest) (name : Option String) (lineNo offset : Nat) (sep : Char)
    (followed : Bool) : List UInt8 :=
  let pal := req.colors.getD {}
  let paint (sgr : String) (bs : List UInt8) : List UInt8 :=
    if req.colors.isSome then pal.paint sgr bs else bs
  let sepBytes := paint pal.separator (bytes (String.singleton sep))
  let number (n : Nat) : List UInt8 :=
    let ds := toString n
    bytes (if req.initialTab then String.ofList (List.replicate (19 - ds.length) ' ') ++ ds else ds)
  let namePart := match name with
    | some n => paint pal.fileName (bytes n) ++ (if req.nullNames then [0] else sepBytes)
    | none => []
  let numberPart := if req.lineNumbers then paint pal.lineNumber (number lineNo) ++ sepBytes else []
  let offsetPart := if req.byteOffsets then paint pal.byteOffset (number offset) ++ sepBytes else []
  let all := namePart ++ numberPart ++ offsetPart
  if req.initialTab && !all.isEmpty && followed then all ++ [9] else all

/-- Prints one line, as selected or as context, unless the input is binary. Under
`-o` a selected line gives its matches and context lines give nothing. In colored
output the matches of a line that matches are painted: those of selected lines, or
of context lines under `-v`. -/
def showLine (sc : Scan) (req : SearchRequest) (m : Matcher) (name : Option String)
    (no offset : Nat) (line : List UInt8) (selected : Bool) : Scan :=
  let sc := { sc with lastShown := some no }
  let pal := req.colors.getD {}
  let matchColor := if selected then pal.selectedMatch else pal.contextMatch
  let lineColor := if selected then pal.selectedLine else pal.contextLine
  if sc.binaryFrom.isSome then sc
  else if req.onlyMatching then
    if selected && !req.invert then
      let arr := line.toArray
      (m.spans req arr).foldl (fun acc (s, e) =>
        let part := (line.drop s).take (e - s)
        let part := if req.colors.isSome then pal.paint matchColor part else part
        acc.emit (head req name no (offset + s) ':' (e > s) ++ part ++ [req.eol])) sc
    else sc
  else
    let lead := head req name no offset (if selected then ':' else '-') !line.isEmpty
    let matching := selected != req.invert
    let body :=
      if req.colors.isSome && matching && !matchColor.isEmpty then
        let spans := m.spans req line.toArray
        let (pieces, last) := spans.foldl (fun (acc, at_) (s, e) =>
          (acc ++ pal.paint lineColor ((line.drop at_).take (s - at_)) ++
            pal.paint matchColor ((line.drop s).take (e - s)), e)) ([], 0)
        pieces ++ pal.paint lineColor (line.drop last)
      else if req.colors.isSome && !lineColor.isEmpty then pal.paint lineColor line
      else line
    sc.emit (lead ++ body ++ [req.eol])

/-- Takes one line of an input. -/
def feed (sc : Scan) (used : Bool) (req : SearchRequest) (m : Matcher) (name : Option String)
    (line : List UInt8) : Scan × Bool :=
  if sc.stop then (sc, used)
  else
    let no := sc.lineNo + 1
    let offset := sc.offset
    let next := { sc with lineNo := no, offset := offset + line.length + 1 }
    let isSelected := m.accepts req line.toArray != req.invert
    if sc.finishing then
      -- after the most, trailing context runs until a selected line
      if isSelected || sc.pending = 0 then ({ next with stop := true }, used)
      else
        let s := next.showLine req m name no offset line false
        ({ s with pending := sc.pending - 1, stop := sc.pending ≤ 1 }, used)
    else if isSelected then
      let count := sc.selected + 1
      let reached := req.maxCount.any (· ≤ count)
      let atFirst := req.quiet || req.list.isSome || (sc.binaryFrom.isSome && !req.count)
      let next := { next with selected := count }
      if atFirst then ({ next with stop := true }, used)
      else if !req.printsLines then ({ next with stop := reached }, used)
      else
        let lead := match req.beforeLines with
          | some b => sc.recent.drop (sc.recent.length - b)
          | none => []
        let firstNo := match lead.head? with
          | some (n, _, _) => n
          | none => no
        let gap := match sc.lastShown with
          | some l => l + 1 != firstNo
          | none => true
        let next := if req.hasContext && used && gap && sc.binaryFrom.isNone then
            match req.separator with
            | some sep =>
              let shown := match req.colors with
                | some pal => pal.paint pal.separator (bytes sep)
                | none => bytes sep
              next.emit (shown ++ [10])
            | none => next
          else next
        let next := lead.foldl (fun acc (n, o, l) => acc.showLine req m name n o l false) next
        let next := next.showLine req m name no offset line true
        let next := { next with recent := [], pending := req.afterLines.getD 0 }
        if reached then
          ({ next with finishing := true, stop := next.pending = 0 }, true)
        else (next, true)
    else if sc.pending > 0 && req.printsLines then
      let s := next.showLine req m name no offset line false
      ({ s with pending := sc.pending - 1 }, used)
    else
      let keep := req.beforeLines.getD 0
      let recent := if keep = 0 then [] else (sc.recent ++ [(no, offset, line)]).drop (sc.recent.length + 1 - keep)
      ({ next with recent }, used)

/-- Takes a chunk of an input: its complete lines are fed, the rest waits for the
next chunk. A chunk with a NUL byte makes the input binary unless `-a` or `-z`. -/
def feedChunk (sc : Scan) (carry : List UInt8) (used : Bool) (req : SearchRequest) (m : Matcher)
    (name : Option String) (chunk : List UInt8) : Scan × List UInt8 × Bool :=
  let sc := if sc.binaryFrom.isNone && !req.text && !req.nullData && chunk.contains 0 then
      { sc with binaryFrom := some sc.selected }
    else sc
  let data := carry ++ chunk
  let pieces := data.splitOn req.eol
  let complete := pieces.dropLast
  let rest := pieces.getLast?.getD []
  let (sc, used) := complete.foldl (fun (acc, u) l => acc.feed u req m name l) (sc, used)
  (sc, rest, used)

end Scan

/-- The option table of `grep`. -/
def searchOptions : OptionTable where
  short := ("0123456789EFGHILPTUVZabchilnoqRrsuvwxyz".toList.map fun c => (c, Takes.nothing)) ++
    ("ABCDXdefm".toList.map fun c => (c, Takes.value))
  long := [
    ⟨"basic-regexp", .nothing, "G"⟩, ⟨"extended-regexp", .nothing, "E"⟩,
    ⟨"fixed-regexp", .nothing, "F"⟩, ⟨"fixed-strings", .nothing, "F"⟩,
    ⟨"perl-regexp", .nothing, "P"⟩, ⟨"after-context", .value, "A"⟩,
    ⟨"before-context", .value, "B"⟩, ⟨"binary-files", .value, "binary-files"⟩,
    ⟨"byte-offset", .nothing, "b"⟩, ⟨"context", .value, "C"⟩,
    ⟨"color", .maybe, "color"⟩, ⟨"colour", .maybe, "color"⟩, ⟨"count", .nothing, "c"⟩,
    ⟨"devices", .value, "D"⟩, ⟨"directories", .value, "d"⟩,
    ⟨"dereference-recursive", .nothing, "R"⟩, ⟨"exclude", .value, "exclude"⟩,
    ⟨"exclude-from", .value, "exclude-from"⟩, ⟨"exclude-dir", .value, "exclude-dir"⟩,
    ⟨"file", .value, "f"⟩, ⟨"files-with-matches", .nothing, "l"⟩,
    ⟨"files-without-match", .nothing, "L"⟩, ⟨"group-separator", .value, "group-separator"⟩,
    ⟨"help", .nothing, "help"⟩, ⟨"include", .value, "include"⟩,
    ⟨"ignore-case", .nothing, "i"⟩, ⟨"no-ignore-case", .nothing, "no-ignore-case"⟩,
    ⟨"initial-tab", .nothing, "T"⟩, ⟨"label", .value, "label"⟩,
    ⟨"line-buffered", .nothing, "line-buffered"⟩, ⟨"line-number", .nothing, "n"⟩,
    ⟨"line-regexp", .nothing, "x"⟩, ⟨"max-count", .value, "m"⟩,
    ⟨"no-filename", .nothing, "h"⟩, ⟨"no-group-separator", .nothing, "no-group-separator"⟩,
    ⟨"no-messages", .nothing, "s"⟩, ⟨"null", .nothing, "Z"⟩, ⟨"null-data", .nothing, "z"⟩,
    ⟨"only-matching", .nothing, "o"⟩, ⟨"quiet", .nothing, "q"⟩,
    ⟨"recursive", .nothing, "r"⟩, ⟨"regexp", .value, "e"⟩,
    ⟨"invert-match", .nothing, "v"⟩, ⟨"silent", .nothing, "q"⟩, ⟨"text", .nothing, "a"⟩,
    ⟨"binary", .nothing, "U"⟩, ⟨"unix-byte-offsets", .nothing, "u"⟩,
    ⟨"version", .nothing, "V"⟩, ⟨"with-filename", .nothing, "H"⟩,
    ⟨"word-regexp", .nothing, "w"⟩]

/-- A number given to an option, read as `strtoimax` reads it in base ten with nothing
after it: blanks, a sign and digits. -/
def signedCount (s : String) : Option Int :=
  let cs := s.toList.dropWhile isCSpace
  let (negative, body) := match cs with
    | '-' :: r => (true, r)
    | '+' :: r => (false, r)
    | r => (false, r)
  if body.isEmpty || !body.all Char.isDigit then none
  else
    let v : Int := digitsValue body
    some (if negative then -v else v)

/-- The matchers of `grep`, by the option that picks each. -/
def matcherOf (key : String) : Option Nat :=
  match key with
  | "G" => some 0
  | "E" => some 1
  | "F" => some 2
  | "P" => some 6
  | _ => none

/-- Where a pattern comes from. -/
inductive PatternSource where
  | given (text : String)
  | file (path : String)

/-- What the options of `grep` ask, or the message that refuses them. -/
def readSearchOptions (opts : List (String × Option String)) :
    Except String (SearchRequest × List PatternSource) := do
  let mut req : SearchRequest := {}
  let mut sources : List PatternSource := []
  let mut digits : Option Nat := none
  let mut matcher : Option Nat := none
  let mut colorChoice : Option Bool := some false
  for (key, value) in opts do
    if let some k := matcherOf key then
      if matcher.any (· != k) then throw "conflicting matchers specified"
      matcher := some k
    let v := value.getD ""
    if key.length = 1 && key.front.isDigit then
      digits := some ((digits.getD 0) * 10 + (key.front.toNat - '0'.toNat))
      req := { req with context := digits }
      continue
    digits := none
    match key with
    | "E" => req := { req with kind := .extended }
    | "P" => req := { req with kind := .perl }
    | "F" => req := { req with kind := .fixed }
    | "G" => req := { req with kind := .basic }
    | "e" => sources := sources ++ [.given v]
    | "f" => sources := sources ++ [.file v]
    | "i" | "y" => req := { req with ignoreCase := true }
    | "no-ignore-case" => req := { req with ignoreCase := false }
    | "v" => req := { req with invert := true }
    | "w" => req := { req with words := true }
    | "x" => req := { req with wholeLines := true }
    | "c" => req := { req with count := true }
    | "l" => req := { req with list := some true }
    | "L" => req := { req with list := some false }
    | "q" => req := { req with quiet := true }
    | "s" => req := { req with noMessages := true }
    | "o" => req := { req with onlyMatching := true }
    | "n" => req := { req with lineNumbers := true }
    | "b" => req := { req with byteOffsets := true }
    | "H" => req := { req with names := some true }
    | "h" => req := { req with names := some false }
    | "a" => req := { req with text := true }
    | "Z" => req := { req with nullNames := true }
    | "z" => req := { req with nullData := true }
    | "T" => req := { req with initialTab := true }
    | "r" | "R" => req := { req with recursive := true }
    | "label" => req := { req with label := v }
    | "group-separator" => req := { req with separator := some v }
    | "no-group-separator" => req := { req with separator := none }
    | "m" =>
      match signedCount v with
      | some n => req := { req with maxCount := if n < 0 then none else some n.toNat }
      | none => throw "invalid max count"
    | "A" | "B" | "C" =>
      match signedCount v with
      | some n =>
        if n < 0 then throw (v ++ ": invalid context length argument")
        req := match key with
          | "A" => { req with after := some n.toNat }
          | "B" => { req with before := some n.toNat }
          | _ => { req with context := some n.toNat }
      | none => throw (v ++ ": invalid context length argument")
    | "binary-files" =>
      match v with
      | "binary" => req := { req with text := false, skipBinary := false }
      | "text" => req := { req with text := true, skipBinary := false }
      | "without-match" => req := { req with text := false, skipBinary := true }
      | _ => throw "unknown binary-files type"
    | "I" => req := { req with text := false, skipBinary := true }
    | "color" =>
      match value.map String.toLower with
      | none => colorChoice := none
      | some c =>
        if ["always", "yes", "force"].contains c then colorChoice := some true
        else if ["never", "no", "none"].contains c then colorChoice := some false
        else if ["auto", "tty", "if-tty"].contains c then colorChoice := none
        else throw ""
    | _ => pure ()
  let colored := match colorChoice with
    | some c => c
    | none => false
  return ({ req with colors := if colored then some {} else none, colorAuto := colorChoice.isNone },
    sources)

/-- A name under a directory's path. -/
def pathUnder (dir name : String) : String :=
  if dir.endsWith "/" then dir ++ name else dir ++ "/" ++ name

/-- The files under a directory, as paths from it, in name order: directories are
entered, links and devices passed over. -/
def filesUnder : Nat → String → List (String × Host.Node) → List String
  | 0, _, _ => []
  | fuel + 1, dir, entries =>
    (entries.mergeSort fun a b => a.1 ≤ b.1).flatMap fun (name, node) =>
      let p := pathUnder dir (Text.Octets.ofText name)
      match node with
      | .dir inner => filesUnder fuel p inner
      | .file _ | .program _ => [p]
      | _ => []

/-- The usage lines of `grep`. -/
def searchUsage : String :=
  "Usage: grep [OPTION]... PATTERNS [FILE]...\nTry 'grep --help' for more information.\n"

/-- The pattern lines of a text: split at line feeds, one trailing line feed dropped. -/
def patternLines (text : List UInt8) : List (List UInt8) :=
  let parts := text.splitOn 10
  if parts.getLast? == some [] then parts.dropLast else parts

/-- Searches one input already open as descriptor `src`, printing as asked. Returns
the number of selected lines and whether anything was printed so far. -/
def searchInput (req : SearchRequest) (m : Matcher) (src : Nat) (name : Option String)
    (shownName : String) (used : Bool) : M (Nat × Bool) := do
  let mut sc : Scan := {}
  let mut rest : List UInt8 := []
  let mut used := used
  let limit := (← get).steps + 1
  for _ in [0:limit] do
    useStep
    if sc.stop then break
    match ← readFd src 65536 with
    | none => break
    | some chunk =>
      let (sc', rest', used') := sc.feedChunk rest used req m name chunk
      if req.skipBinary && sc'.binaryFrom.isSome then return (0, used)
      put 1 sc'.out.reverse.flatten
      sc := { sc' with out := [] }
      rest := rest'
      used := used'
  if !sc.stop && !rest.isEmpty then
    let (sc', used') := sc.feed used req m name rest
    put 1 sc'.out.reverse.flatten
    sc := { sc' with out := [] }
    used := used'
  match sc.binaryFrom with
  | some k =>
    if sc.selected > k && req.printsLines then
      complain "grep" (shownName ++ ": binary file matches")
  | none => pure ()
  return (sc.selected, used)

/-- `grep [OPTION]... PATTERNS [FILE]...`. -/
def grep (args : List String) : M Nat := do
  match searchOptions.read args with
  | .error e =>
    complain "grep" e.message
    putStr 2 searchUsage
    return 2
  | .ok parsed =>
  if let some code ← aboutRequest "grep" parsed then return code
  match readSearchOptions parsed.options with
  | .error msg =>
    if msg.isEmpty then putStr 2 searchUsage
    else complain "grep" msg
    return 2
  | .ok (req, sources) =>
  let term ← environValue "TERM"
  let colored := req.colors.isSome ||
    (req.colorAuto && (← isTerminal 1) && term.isSome && term != some "dumb")
  let palette := match ← environValue "GREP_COLORS" with
    | some settings => Palette.read {} settings
    | none => {}
  let req := { req with colors := if colored then some palette else none }
  let (sources, operands) := if sources.isEmpty then
      match parsed.operands with
      | p :: files => ([PatternSource.given p], files)
      | [] => ([], [])
    else (sources, parsed.operands)
  if sources.isEmpty then
    putStr 2 searchUsage
    return 2
  -- the pattern lines, in order
  let mut lines : List (List UInt8) := []
  for src in sources do
    match src with
    | .given p => lines := lines ++ (bytes p).splitOn 10
    | .file path =>
      let content ← if path = "-" then readToEnd 0
        else match ← openInput 9 path with
          | .ok () => readToEnd 9
          | .error e =>
            complain "grep" (path ++ ": " ++ e.text)
            return 2
      lines := lines ++ patternLines content
  match compilePatterns req lines with
  | .error msg =>
    complain "grep" msg
    return 2
  | .ok (m, warnings) =>
  for w in warnings do complain "grep" ("warning: " ++ w)
  if req.maxCount == some 0 then return 1
  let files := if !operands.isEmpty then operands else if req.recursive then ["."] else ["-"]
  -- a directory searched recursively stands for the files under it
  let mut inputs : List String := []
  let mut enteredDirectory := false
  for f in files do
    if req.recursive && f != "-" then
      match ← statPath f with
      | .ok (_, .dir entries) =>
        enteredDirectory := true
        let under := filesUnder (f.length + 64) f entries
        inputs := inputs ++ (if operands.isEmpty then under.map fun p => (p.drop 2).toString else under)
      | _ => inputs := inputs ++ [f]
    else inputs := inputs ++ [f]
  let showNames := req.names.getD (files.length > 1 || enteredDirectory)
  let mut anySelected := false
  let mut anyListed := false
  let mut trouble := false
  let mut used := false
  for f in inputs do
    let shownName := if f = "-" then req.label else f
    let name := if showNames then some shownName else none
    let opened ← if f = "-" then
        pure (if (← fd? 0).isNone then .error .badDescriptor else .ok ())
      else openInput 9 f
    match opened with
    | .error e =>
      if !req.noMessages then complain "grep" (shownName ++ ": " ++ e.text)
      trouble := true
    | .ok () =>
      let src := if f = "-" then 0 else 9
      let (count, used') ← searchInput req m src name shownName used
      used := used'
      if count > 0 then anySelected := true
      if req.quiet && count > 0 then return 0
      if req.count then
        let lead := match name with
          | some n => bytes n ++ (if req.nullNames then [0] else bytes ":")
          | none => []
        put 1 (lead ++ bytes (toString count ++ "\n"))
      match req.list with
      | some true => if count > 0 then put 1 (bytes shownName ++ [if req.nullNames then 0 else 10])
      | some false =>
        if count = 0 then
          put 1 (bytes shownName ++ [if req.nullNames then 0 else 10])
          anyListed := true
      | none => pure ()
  if trouble then return 2
  match req.list with
  | some false =>
    -- success when some input was listed
    return if anyListed then 0 else 1
  | _ => return if anySelected then 0 else 1

end Confine.Host.Program
