import Confine.Host.Program.Basic
import Confine.Host.Program.Options
import Confine.Host.Program.About
import Confine.Host.Program.Ordering
import Confine.Host.Program.Quoting
import Confine.Host.Program.Clock
import Confine.Shell.Pattern
import Confine.Host.Image
/-!
# Programs on files

`ls`, `mkdir`, `touch` and `rm`. `ls` sorts names by bytes, hides names starting with
`.` unless asked (`-a` adds `.` and `..`, `-A` does not), and writes one name per
line unless its output is a terminal, where it fills up to 80 columns, column by
column, quoting names a shell would need quoted.
-/

namespace Confine.Host.Program

open Confine.Shell Confine.Host

/-- The width of a name on the terminal, in columns: one per character. -/
def nameWidth (s : String) : Nat := (Text.Octets.toText s).length

/-- Blanks from column `start` to column `stop`, tabs where a whole tab stop fits. -/
def indent (start stop : Nat) : String :=
  go (stop - start + 1) start ""
where
  go : Nat → Nat → String → String
  | 0, _, acc => acc
  | fuel + 1, p, acc =>
    if p ≥ stop then acc
    else if stop / 8 > (p + 1) / 8 then go fuel (p + 8 - p % 8) (acc.push '\t')
    else go fuel (p + 1) (acc.push ' ')

/-- The widths of the columns of a grid of names with `cols` columns, filled column by
column or row by row: each column as wide as its widest name and two more, except the
last, and at least three. -/
def gridWidths (widths : List Nat) (cols : Nat) (byColumns : Bool) : List Nat :=
  let n := widths.length
  let rows := (n + cols - 1) / cols
  widths.zipIdx.foldl (fun acc (w, i) =>
    let idx := if byColumns then i / rows else i % cols
    let real := w + (if idx + 1 = cols then 0 else 2)
    acc.set idx (Nat.max (acc.getD idx 3) real)) (List.replicate cols 3)

/-- The number of columns of a grid: the most, up to a third of the width, whose
line stays narrower than the width. -/
def gridColumns (widths : List Nat) (width : Nat) (byColumns : Bool) : Nat :=
  let n := widths.length
  let most := if 0 < width / 3 && width / 3 < n then width / 3 else n
  let fits (cols : Nat) : Bool := (gridWidths widths cols byColumns).foldl (· + ·) 0 < width
  ((List.range most).reverse.map (· + 1)).find? (fun c => c = 1 || fits c) |>.getD 1

/-- Names in a grid that is filled column by column (or row by row), padded with tabs
and blanks. -/
def grid (names : List (String × Nat)) (width : Nat) (byColumns : Bool) : String :=
  let n := names.length
  if n = 0 then "" else
  let widths := names.map (·.2)
  let cols := gridColumns widths width byColumns
  let colWidths := gridWidths widths cols byColumns
  let arr := names.toArray
  if byColumns then
    let rows := n / cols + (if n % cols != 0 then 1 else 0)
    String.join <| (List.range rows).map fun r =>
      let members := (List.range cols).filterMap fun c => (arr[c * rows + r]?).map (c, ·)
      let (line, _) := members.zipIdx.foldl (fun (line, pos) ((c, (name, w)), i) =>
        if i + 1 = members.length then (line ++ name, pos)
        else (line ++ name ++ indent (pos + w) (pos + colWidths.getD c 0), pos + colWidths.getD c 0))
        ("", 0)
      line ++ "\n"
  else
    let rows := (List.range ((n + cols - 1) / cols)).map fun r => (List.range cols).filterMap fun c =>
      (arr[r * cols + c]?).map (c, ·)
    String.join <| rows.map fun members =>
      let (line, _) := members.zipIdx.foldl (fun (line, pos) ((c, (name, w)), i) =>
        if i + 1 = members.length then (line ++ name, pos)
        else (line ++ name ++ indent (pos + w) (pos + colWidths.getD c 0), pos + colWidths.getD c 0))
        ("", 0)
      line ++ "\n"

/-- Names separated by commas, a line broken before a name that would reach the width. -/
def commaList (names : List (String × Nat)) (width : Nat) : String :=
  let (out, _) := names.zipIdx.foldl (fun (out, pos) ((name, w), i) =>
    if i = 0 then (out ++ name, w)
    else if width = 0 || pos + w + 2 < width then (out ++ ", " ++ name, pos + 2 + w)
    else (out ++ ",\n" ++ name, w)) ("", 0)
  if names.isEmpty then "" else out ++ "\n"

/-- How `ls` lays names out. -/
inductive ListLayout where
  | lines
  | columns
  | across
  | commas
  deriving BEq

/-- What `ls` appends to a name: nothing, `/` to directories, a mark of each kind but
programs, or a mark of each kind. -/
inductive Marking where
  | none
  | slash
  | fileType
  | classify
  deriving BEq

/-- How `ls` orders names. -/
inductive ListOrder where
  | name
  | unsorted
  | size
  | version
  | extension
  | width
  deriving BEq

/-- What `ls` was asked. -/
structure ListRequest where
  dots : Bool := false
  almostAll : Bool := false
  themselves : Bool := false
  recursive : Bool := false
  reverse : Bool := false
  layout : Option ListLayout := none
  marking : Marking := .none
  order : ListOrder := .name
  width : Nat := 80
  /-- The quoting style asked for; otherwise `shellEscape` on a terminal, else
  `literal`. -/
  style : Option QuotingStyle := none
  /-- Whether bytes that do not print are shown as `?`; otherwise only on a terminal. -/
  qmark : Option Bool := none
  directoriesFirst : Bool := false
  /-- Whether names end with a zero byte rather than a line feed. -/
  zero : Bool := false
  /-- Patterns of names not listed unless `-a` or `-A` is given. -/
  hide : List String := []
  /-- Patterns of names never listed. -/
  ignore : List String := []

/-- The mark of a node. -/
def Marking.of (m : Marking) (n : Node) : String :=
  match m, n with
  | .none, _ => ""
  | _, .dir _ => "/"
  | .classify, .link _ | .fileType, .link _ => "@"
  | .classify, .program _ => "*"
  | _, _ => ""

/-- The size `ls` gives a node. -/
def listedSize (n : Node) : Nat :=
  match n with
  | .file c => c.length
  | .program _ => programImage.length
  | .dir _ => 4096
  | .link t => (Text.Octets.toBytes t).length
  | .device _ => 0

/-- The extension of a name: from its last dot, or empty. -/
def nameExtension (s : String) : String :=
  match (s.toList.reverse.takeWhile (· != '.')).length, s.toList.contains '.' with
  | k, true => String.ofList (s.toList.drop (s.length - k - 1))
  | _, false => ""

namespace ListRequest

/-- Names with their nodes in the order asked. -/
def arrange (r : ListRequest) (items : List (String × Node)) : List (String × Node) :=
  let byName (a b : String × Node) : Bool := decide (a.1 ≤ b.1)
  let before (a b : String × Node) : Bool :=
    match r.order with
    | .unsorted => true
    | .name => byName a b
    | .size =>
      let sa := listedSize a.2
      let sb := listedSize b.2
      sa > sb || (sa == sb && byName a b)
    | .version =>
      let c := compareVersions (Text.Octets.toBytes a.1) (Text.Octets.toBytes b.1)
      c < 0 || (c == 0 && byName a b)
    | .extension =>
      let ea := nameExtension a.1
      let eb := nameExtension b.1
      decide (ea < eb) || (ea == eb && byName a b)
    | .width =>
      let wa := nameWidth a.1
      let wb := nameWidth b.1
      wa < wb || (wa == wb && byName a b)
  let sorted := if r.order == .unsorted then items else items.mergeSort before
  let sorted := if r.reverse && r.order != .unsorted then sorted.reverse else sorted
  if r.directoriesFirst then
    let (ds, others) := sorted.partition fun (_, n) => match n with | .dir _ => true | _ => false
    ds ++ others
  else sorted

/-- Whether a name fits a pattern, a leading dot only a leading dot of the pattern. -/
def patternFits (pattern name : String) : Bool :=
  Glob.fits (Glob.ofText pattern) name.toList &&
    (!name.startsWith "." || pattern.startsWith ".")

/-- Whether a name of a directory is left out: a name with a leading dot unless `-a`
(or `-A`, which still leaves out `.` and `..`), one that fits a pattern to hide unless
either, and one that fits a pattern to ignore. -/
def ignored (r : ListRequest) (name : String) : Bool :=
  (!r.dots && name.startsWith "." && (!r.almostAll || name == "." || name == "..")) ||
    (!r.dots && !r.almostAll && r.hide.any (patternFits · name)) ||
    r.ignore.any (patternFits · name)

/-- The entries of a directory that are listed, with `.` and `..` first for `-a`. -/
def entriesOf (r : ListRequest) (self : Node) (entries : List (String × Node)) : List (String × Node) :=
  let all := [(".", self), ("..", Node.dir [])] ++
    entries.map fun (nm, n) => (Text.Octets.ofText nm, n)
  all.filter fun (name, _) => !r.ignored name

/-- The style names are quoted in, on a terminal or not. -/
def quoting (r : ListRequest) (tty : Bool) : QuotingStyle :=
  r.style.getD (if tty then .shellEscape else .literal)

/-- The further bytes quoted in names: a blank for `escape`, and the marks that
`--file-type` and `-F` append. -/
def quotedBytes (r : ListRequest) (tty : Bool) : List Char :=
  (if r.quoting tty == .escape then [' '] else []) ++
    match r.marking with
    | .fileType => "*=>@|".toList
    | .classify => "=>@|".toList
    | _ => []

/-- A name as shown, with its width in columns: quoted in the request's style, and
with bytes that do not print shown as `?` where asked, for the styles that leave them
as they are; `colon` quotes a colon too. Whether quoting changed the name is the third
part. -/
def showName (r : ListRequest) (tty colon : Bool) (name : String) : String × Nat × Bool :=
  let style := r.quoting tty
  let quoted := style.quote ((if colon then [':'] else []) ++ r.quotedBytes tty) name
  let changed := quoted.toList.head? != name.toList.head? || quoted.length != name.length
  let further := r.qmark.getD tty && (style == .shell || style == .shellAlways || style == .literal)
  if further then
    (String.ofList (quoted.toList.map fun c => if isPrintableByte c then c else '?'), quoted.length, changed)
  else (quoted, (quoted.toList.filter isPrintableByte).length, changed)

/-- Renders names with their nodes in the layout asked. -/
def render (r : ListRequest) (tty : Bool) (items : List (String × Node)) : String :=
  let layout := r.layout.getD (if tty && !r.zero then .columns else .lines)
  let style := r.quoting tty
  let shown := items.map fun (name, n) => (r.showName tty false name, r.marking.of n)
  -- names are padded to line up with quoted ones in columns
  let align := (layout == .columns || layout == .across) && r.width != 0 &&
    (style == .shell || style == .shellEscape || style == .cMaybe)
  let padQuoted := align && shown.any fun ((_, _, changed), _) => changed
  let cells := shown.map fun ((t, w, changed), mark) =>
    let (t, w) := if padQuoted && !changed then (" " ++ t, w + 1) else (t, w)
    (t ++ mark, w + mark.length)
  match layout with
  | .lines => String.join (cells.map (·.1 ++ (if r.zero then "\x00" else "\n")))
  | .commas => commaList cells r.width
  | .columns => if r.width = 0 then commaList cells 0 else grid cells r.width true
  | .across => if r.width = 0 then commaList cells 0 else grid cells r.width false

end ListRequest

/-- The option table of `ls`. -/
def lsOptions : OptionTable where
  short := [('a', .nothing), ('A', .nothing), ('b', .nothing), ('B', .nothing), ('c', .nothing),
    ('C', .nothing), ('d', .nothing), ('D', .nothing), ('f', .nothing), ('F', .nothing), ('g', .nothing),
    ('G', .nothing), ('h', .nothing), ('H', .nothing), ('i', .nothing), ('I', .value),
    ('k', .nothing), ('l', .nothing), ('L', .nothing), ('m', .nothing), ('n', .nothing),
    ('N', .nothing), ('o', .nothing), ('p', .nothing), ('q', .nothing), ('Q', .nothing),
    ('r', .nothing), ('R', .nothing), ('s', .nothing), ('S', .nothing), ('t', .nothing),
    ('T', .value), ('u', .nothing), ('U', .nothing), ('v', .nothing), ('w', .value),
    ('x', .nothing), ('X', .nothing), ('Z', .nothing), ('1', .nothing)]
  long := [⟨"all", .nothing, "a"⟩, ⟨"escape", .nothing, "b"⟩, ⟨"directory", .nothing, "d"⟩,
    ⟨"dired", .nothing, "D"⟩, ⟨"full-time", .nothing, "full-time"⟩,
    ⟨"group-directories-first", .nothing, "dirs-first"⟩, ⟨"human-readable", .nothing, "h"⟩,
    ⟨"inode", .nothing, "i"⟩, ⟨"kibibytes", .nothing, "k"⟩, ⟨"numeric-uid-gid", .nothing, "n"⟩,
    ⟨"no-group", .nothing, "G"⟩, ⟨"hide-control-chars", .nothing, "q"⟩,
    ⟨"reverse", .nothing, "r"⟩, ⟨"size", .nothing, "s"⟩, ⟨"width", .value, "w"⟩,
    ⟨"almost-all", .nothing, "A"⟩, ⟨"ignore-backups", .nothing, "B"⟩,
    ⟨"classify", .maybe, "F"⟩, ⟨"file-type", .nothing, "file-type"⟩, ⟨"si", .nothing, "si"⟩,
    ⟨"dereference-command-line", .nothing, "H"⟩,
    ⟨"dereference-command-line-symlink-to-dir", .nothing, "deref-dirs"⟩,
    ⟨"hide", .value, "hide"⟩, ⟨"ignore", .value, "I"⟩,
    ⟨"indicator-style", .value, "indicator"⟩, ⟨"dereference", .nothing, "L"⟩,
    ⟨"literal", .nothing, "N"⟩, ⟨"quote-name", .nothing, "Q"⟩,
    ⟨"quoting-style", .value, "quoting-style"⟩, ⟨"recursive", .nothing, "R"⟩,
    ⟨"format", .value, "format"⟩, ⟨"show-control-chars", .nothing, "show"⟩,
    ⟨"sort", .value, "sort"⟩, ⟨"tabsize", .value, "T"⟩, ⟨"time", .value, "time"⟩,
    ⟨"time-style", .value, "time-style"⟩, ⟨"zero", .nothing, "zero"⟩,
    ⟨"color", .maybe, "color"⟩, ⟨"hyperlink", .maybe, "hyperlink"⟩,
    ⟨"block-size", .value, "block-size"⟩, ⟨"context", .nothing, "Z"⟩,
    ⟨"author", .nothing, "author"⟩, ⟨"help", .nothing, "help"⟩, ⟨"version", .nothing, "version"⟩]

/-- The answers to `--color` and `--hyperlink`, by name. -/
def whenChoices : List (String × Nat) :=
  [("always", 0), ("yes", 0), ("force", 0), ("never", 1), ("no", 1), ("none", 1),
    ("auto", 2), ("tty", 2), ("if-tty", 2)]

/-- The sort keys of `ls --sort`, by name. -/
def sortChoices : List (String × ListOrder) :=
  [("none", .unsorted), ("time", .name), ("size", .size), ("extension", .extension),
    ("version", .version), ("width", .width)]

/-- The layouts of `ls --format`, by name, numbered by meaning. -/
def formatChoices : List (String × Nat) :=
  [("verbose", 0), ("long", 0), ("commas", 1), ("horizontal", 2), ("across", 2),
    ("vertical", 3), ("single-column", 4)]

/-- The layout of each meaning of `ls --format`. -/
def formatLayout : Nat → ListLayout
  | 1 => .commas
  | 2 => .across
  | 3 => .columns
  | _ => .lines

/-- The markings of `ls --indicator-style`, by name. -/
def indicatorChoices : List (String × Marking) :=
  [("none", .none), ("slash", .slash), ("file-type", .fileType), ("classify", .classify)]

/-- Why `ls` refuses its options: the message, and whether it is a choice not on the
list, which the hint at `--help` follows. -/
structure ListRefusal where
  message : String
  hint : Bool

/-- Applies the options of `ls` to a request, or gives the refusal. -/
def readListOptions (opts : List (String × Option String)) : Except ListRefusal ListRequest :=
  opts.foldlM (fun r (key, value) =>
    let v := value.getD ""
    let choice {α : Type} [BEq α] (option : String) (choices : List (String × α)) :
        Except ListRefusal α :=
      (matchChoice option choices v).mapError fun m => ⟨m, true⟩
    match key with
    | "a" => .ok { r with dots := true, almostAll := false }
    | "A" => .ok { r with almostAll := true, dots := false }
    | "d" => .ok { r with themselves := true }
    | "f" => .ok { r with dots := true, order := .unsorted }
    | "F" => .ok { r with marking := .classify }
    | "file-type" => .ok { r with marking := .fileType }
    | "p" => .ok { r with marking := .slash }
    | "r" => .ok { r with reverse := true }
    | "R" => .ok { r with recursive := true }
    | "S" => .ok { r with order := .size }
    | "U" => .ok { r with order := .unsorted }
    | "v" => .ok { r with order := .version }
    | "X" => .ok { r with order := .extension }
    | "t" | "c" | "u" => .ok r
    | "1" | "l" | "g" | "n" | "o" => .ok { r with layout := some .lines }
    | "C" => .ok { r with layout := some .columns }
    | "x" => .ok { r with layout := some .across }
    | "m" => .ok { r with layout := some .commas }
    | "Q" => .ok { r with style := some .c }
    | "N" => .ok { r with style := some .literal }
    | "b" => .ok { r with style := some .escape }
    | "quoting-style" => (choice "quoting-style" quotingStyleNames).map fun q => { r with style := some q }
    | "q" => .ok { r with qmark := some true }
    | "show" => .ok { r with qmark := some false }
    | "hide" => .ok { r with hide := r.hide ++ [v] }
    | "I" => .ok { r with ignore := r.ignore ++ [v] }
    | "B" => .ok { r with ignore := r.ignore ++ ["*~", ".*~"] }
    | "color" | "hyperlink" =>
      if value.isNone then .ok r else (choice key whenChoices).map fun _ => r
    | "zero" =>
      let layout := some (r.layout.getD .lines)
      .ok { r with zero := true, style := some .literal, qmark := some false, layout := layout }
    | "dirs-first" => .ok { r with directoriesFirst := true }
    | "w" =>
      if !v.isEmpty && v.toList.all Char.isDigit then .ok { r with width := v.toNat! }
      else .error ⟨"invalid line width: " ++ quoteAlways v, false⟩
    | "sort" => (choice "sort" sortChoices).map fun o => { r with order := o }
    | "format" => (choice "format" formatChoices).map fun f => { r with layout := some (formatLayout f) }
    | "indicator" => (choice "indicator-style" indicatorChoices).map fun m => { r with marking := m }
    | _ => .ok r) {}

/-- The node a name stands for without following a last link, if there is one. -/
def linkNode (p : String) : M (Option Node) := do
  match ← parentOf p with
  | .ok (dir, name) => return (← get).fs.get? (dir ++ [Text.Octets.toText name])
  | .error _ => return none

/-- A path under a directory's path, as `ls` writes it. -/
def underDir (dir name : String) : String :=
  if dir.endsWith "/" then dir ++ name else dir ++ "/" ++ name

/-- `ls [OPTION]... [FILE]...`. -/
def ls (args : List String) : M Nat := do
  match lsOptions.read args with
  | .error e => complain "ls" e.message; tryHelp "ls"; return 2
  | .ok parsed =>
  if let some code ← aboutRequest "ls" parsed then return code
  match readListOptions parsed.options with
  | .error refusal =>
    complain "ls" refusal.message
    -- a choice not on the list fails like every program's, other refusals as trouble
    if refusal.hint then tryHelp "ls"; return 1
    return 2
  | .ok r =>
  -- without a style among the options, the environment may name one
  let r ← if r.style.isSome then pure r else
    match ← environValue "QUOTING_STYLE" with
    | none => pure r
    | some v =>
      match matchChoice "quoting-style" quotingStyleNames v with
      | .ok q => pure { r with style := some q }
      | .error _ =>
        complain "ls" ("ignoring invalid value of environment variable QUOTING_STYLE: " ++
          QuotingStyle.locale.quote [] v)
        pure r
  let tty ← isTerminal 1
  let operands := if parsed.operands.isEmpty then ["."] else parsed.operands
  let mut status := 0
  let mut files : List (String × Node) := []
  let mut dirs : List (String × Node) := []
  -- a link named on the command line is followed to a directory, unless `-d` or `-F`
  let follow := !r.themselves && r.marking != .classify
  for op in operands do
    let stated ← statPath op
    let own ← linkNode op
    let node : Option Node := match stated, own with
      | .ok (_, n), some (.link t) => if follow then some n else some (.link t)
      | .ok (_, n), _ => some n
      | .error _, some (.link t) => some (.link t)
      | .error _, _ => none
    match node, stated with
    | some n, _ =>
      match n with
      | .dir _ => if r.themselves then files := files ++ [(op, n)] else dirs := dirs ++ [(op, n)]
      | _ => files := files ++ [(op, n)]
    | none, .error e =>
      complain "ls" ("cannot access " ++ quoteFile op ++ ": " ++ e.text)
      status := 2
    | none, .ok _ => pure ()
  let shownFiles := r.arrange files
  let shownDirs := r.arrange dirs
  let mut out := ""
  if !shownFiles.isEmpty then
    out := out ++ r.render tty shownFiles
    if !shownDirs.isEmpty then out := out ++ "\n"
  let named := !shownFiles.isEmpty || parsed.operands.length > 1 || shownDirs.length > 1
  let mut first := true
  let mut pending := shownDirs
  let budget := (← get).steps + 1
  for _ in [0:budget] do
    match pending with
    | [] => break
    | (name, node) :: rest =>
      pending := rest
      if r.recursive || named then
        if !first then out := out ++ "\n"
        first := false
        out := out ++ (r.showName tty true name).1 ++ ":\n"
      let entries := match node with
        | .dir es => r.arrange (r.entriesOf node es)
        | _ => []
      out := out ++ r.render tty entries
      if r.recursive then
        let subdirs := entries.filterMap fun (nm, n) =>
          match n with
          | .dir _ => if nm == "." || nm == ".." then none else some (underDir name nm, n)
          | _ => none
        pending := subdirs ++ pending
  say out
  return status

/-- Whether a text is a file mode: octal digits up to `7777`, or clauses separated by
commas, each of `ugoa` letters and then actions, each a `+`, `-` or `=` with either
permission letters from `rwxXst` or one of `ugo`. -/
def validMode (m : String) : Bool :=
  let cs := m.toList
  if !cs.isEmpty && cs.all fun c => '0' ≤ c && c ≤ '7' then
    cs.foldl (fun n c => n * 8 + (c.toNat - '0'.toNat)) 0 ≤ 4095
  else
    let clause (c : List Char) : Bool :=
      let actions := c.dropWhile fun x => "ugoa".toList.contains x
      let rec ok : Nat → List Char → Bool
        | 0, _ => false
        | _, [] => true
        | fuel + 1, op :: rest =>
          if !"+-=".toList.contains op then false
          else
            match rest with
            | x :: after =>
              if "ugo".toList.contains x then ok fuel after
              else ok fuel (rest.dropWhile fun y => "rwxXst".toList.contains y)
            | [] => true
      !actions.isEmpty && ok (actions.length + 1) actions
    (cs.splitOn ',').all clause

/-- The option table of `mkdir`. -/
def mkdirOptions : OptionTable where
  short := [('m', .value), ('p', .nothing), ('v', .nothing), ('Z', .nothing)]
  long := [⟨"context", .maybe, "Z"⟩, ⟨"mode", .value, "m"⟩, ⟨"parents", .nothing, "p"⟩,
    ⟨"verbose", .nothing, "v"⟩] ++ standardLong

/-- Makes one directory from its parent's canonical names and its own name, or gives
why it cannot be made. -/
def makeDirectory (dir : List String) (name : String) : M (Except Errno Unit) := do
  let w ← get
  let names := dir ++ [name]
  match w.fs.get? names with
  | some _ => return .error .exists
  | none =>
    match w.fs.put? names (.dir []) with
    | some fs => set { w with fs := fs }; return .ok ()
    | none => return .error .noEntry

/-- `mkdir [OPTION]... DIRECTORY...`: makes each directory; with `-p` also the missing
directories above it, and no complaint when it is there; with `-v` a line for each
directory made. -/
def mkdir (args : List String) : M Nat := do
  match mkdirOptions.read args with
  | .error e => complain "mkdir" e.message; tryHelp "mkdir"; return 1
  | .ok parsed =>
  if let some code ← aboutRequest "mkdir" parsed then return code
  if let some (some m) := parsed.last? "m" then
    if !validMode m then complain "mkdir" ("invalid mode " ++ quoteAlways m); return 1
  let parents := parsed.has "p"
  let verbose := parsed.has "v"
  if parsed.operands.isEmpty then complain "mkdir" "missing operand"; tryHelp "mkdir"; return 1
  let mut status := 0
  for d in parsed.operands do
    let text := Text.Octets.toText d
    let names := pathNames text
    -- with `-p`, the directories above come first, each from the path as written
    let steps := if parents then (List.range names.length).map fun k => names.take (k + 1) else [names]
    let mut failed := false
    for step in steps do
      if failed then break
      let shown := Text.Octets.ofText (Path.ofNames (Path.isAbsolute text) step)
      let shown := if step.length == names.length then d else shown
      let last := step.length == names.length
      match ← parentOf shown with
      | .error e =>
        complain "mkdir" ("cannot create directory " ++ quoteFile shown ++ ": " ++ e.text)
        status := 1
        failed := true
      | .ok (dir, name) =>
        match ← makeDirectory dir (Text.Octets.toText name) with
        | .ok () => if verbose then say ("mkdir: created directory " ++ quoteFile shown ++ "\n")
        | .error e =>
          let there ← statPath shown
          let isDirNow := match there with
            | .ok (_, .dir _) => true
            | _ => false
          if parents && isDirNow then pure ()
          else if parents && !last && e == .exists then
            complain "mkdir" ("cannot create directory " ++ quoteFile d ++ ": Not a directory")
            status := 1
            failed := true
          else
            complain "mkdir" ("cannot create directory " ++ quoteFile shown ++ ": " ++ e.text)
            status := 1
            failed := true
  return status

/-- The option table of `touch`. -/
def touchOptions : OptionTable where
  short := [('a', .nothing), ('c', .nothing), ('d', .value), ('f', .nothing), ('h', .nothing),
    ('m', .nothing), ('r', .value), ('t', .value)]
  long := [⟨"time", .value, "time"⟩, ⟨"no-create", .nothing, "c"⟩, ⟨"date", .value, "d"⟩,
    ⟨"reference", .value, "r"⟩, ⟨"no-dereference", .nothing, "h"⟩] ++ standardLong

/-- The times `touch --time` may name. -/
def touchTimes : List (String × Nat) :=
  [("atime", 0), ("access", 0), ("use", 0), ("mtime", 1), ("modify", 1)]

/-- Whether a text is a time as `touch -t` takes it, `[[CC]YY]MMDDhhmm[.ss]`, naming a
moment that exists (a sixtieth second is let through). Two digits of year stand for
1969 to 2068; without them the year is `thisYear`. -/
def validStamp (s : String) (thisYear : Int) : Bool :=
  let cs := s.toList
  let (digits, secs) := match cs.findIdx? (· == '.') with
    | some i => (cs.take i, some (cs.drop (i + 1)))
    | none => (cs, none)
  let value (a b : Char) : Nat := (a.toNat - 48) * 10 + (b.toNat - 48)
  let second : Option Nat := match secs with
    | none => some 0
    | some [a, b] => if a.isDigit && b.isDigit then some (value a b) else none
    | some _ => none
  let n := digits.length
  if !(8 ≤ n && n ≤ 12 && n % 2 == 0 && digits.all Char.isDigit) then false else
  match second with
  | none => false
  | some sec =>
    let pairs := (List.range (n / 2)).map fun i => value (digits.getD (2 * i) '0') (digits.getD (2 * i + 1) '0')
    let year : Int := match pairs.take (pairs.length - 4) with
      | [yy] => if yy ≤ 68 then 2000 + yy else 1900 + yy
      | [cc, yy] => cc * 100 + yy
      | _ => thisYear
    match pairs.drop (pairs.length - 4) with
    | [mo, d, h, mi] =>
      1 ≤ mo && mo ≤ 12 && 1 ≤ d && d ≤ Timestamp.daysInMonth year mo && h ≤ 23 && mi ≤ 59 && sec ≤ 60
    | _ => false

/-- `touch [OPTION]... FILE...`: creates the files that do not exist, unless `-c`. A
time from `-t` or `-d` must be one; `-t` does not go with `-d` or `-r`. -/
def touch (args : List String) : M Nat := do
  match touchOptions.read args with
  | .error e => complain "touch" e.message; tryHelp "touch"; return 1
  | .ok parsed =>
  if let some code ← aboutRequest "touch" parsed then return code
  let clock : Int × Nat := ((((← now) / 1000000000 : Nat) : Int), (← now) % 1000000000)
  for (key, value) in parsed.options do
    if key == "time" then
      if let .error msg := matchChoice "time" touchTimes (value.getD "") then
        complain "touch" msg; tryHelp "touch"; return 1
    if key == "t" then
      let v := value.getD ""
      if !validStamp v (CivilTime.ofSeconds clock.1 clock.2).year then
        complain "touch" ("invalid date format " ++ QuotingStyle.locale.quote [] v); return 1
  if parsed.has "t" && (parsed.has "r" || parsed.has "d") then
    complain "touch" "cannot specify times from more than one source"; tryHelp "touch"; return 1
  if let some (some r) := parsed.last? "r" then
    if let .error e ← statPath r then
      complain "touch" ("failed to get attributes of " ++ quoteFile r ++ ": " ++ e.text); return 1
  if let some (some d) := parsed.last? "d" then
    if (parseDate d clock).isNone then
      complain "touch" ("invalid date format " ++ QuotingStyle.locale.quote [] d); return 1
  let create := !parsed.has "c"
  if parsed.operands.isEmpty then complain "touch" "missing file operand"; tryHelp "touch"; return 1
  let mut status := 0
  for f in parsed.operands do
    match ← statPath f with
    | .ok _ => pure ()
    | .error _ =>
      if !create then continue
      match ← creationPlace f with
      | .error e =>
        complain "touch" ("cannot touch " ++ quoteFile f ++ ": " ++ e.text)
        status := 1
      | .ok (dir, name) =>
        let w ← get
        let names := dir ++ [Text.Octets.toText name]
        match w.fs.get? names with
        | some _ => pure ()
        | none => set { w with fs := (w.fs.put? names (.file [])).getD w.fs }
  return status

/-- Remove an entry from a directory node. -/
def removeEntry (fs : Node) (names : List String) : Node :=
  match names.getLast? with
  | none => fs
  | some last =>
    match fs.get? names.dropLast with
    | some (.dir entries) => (fs.put? names.dropLast (.dir (entries.filter (·.1 != last)))).getD fs
    | _ => fs

/-- The option table of `rm`. -/
def rmOptions : OptionTable where
  short := [('d', .nothing), ('f', .nothing), ('i', .nothing), ('I', .nothing), ('r', .nothing),
    ('R', .nothing), ('v', .nothing)]
  long := [⟨"directory", .nothing, "d"⟩, ⟨"force", .nothing, "f"⟩, ⟨"interactive", .maybe, "interactive"⟩,
    ⟨"one-file-system", .nothing, "one-file-system"⟩, ⟨"no-preserve-root", .nothing, "no-preserve-root"⟩,
    ⟨"preserve-root", .maybe, "preserve-root"⟩, ⟨"recursive", .nothing, "r"⟩, ⟨"verbose", .nothing, "v"⟩]
    ++ standardLong

/-- The paths under a directory's path, deepest first, each with whether it is a
directory: the order a recursive removal takes them in. -/
def removalOrder (path : String) : Nat → Node → List (String × Bool)
  | 0, _ => []
  | fuel + 1, .dir entries =>
    (entries.flatMap fun (name, n) =>
      let sub := underDir path (Text.Octets.ofText name)
      match n with
      | .dir _ => removalOrder sub fuel n
      | _ => [(sub, false)]) ++ [(path, true)]
  | _, _ => [(path, false)]

mutual

/-- The height of a node's tree: one for a node that is no directory. -/
def treeHeight : Node → Nat
  | .dir entries => 1 + entriesHeight entries
  | _ => 1

/-- The greatest height of the nodes of a directory's entries. -/
def entriesHeight : List (String × Node) → Nat
  | [] => 0
  | (_, n) :: rest => Nat.max (treeHeight n) (entriesHeight rest)

end

/-- How a file is named when `rm` asks about it. -/
def removalKind : Node → String
  | .file [] => "regular empty file"
  | .file _ | .program _ => "regular file"
  | .dir _ => "directory"
  | .link _ => "symbolic link"
  | .device _ => "character special file"

/-- Asks a question of the form `rm: QUESTION? ` and reads the answer. -/
def askRemoval (question : String) : M Bool := do
  putStr 2 ((← invokedName "rm") ++ ": " ++ question ++ "? ")
  readAnswer

/-- Removes a tree, asking about each file, about descending into each directory that
holds anything and about removing each directory, as `rm -ri` does. A directory goes
only when all it held went. Whether the whole tree went. -/
def removeAsking (verbose : Bool) : Nat → String → List String → Node → M Bool
  | 0, _, _, _ => pure false
  | fuel + 1, path, names, node => do
    match node with
    | .dir entries =>
      if !entries.isEmpty then
        if !(← askRemoval ("descend into directory " ++ quoteFile path)) then return false
        let mut all := true
        for (name, n) in entries do
          let ok ← removeAsking verbose fuel (underDir path (Text.Octets.ofText name)) (names ++ [name]) n
          all := all && ok
        if !all then return false
      if !(← askRemoval ("remove directory " ++ quoteFile path)) then return false
      modify fun w => { w with fs := removeEntry w.fs names }
      if verbose then say ("removed directory " ++ quoteFile path ++ "\n")
      return true
    | _ =>
      if !(← askRemoval ("remove " ++ removalKind node ++ " " ++ quoteFile path)) then return false
      modify fun w => { w with fs := removeEntry w.fs names }
      if verbose then say ("removed " ++ quoteFile path ++ "\n")
      return true

/-- When `rm` asks before removing: never, once for all its operands (`-I`), or for
each file (`-i`). -/
inductive Asking where
  | never
  | once
  | always
  deriving BEq

/-- The answers to `rm --interactive`, by name. -/
def askingChoices : List (String × Asking) :=
  [("never", .never), ("no", .never), ("none", .never), ("once", .once), ("always", .always),
    ("yes", .always)]

/-- `rm [OPTION]... [FILE]...`: removes files; directories only with `-r` (with all
they hold) or, when empty, with `-d`; `-f` keeps quiet about missing files; `-i` asks
about each file and `-I` once for all; `-v` says what was removed. The root directory
is refused unless `--no-preserve-root`. -/
def rm (args : List String) : M Nat := do
  match rmOptions.read args with
  | .error e => complain "rm" e.message; tryHelp "rm"; return 1
  | .ok parsed =>
  if let some code ← aboutRequest "rm" parsed then return code
  let recursive := parsed.has "r" || parsed.has "R"
  let mut force := false
  let mut asking := Asking.never
  for (k, v) in parsed.options do
    match k with
    | "f" => force := true; asking := .never
    | "i" => force := false; asking := .always
    | "I" => force := false; asking := .once
    | "interactive" =>
      match v with
      | none => force := false; asking := .always
      | some w =>
        match matchChoice "interactive" askingChoices w with
        | .ok .never => asking := .never
        | .ok a => force := false; asking := a
        | .error m => complain "rm" m; tryHelp "rm"; return 1
    | _ => pure ()
  let emptyDirs := parsed.has "d"
  let verbose := parsed.has "v"
  let guardRoot := !(parsed.options.filter fun (k, _) => k == "preserve-root" || k == "no-preserve-root").getLast?.any
    (·.1 == "no-preserve-root")
  if parsed.operands.isEmpty then
    if force then return 0
    complain "rm" "missing operand"; tryHelp "rm"; return 1
  let count := parsed.operands.length
  if asking == .once && (recursive || 3 < count) then
    let plural := if count == 1 then "argument" else "arguments"
    let question := "remove " ++ toString count ++ " " ++ plural ++ (if recursive then " recursively" else "")
    if !(← askRemoval question) then return 0
  let mut status := 0
  for f in parsed.operands do
    let text := Text.Octets.toText f
    let lastName := (pathNames text).getLast?
    let own ← linkNode f
    let isLink := match own with
      | some (.link _) => true
      | _ => false
    let atRoot := match ← statPath f with
      | .ok ([], .dir _) => !isLink || f.endsWith "/"
      | _ => false
    if atRoot then
      if !recursive then
        complain "rm" ("cannot remove " ++ quoteFile f ++ ": " ++
          (if emptyDirs then "Directory not empty" else "Is a directory"))
        status := 1
      else if lastName == some "." || lastName == some ".." then
        complain "rm" ("refusing to remove '.' or '..' directory: skipping " ++ quoteFile f)
        status := 1
      else if guardRoot then
        complain "rm" ("it is dangerous to operate recursively on " ++ quoteFile f ++
          (if f == "/" then "" else " (same as '/')"))
        complain "rm" "use --no-preserve-root to override this failsafe"
        status := 1
      else modify fun w => { w with fs := .dir [] }
      continue
    match ← parentOf f with
    | .error e =>
      if !(force && e == .noEntry) then
        complain "rm" ("cannot remove " ++ quoteFile f ++ ": " ++ e.text)
        status := 1
    | .ok (dir, name) =>
      let w ← get
      let names := dir ++ [Text.Octets.toText name]
      match w.fs.get? names with
      | none =>
        if (lastName == some "." || lastName == some "..") && recursive then
          complain "rm" ("refusing to remove '.' or '..' directory: skipping " ++ quoteFile f)
          status := 1
        else if !force then
          complain "rm" ("cannot remove " ++ quoteFile f ++ ": No such file or directory")
          status := 1
      | some n@(.dir entries) =>
        if lastName == some "." || lastName == some ".." then
          if recursive || emptyDirs then
            complain "rm" ("refusing to remove '.' or '..' directory: skipping " ++ quoteFile f)
          else complain "rm" ("cannot remove " ++ quoteFile f ++ ": Is a directory")
          status := 1
        else if recursive then
          if asking == .always then
            let _ ← removeAsking verbose (treeHeight n + 1) f names n
          else
            set { w with fs := removeEntry w.fs names }
            if verbose then
              for (path, isDir) in removalOrder f (treeHeight n) n do
                say ((if isDir then "removed directory " else "removed ") ++ quoteFile path ++ "\n")
        else if emptyDirs then
          if entries.isEmpty then
            if asking == .always then
              let _ ← removeAsking verbose 1 f names n
            else
              set { w with fs := removeEntry w.fs names }
              if verbose then say ("removed directory " ++ quoteFile f ++ "\n")
          else
            complain "rm" ("cannot remove " ++ quoteFile f ++ ": Directory not empty")
            status := 1
        else
          complain "rm" ("cannot remove " ++ quoteFile f ++ ": Is a directory")
          status := 1
      | some n =>
        if asking == .always then
          let _ ← removeAsking verbose 1 f names n
        else
          set { w with fs := removeEntry w.fs names }
          if verbose then say ("removed " ++ quoteFile f ++ "\n")
  return status

end Confine.Host.Program
