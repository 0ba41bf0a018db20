import Confine.Host.Program.Basic
import Confine.Host.Program.Options
import Confine.Host.Program.About

/-!
# Dumping bytes

`od` writes its input in blocks of sixteen bytes (`-w`), each block as a line that
starts with the block's offset (octal by default, `-A`) and then gives the bytes in
each requested format (`-t`, by default two-byte octal words): named characters (`a`),
characters with C escapes (`c`), or signed (`d`), octal (`o`), unsigned (`u`) or
hexadecimal (`x`) numbers of one, two, four or eight bytes, least significant byte
first. Every field is right-aligned so that the formats of one block line up; a
format after the first starts its line with blanks in place of the offset. A block
equal to the one before is written as `*`, once, unless `-v`. A last line gives the
offset of the end.
-/

namespace Confine.Host.Program

open Confine.Shell

/-- How the bytes of a field are written. -/
inductive DumpKind where
  | named
  | char
  | signed
  | octal
  | unsigned
  | hex
  deriving BEq

/-- A format: a kind and the bytes of each field, and whether the line ends with the
block's printable characters between `>` and `<`. -/
structure DumpFormat where
  kind : DumpKind
  size : Nat
  trailer : Bool := false

namespace DumpFormat

/-- The width of a field: the most digits a value can take. -/
def width (f : DumpFormat) : Nat :=
  match f.kind, f.size with
  | .named, _ | .char, _ => 3
  | .octal, 1 => 3 | .octal, 2 => 6 | .octal, 4 => 11 | .octal, _ => 22
  | .hex, s => 2 * s
  | .unsigned, 1 => 3 | .unsigned, 2 => 5 | .unsigned, 4 => 10 | .unsigned, _ => 20
  | .signed, 1 => 4 | .signed, 2 => 6 | .signed, 4 => 11 | .signed, _ => 20

/-- The names of the control characters, as `a` writes them. -/
def controlNames : List String :=
  ["nul", "soh", "stx", "etx", "eot", "enq", "ack", "bel", "bs", "ht", "nl", "vt", "ff", "cr",
   "so", "si", "dle", "dc1", "dc2", "dc3", "dc4", "nak", "syn", "etb", "can", "em", "sub",
   "esc", "fs", "gs", "rs", "us", "sp"]

/-- Digits of a number in a radix, at least `least` of them. -/
def digits (radix n least : Nat) : String :=
  let ds := Nat.toDigits radix n
  String.ofList (List.replicate (least - ds.length) '0' ++ ds)

/-- The text of one field, before alignment. -/
def text (f : DumpFormat) (unit : List UInt8) : String :=
  let value := unit.foldr (fun b acc => acc * 256 + b.toNat) 0
  match f.kind with
  | .named =>
    let b := value % 128
    if b ≤ 32 then controlNames.getD b "" else if b = 127 then "del"
    else String.singleton (Char.ofNat b)
  | .char =>
    match value with
    | 0 => "\\0" | 7 => "\\a" | 8 => "\\b" | 12 => "\\f" | 10 => "\\n" | 13 => "\\r"
    | 9 => "\\t" | 11 => "\\v"
    | b => if 32 ≤ b && b < 127 then String.singleton (Char.ofNat b) else digits 8 b 3
  | .octal => digits 8 value f.width
  | .hex => String.map Char.toLower (digits 16 value f.width)
  | .unsigned => toString value
  | .signed =>
    let bound := Nat.pow 2 (8 * f.size)
    if value ≥ bound / 2 then "-" ++ toString (bound - value) else toString value

end DumpFormat

/-- Reads a type string of `-t` into formats. -/
def readDumpTypes (s : String) : Except String (List DumpFormat) :=
  go (s.length + 1) s.toList []
where
  go : Nat → List Char → List DumpFormat → Except String (List DumpFormat)
  | 0, _, acc => .ok acc
  | _, [], acc => .ok acc
  | fuel + 1, c :: rest, acc =>
    -- a `z` after a format asks for the characters at the end of its lines
    let add (f : DumpFormat) (more : List Char) : Except String (List DumpFormat) :=
      match more with
      | 'z' :: after => go fuel after (acc ++ [{ f with trailer := true }])
      | _ => go fuel more (acc ++ [f])
    let sized (kind : DumpKind) : Except String (List DumpFormat) :=
      let ds := rest.takeWhile Char.isDigit
      let (size, more) : Option Nat × List Char :=
        if !ds.isEmpty then (some (String.ofList ds).toNat!, rest.drop ds.length)
        else match rest with
          | 'C' :: m => (some 1, m)
          | 'S' :: m => (some 2, m)
          | 'I' :: m => (some 4, m)
          | 'L' :: m => (some 8, m)
          | m => (some 4, m)
      match size with
      | some n =>
        if n = 1 || n = 2 || n = 4 || n = 8 then add ⟨kind, n, false⟩ more
        else .error ("invalid type string " ++ quoteAlways s ++ ";\nthis system doesn't provide a " ++
          toString n ++ "-byte integral type")
      | none => .error ("invalid type string " ++ quoteAlways s)
    match c with
    | 'a' => add ⟨.named, 1, false⟩ rest
    | 'c' => add ⟨.char, 1, false⟩ rest
    | 'd' => sized .signed
    | 'o' => sized .octal
    | 'u' => sized .unsigned
    | 'x' => sized .hex
    | _ => .error ("invalid character '" ++ String.singleton c ++ "' in type string " ++ quoteAlways s)

/-- What `od` was asked. -/
structure DumpRequest where
  formats : List DumpFormat := []
  /-- The radix of offsets, or none for no offsets. -/
  radix : Option Nat := some 8
  skip : Nat := 0
  limit : Option Nat := none
  width : Nat := 16
  all : Bool := false

namespace DumpRequest

/-- The digits an offset takes. -/
def offsetWidth (r : DumpRequest) : Nat :=
  match r.radix with
  | some 16 => 6
  | some _ => 7
  | none => 0

/-- An offset as the start of a line. -/
def offsetText (r : DumpRequest) (n : Nat) : String :=
  match r.radix with
  | some radix => DumpFormat.digits radix n r.offsetWidth
  | none => ""

/-- The lines of one block at an offset. -/
def block (r : DumpRequest) (offset : Nat) (data : List UInt8) : String :=
  let perBlock := r.width
  let lineWidth := r.formats.foldl (fun m f => Nat.max m ((f.width + 1) * (perBlock / f.size))) 0
  String.join <| r.formats.zipIdx.map fun (f, i) =>
    let fields := perBlock / f.size
    let pad := lineWidth - f.width * fields
    let shown := (data.length + f.size - 1) / f.size
    let padded := data ++ List.replicate (shown * f.size - data.length) 0
    let units := (List.range shown).map fun k => (padded.drop (k * f.size)).take f.size
    -- spreads `pad` blanks over the fields as evenly as the left ones allow
    let cells := units.zipIdx.map fun (u, k) =>
      let before := pad * (fields - k) / fields
      let after := pad * (fields - k - 1) / fields
      let w := before - after + f.width
      let t := f.text u
      String.ofList (List.replicate (w - t.length) ' ') ++ t
    let lead := if i = 0 then r.offsetText offset else String.ofList (List.replicate r.offsetWidth ' ')
    let trailer :=
      if f.trailer then
        let blank := fields - shown
        let fill := blank * f.width + pad * blank / fields
        String.ofList (List.replicate fill ' ') ++ "  >" ++
          String.ofList (data.map fun b => if 32 ≤ b && b < 127 then Char.ofNat b.toNat else '.') ++ "<"
      else ""
    lead ++ String.join cells ++ trailer ++ "\n"

/-- The whole dump of the data. -/
def render (r : DumpRequest) (data : List UInt8) : String :=
  let data := data.drop r.skip
  let data := match r.limit with
    | some n => data.take n
    | none => data
  let count := (data.length + r.width - 1) / r.width
  let blocks := (List.range count).map fun k => (data.drop (k * r.width)).take r.width
  let (out, _, _) := blocks.zipIdx.foldl (fun (out, prev, starred) (b, k) =>
    let offset := r.skip + k * r.width
    if !r.all && prev == some b && b.length = r.width then
      if starred then (out, prev, true) else (out ++ "*\n", prev, true)
    else (out ++ r.block offset b, some b, false)) ("", (none : Option (List UInt8)), false)
  let finish := if r.radix.isSome then r.offsetText (r.skip + data.length) ++ "\n" else ""
  out ++ finish

end DumpRequest

/-- Reads the width `-w` asks for: blanks, a sign and decimal digits that fit a signed
64-bit word; the refusal says what is wrong with the text. -/
def readWidth (v : String) : Except String Int :=
  let cs := v.toList.dropWhile isCSpace
  let (negative, cs) := match cs with
    | '-' :: more => (true, more)
    | '+' :: more => (false, more)
    | _ => (false, cs)
  let ds := cs.takeWhile Char.isDigit
  if ds.isEmpty then .error ("invalid -w argument " ++ quoteAlways v)
  else if ds.length < cs.length then .error ("invalid suffix in -w argument " ++ quoteAlways v)
  else
    let n := digitsValue ds
    if n ≥ Nat.pow 2 63 then .error ("-w argument " ++ quoteAlways v ++ " too large")
    else .ok (if negative then -(n : Int) else n)

/-- The option table of `od`. -/
def dumpOptions : OptionTable where
  short := [('A', .value), ('j', .value), ('N', .value), ('t', .value), ('v', .nothing),
    ('w', .maybe), ('a', .nothing), ('b', .nothing), ('c', .nothing), ('d', .nothing),
    ('f', .nothing), ('i', .nothing), ('l', .nothing), ('o', .nothing), ('s', .nothing),
    ('x', .nothing)]
  long := [⟨"address-radix", .value, "A"⟩, ⟨"skip-bytes", .value, "j"⟩,
    ⟨"read-bytes", .value, "N"⟩, ⟨"format", .value, "t"⟩,
    ⟨"output-duplicates", .nothing, "v"⟩, ⟨"width", .maybe, "w"⟩,
    ⟨"help", .nothing, "help"⟩, ⟨"version", .nothing, "version"⟩]

/-- `od [OPTION]... [FILE]...`. -/
def od (args : List String) : M Nat := do
  match dumpOptions.read args with
  | .error e =>
    complain "od" e.message; tryHelp "od"; return 1
  | .ok parsed =>
  if let some code ← aboutRequest "od" parsed then return code
  let mut r : DumpRequest := {}
  let mut asked : Option Int := none
  for (key, value) in parsed.options do
    let v := value.getD ""
    let add (fs : List DumpFormat) (r : DumpRequest) : DumpRequest := { r with formats := r.formats ++ fs }
    match key with
    | "A" =>
      match v with
      | "o" => r := { r with radix := some 8 }
      | "d" => r := { r with radix := some 10 }
      | "x" => r := { r with radix := some 16 }
      | "n" => r := { r with radix := none }
      | _ =>
        complain "od" ("invalid output address radix '" ++ v ++ "'; it must be one character from [doxn]")
        return 1
    | "t" =>
      match readDumpTypes v with
      | .ok fs => r := add fs r
      | .error msg => complain "od" msg; return 1
    | "w" =>
      match value with
      | none => asked := some 32
      | some v =>
        match readWidth v with
        | .ok n => asked := some n
        | .error msg => complain "od" msg; return 1
    | "j" | "N" =>
      match parseCount v with
      | some n =>
        r := match key with
          | "j" => { r with skip := n }
          | _ => { r with limit := some n }
      | none =>
        complain "od" ("invalid -" ++ key ++ " argument " ++ quoteAlways v)
        return 1
    | "v" => r := { r with all := true }
    | "a" => r := add [⟨.named, 1, false⟩] r
    | "b" => r := add [⟨.octal, 1, false⟩] r
    | "c" => r := add [⟨.char, 1, false⟩] r
    | "d" => r := add [⟨.unsigned, 2, false⟩] r
    | "i" => r := add [⟨.signed, 4, false⟩] r
    | "l" => r := add [⟨.signed, 8, false⟩] r
    | "o" => r := add [⟨.octal, 2, false⟩] r
    | "s" => r := add [⟨.signed, 2, false⟩] r
    | "x" => r := add [⟨.hex, 2, false⟩] r
    | _ => pure ()
  if r.formats.isEmpty then r := { r with formats := [⟨.octal, 2, false⟩] }
  -- a block holds a whole number of fields of every format
  let unit := r.formats.foldl (fun m f => Nat.lcm m f.size) 1
  match asked with
  | some w =>
    if w != 0 && w % unit == 0 then r := { r with width := w.toNat }
    else
      complain "od" ("warning: invalid width " ++ toString w ++ "; using " ++ toString unit ++ " instead")
      r := { r with width := unit }
  | none => r := { r with width := if unit < 16 then unit * (16 / unit) else unit }
  let files := if parsed.operands.isEmpty then ["-"] else parsed.operands
  let mut data : List UInt8 := []
  let mut status := 0
  let closed := (← fd? 0).isNone
  for f in files do
    if f = "-" then
      if closed then
        complain "od" (quoteName "standard input" ++ ": read error: " ++ Errno.badDescriptor.text)
        status := 1
      else data := data ++ (← readToEnd 0)
    else match ← openInput 9 f with
      | .ok () => data := data ++ (← readToEnd 9)
      | .error e =>
        complain "od" (f ++ ": " ++ e.text)
        status := 1
  say (r.render data)
  if closed && files.contains "-" then
    complain "od" ("standard input: " ++ Errno.badDescriptor.text)
    return 1
  return status

end Confine.Host.Program
