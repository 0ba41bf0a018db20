import Confine.Host.Program.Basic
import Confine.Host.Program.About
import Confine.Shell.Format
/-!
# `echo` and `printf` as programs

The programs differ from the shell's builtins of the same names.

`echo` takes leading words made of `-n`, `-e` and `-E` only as options, and `--help`
or `--version` only as its one argument. With `-e` it expands `\a \b \e \f \n \r \t
\v \\`, `\xHH` with one or two hexadecimal digits, `\0NNN` and `\NNN` with up to three
octal digits; `\c` ends all output; any other backslash stands for itself.

`printf` runs its format once, then again while arguments remain and the format takes
any. A directive is `%`, flags among `-+ #0'I`, a width and a precision (digits or
`*`), length letters that are skipped, and a conversion: `d i o u x X` read their
argument as a 64-bit integer, `a A e E f F g G` as a long double, `c` writes its first
byte, `s` the text, and right after the `%`, `b` the text with its escapes expanded
and `q` the text quoted for a shell. A flag that makes no sense for the conversion is
an error that ends the program, as is a width beyond a 32-bit integer. An argument
that is not wholly a number is reported and makes the status 1; one that starts with a
quote stands for the byte after the quote. Messages come out before the output, which
is written when the program ends.
-/

namespace Confine.Host.Program

open Confine.Shell

/-! ### `echo` -/

/-- Whether a character is a hexadecimal digit. -/
def isHexDigit (c : Char) : Bool :=
  c.isDigit || ('a' ≤ c && c ≤ 'f') || ('A' ≤ c && c ≤ 'F')

/-- Whether a character is an octal digit. -/
def isOctalDigit (c : Char) : Bool := '0' ≤ c && c ≤ '7'

/-- The value of a hexadecimal digit. -/
def hexValue (c : Char) : Nat :=
  if c.isDigit then c.toNat - '0'.toNat
  else if 'a' ≤ c && c ≤ 'f' then c.toNat - 'a'.toNat + 10
  else c.toNat - 'A'.toNat + 10

/-- The value of octal digits. -/
def octalValue (ds : List Char) : Nat := ds.foldl (fun acc d => acc * 8 + (d.toNat - '0'.toNat)) 0

/-- The byte of a number, kept to eight bits. -/
def byteOf (n : Nat) : Char := Char.ofNat (n % 256)

/-- The letter escapes both programs share, and the byte each stands for. -/
def letterEscape (c : Char) : Option Char :=
  match c with
  | 'a' => some '\x07'
  | 'b' => some '\x08'
  | 'e' => some '\x1b'
  | 'f' => some '\x0c'
  | 'n' => some '\n'
  | 'r' => some '\r'
  | 't' => some '\t'
  | 'v' => some '\x0b'
  | '\\' => some '\\'
  | _ => none

/-- The bytes of one word of `echo -e`, and whether a `\c` ended all output there. -/
def echoWord : Nat → List Char → List Char × Bool
  | 0, _ => ([], false)
  | _, [] => ([], false)
  | k + 1, '\\' :: c :: rest =>
    let emit (bs : List Char) (more : List Char) : List Char × Bool :=
      let (out, stop) := echoWord k more
      (bs ++ out, stop)
    if c = 'c' then ([], true)
    else match letterEscape c with
      | some b => emit [b] rest
      | none =>
        if c = 'x' then
          match rest with
          | h :: more =>
            if isHexDigit h then
              match more with
              | h2 :: more2 =>
                if isHexDigit h2 then emit [byteOf (hexValue h * 16 + hexValue h2)] more2
                else emit [byteOf (hexValue h)] more
              | [] => emit [byteOf (hexValue h)] []
            else emit ['\\', 'x'] rest
          | [] => emit ['\\', 'x'] []
        else if c = '0' then
          let ds := (rest.takeWhile isOctalDigit).take 3
          emit [byteOf (octalValue ds)] (rest.drop ds.length)
        else if isOctalDigit c then
          let ds := c :: (rest.takeWhile isOctalDigit).take 2
          emit [byteOf (octalValue ds)] (rest.drop (ds.length - 1))
        else emit ['\\', c] rest
  | k + 1, c :: rest =>
    let (out, stop) := echoWord k rest
    (c :: out, stop)

/-- The output of `echo` for its words after the options: the words joined by blanks,
escapes expanded when asked, and a line feed unless left out or cut off by `\c`. -/
def echoText (escapes newline : Bool) : List String → List Char
  | [] => if newline then ['\n'] else []
  | w :: rest =>
    let (cs, stop) := if escapes then echoWord (w.length + 1) w.toList else (w.toList, false)
    if stop then cs
    else match rest with
      | [] => cs ++ (if newline then ['\n'] else [])
      | _ => cs ++ ' ' :: echoText escapes newline rest

/-- Whether a word is a cluster of `echo` options: a minus and then `n`, `e` and `E`
only, at least one. -/
def isEchoOptions (w : String) : Bool :=
  match w.toList with
  | '-' :: cs => !cs.isEmpty && cs.all fun c => c = 'n' || c = 'e' || c = 'E'
  | _ => false

/-- `echo` as a program. With `POSIXLY_CORRECT` set, only a first `-n` starts the
options, and escapes are always expanded. -/
def echo (args : List String) : M Nat := do
  let strict := (← environValue "POSIXLY_CORRECT").isSome
  let allowOptions := !strict || args.head? == some "-n"
  if allowOptions && args.length == 1 then
    if args == ["--help"] then showUsage "echo"; return 0
    if args == ["--version"] then showVersion "echo"; return 0
  let opts := if allowOptions then args.takeWhile isEchoOptions else []
  let words := args.drop opts.length
  let letters := opts.flatMap fun o => o.toList.drop 1
  let newline := !letters.contains 'n'
  let escapes := strict || letters.foldl (fun acc c => if c = 'e' then true else if c = 'E' then false else acc) false
  say (String.ofList (echoText escapes newline words))
  return 0

/-! ### `printf` -/

/-- How a run of the format ended before its end: `\c` ends the program with status 0,
a fatal error with status 1. -/
inductive PrintStop where
  | cut
  | fatal
  deriving BEq

/-- The state of `printf` as it goes: the arguments left, the output so far, the
messages so far, whether an argument was bad, and how many arguments were taken. -/
structure Printer where
  args : List String
  out : List Char := []
  messages : List String := []
  bad : Bool := false
  taken : Nat := 0
  /-- Whether the character-constant warning is left out. -/
  strict : Bool := false

namespace Printer

/-- Write bytes. -/
def emit (p : Printer) (cs : List Char) : Printer := { p with out := p.out ++ cs }

/-- Add a message. -/
def note (p : Printer) (msg : String) : Printer := { p with messages := p.messages ++ [msg] }

/-- Take the next argument; the empty text when none is left. -/
def next (p : Printer) : String × Printer :=
  match p.args with
  | a :: rest => (a, { p with args := rest, taken := p.taken + 1 })
  | [] => ("", p)

/-- Read an argument with a reader of numbers: a leading quote followed by a byte
stands for that byte, with a warning about any bytes after it; otherwise the reader
gives the value, whether it used anything, the rest and whether it stayed in range. -/
def readWith {α : Type} (p : Printer) (s : String) (ofByte : Nat → α)
    (read : List Char → α × Bool × List Char × Bool) : α × Printer :=
  let readPlain : α × Printer :=
    let (v, used, rest, inRange) := read s.toList
    if !inRange then (v, { (p.note (quoteAlways s ++ ": Numerical result out of range")) with bad := true })
    else if !rest.isEmpty then
      let msg := if used then ": value not completely converted" else ": expected a numeric value"
      (v, { (p.note (quoteAlways s ++ msg)) with bad := true })
    else (v, p)
  match s.toList with
  | q :: c :: more =>
    if q = '\'' || q = '"' then
      let p := if !more.isEmpty && !p.strict then
          p.note ("warning: " ++ String.ofList more ++
            ": character(s) following character constant have been ignored")
        else p
      (ofByte c.toNat, p)
    else readPlain
  | _ => readPlain

end Printer

/-- Text read as `strtoimax` with base 0 reads it: the value, clamped to 64 bits, whether
any digit was used, the rest (all of it when none was), and whether it was in range. -/
def readSigned (cs : List Char) : Int × Bool × List Char × Bool :=
  let (neg, body) := Format.afterSign cs
  let (used, v, rest) := Arith.readMagnitude body
  if used = 0 then (0, false, cs, true)
  else
    let exact : Int := if neg then -(v : Int) else v
    let value := Arith.saturate exact
    (value, true, rest, value == exact)

/-- Text read as `strtoumax` with base 0 reads it: a negative number counts down from
`2 ^ 64`, and a magnitude of `2 ^ 64` or more is the largest value, out of range. -/
def readUnsigned (cs : List Char) : Nat × Bool × List Char × Bool :=
  let (neg, body) := Format.afterSign cs
  let (used, v, rest) := Arith.readMagnitude body
  let top := Nat.pow 2 64
  if used = 0 then (0, false, cs, true)
  else if v ≥ top then (top - 1, true, rest, false)
  else ((if neg then (top - v) % top else v), true, rest, true)

/-- Text read as `strtold` reads it: out of range when the number overflows or
underflows. -/
def readLong (cs : List Char) : Extended × Bool × List Char × Bool :=
  match Extended.read cs with
  | some (v, outOfRange, rest) => (v, true, rest, !outOfRange)
  | none => (.finite false 0 0, false, cs, true)

/-- What the flags of a directive rule out: `'` and `I` the conversions other than
`d i u f F g G`, `#` the conversions `c d i s u`, `0` the conversions `c s`, and a
precision `c`. -/
def conversionAllowed (flags : List Char) (precision : Bool) (conv : Char) : Bool :=
  "aAcdeEfFgGiosuxX".toList.contains conv &&
    !((flags.contains '\'' || flags.contains 'I') && "aAceEosxX".toList.contains conv) &&
    !(flags.contains '#' && "cdisu".toList.contains conv) &&
    !(flags.contains '0' && "cs".toList.contains conv) &&
    !(precision && conv = 'c')

/-- The largest 32-bit integer. -/
def intLimit : Int := 2147483647

/-- An escape of a `printf` format or a `%b` argument, after its backslash: the output
and the rest, or how it stopped the program. In a format, octal escapes are `\NNN`;
in a `%b` argument `\0NNN` too. -/
def printEscape (p : Printer) (inArgument : Bool) (cs : List Char) : Printer × List Char × Option PrintStop :=
  match cs with
  | 'x' :: rest =>
    let ds := (rest.takeWhile isHexDigit).take 2
    if ds.isEmpty then (p.note "missing hexadecimal number in escape", rest, some .fatal)
    else (p.emit [byteOf (ds.foldl (fun a d => a * 16 + hexValue d) 0)], rest.drop ds.length, none)
  | c :: rest =>
    if isOctalDigit c then
      let body := if inArgument && c = '0' then rest else c :: rest
      let ds := (body.takeWhile isOctalDigit).take 3
      (p.emit [byteOf (octalValue ds)], body.drop ds.length, none)
    else if c = 'c' then (p, rest, some .cut)
    else if c = '"' then (p.emit ['"'], rest, none)
    else match letterEscape c with
      | some b => (p.emit [b], rest, none)
      | none =>
        if c = 'u' || c = 'U' then
          let count := if c = 'u' then 4 else 8
          let ds := (rest.takeWhile isHexDigit).take count
          if ds.length < count then (p.note "missing hexadecimal number in escape", rest, some .fatal)
          else
            let code := ds.foldl (fun a d => a * 16 + hexValue d) 0
            let after := rest.drop count
            if (code ≤ 0x9f && code != 0x24 && code != 0x40 && code != 0x60) ||
                (0xd800 ≤ code && code ≤ 0xdfff) then
              let hex := Nat.toDigits 16 code
              let shown := List.replicate (count - hex.length) '0' ++ hex
              (p.note ("invalid universal character name \\" ++ String.singleton c ++ String.ofList shown),
                after, some .fatal)
            else if code < 128 then (p.emit [Char.ofNat code], after, none)
            else
              let hex := (Nat.toDigits 16 code).map Char.toUpper
              let text := if code < 0x10000 then
                  "\\u" ++ String.ofList (List.replicate (4 - hex.length) '0' ++ hex)
                else "\\U" ++ String.ofList (List.replicate (8 - hex.length) '0' ++ hex)
              (p.emit text.toList, after, none)
        else (p.emit ['\\', c], rest, none)
  | [] => (p.emit ['\\'], [], none)

/-- A `%b` argument with its escapes expanded. -/
def expandArgument : Nat → Printer → List Char → Printer × Option PrintStop
  | 0, p, _ => (p, none)
  | _, p, [] => (p, none)
  | k + 1, p, '\\' :: rest =>
    let (p, more, stop) := printEscape p true rest
    if stop.isSome then (p, stop) else expandArgument k p more
  | k + 1, p, c :: rest => expandArgument k (p.emit [c]) rest

/-- A directive's flags, as written. -/
def directiveFlags (cs : List Char) : List Char := cs.takeWhile ("'I-+ #0".toList.contains ·)

/-- Write one conversion of an argument. -/
def convert (p : Printer) (sp : Format.Spec) (conv : Char) : Printer :=
  let (arg, p) := p.next
  if conv = 'd' || conv = 'i' then
    let (v, p) := p.readWith arg (fun n => (n : Int)) readSigned
    p.emit (Format.signed sp v)
  else if conv = 'o' || conv = 'u' || conv = 'x' || conv = 'X' then
    let (v, p) := p.readWith arg id readUnsigned
    p.emit (Format.unsigned sp conv v)
  else if conv = 'c' then
    p.emit (Format.pad sp [arg.toList.headD '\x00'])
  else if conv = 's' then
    let body := match sp.precision with
      | some n => arg.toList.take n
      | none => arg.toList
    p.emit (Format.pad sp body)
  else
    let (v, p) := p.readWith arg (fun n => Extended.ofInt n) readLong
    p.emit (Format.extended sp conv v)

/-- A width or precision taken from an argument, or none when no argument is left. -/
def starValue (p : Printer) : Option (String × Int × Printer) :=
  match p.args with
  | [] => none
  | _ =>
    let (arg, p) := p.next
    let (v, p) := p.readWith arg (fun n => (n : Int)) readSigned
    some (arg, v, p)

/-- One run through the format: the state after it, or how it stopped the program. -/
def printPass : Nat → List Char → Printer → Printer × Option PrintStop
  | 0, _, p => (p, none)
  | _, [], p => (p, none)
  | k + 1, '\\' :: rest, p =>
    let (p, more, stop) := printEscape p false rest
    if stop.isSome then (p, stop) else printPass k more p
  | k + 1, '%' :: '%' :: rest, p => printPass k rest (p.emit ['%'])
  | k + 1, '%' :: 'b' :: rest, p =>
    match p.args with
    | [] => printPass k rest p
    | _ =>
      let (arg, p) := p.next
      let (p, stop) := expandArgument (arg.length + 1) p arg.toList
      if stop.isSome then (p, stop) else printPass k rest p
  | k + 1, '%' :: 'q' :: rest, p =>
    match p.args with
    | [] => printPass k rest p
    | _ =>
      let (arg, p) := p.next
      printPass k rest (p.emit (shellQuote false arg).toList)
  | k + 1, '%' :: body, p =>
    let flags := directiveFlags body
    let cs := body.drop flags.length
    let sp : Format.Spec :=
      { left := flags.contains '-', plus := flags.contains '+', space := flags.contains ' ',
        alt := flags.contains '#', zero := flags.contains '0' }
    -- the width
    let widthPart : Except (Printer × Option PrintStop) (Format.Spec × List Char × Printer) :=
      match cs with
      | '*' :: more =>
        match starValue p with
        | none => .ok (sp, more, p)
        | some (arg, w, p) =>
          if w < -intLimit - 1 || w > intLimit then
            .error (p.note ("invalid field width: " ++ quoteAlways arg), some .fatal)
          else if w < 0 then .ok ({ sp with left := true, width := w.natAbs }, more, p)
          else .ok ({ sp with width := w.toNat }, more, p)
      | _ =>
        let ds := cs.takeWhile Char.isDigit
        .ok ({ sp with width := digitsValue ds }, cs.drop ds.length, p)
    match widthPart with
    | .error r => r
    | .ok (sp, cs, p) =>
    -- the precision
    let precisionPart : Except (Printer × Option PrintStop) (Format.Spec × Bool × List Char × Printer) :=
      match cs with
      | '.' :: '*' :: more =>
        match starValue p with
        | none => .ok ({ sp with precision := some 0 }, true, more, p)
        | some (arg, v, p) =>
          if v < 0 then .ok ({ sp with precision := none }, true, more, p)
          else if v > intLimit then .error (p.note ("invalid precision: " ++ quoteAlways arg), some .fatal)
          else .ok ({ sp with precision := some v.toNat }, true, more, p)
      | '.' :: more =>
        let ds := more.takeWhile Char.isDigit
        .ok ({ sp with precision := some (digitsValue ds) }, true, more.drop ds.length, p)
      | _ => .ok (sp, false, cs, p)
    match precisionPart with
    | .error r => r
    | .ok (sp, hasPrecision, cs, p) =>
    let cs := cs.dropWhile ("lLhjtz".toList.contains ·)
    match cs with
    | conv :: more =>
      if conversionAllowed flags hasPrecision conv then printPass k more (convert p sp conv)
      else
        let shown := '%' :: body.take (body.length - more.length)
        (p.note (String.ofList shown ++ ": invalid conversion specification"), some .fatal)
    | [] => (p.note ("%" ++ String.ofList body ++ ": invalid conversion specification"), some .fatal)
  | k + 1, c :: rest, p => printPass k rest (p.emit [c])

/-- Run the format once, then again while arguments remain and the last run took any:
the state at the end, and how the program was stopped, if it was. -/
def printAll (format : List Char) : Nat → Printer → Printer × Option PrintStop
  | 0, p => (p, none)
  | k + 1, p =>
    let before := p.taken
    let (p, stop) := printPass (format.length + 1) format p
    if stop.isSome then (p, stop)
    else if p.taken > before && !p.args.isEmpty then printAll format k p
    else (p, none)

/-- `printf` as a program. -/
def printf (args : List String) : M Nat := do
  if args == ["--help"] then showUsage "printf"; return 0
  if args == ["--version"] then showVersion "printf"; return 0
  let args := match args with
    | "--" :: rest => rest
    | _ => args
  match args with
  | [] => complain "printf" "missing operand"; tryHelp "printf"; return 1
  | format :: rest =>
    let strict := (← environValue "POSIXLY_CORRECT").isSome
    let (p, stop) := printAll format.toList (rest.length + 1) { args := rest, strict }
    for msg in p.messages do complain "printf" msg
    if stop.isNone then
      if let some a := p.args.head? then
        complain "printf" ("warning: ignoring excess arguments, starting with " ++ quoteAlways a)
    say (String.ofList p.out)
    return match stop with
      | some .cut => 0
      | some .fatal => 1
      | none => if p.bad then 1 else 0

end Confine.Host.Program
