import Confine.Host.Program.Basic
import Confine.Shell.Format
import Confine.Host.Program.About
/-!
# Sequences of numbers

`seq [FIRST [INCREMENT]] LAST` writes the numbers from the first, one by default, by
the increment, one by default, up to the last. The operands are long doubles, read
whole; the `i`-th number is `first + i * increment`, the product and the sum each
rounded to extended precision, so that no error builds up from step to step.

By default every number is written with as many decimals as the first number or the
increment has, or in `%g` when their decimals are not fixed (a hexadecimal fraction).
With `-w` all are padded with zeros to one width, worked out from the texts of the
operands as they would be written; `-f` gives a format with one float conversion
instead; `-s` puts a text other than a line feed between the numbers, and a line feed
ends the last. When the number after the last one prints as the last operand and
differs in print from the one before, it is written too.

Whole numbers that need no format are counted in decimal digits instead, exactly and
without bound: operands that are all digits, or whole long doubles that print without
a sign, with a step of at most two hundred.
-/

namespace Confine.Host.Program

open Confine.Shell

/-- A number given to `seq`: its value, and the width and the decimals its text asks
for; decimals it does not fix are none. -/
structure SeqOperand where
  value : Extended
  width : Int
  decimals : Option Int

/-- An exponent after `e`: a sign and digits, the value and the text after it; none
when no digit follows, so that the `e` is not part of the number. Very large
exponents are held at a bound beyond every long double. -/
def exponentOf (cs : List Char) : Option (Int × List Char) :=
  let (negative, rest) := match cs with
    | '-' :: r => (true, r)
    | '+' :: r => (false, r)
    | r => (false, r)
  let ds := rest.takeWhile Char.isDigit
  if ds.isEmpty then none
  else
    let v : Int := min (digitsValue ds) 100000
    some (if negative then -v else v, rest.drop ds.length)

/-- The value of a whole text read as a long double: none when some of it is not a
number, or when the number is beyond the range or below the normal range and not
exact; a number too small for any long double is a zero. -/
def readLongDouble (text : String) : Option Extended :=
  match Extended.read text.toList with
  | some (v, outOfRange, []) => if outOfRange && !v.isZero then none else some v
  | _ => none

/-- Whether a text is decimal digits only, at least one. -/
def allDigits (s : String) : Bool := !s.isEmpty && s.all Char.isDigit

/-- The width and decimals that an operand's text asks for. Blanks and plus signs in
front do not count. A point fixes the decimals to the digits after it; an exponent
moves them, and the width counts the digits the number has when written out. A
hexadecimal number or an infinity asks for no width, and for no decimals unless it
has neither a point nor a binary exponent. -/
def operandLayout (text : String) (finite : Bool) : Int × Option Int :=
  let t := text.toList.dropWhile fun c => isCSpace c || c = '+'
  let point := t.idxOf? '.'
  let decimals : Option Int := if point.isNone && !t.contains 'p' then some 0 else none
  if t.contains 'x' || t.contains 'X' || !finite then (0, decimals)
  else
    let len : Int := t.length
    let (fractionLen, decimals, width) : Nat × Option Int × Int := match point with
      | none => (0, decimals, len)
      | some i =>
        let fl := ((t.drop (i + 1)).takeWhile fun c => c != 'e' && c != 'E').length
        let before := t[i - 1]?
        let extra : Int := if fl = 0 then -1
          else if i = 0 || !(before.map Char.isDigit).getD false then 1 else 0
        (fl, some (fl : Int), len + extra)
    let e := match t.idxOf? 'e' with
      | some i => some i
      | none => t.idxOf? 'E'
    match e with
    | none => (width, decimals)
    | some ei =>
      let exponent := ((exponentOf (t.drop (ei + 1))).map (·.1)).getD 0
      let decimals := decimals.map fun d => if exponent < 0 then d - exponent else d - min d exponent
      let width := width - (len - ei)
      if exponent < 0 then
        let width := match point with
          | some i => if ei = i + 1 then width + 1 else width
          | none => width + 1
        (width - exponent, decimals)
      else
        let width := if point.isSome && decimals == some 0 && fractionLen != 0 then width - 1 else width
        (width + (exponent - min (fractionLen : Int) exponent), decimals)

/-- An operand of `seq`, or the message that rejects its text. -/
def SeqOperand.read (text : String) : Except String SeqOperand :=
  match readLongDouble text with
  | none => .error ("invalid floating point argument: " ++ quoteAlways text)
  | some (.nan _) =>
    .error ("invalid " ++ quoteAlways "not-a-number" ++ " argument: " ++ quoteAlways text)
  | some v =>
    let (width, decimals) := operandLayout text v.isFinite
    .ok { value := v, width, decimals }

/-- The directive of a `-f` format: the text before it, its flags, width and precision
and conversion, and the text after it; or the message that rejects the format. A `%%`
stands for a percent sign. -/
def seqFormat (fmt : String) : Except String (List Char × Format.Spec × Char × List Char) :=
  let q := quoteAlways fmt
  let rec literal : Nat → List Char → List Char → Option (List Char × List Char)
    | 0, _, _ => none
    | _, [], _ => none
    | _, ['%'], acc => some (acc.reverse, [])
    | k + 1, '%' :: '%' :: rest, acc => literal k rest ('%' :: acc)
    | _, '%' :: rest, acc => some (acc.reverse, rest)
    | k + 1, c :: rest, acc => literal k rest (c :: acc)
  match literal (fmt.length + 1) fmt.toList [] with
  | none => .error ("format " ++ q ++ " has no % directive")
  | some (before, body) =>
    let flags := body.takeWhile ("-+#0 '".toList.contains ·)
    let body := body.drop flags.length
    let width := body.takeWhile Char.isDigit
    let body := body.drop width.length
    let (precision, body) := match body with
      | '.' :: r => let ds := r.takeWhile Char.isDigit; (some (digitsValue ds), r.drop ds.length)
      | r => (none, r)
    let body := match body with
      | 'L' :: r => r
      | r => r
    match body with
    | [] => .error ("format " ++ q ++ " ends in %")
    | conv :: after =>
      if !"efgaEFGA".toList.contains conv then
        .error ("format " ++ q ++ " has unknown %" ++ String.singleton conv ++ " directive")
      else
        match literal (after.length + 1) after [] with
        | some _ => .error ("format " ++ q ++ " has too many % directives")
        | none =>
          let spec : Format.Spec :=
            { left := flags.contains '-', plus := flags.contains '+', space := flags.contains ' ',
              alt := flags.contains '#', zero := flags.contains '0', width := digitsValue width,
              precision }
          let rec unescape : Nat → List Char → List Char
            | 0, _ => []
            | _, [] => []
            | k + 1, '%' :: '%' :: rest => '%' :: unescape k rest
            | k + 1, c :: rest => c :: unescape k rest
          .ok (before, spec, conv, unescape (after.length + 1) after)

/-- How the numbers are written: the text around them and the conversion. -/
structure SeqLayout where
  before : List Char := []
  spec : Format.Spec
  conv : Char
  after : List Char := []

/-- The text of a number in a layout. -/
def SeqLayout.text (l : SeqLayout) (x : Extended) : String :=
  String.ofList (l.before ++ Format.extended l.spec l.conv x ++ l.after)

/-- The number a text in a layout reads back as, the text around it left out. -/
def SeqLayout.readBack (l : SeqLayout) (text : String) : Option Extended :=
  let body := text.toList.drop l.before.length
  readLongDouble (String.ofList (body.take (body.length - l.after.length)))

/-- The layout that the operands ask for: as many decimals as the first number or the
increment has, padded with zeros to the widest operand with `-w`; `%g` when the
decimals are not fixed, or when the width is beyond what a format can ask for. -/
def defaultLayout (first step last : SeqOperand) (equalWidth : Bool) : SeqLayout :=
  let general : SeqLayout := { spec := {}, conv := 'g' }
  match first.decimals, step.decimals, last.decimals with
  | some fp, some sp, some lp =>
    let prec := max fp sp
    if equalWidth then
      let firstWidth := first.width + (prec - fp) + (if fp = 0 && prec != 0 then 1 else 0)
      let lastWidth := last.width + (prec - lp) + (if lp != 0 && prec = 0 then -1 else 0) +
        (if lp = 0 && prec != 0 then 1 else 0)
      let width := max firstWidth lastWidth
      if width < 0 || width > 2147483647 then general
      else { spec := { zero := true, width := width.toNat, precision := some prec.toNat }, conv := 'f' }
    else { spec := { precision := some prec.toNat }, conv := 'f' }
  | _, _, _ => general

/-- The characters of numbers worked out ahead for a sequence without end; the writer
then goes on unseen. -/
def endlessAhead : Nat := 1048576

/-- The most numbers a sequence is worked out to; one that goes further is taken to
go on without end. -/
def longestSequence : Nat := 20000000

/-- The numbers of a sequence in a layout, from the `i`-th on, the one before it
printed as `text`: each `first + i * step` while within the last, and then the next
number too when its text reads back as the last and differs from the one before. With
`endless`, the numbers stop once they pass `endlessAhead` characters. The flag tells
whether the numbers were cut off. -/
def seqFrom (layout : SeqLayout) (first step last : Extended) (endless : Bool) :
    Nat → Nat → Nat → String → List String → List String × Bool
  | 0, _, _, _, acc => (acc.reverse, true)
  | fuel + 1, i, size, text, acc =>
    let acc := text :: acc
    let size := size + text.length + 1
    if endless && size > endlessAhead then (acc.reverse, true)
    else
      let x := first.add ((Extended.ofInt i).mul step)
      let beyond := if step.lt (.finite false 0 0) then x.lt last else last.lt x
      let next := layout.text x
      if beyond then
        let again := match layout.readBack next with
          | some v => v.eqv last && next != text
          | none => false
        ((if again then next :: acc else acc).reverse, false)
      else seqFrom layout first step last endless fuel (i + 1) size next acc

/-- The numbers of a sequence in a layout, and whether they were cut off; none at all
when the first is already past the last. -/
def seqTexts (layout : SeqLayout) (first step last : Extended) : List String × Bool :=
  let beyond := if step.lt (.finite false 0 0) then first.lt last else last.lt first
  if beyond then ([], false)
  else seqFrom layout first step last (!last.isFinite) longestSequence 1 0 (layout.text first) []

/-- Whole numbers from `a` by `step` up to `b`, or without end when there is no `b`,
in decimal, and whether they were cut off. -/
def countFrom (b : Option Nat) (step : Nat) : Nat → Nat → Nat → List String → List String × Bool
  | 0, _, _, acc => (acc.reverse, true)
  | fuel + 1, a, size, acc =>
    let done : Bool := match b with
      | some b => decide (b < a)
      | none => false
    if done then (acc.reverse, false)
    else
      let text := toString a
      let size := size + text.length + 1
      if b.isNone && size > endlessAhead then ((text :: acc).reverse, true)
      else countFrom b step fuel (a + step) size (text :: acc)

/-- Write the numbers with a separator between them, a thousand at a time, and a line
feed after the last; numbers that were cut off go on without end instead. -/
def writeNumbers (sep : String) (texts : List String) (cutOff : Bool) : M Unit := do
  let rec chunks : Nat → List String → List (List String)
    | 0, _ => []
    | _, [] => []
    | k + 1, xs => xs.take 1000 :: chunks k (xs.drop 1000)
  let parts := chunks (texts.length + 1) texts
  let total := parts.length
  for (part, i) in parts.zip (List.range total) do
    say (sep.intercalate part ++ (if i + 1 = total && !cutOff then "\n" else sep))
  if cutOff then goOnWriting 1

/-- The option table of `seq`: the options end at the first operand or at a word that
looks like a negative number. -/
def seqOptions : OptionTable where
  short := [('f', .value), ('s', .value), ('w', .nothing)]
  long := [⟨"equal-width", .nothing, "w"⟩, ⟨"format", .value, "f"⟩,
    ⟨"separator", .value, "s"⟩] ++ standardLong
  inOrder := true
  numbersFirst := true

/-- `seq`: options `-w`, `-s SEP` and `-f FORMAT` at the front, then one to three
operands. -/
def seq (args : List String) : M Nat := do
  let usage (msg : String) : M Nat := do
    complain "seq" msg
    tryHelp "seq"
    return 1
  match seqOptions.read args with
  | .error e => usage e.message
  | .ok parsed =>
  if let some code ← aboutRequest "seq" parsed then return code
  let equalWidth := parsed.has "w"
  let sep := ((parsed.last? "s").bind id).getD "\n"
  let format := (parsed.last? "f").bind id
  let operands := parsed.operands
  if operands.isEmpty then return ← usage "missing operand"
  if operands.length > 3 then return ← usage ("extra operand " ++ quoteAlways operands[3]!)
  let custom ← match format with
    | some fmt =>
      match seqFormat fmt with
      | .ok c => pure (some c)
      | .error msg => complain "seq" msg; return 1
    | none => pure none
  if custom.isSome && equalWidth then
    return ← usage "format string may not be specified when printing equal width strings"
  let plain := !equalWidth && custom.isNone && (Text.Octets.toBytes sep).length == 1
  -- whole numbers written as they are, counted in decimal
  let fastStep : Option Nat := match operands with
    | [_, s, _] =>
      if allDigits s then
        match readLongDouble s with
        | some v => if (Extended.ofInt 0).lt v && !(Extended.ofInt 200).lt v then some (digitsValue s.toList) else none
        | none => none
      else none
    | _ => some 1
  let counted : Option (String × String) := match operands, fastStep with
    | [l], _ => if allDigits l then some ("1", l) else none
    | [f, l], _ => if allDigits f && allDigits l then some (f, l) else none
    | [f, _, l], some _ => if allDigits f && allDigits l then some (f, l) else none
    | _, _ => none
  if plain then
    if let (some (a, b), some step) := (counted, fastStep) then
      let a := digitsValue a.toList
      let b := digitsValue b.toList
      if a ≤ b then
        let (texts, cut) := countFrom (some b) step longestSequence a 0 []
        writeNumbers (String.singleton sep.front) texts cut
        return 0
  let one : SeqOperand := { value := Extended.ofInt 1, width := 1, decimals := some 0 }
  let readAll : Except String (SeqOperand × SeqOperand × SeqOperand) := do
    match operands with
    | [l] => pure (one, one, ← SeqOperand.read l)
    | [f, l] => pure (← SeqOperand.read f, one, ← SeqOperand.read l)
    | [f, s, l] =>
      let first ← SeqOperand.read f
      let step ← SeqOperand.read s
      if step.value.isZero then throw ("invalid Zero increment value: " ++ quoteAlways s)
      pure (first, step, ← SeqOperand.read l)
    | _ => throw "missing operand"
  match readAll with
  | .error msg => usage msg
  | .ok (first, step, last) =>
    let zero := Extended.ofInt 0
    let whole (x : Extended) : String := String.ofList (Format.extended { precision := some 0 } 'f' x)
    if plain && first.decimals == some 0 && step.decimals == some 0 && last.decimals == some 0 &&
        first.value.isFinite && !first.value.lt zero && zero.lt step.value &&
        !last.value.lt zero && !(Extended.ofInt 200).lt step.value then
      let a := whole first.value
      let b := if last.value.isFinite then some (whole last.value) else none
      if !a.startsWith "-" && !((b.map (·.startsWith "-")).getD false) then
        let a := digitsValue a.toList
        let b := b.map fun t => digitsValue t.toList
        let stepCount := digitsValue (whole step.value).toList
        if (b.map fun t => decide (a ≤ t)).getD true then
          let (texts, cut) := countFrom b stepCount longestSequence a 0 []
          writeNumbers (String.singleton sep.front) texts cut
          return 0
    let layout : SeqLayout := match custom with
      | some (before, spec, conv, after) => { before, spec, conv, after }
      | none => defaultLayout first step last equalWidth
    let (texts, cut) := seqTexts layout first.value step.value last.value
    if texts.isEmpty then return 0
    writeNumbers sep texts cut
    return 0

end Confine.Host.Program
