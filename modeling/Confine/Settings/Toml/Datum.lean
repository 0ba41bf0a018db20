import Confine.Settings.Value
import Confine.Settings.Toml.Grammar
import Confine.Text.Hex

/-!
# TOML values

The values a TOML document gives its keys: strings in four quotings, integers in four
radixes, floats, booleans, date-times, arrays and inline tables, and the keys
themselves, bare or quoted and joined by dots.

Each form is read as the TOML grammar gives it. Where a value's first characters fix
its form, a fault after them refuses the document at the fault: a bad escape, an
unclosed string, a month of three digits. A date-time keeps the text it prints as,
with `T` between date and time, `Z` for UTC and the fraction of a second without
trailing zeros. An integer must fit in 64 bits and a float must not overflow to
positive infinity.
-/

namespace Confine.Settings.Toml

/-- A value as a document gives it. Date-times keep the text they print as; an inline
table remembers whether dotted keys made it, and whether it was made only on the way
to a deeper key. -/
inductive Datum where
  | str (s : String)
  | int (i : Int)
  | float (d : Double)
  | bool (b : Bool)
  | datetime (text : String)
  | array (items : List Datum)
  | inline (implicit dotted : Bool) (entries : List (String × Datum))
  deriving Repr, Inhabited

namespace Datum

/-- The name of a value's type, as refusals give it. -/
def typeName : Datum → String
  | .str _ => "string"
  | .int _ => "integer"
  | .float _ => "float"
  | .bool _ => "boolean"
  | .datetime _ => "datetime"
  | .array _ => "array"
  | .inline .. => "inline table"

mutual

/-- A value as a settings value; a date-time becomes its text. -/
def toValue : Datum → Value
  | .str s => .str s
  | .int i => .int i
  | .float d => .float d
  | .bool b => .bool b
  | .datetime t => .str t
  | .array items => .list (itemsToValues items)
  | .inline _ _ entries => .table (entriesToValues entries)

/-- The items of an array as settings values. -/
def itemsToValues : List Datum → List Value
  | [] => []
  | d :: rest => d.toValue :: itemsToValues rest

/-- The entries of a table as settings entries. -/
def entriesToValues : List (String × Datum) → List (String × Value)
  | [] => []
  | (k, d) :: rest => (k, d.toValue) :: entriesToValues rest

end

end Datum

/-! ## Characters and blank space -/

/-- A blank: space or tab. -/
def isBlank (c : Char) : Bool := c == ' ' || c == '\t'

/-- A character that may stand in a comment: tab, printable ASCII, or any non-ASCII. -/
def isCommentChar (c : Char) : Bool :=
  c == '\t' || (0x20 ≤ c.toNat && c.toNat ≤ 0x7E) || c.toNat ≥ 0x80

/-- A character that may stand unescaped in a basic string. -/
def isBasicChar (c : Char) : Bool :=
  isBlank c || c == '!' || (0x23 ≤ c.toNat && c.toNat ≤ 0x5B) ||
    (0x5D ≤ c.toNat && c.toNat ≤ 0x7E) || c.toNat ≥ 0x80

/-- A character that may stand in a literal string. -/
def isLiteralChar (c : Char) : Bool :=
  c == '\t' || (0x20 ≤ c.toNat && c.toNat ≤ 0x26) || (0x28 ≤ c.toNat && c.toNat ≤ 0x7E) ||
    c.toNat ≥ 0x80

/-- A character of a bare key. -/
def isBareKeyChar (c : Char) : Bool :=
  (c.isAlphanum && c.toNat < 0x80) || c == '_' || c == '-'

/-- A hexadecimal digit. -/
def isHexDigit (c : Char) : Bool := (Text.Hex.digitValue? c).isSome

/-- Blanks. -/
def blanks : Reader Unit := do let _ ← span 0 none isBlank

/-- A line break: a line feed, or a carriage return and a line feed. -/
def newline : Reader Unit := firstOf [word "\n", word "\r\n"]

/-- A comment, to the end of its line. -/
def comment : Reader Unit := do
  let _ ← one (· == '#')
  let _ ← span 0 none isCommentChar

/-- Blanks, comments and line breaks, as between the items of an array. -/
def spaceAndComments : Reader Unit := do
  let _ ← many (firstOf [do let _ ← span 1 none isBlank, newline, comment])

/-- Where a line of a document ends: blanks, a comment, then a line break or the end. -/
def lineTrailing : Reader Unit := do
  blanks
  let _ ← attempt comment
  firstOf [newline, atEnd]

/-! ## Strings -/

/-- The escape of a character in a hex code of `n` digits. -/
def hexEscape (n : Nat) : Reader Char :=
  checked (satisfying (span 0 (some n) isHexDigit) (·.length == n)) fun ds =>
    let v := ds.foldl (fun acc d => acc * 16 + (Text.Hex.digitValue? d).getD 0) 0
    if decide v.isValidChar then .ok (Char.ofNat v)
    else .error "value is out of range"

/-- The tokens a bad escape could have been. -/
def escapeTokens : List Hint :=
  ["`b`", "`f`", "`n`", "`r`", "`t`", "`u`", "`U`", "`\\`", "`\"`"].map .expected

/-- An escape after a backslash. -/
def escapeSequence : Reader Char := do
  match ← anyChar with
  | 'b' => pure '\x08'
  | 'f' => pure '\x0c'
  | 'n' => pure '\n'
  | 'r' => pure '\r'
  | 't' => pure '\t'
  | 'u' => hinted (.form "unicode 4-digit hex code") (firmly (hexEscape 4))
  | 'U' => hinted (.form "unicode 8-digit hex code") (firmly (hexEscape 8))
  | '\\' => pure '\\'
  | '"' => pure '"'
  | _ => hintedAll (.form "escape sequence" :: escapeTokens) (firmly soft)

/-- A backslash and its escape. -/
def escaped : Reader Char := do
  let _ ← one (· == '\\')
  escapeSequence

/-- A basic string, in double quotes. -/
def basicString : Reader String := do
  let _ ← one (· == '"')
  let parts ← many (firstOf [String.ofList <$> span 1 none isBasicChar, String.singleton <$> escaped])
  let _ ← hinted (.form "basic string") (firmly (one (· == '"')))
  pure (String.join parts)

/-- A literal string, in single quotes. -/
def literalString : Reader String :=
  hinted (.form "literal string") do
    let _ ← one (· == '\'')
    let body ← firmly (span 0 none isLiteralChar)
    let _ ← firmly (one (· == '\''))
    pure (String.ofList body)

/-- One or two quotes inside a multi-line string, provided `after` follows them. -/
def innerQuotes (quote : Char) (after : Reader Unit) : Reader String :=
  let lookahead : Reader Unit := do
    let saved ← get
    after
    set saved
  firstOf [do word (String.ofList [quote, quote]); lookahead; pure (String.ofList [quote, quote]),
    do word (String.singleton quote); lookahead; pure (String.singleton quote)]

/-- A backslash at the end of a line in a multi-line basic string: it and all blank
space up to the next other character vanish. -/
def escapedLineEnd : Reader Unit := do
  let step : Reader Unit := do
    let _ ← one (· == '\\')
    blanks
    newline
    let _ ← many (firstOf [do let _ ← one isBlank, newline])
  step
  let _ ← many step

/-- A piece of the body of a multi-line basic string. -/
def basicPiece : Reader String :=
  firstOf [String.ofList <$> span 1 none isBasicChar, (fun _ => "") <$> escapedLineEnd,
    String.singleton <$> escaped, (fun _ => "\n") <$> newline]

/-- The body of a multi-line basic string. -/
def basicBody : Reader String := do
  let mut text := String.join (← many basicPiece)
  let fuel := (← get).rest.length + 1
  for _ in [0:fuel] do
    match ← attempt (innerQuotes '"' (do let _ ← one (· != '"'))) with
    | none => break
    | some quotes =>
      match ← attempt basicPiece with
      | none => break
      | some piece => text := text ++ quotes ++ piece ++ String.join (← many basicPiece)
  match ← attempt (innerQuotes '"' (word "\"\"\"")) with
  | some quotes => text := text ++ quotes
  | none => pure ()
  pure text

/-- A multi-line basic string, in three double quotes; a line break right after the
opening quotes is not part of it. -/
def multiBasicString : Reader String :=
  hinted (.form "multiline basic string") do
    word "\"\"\""
    let _ ← attempt newline
    let body ← firmly basicBody
    firmly (word "\"\"\"")
    pure body

/-- A piece of the body of a multi-line literal string. -/
def literalPiece : Reader Unit := firstOf [do let _ ← one isLiteralChar, newline]

/-- A multi-line literal string, in three single quotes; its line breaks are line
feeds. -/
def multiLiteralString : Reader String :=
  hinted (.form "multiline literal string") do
    word "'''"
    let _ ← attempt newline
    let body ← firmly (consumed do
      let _ ← many literalPiece
      let _ ← many (do
        let _ ← innerQuotes '\'' (do let _ ← one (· != '\''))
        literalPiece
        let _ ← many literalPiece)
      let _ ← attempt (innerQuotes '\'' (word "'''")))
    firmly (word "'''")
    pure ((String.ofList body).replace "\r\n" "\n")

/-- A string in any of its four quotings. -/
def string : Reader String :=
  firstOf [multiBasicString, basicString, multiLiteralString, literalString]

/-! ## Keys -/

/-- One part of a key: bare, or quoted. -/
def simpleKey : Reader String := do
  match ← peek with
  | some '"' => basicString
  | some '\'' => literalString
  | _ => String.ofList <$> span 1 none isBareKeyChar

/-- A key: its parts joined by dots, blanks allowed around each. -/
def key : Reader (List String) :=
  hinted (.form "key") (separatedOne (do blanks; let k ← simpleKey; blanks; pure k)
    (do let _ ← one (· == '.')))

/-! ## Numbers -/

/-- A decimal digit. -/
def digit : Reader Char := one Char.isDigit

/-- An underscore and the digit it must be followed by. -/
def underscoreThen (d : Reader Char) : Reader Char := do
  let _ ← one (· == '_')
  hinted (.expected "digit") (firmly d)

/-- Digits with single underscores between them, starting with `first`. -/
def digitRun (first d : Reader Char) : Reader Unit := do
  let _ ← first
  let _ ← many (firstOf [d, underscoreThen d])

/-- The text of a decimal integer: a sign, then a zero or digits without a leading
zero. -/
def decimalText : Reader (List Char) :=
  hinted (.form "integer") <| consumed do
    let _ ← attempt (one fun c => c == '+' || c == '-')
    firstOf [digitRun (one fun c => '1' ≤ c && c ≤ '9') digit, do let _ ← digit]

/-- The value of digits, underscores skipped, in a radix. -/
def radixValue (radix : Nat) (ds : List Char) : Nat :=
  (ds.filter (· != '_')).foldl (fun acc d => acc * radix + (Text.Hex.digitValue? d).getD 0) 0

/-- The largest integer a document may hold. -/
def intLimit : Nat := Nat.pow 2 63 - 1

/-- The integer of a decimal text, if it fits in 64 bits. -/
def decimalValue (text : List Char) : Except String Int :=
  match text with
  | '-' :: ds =>
    let n := radixValue 10 ds
    if n > intLimit + 1 then .error "number too small to fit in target type" else .ok (-(n : Int))
  | '+' :: ds | ds =>
    let n := radixValue 10 ds
    if n > intLimit then .error "number too large to fit in target type" else .ok n

/-- The digits of an integer in a radix after its prefix. -/
def prefixedText (pre : String) (name : String) (isDigitOf : Char → Bool) : Reader (List Char) :=
  hinted (.form name) do
    word pre
    firmly (consumed (digitRun (one isDigitOf) (one isDigitOf)))

/-- An integer: hexadecimal, octal or binary after `0x`, `0o` or `0b`, or decimal. -/
def integer : Reader Int := do
  let radixInt (pre name : String) (radix : Nat) (isDigitOf : Char → Bool) : Reader Int :=
    firmly (checked (prefixedText pre name isDigitOf) fun ds =>
      let n := radixValue radix ds
      if n > intLimit then .error "number too large to fit in target type" else .ok (n : Int))
  match ← peekMany 2 with
  | ['0', 'x'] => radixInt "0x" "hexadecimal integer" 16 isHexDigit
  | ['0', 'o'] => radixInt "0o" "octal integer" 8 fun c => '0' ≤ c && c ≤ '7'
  | ['0', 'b'] => radixInt "0b" "binary integer" 2 fun c => c == '0' || c == '1'
  | _ =>
    let start := (← get).pos
    let text ← decimalText
    match decimalValue text with
    | .ok n => pure n
    | .error cause => throw { severity := .firm, pos := start, cause := some cause }

/-- Digits that may start with zero, with single underscores between them. -/
def zeroPrefixable : Reader Unit := digitRun digit digit

/-- The exponent of a float. -/
def exponentPart : Reader Unit := do
  let _ ← one fun c => c == 'e' || c == 'E'
  let _ ← attempt (one fun c => c == '+' || c == '-')
  firmly zeroPrefixable

/-- The fraction of a float. -/
def fractionPart : Reader Unit := do
  let _ ← one (· == '.')
  hinted (.expected "digit") (firmly zeroPrefixable)

/-- The double a float's text stands for. -/
def floatOfText (text : List Char) : Double :=
  let cs := text.filter (· != '_')
  let (negative, cs) := match cs with
    | '-' :: r => (true, r)
    | '+' :: r => (false, r)
    | r => (false, r)
  let whole := cs.takeWhile Char.isDigit
  let cs := cs.drop whole.length
  let (frac, cs) := match cs with
    | '.' :: r => (r.takeWhile Char.isDigit, r.dropWhile Char.isDigit)
    | r => ([], r)
  let exp : Int := match cs with
    | _ :: '-' :: ds => -(radixValue 10 ds : Int)
    | _ :: '+' :: ds => radixValue 10 ds
    | _ :: ds => radixValue 10 ds
    | [] => 0
  Double.ofDecimal negative (radixValue 10 (whole ++ frac)) (exp - frac.length)

/-- A float: digits with a fraction or an exponent or both, short of positive
infinity, or a signed `inf` or `nan`. -/
def float : Reader Double :=
  hinted (.form "floating-point number") <| firstOf [
    do
      let start := (← get).pos
      let text ← consumed do
        let _ ← decimalText
        firstOf [exponentPart, do fractionPart; let _ ← attempt exponentPart]
      let d := floatOfText text
      match d with
      | .infinite false => throw { severity := .firm, pos := start }
      | _ => pure d,
    do
      let sign ← attempt (one fun c => c == '+' || c == '-')
      let d ← firstOf [do word "inf"; pure (Double.infinite false), do word "nan"; pure Double.nan]
      pure (if sign == some '-' then d.neg else d)]

/-! ## Dates and times -/

/-- Exactly `n` decimal digits, as a number. -/
def digitsOf (n : Nat) : Reader Nat := do
  let ds ← span n (some n) Char.isDigit
  pure (radixValue 10 ds)

/-- Exactly two digits in a range. -/
def ranged (low high : Nat) : Reader Nat :=
  checked (digitsOf 2) fun v => if low ≤ v && v ≤ high then .ok v else .error "value is out of range"

/-- A number with at least `width` digits, zeros in front. -/
def padded (width v : Nat) : String :=
  let s := toString v
  String.ofList (List.replicate (width - s.length) '0') ++ s

/-- A date, `YYYY-MM-DD`, with a day that the month has. -/
def fullDate : Reader String := do
  let year ← digitsOf 4
  let _ ← one (· == '-')
  let month ← firmly (ranged 1 12)
  let _ ← firmly (one (· == '-'))
  let dayStart := (← get).pos
  let day ← firmly (ranged 1 31)
  let leap := year % 4 == 0 && (year % 100 != 0 || year % 400 == 0)
  let most := match month with
    | 2 => if leap then 29 else 28
    | 4 | 6 | 9 | 11 => 30
    | _ => 31
  if most < day then throw { severity := .firm, pos := dayStart, cause := some "value is out of range" }
  pure (padded 4 year ++ "-" ++ padded 2 month ++ "-" ++ padded 2 day)

/-- A time of day, `hh:mm:ss` with an optional fraction, which prints without its
trailing zeros and is cut after nine digits. -/
def partialTime : Reader String := do
  let hour ← ranged 0 23
  let _ ← one (· == ':')
  firmly do
    let minute ← ranged 0 59
    let _ ← one (· == ':')
    let second ← ranged 0 60
    let fraction ← attempt (do
      let _ ← one (· == '.')
      span 1 none Char.isDigit)
    let fractionText := match fraction with
      | some ds =>
        let kept := ((ds.take 9) ++ List.replicate (9 - ds.length) '0').reverse.dropWhile (· == '0')
        if kept.isEmpty then "" else "." ++ String.ofList kept.reverse
      | none => ""
    pure (padded 2 hour ++ ":" ++ padded 2 minute ++ ":" ++ padded 2 second ++ fractionText)

/-- An offset from UTC: `Z`, or a signed `hh:mm`. -/
def timeOffset : Reader String :=
  hinted (.form "time offset") <| firstOf [
    do let _ ← one fun c => c == 'Z' || c == 'z'; pure "Z",
    do
      let sign ← one fun c => c == '+' || c == '-'
      let (h, m) ← firmly do
        let h ← ranged 0 23
        let _ ← one (· == ':')
        let m ← ranged 0 59
        pure (h, m)
      let sign := if sign == '-' && h * 60 + m != 0 then "-" else "+"
      pure (sign ++ padded 2 h ++ ":" ++ padded 2 m)]

/-- A date-time, a date, or a time, as the text it prints as. -/
def dateTime : Reader String :=
  firstOf [
    hinted (.form "date-time") do
      let date ← fullDate
      let rest ← attempt do
        let _ ← one fun c => c == 'T' || c == 't' || c == ' '
        let time ← partialTime
        let offset ← attempt timeOffset
        pure ("T" ++ time ++ offset.getD "")
      pure (date ++ rest.getD ""),
    hinted (.form "time") partialTime]

/-! ## Values -/

/-- The hints of a value that cannot start where it stands: it reads as a string
that lacks its quote. -/
def stringHints : List Hint := [.form "string", .expected "`\"`", .expected "`'`"]

/-- Where a key is set more than once, or a table is extended where it cannot be, in
an inline table. -/
inductive Clash where
  | duplicate (key : String)
  | wrongType (path : List String) (actual : String)

/-- The message of a clash. -/
def Clash.message : Clash → String
  | .duplicate k => "duplicate key \x60" ++ k ++ "\x60"
  | .wrongType p t => "dotted key \x60" ++ ".".intercalate p ++ "\x60 attempted to extend non-table type (" ++ t ++ ")"

/-- Sets a value under a key path in an inline table, making the tables on the way;
`whole` is the path for messages and `depth` how much of it is behind. -/
def placeInline (leaf : String) (d : Datum) (whole : List String) :
    Nat → List String → Datum → Except Clash Datum
  | _, [], .inline implicit dotted entries =>
    if dotted == whole.isEmpty then .error (.duplicate leaf)
    else if entries.any (·.1 == leaf) then .error (.duplicate leaf)
    else .ok (.inline implicit dotted (entries ++ [(leaf, d)]))
  | _, [], other => .ok other
  | depth, k :: ks, .inline implicit dotted entries =>
    match entries.find? (·.1 == k) with
    | none => do
      let sub ← placeInline leaf d whole (depth + 1) ks (.inline true true [])
      pure (.inline implicit dotted (entries ++ [(k, sub)]))
    | some (_, inner@(.inline innerImplicit _ _)) =>
      if !innerImplicit then .error (.duplicate k)
      else do
        let sub ← placeInline leaf d whole (depth + 1) ks inner
        pure (.inline implicit dotted (entries.map fun (k', x) => if k' == k then (k', sub) else (k', x)))
    | some (_, other) => .error (.wrongType (whole.take (depth + 1)) other.typeName)
  | _, _ :: _, other => .ok other

/-- The inline table of key/value pairs, in order. -/
def inlineOfPairs (pairs : List (List String × Datum)) : Except String Datum :=
  pairs.foldlM (fun table (path, d) =>
    let leaf := path.getLastD ""
    let above := path.dropLast
    (placeInline leaf d above 0 above table).mapError Clash.message) (.inline false false [])

mutual

/-- A value; `fuel` bounds how deeply values nest. -/
def value : Nat → Reader Datum
  | 0 => soft
  | fuel + 1 => do
    match ← peek with
    | some '"' | some '\'' => .str <$> string
    | some '[' => array fuel
    | some '{' => inlineTable fuel
    | some c =>
      if c == '+' || c == '-' || c.isDigit then
        firstOf [.datetime <$> dateTime, .float <$> float, .int <$> integer]
      else if c == '_' then hinted (.expected "leading digit") (.int <$> integer)
      else if c == '.' then hinted (.expected "leading digit") (.float <$> float)
      else if c == 't' then
        hintedAll stringHints do
          let _ ← firmly (word "true")
          pure (.bool true)
      else if c == 'f' then
        hintedAll stringHints do
          let _ ← firmly (word "false")
          pure (.bool false)
      else if c == 'i' then
        hintedAll stringHints do
          word "inf"
          pure (.float (.infinite false))
      else if c == 'n' then
        hintedAll stringHints do
          word "nan"
          pure (.float .nan)
      else hintedAll stringHints soft
    | none => soft

/-- An array, at its opening bracket. -/
def array (fuel : Nat) : Reader Datum := do
  let _ ← one (· == '[')
  let items ← firmly do
    let items ← attempt do
      let items ← separatedOne (do spaceAndComments; let v ← value fuel; spaceAndComments; pure v)
        (do let _ ← one (· == ','))
      let _ ← attempt (one (· == ','))
      pure items
    spaceAndComments
    pure (items.getD [])
  let _ ← firmly (hintedAll [.form "array", .expected "`]`"] (one (· == ']')))
  pure (.array items)

/-- An inline table, at its opening brace. -/
def inlineTable (fuel : Nat) : Reader Datum := do
  let _ ← one (· == '{')
  let table ← firmly (checked (do
      let pairs ← separated (do
          let path ← key
          firmly do
            let _ ← hintedAll [.expected "`.`", .expected "`=`"] (one (· == '='))
            blanks
            let v ← value fuel
            blanks
            pure (path, v))
        (do let _ ← one (· == ','))
      blanks
      pure pairs) inlineOfPairs)
  let _ ← firmly (hintedAll [.form "inline table", .expected "`\x7d`"] (one (· == '}')))
  pure table

end

end Confine.Settings.Toml
