import Confine.Settings.Value
import Confine.Settings.Number
import Confine.Text.Peg
import Confine.Text.Identifier

/-!
# JSON5 documents

JSON5 extends JSON with what hand-written files want: `//` and `/* */` comments,
trailing commas, object keys written as bare identifiers, strings in single quotes
with more escapes and with line continuations, hexadecimal integers, numbers with a
leading or trailing point or a plus sign, and `Infinity` and `NaN`.

The document is read by a parsing expression grammar (`Text.Peg`), whose rules are
named in refusals: a document that does not read is refused at the furthest place
where a named rule failed, with the rules that failed there.

A number without a point and without an exponent (hexadecimal ones aside) is an
integer, which must fit in 64 signed bits; a hexadecimal one must fit in 32 unsigned
bits. Every other number is a double, which must be finite unless it is written
`Infinity`, `-Infinity` or `NaN`. Of two equal keys in one object the later one wins.
-/

namespace Confine.Settings.Json5

open Confine.Text.Peg

/-- The rules of the grammar, in the order refusals list them. -/
inductive Rule where
  | eoi
  | comment
  | whitespace
  | array
  | boolean
  | charEscapeSequence
  | charLiteral
  | decimalIntegerLiteral
  | decimalLiteral
  | doubleQuoteChar
  | escapeChar
  | escapeSequence
  | exponentPart
  | hexEscapeSequence
  | hexIntegerLiteral
  | identifier
  | identifierPart
  | identifierStart
  | key
  | lineContinuation
  | lineTerminator
  | lineTerminatorSequence
  | nonEscapeChar
  | nulEscapeSequence
  | null
  | number
  | numericLiteral
  | object
  | pair
  | singleEscapeChar
  | singleQuoteChar
  | string
  | text
  | unicodeEscapeSequence
  | unicodeLetter
  | value
  deriving BEq, Repr

namespace Rule

/-- A rule's place in the order of rules. -/
def rank : Rule → Nat
  | .eoi => 0 | .comment => 1 | .whitespace => 2 | .array => 3 | .boolean => 4
  | .charEscapeSequence => 5 | .charLiteral => 6 | .decimalIntegerLiteral => 7
  | .decimalLiteral => 8 | .doubleQuoteChar => 9 | .escapeChar => 10 | .escapeSequence => 11
  | .exponentPart => 12 | .hexEscapeSequence => 13 | .hexIntegerLiteral => 14
  | .identifier => 15 | .identifierPart => 16 | .identifierStart => 17 | .key => 18
  | .lineContinuation => 19 | .lineTerminator => 20 | .lineTerminatorSequence => 21
  | .nonEscapeChar => 22 | .nulEscapeSequence => 23 | .null => 24 | .number => 25
  | .numericLiteral => 26 | .object => 27 | .pair => 28 | .singleEscapeChar => 29
  | .singleQuoteChar => 30 | .string => 31 | .text => 32 | .unicodeEscapeSequence => 33
  | .unicodeLetter => 34 | .value => 35

/-- A rule's name in refusals. -/
def name : Rule → String
  | .eoi => "EOI" | .comment => "COMMENT" | .whitespace => "WHITESPACE" | .array => "array"
  | .boolean => "boolean" | .charEscapeSequence => "char_escape_sequence"
  | .charLiteral => "char_literal" | .decimalIntegerLiteral => "decimal_integer_literal"
  | .decimalLiteral => "decimal_literal" | .doubleQuoteChar => "double_quote_char"
  | .escapeChar => "escape_char" | .escapeSequence => "escape_sequence"
  | .exponentPart => "exponent_part" | .hexEscapeSequence => "hex_escape_sequence"
  | .hexIntegerLiteral => "hex_integer_literal" | .identifier => "identifier"
  | .identifierPart => "identifier_part" | .identifierStart => "identifier_start"
  | .key => "key" | .lineContinuation => "line_continuation"
  | .lineTerminator => "line_terminator" | .lineTerminatorSequence => "line_terminator_sequence"
  | .nonEscapeChar => "non_escape_char" | .nulEscapeSequence => "nul_escape_sequence"
  | .null => "null" | .number => "number" | .numericLiteral => "numeric_literal"
  | .object => "object" | .pair => "pair" | .singleEscapeChar => "single_escape_char"
  | .singleQuoteChar => "single_quote_char" | .string => "string" | .text => "text"
  | .unicodeEscapeSequence => "unicode_escape_sequence" | .unicodeLetter => "unicode_letter"
  | .value => "value"

/-- How a rule reads. -/
def kind : Rule → Kind
  | .eoi | .array | .object => .normal
  | .boolean | .charEscapeSequence | .charLiteral | .hexEscapeSequence | .nulEscapeSequence
  | .null | .number | .unicodeEscapeSequence => .atomic
  | .identifier | .string => .compound
  | _ => .silent

/-- A character by its code point. -/
def char (n : Nat) : Expr Rule := .text [Char.ofNat n]

/-- A decimal digit. -/
def digit : Expr Rule := .test Char.isDigit

/-- A hexadecimal digit. -/
def hexDigit : Expr Rule := .test fun c => c.isDigit || ('a' ≤ c && c ≤ 'f') || ('A' ≤ c && c ≤ 'F')

/-- A rule called by name. -/
def call (r : Rule) : Expr Rule := .rule r

open Expr in
/-- The expression of each rule. -/
def body : Rule → Expr Rule
  | .eoi => .finish
  | .comment => alts [seqs [lit "/*", star (seqs [notAhead (lit "*/"), anyChar]), lit "*/"],
      seqs [lit "//", star (seqs [notAhead (call .lineTerminator), anyChar])]]
  | .whitespace => alts [char 0x09, char 0x0B, char 0x0C, char 0x20, char 0xA0, char 0xFEFF,
      test Text.isSpaceSeparator, call .lineTerminator]
  | .array => alts [seqs [lit "[", lit "]"],
      seqs [lit "[", call .value, star (seqs [lit ",", call .value]), opt (lit ","), lit "]"]]
  | .boolean => alts [lit "true", lit "false"]
  | .charEscapeSequence => alts [call .singleEscapeChar, call .nonEscapeChar]
  | .charLiteral => seqs [notAhead (alts [lit "\\", call .lineTerminator]), anyChar]
  | .decimalIntegerLiteral => alts [lit "0", seqs [test fun c => '1' ≤ c && c ≤ '9', star digit]]
  | .decimalLiteral => alts [
      seqs [call .decimalIntegerLiteral, lit ".", star digit, opt (call .exponentPart)],
      seqs [lit ".", plus digit, opt (call .exponentPart)],
      seqs [call .decimalIntegerLiteral, opt (call .exponentPart)]]
  | .doubleQuoteChar => alts [seqs [lit "\\", call .escapeSequence], call .lineContinuation,
      seqs [notAhead (lit "\""), call .charLiteral]]
  | .escapeChar => alts [call .singleEscapeChar, digit, lit "x", lit "u"]
  | .escapeSequence => alts [call .charEscapeSequence, call .nulEscapeSequence,
      seqs [lit "x", call .hexEscapeSequence], seqs [lit "u", call .unicodeEscapeSequence]]
  | .exponentPart => seqs [textNoCase ['e'], opt (alts [lit "+", lit "-"]), plus digit]
  | .hexEscapeSequence => times 2 hexDigit
  | .hexIntegerLiteral => seqs [textNoCase ['0', 'x'], plus hexDigit]
  | .identifier => seqs [call .identifierStart, star (call .identifierPart)]
  | .identifierPart => alts [call .identifierStart,
      seqs [ahead (test Text.isIdentifierMark), call .charLiteral]]
  | .identifierStart => alts [
      seqs [ahead (alts [call .unicodeLetter, lit "$", lit "_"]), call .charLiteral],
      seqs [lit "\\u", call .unicodeEscapeSequence]]
  | .key => alts [call .identifier, call .string]
  | .lineContinuation => seqs [lit "\\", call .lineTerminatorSequence]
  | .lineTerminator => alts [char 0x0A, char 0x0D, char 0x2028, char 0x2029]
  | .lineTerminatorSequence => alts [seqs [char 0x0D, char 0x0A], call .lineTerminator]
  | .nonEscapeChar => seqs [notAhead (alts [call .escapeChar, call .lineTerminator]), anyChar]
  | .nulEscapeSequence => lit "0"
  | .null => lit "null"
  | .number => seqs [opt (alts [lit "+", lit "-"]), call .numericLiteral]
  | .numericLiteral => alts [call .hexIntegerLiteral, call .decimalLiteral, lit "Infinity", lit "NaN"]
  | .object => alts [seqs [lit "\x7b", lit "\x7d"],
      seqs [lit "\x7b", call .pair, star (seqs [lit ",", call .pair]), opt (lit ","), lit "\x7d"]]
  | .pair => seqs [call .key, lit ":", call .value]
  | .singleEscapeChar => alts [lit "'", lit "\"", lit "\\", lit "b", lit "f", lit "n", lit "r",
      lit "t", lit "v"]
  | .singleQuoteChar => alts [seqs [lit "\\", call .escapeSequence], call .lineContinuation,
      seqs [notAhead (lit "'"), call .charLiteral]]
  | .string => alts [seqs [lit "\"", star (call .doubleQuoteChar), lit "\""],
      seqs [lit "'", star (call .singleQuoteChar), lit "'"]]
  | .text => seqs [start, call .value, call .eoi]
  | .unicodeEscapeSequence => times 4 hexDigit
  | .unicodeLetter => test Text.isUnicodeLetter
  | .value => alts [call .null, call .boolean, call .string, call .number, call .object, call .array]

end Rule

/-- The grammar of JSON5: blank space is white space and comments. -/
def grammar : Grammar Rule where
  kind := Rule.kind
  body := Rule.body
  rank := Rule.rank
  name := Rule.name
  blank := .seqs [.star (.rule .whitespace), .star (.seqs [.rule .comment, .star (.rule .whitespace)])]

/-! ## From the tree to values -/

/-- The text a node read. -/
def spanText (input : Array Char) (start stop : Nat) : String :=
  String.ofList ((input.extract start stop).toList)

/-- The value of hexadecimal digits, if it fits in 32 unsigned bits. -/
def hexValue (s : String) : Except String Nat :=
  let n := s.toList.foldl (fun acc c =>
    acc * 16 + (if c.isDigit then c.toNat - 48 else (c.toLower.toNat - 'a'.toNat + 10))) 0
  if s.isEmpty || n ≥ Nat.pow 2 32 then .error "error parsing hex" else .ok n

/-- The text of a string or identifier node: its characters with their escapes
replaced. -/
def stringOf (input : Array Char) (children : List (Node Rule)) : Except String String :=
  children.foldlM (fun acc (n : Node Rule) =>
    match n with
    | .node r a b _ =>
      let t := spanText input a b
      match r with
      | .charLiteral => .ok (acc ++ t)
      | .charEscapeSequence =>
        .ok (acc ++ match t with
          | "b" => "\x08" | "f" => "\x0c" | "n" => "\n" | "r" => "\r" | "t" => "\t"
          | "v" => "\x0b" | other => other)
      | .nulEscapeSequence => .ok (acc.push '\x00')
      | .hexEscapeSequence | .unicodeEscapeSequence => do
        let v ← hexValue t
        if decide v.isValidChar then .ok (acc.push (Char.ofNat v))
        else .error "error parsing hex prefix"
      | _ => .ok acc) ""

/-- Whether a number's text is hexadecimal. -/
def isHexLiteral (s : String) : Bool := s.length > 2 && (s.startsWith "0x" || s.startsWith "0X")

/-- The value of a number's text: an integer when it has no point and no exponent
(hexadecimal aside) and is no infinity or NaN, else a double. -/
def numberOf (s : String) : Except String Value :=
  let infinite := s == "Infinity" || s == "-Infinity" || s == "+Infinity"
  let notANumber := s == "NaN" || s == "-NaN" || s == "+NaN"
  let isInt := !s.contains '.' && (isHexLiteral s || (!s.contains 'e' && !s.contains 'E')) &&
    !infinite && !notANumber
  if isInt then
    if isHexLiteral s then (hexValue (s.drop 2).toString).map fun n => .int n
    else match Number.int64? s with
      | some i => .ok (.int i)
      | none => .error "error parsing integer"
  else
    match s with
    | "Infinity" => .ok (.float (.infinite false))
    | "-Infinity" => .ok (.float (.infinite true))
    | "NaN" | "-NaN" => .ok (.float .nan)
    | _ =>
      match Number.float? s with
      | some (.float d) => if d.isFinite then .ok (.float d) else .error "error parsing number: too large"
      | _ => .error "error parsing number"

/-- Sets an entry, in place when the key is there. -/
def setEntry (entries : List (String × Value)) (k : String) (v : Value) : List (String × Value) :=
  if entries.any (·.1 == k) then entries.map fun (n, x) => if n == k then (n, v) else (n, x)
  else entries ++ [(k, v)]

mutual

/-- The value of a value node. -/
def valueOf (input : Array Char) : Node Rule → Except String Value
  | .node .null _ _ _ => .ok .null
  | .node .boolean a b _ => .ok (.bool (spanText input a b == "true"))
  | .node .string _ _ cs => Value.str <$> stringOf input cs
  | .node .number a b _ => numberOf (spanText input a b)
  | .node .array _ _ cs => Value.list <$> itemsOf input cs
  | .node .object _ _ cs => Value.table <$> entriesOf input [] cs
  | .node _ _ _ _ => .ok .null

/-- The values of an array's item nodes. -/
def itemsOf (input : Array Char) : List (Node Rule) → Except String (List Value)
  | [] => .ok []
  | n :: rest => do
    let v ← valueOf input n
    let vs ← itemsOf input rest
    pure (v :: vs)

/-- The entries of an object's nodes, keys and values in turn. -/
def entriesOf (input : Array Char) (acc : List (String × Value)) : List (Node Rule) → Except String (List (String × Value))
  | .node _ _ _ keyParts :: v :: rest => do
    let k ← stringOf input keyParts
    let x ← valueOf input v
    entriesOf input (setEntry acc k x) rest
  | _ => .ok acc

end

/-- The settings of a JSON5 text, or the message that refuses it. -/
def parse (text : String) : Except String Value :=
  let cs := text.toList
  match Text.Peg.parse grammar .text cs with
  | .error f => .error (f.render grammar cs)
  | .ok nodes =>
    match nodes with
    | v :: _ => valueOf cs.toArray v
    | [] => .ok .null

end Confine.Settings.Json5
