import Confine.Text.Escaped

/-!
# Quoted text in messages

Messages quote a string between double quotes, and a character between single
quotes. Inside, a quote and a backslash are
escaped, the common control characters take their short escapes, and any other
character that does not print, or that joins the one before it, is written as
`\u{hex}`.
-/

namespace Confine.Text

/-- Lowercase hexadecimal digits of a number, without leading zeros. -/
def hexDigits (n : Nat) : List Char := Nat.toDigits 16 n

/-- The escaped form of one character inside a quoted string. -/
def escapeChar (c : Char) : List Char :=
  if c = '"' then ['\\', '"']
  else if c = '\\' then ['\\', '\\']
  else if c = '\n' then ['\\', 'n']
  else if c = '\r' then ['\\', 'r']
  else if c = '\t' then ['\\', 't']
  else if c = '\x00' then ['\\', '0']
  else if isEscaped c then ['\\', 'u', '{'] ++ hexDigits c.toNat ++ ['}']
  else [c]

/-- A character between single quotes, escaped as inside a quoted string, except that
a single quote is escaped and a double quote is not. -/
def quoteChar (c : Char) : String :=
  let body := if c = '\'' then ['\\', '\''] else if c = '"' then ['"'] else escapeChar c
  String.ofList ('\'' :: body ++ ['\''])

/-- A string between double quotes, escaped. -/
def quote (s : String) : String :=
  String.ofList ('"' :: s.toList.flatMap escapeChar ++ ['"'])

end Confine.Text
