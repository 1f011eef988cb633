import LoggedInputs.Text.Digits
import LoggedInputs.Text.Printable
/-!
# Quoted text for messages

Messages quote text, strings and paths alike, between double quotes. Inside, a backslash goes
before `\` and `"`, tab, newline, carriage return and NUL take their short escapes, and a
character that extends the grapheme before it or does not print is written `\u{…}` in lowercase
hexadecimal. Everything else, the single quote included, stands as itself.
-/

namespace LoggedInputs.Text

/-- Lowercase hexadecimal digits of a number, without leading zeros. -/
def hexShort (n : Nat) : String :=
  String.ofList ((Nat.toDigits 16 n))

/-- The `\u{…}` form of a character. -/
def unicodeEscape (c : Char) : String :=
  "\\u" ++ "\x7b" ++ hexShort c.toNat ++ "\x7d"

/-- The escaped form of one character inside double quotes. -/
def escapeChar (c : Char) : String :=
  if c = '\x00' then "\\0"
  else if c = '\t' then "\\t"
  else if c = '\r' then "\\r"
  else if c = '\n' then "\\n"
  else if c = '\\' then "\\\\"
  else if c = '"' then "\\\""
  else if isGraphemeExtend c then unicodeEscape c
  else if isPrintable c then String.singleton c
  else unicodeEscape c

/-- A string between double quotes, escaped. -/
def quoted (s : String) : String :=
  "\"" ++ String.join (s.toList.map escapeChar) ++ "\""

end LoggedInputs.Text
