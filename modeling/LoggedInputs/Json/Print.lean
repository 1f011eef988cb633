import LoggedInputs.Json.Basic
/-!
# Writing JSON

Compact and pretty JSON text. Strings escape `"`, `\`, and control characters (the short forms
`\b \f \n \r \t`, else `\u00XX`); everything else, non-ASCII included, is written as is. The
pretty form indents by two spaces, puts `": "` after a key, and writes an empty array or object
as `[]` or `{}`.
-/

namespace LoggedInputs.Json

/-- The escaped form of one character inside a JSON string. -/
def escapeChar (c : Char) : String :=
  if c = '"' then "\\\""
  else if c = '\\' then "\\\\"
  else if c = '\n' then "\\n"
  else if c = '\r' then "\\r"
  else if c = '\t' then "\\t"
  else if c = '\x08' then "\\b"
  else if c = '\x0c' then "\\f"
  else if c.toNat < 0x20 then "\\u00" ++ Text.hexFixed 2 c.toNat
  else String.singleton c

/-- A string as a JSON string literal. -/
def quote (s : String) : String :=
  "\"" ++ String.join (s.toList.map escapeChar) ++ "\""

mutual

/-- Compact JSON text, with no whitespace at all. -/
def compact : Json → String
  | .null => "null"
  | .bool true => "true"
  | .bool false => "false"
  | .number t => t
  | .string s => quote s
  | .array xs => "[" ++ compactItems xs ++ "]"
  | .object ms => "\x7b" ++ compactMembers ms ++ "\x7d"

/-- Compact items separated by commas. -/
def compactItems : List Json → String
  | [] => ""
  | [x] => compact x
  | x :: xs => compact x ++ "," ++ compactItems xs

/-- Compact members separated by commas. -/
def compactMembers : List (String × Json) → String
  | [] => ""
  | [(k, v)] => quote k ++ ":" ++ compact v
  | (k, v) :: ms => quote k ++ ":" ++ compact v ++ "," ++ compactMembers ms

end

/-- Spaces for an indentation depth. -/
def indent (depth : Nat) : String := String.ofList (List.replicate (2 * depth) ' ')

mutual

/-- Pretty JSON text at a nesting depth (the depth indents the closing bracket). -/
def prettyAt (depth : Nat) : Json → String
  | .array [] => "[]"
  | .object [] => "\x7b\x7d"
  | .array xs => "[\n" ++ prettyItems (depth + 1) xs ++ "\n" ++ indent depth ++ "]"
  | .object ms => "\x7b\n" ++ prettyMembers (depth + 1) ms ++ "\n" ++ indent depth ++ "\x7d"
  | .null => "null"
  | .bool true => "true"
  | .bool false => "false"
  | .number t => t
  | .string s => quote s

/-- Indented items, one per line. -/
def prettyItems (depth : Nat) : List Json → String
  | [] => ""
  | [x] => indent depth ++ prettyAt depth x
  | x :: xs => indent depth ++ prettyAt depth x ++ ",\n" ++ prettyItems depth xs

/-- Indented members, one per line. -/
def prettyMembers (depth : Nat) : List (String × Json) → String
  | [] => ""
  | [(k, v)] => indent depth ++ quote k ++ ": " ++ prettyAt depth v
  | (k, v) :: ms => indent depth ++ quote k ++ ": " ++ prettyAt depth v ++ ",\n" ++ prettyMembers depth ms

end

/-- Pretty JSON text, two spaces per level. -/
def pretty (j : Json) : String := prettyAt 0 j

end LoggedInputs.Json
