import MsxWorkbench.Json.Value
/-
# Writing JSON

The text of a value, either on one line or with one member or item to a line and two blanks of
indentation for each level. Characters beyond ASCII are written as they are.
-/
namespace MsxWorkbench.Json

/-- A lower-case hexadecimal digit. -/
def hexDigit (n : Nat) : Char := Nat.digitChar (n % 16)

/-- One character inside a quoted string. -/
def escapeChar (c : Char) : List Char :=
  if c == '"' then ['\\', '"']
  else if c == '\\' then ['\\', '\\']
  else if c == '\n' then ['\\', 'n']
  else if c == '\r' then ['\\', 'r']
  else if c == '\t' then ['\\', 't']
  else if c.toNat == 8 then ['\\', 'b']
  else if c.toNat == 12 then ['\\', 'f']
  else if c.toNat < 0x20 then ['\\', 'u', '0', '0', hexDigit (c.toNat / 16), hexDigit c.toNat]
  else [c]

/-- A string between quotes. -/
def quote (s : String) : String := "\"" ++ String.ofList (s.toList.flatMap escapeChar) ++ "\""

/-- The text of a floating-point number. -/
def realText : Binary64 → String
  | .infinite neg => if neg then "-Infinity" else "Infinity"
  | .nan => "NaN"
  | x => String.ofList x.toText

mutual

/-- The value on one line, with no blanks. -/
def compact : Json → String
  | .null => "null"
  | .bool b => if b then "true" else "false"
  | .int n => toString n
  | .real x => realText x
  | .str s => quote s
  | .arr items => "[" ++ ",".intercalate (compactItems items) ++ "]"
  | .obj members => "\x7b" ++ ",".intercalate (compactMembers members) ++ "\x7d"

def compactItems : List Json → List String
  | [] => []
  | v :: rest => compact v :: compactItems rest

def compactMembers : List (String × Json) → List String
  | [] => []
  | (k, v) :: rest => (quote k ++ ":" ++ compact v) :: compactMembers rest

end

/-- The start of a line at a level of indentation. -/
def newline (level : Nat) : String := "\n" ++ String.ofList (List.replicate (2 * level) ' ')

mutual

/-- The value spread over lines, at a level of indentation. -/
def spreadAt (level : Nat) : Json → String
  | .arr [] => "[]"
  | .arr items =>
    "[" ++ newline (level + 1) ++ ("," ++ newline (level + 1)).intercalate (spreadItems (level + 1) items)
      ++ newline level ++ "]"
  | .obj [] => "\x7b\x7d"
  | .obj members =>
    "\x7b" ++ newline (level + 1)
      ++ ("," ++ newline (level + 1)).intercalate (spreadMembers (level + 1) members)
      ++ newline level ++ "\x7d"
  | .null => "null"
  | .bool b => if b then "true" else "false"
  | .int n => toString n
  | .real x => realText x
  | .str s => quote s

def spreadItems (level : Nat) : List Json → List String
  | [] => []
  | v :: rest => spreadAt level v :: spreadItems level rest

def spreadMembers (level : Nat) : List (String × Json) → List String
  | [] => []
  | (k, v) :: rest => (quote k ++ ": " ++ spreadAt level v) :: spreadMembers level rest

end

/-- The value spread over lines. -/
def spread (v : Json) : String := spreadAt 0 v

end MsxWorkbench.Json
