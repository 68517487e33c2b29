import SchemaGraph.Json.Number

/-! JSON text: compact, or with one item a line. -/
namespace SchemaGraph.Json

def hexDigit (n : Nat) : Char :=
  if n < 10 then Char.ofNat (48 + n) else Char.ofNat (87 + n)

/-- How a character is written between quotes. -/
def escapeChar (c : Char) : List Char :=
  if c = '"' then ['\\', '"']
  else if c = '\\' then ['\\', '\\']
  else if c.toNat < 32 then
    if c = '\n' then ['\\', 'n']
    else if c = '\t' then ['\\', 't']
    else if c = '\r' then ['\\', 'r']
    else if c = '\x08' then ['\\', 'b']
    else if c = '\x0c' then ['\\', 'f']
    else ['\\', 'u', '0', '0', hexDigit (c.toNat / 16), hexDigit (c.toNat % 16)]
  else [c]

def quoted (s : String) : List Char :=
  '"' :: s.toList.flatMap escapeChar ++ ['"']

def leafText : Json → List Char
  | .null | .unreadable => "null".toList
  | .bool true => "true".toList
  | .bool false => "false".toList
  | .int n => (toString n).toList
  | .float x => (floatText x).toList
  | .str s => quoted s
  | .arr _ => "[]".toList
  | .obj _ => "\x7b\x7d".toList

mutual
def compactChars : Json → List Char
  | .arr [] => leafText (.arr [])
  | .arr (j :: js) => '[' :: compactChars j ++ compactItems js
  | .obj [] => leafText (.obj [])
  | .obj ((k, j) :: js) => '\x7b' :: quoted k ++ ':' :: compactChars j ++ compactFields js
  | j => leafText j

def compactItems : List Json → List Char
  | [] => [']']
  | j :: js => ',' :: compactChars j ++ compactItems js

def compactFields : List (String × Json) → List Char
  | [] => ['\x7d']
  | (k, j) :: js => ',' :: quoted k ++ ':' :: compactChars j ++ compactFields js
end

/-- The text without blanks. -/
def compact (j : Json) : String := String.ofList (compactChars j)

/-- A line break and the indentation of a level, two blanks each. -/
def lineBreak (level : Nat) : List Char := '\n' :: List.replicate (2 * level) ' '

mutual
/-- The characters of the text with one item a line, for a value at the given level. -/
def prettyChars (level : Nat) : Json → List Char
  | .arr [] => leafText (.arr [])
  | .arr (j :: js) =>
    '[' :: lineBreak (level + 1) ++ prettyChars (level + 1) j ++ prettyItems level js
  | .obj [] => leafText (.obj [])
  | .obj ((k, j) :: js) =>
    '\x7b' :: lineBreak (level + 1) ++ quoted k ++ ':' :: ' ' :: prettyChars (level + 1) j ++
      prettyFields level js
  | j => leafText j

def prettyItems (level : Nat) : List Json → List Char
  | [] => lineBreak level ++ [']']
  | j :: js =>
    ',' :: lineBreak (level + 1) ++ prettyChars (level + 1) j ++ prettyItems level js

def prettyFields (level : Nat) : List (String × Json) → List Char
  | [] => lineBreak level ++ ['\x7d']
  | (k, j) :: js =>
    ',' :: lineBreak (level + 1) ++ quoted k ++ ':' :: ' ' :: prettyChars (level + 1) j ++
      prettyFields level js
end

/-- The text with one item a line; empty objects and arrays stay on one line. -/
def pretty (j : Json) : String := String.ofList (prettyChars 0 j)

end SchemaGraph.Json
