import SchemaGraph.Toml.Reader

/-! Texts in TOML: with escapes or literal, in one line or in several. -/
namespace SchemaGraph.Toml

open Reader

def hexDigit? (c : Char) : Option Nat :=
  if '0' ≤ c ∧ c ≤ '9' then some (c.toNat - 48)
  else if 'a' ≤ c ∧ c ≤ 'f' then some (c.toNat - 87)
  else if 'A' ≤ c ∧ c ≤ 'F' then some (c.toNat - 55)
  else none

/-- The character with a code of so many hexadecimal digits. -/
def unicodeEscape (digits : Nat) : Reader Char := fun cs =>
  let code := (cs.take digits).foldl
    (fun (n : Option Nat) c => do return (← n) * 16 + (← hexDigit? c)) (some 0)
  match code with
  | some n =>
    if h : n.isValidChar ∧ digits ≤ cs.length then some (Char.ofNatAux n h.1, cs.drop digits)
    else none
  | none => none

/-- The character that an escape stands for, after its backslash. -/
def escape : Reader Char := do
  match ← char (fun _ => true) with
  | 'b' => return '\x08'
  | 'f' => return '\x0c'
  | 'n' => return '\n'
  | 'r' => return '\r'
  | 't' => return '\t'
  | '"' => return '"'
  | '\\' => return '\\'
  | 'u' => unicodeEscape 4
  | 'U' => unicodeEscape 8
  | _ => failure

/-- The pieces that a reading gives until it gives none, joined. -/
def pieces (piece : Reader (Option (List Char))) : Reader String := do
  let all ← iterate
    (fun (acc : List (List Char)) => do return (← piece).map (· :: acc))
    []
  return String.ofList all.reverse.flatten

/-- A text with escapes in one line, after its opening quote. -/
def basicText : Reader String :=
  pieces do
    if ← optText "\"" then return none
    if ← optText "\\" then return some [← escape]
    return some [← char isPlain]

/-- A literal text in one line, after its opening quote. -/
def literalText : Reader String :=
  pieces do
    if ← optText "'" then return none
    return some [← char isPlain]

/-- The end of a text in several lines, before which up to two quotes may stand; nothing where the text
goes on. -/
def closing (quote : Char) : Reader (Option (List Char)) := fun cs =>
  let count := (cs.takeWhile (· = quote)).length
  if count < 3 then some (none, cs)
  else if count ≤ 5 then some (some (List.replicate (count - 3) quote), cs.drop count)
  else none

/-- An end of a line that a text in several lines passes over, after its backslash, with the blanks and
ends of lines after it. -/
def continuation : Reader Unit := do
  blanks
  newline
  iterate
    (fun () => do
      blanks
      if (← ahead "\n") || (← ahead "\r\n") then
        newline
        return some ()
      return none)
    ()

/-- A text in several lines, after its opening quotes; whether it has escapes. -/
def linesText (quote : Char) (escapes : Bool) : Reader String := do
  let _ ← attempt newline
  let (body, _) ← iterate
    (fun ((acc, done) : List (List Char) × Bool) => do
      if done then return none
      if let some quotes ← closing quote then return some (quotes :: acc, true)
      if (← ahead "\n") || (← ahead "\r\n") then
        newline
        return some (['\n'] :: acc, false)
      if escapes then
        if ← optText "\\" then
          if (← attempt continuation).isSome then return some (acc, false)
          return some ([← escape] :: acc, false)
      return some ([← char isPlain] :: acc, false))
    ([], false)
  return String.ofList body.reverse.flatten

/-- A text in quotes; nothing where no quote stands. -/
def optQuoted : Reader (Option String) := do
  if ← optText "\"\"\"" then return some (← linesText '"' true)
  if ← optText "'''" then return some (← linesText '\'' false)
  if ← optText "\"" then return some (← basicText)
  if ← optText "'" then return some (← literalText)
  return none

/-- A part of a key: a text in one line, or letters, digits, underscores and dashes. -/
def simpleKey : Reader String := do
  if ← optText "\"" then basicText
  else if ← optText "'" then literalText
  else
    let cs ← takeWhile (fun c => c.isAlphanum || c = '_' || c = '-')
    guard (!cs.isEmpty)
    return String.ofList cs

/-- The most parts that a key may have. -/
def maxKeyParts : Nat := 79

/-- A key of parts with dots between them, blanks around each. -/
def key : Reader (List String) := do
  let part : Reader String := do
    blanks
    let k ← simpleKey
    blanks
    return k
  let first ← part
  let rest ← iterate
    (fun (acc : List String) => do
      if ← optText "." then return some ((← part) :: acc)
      return none)
    []
  guard (rest.length < maxKeyParts)
  return first :: rest.reverse

end SchemaGraph.Toml
