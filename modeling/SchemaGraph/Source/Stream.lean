import SchemaGraph.Source.Form

/-! Reading tokens one by one. -/
namespace SchemaGraph.Source

/-- A reading of the tokens at hand, which leaves those that it does not take. -/
abbrev Parser := StateT (List Token) Option

/-- Words that are no identifiers. -/
def keywords : List String :=
  ["_", "abstract", "as", "async", "await", "become", "box", "break", "const", "continue", "crate",
   "do", "dyn", "else", "enum", "extern", "false", "final", "fn", "for", "if", "impl", "in", "let",
   "loop", "macro", "match", "mod", "move", "mut", "override", "priv", "pub", "ref", "return", "Self",
   "self", "static", "struct", "super", "trait", "true", "try", "type", "typeof", "unsafe", "unsized",
   "use", "virtual", "where", "while", "yield"]

/-! What the tokens at hand start with. -/
namespace Ahead

def isIdent : List Token → Bool
  | .ident s :: _ => !keywords.contains s
  | _ => false

def isAnyIdent : List Token → Bool
  | .ident _ :: _ => true
  | _ => false

def isWord (w : String) : List Token → Bool
  | .ident s :: _ => s == w
  | _ => false

def isOneOf (ws : List String) : List Token → Bool
  | .ident s :: _ => ws.contains s
  | _ => false

def isLifetime : List Token → Bool
  | .lifetime _ :: _ => true
  | _ => false

def isGroup (d : Delimiter) : List Token → Bool
  | .group d' _ :: _ => d = d'
  | _ => false

/-- Whether punctuation characters follow, all of them but the last joined to the next. -/
def isChars : List Char → List Token → Bool
  | [], _ => true
  | [c], .punct c' _ :: _ => c = c'
  | c :: cs, .punct c' true :: ts => c = c' && isChars cs ts
  | _, _ => false

def isPunct (p : String) (ts : List Token) : Bool := isChars p.toList ts

/-- Whether a literal follows, a negative number among them. -/
def isLiteral : List Token → Bool
  | .literal _ :: _ => true
  | .ident s :: _ => s == "true" || s == "false"
  | .punct '-' _ :: .literal (.int ..) :: _ | .punct '-' _ :: .literal (.float ..) :: _ => true
  | _ => false

/-- Words that start a path without being identifiers. -/
def pathWords : List String := ["self", "Self", "super", "crate"]

/-- Whether the first segment of a path follows. -/
def isPathStart (ts : List Token) : Bool := isIdent ts || isOneOf pathWords ts || isPunct "::" ts

end Ahead

namespace Parser

variable {α β : Type}

/-- A fact about the tokens at hand. -/
def ahead (f : List Token → Bool) : Parser Bool := fun ts => some (f ts, ts)

/-- A fact about the tokens after the next one. -/
def second (f : List Token → Bool) : Parser Bool := fun ts => some (f (ts.drop 1), ts)

/-- A fact about the tokens after the next two. -/
def third (f : List Token → Bool) : Parser Bool := fun ts => some (f (ts.drop 2), ts)

def isEnd : Parser Bool := ahead List.isEmpty

def token : Parser Token := fun
  | t :: ts => some (t, ts)
  | [] => none

def anyIdent : Parser String := fun
  | .ident s :: ts => some (s, ts)
  | _ => none

def ident : Parser String := fun
  | .ident s :: ts => if keywords.contains s then none else some (s, ts)
  | _ => none

def lifetime : Parser Unit := fun
  | .lifetime _ :: ts => some ((), ts)
  | _ => none

def word (w : String) : Parser Unit := fun ts =>
  if Ahead.isWord w ts then some ((), ts.drop 1) else none

/-- Takes a word when it is there. -/
def optWord (w : String) : Parser Bool := fun ts =>
  if Ahead.isWord w ts then some (true, ts.drop 1) else some (false, ts)

def punct (p : String) : Parser Unit := fun ts =>
  if Ahead.isPunct p ts then some ((), ts.drop p.length) else none

/-- Takes punctuation when it is there. -/
def optPunct (p : String) : Parser Bool := fun ts =>
  if Ahead.isPunct p ts then some (true, ts.drop p.length) else some (false, ts)

def literal : Parser Literal := fun
  | .literal l :: ts => some (l, ts)
  | _ => none

def string : Parser String := fun
  | .literal (.str s) :: ts => some (s, ts)
  | _ => none

/-- Takes a literal, a truth value, or a negative number. -/
def constant : Parser Constant := fun
  | .literal l :: ts => some (.token l, ts)
  | .ident "true" :: ts => some (.bool true, ts)
  | .ident "false" :: ts => some (.bool false, ts)
  | .punct '-' _ :: .literal (.int ..) :: ts => some (.token .other, ts)
  | .punct '-' _ :: .literal (.float ..) :: ts => some (.token .other, ts)
  | _ => none

/-- Takes a group whose content is read to its end. -/
def group (d : Delimiter) (p : Parser α) : Parser α := fun
  | .group d' content :: ts =>
    if d = d' then
      match p content with
      | some (a, []) => some (a, ts)
      | _ => none
    else none
  | _ => none

/-- Takes any group, whatever it holds. -/
def anyGroup : Parser Delimiter := fun
  | .group d _ :: ts => some (d, ts)
  | _ => none

/-- Reads on a copy of the tokens: nothing is taken when it fails. -/
def attempt (p : Parser α) : Parser (Option α) := fun ts =>
  match p ts with
  | some (a, rest) => some (some a, rest)
  | none => some (none, ts)

/-- Repeats a step until it gives nothing, at most `fuel` times. -/
def iterateFor (step : α → Parser (Option α)) : Nat → α → Parser α
  | 0, _ => failure
  | fuel + 1, a => do
    match ← step a with
    | some a' => iterateFor step fuel a'
    | none => return a

/-- Repeats a step that takes tokens until it gives nothing. -/
def iterate (step : α → Parser (Option α)) (a : α) : Parser α := do
  iterateFor step ((← get).length + 2) a

def untilEnd (p : Parser α) : Parser (List α) := do
  let all ← iterate
    (fun (acc : List α) => do
      if ← isEnd then return none
      return some ((← p) :: acc))
    []
  return all.reverse

/-- Reads as long as a condition holds. -/
def whileAhead (f : List Token → Bool) (p : Parser α) : Parser (List α) := do
  let all ← iterate
    (fun (acc : List α) => do
      if ← ahead f then return some ((← p) :: acc)
      return none)
    []
  return all.reverse

/-- Reads parts with a separator between them, until a condition holds before a part or no separator
follows one. -/
def separated (sep : String) (stop : List Token → Bool) (p : Parser α) : Parser (List α) := do
  let (all, _) ← iterate
    (fun ((acc, done) : List α × Bool) => do
      if done || (← ahead stop) then return none
      let a ← p
      let more ← optPunct sep
      return some (a :: acc, !more))
    ([], false)
  return all.reverse

/-- Reads parts with commas between them up to the end; the last may have one after it. -/
def list (p : Parser α) : Parser (List α) := do
  let all ← iterate
    (fun (acc : List α) => do
      if ← isEnd then return none
      let a ← p
      unless ← isEnd do punct ","
      return some (a :: acc))
    []
  return all.reverse

/-- Reads all of the tokens. -/
def complete (p : Parser α) (ts : List Token) : Option α :=
  match p ts with
  | some (a, []) => some a
  | _ => none

end Parser
end SchemaGraph.Source
