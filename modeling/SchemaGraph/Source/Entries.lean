import SchemaGraph.Source.Constant

/-! The entries of an attribute's list, read one after the other into a state. What is read before an
entry that cannot be read stays. -/
namespace SchemaGraph.Source

/-- A state after a reading, and the tokens left when all was read. -/
structure Reading (σ : Type) where
  state : σ
  rest : Option (List Token)

/-- What an entry does after its key. -/
abbrev EntryReader (σ : Type) := σ → PathForm → List Token → Reading σ

namespace Reading

variable {σ α : Type}

/-- Reads tokens into a state. -/
def take (p : Parser α) (write : α → σ → σ) (s : σ) (ts : List Token) : Reading σ :=
  match p ts with
  | some (a, rest) => { state := write a s, rest := some rest }
  | none => { state := s, rest := none }

/-- The key of an entry: a path of words, keywords among them. -/
def key : Parser PathForm := do
  let anchored ← Parser.optPunct "::"
  let first ← Parser.anyIdent
  let rest ← Parser.whileAhead (Ahead.isPunct "::") (do Parser.punct "::"; Parser.anyIdent)
  return { anchored, segments := (first :: rest).map (·, none) }

/-- The entries at hand, at least one, with commas between them. -/
def entries (entry : EntryReader σ) : Nat → σ → List Token → Reading σ
  | 0, s, _ => { state := s, rest := none }
  | fuel + 1, s, ts =>
    match key ts with
    | none => { state := s, rest := none }
    | some (path, ts) =>
      let r := entry s path ts
      match r.rest with
      | none | some [] => r
      | some ts =>
        match Parser.punct "," ts with
        | none => { r with rest := none }
        | some (_, []) => { r with rest := some [] }
        | some (_, ts) => entries entry fuel r.state ts

/-- The entries in parentheses. -/
def nested (entry : EntryReader σ) (s : σ) : List Token → Reading σ
  | .group .paren content :: ts =>
    let r := entries entry content.length s content
    { r with rest := r.rest.map (fun _ => ts) }
  | _ => { state := s, rest := none }

/-- The entries of an attribute's list. -/
def ofAttribute (entry : EntryReader σ) (s : σ) (a : Attribute) : σ :=
  match a.body with
  | .list content => (entries entry content.length s content).state
  | _ => s

end Reading

/-! Values of entries. -/
namespace EntryValue

/-- An expression after an equals sign. -/
def expr : Parser Expr := fun ts => (do Parser.punct "="; (Grammar.forTokens ts).expr true) ts

/-- A text after an equals sign. -/
def string : Parser String := do
  Parser.punct "="
  Parser.string

/-- A truth value after an equals sign; a key by itself is true. -/
def flag : Parser Bool := do
  if !(← Parser.optPunct "=") then return true
  match ← Parser.constant with
  | .bool b => return b
  | _ => failure

/-- A number after an equals sign. -/
def number : Parser Binary64 := do
  match (← expr).json? with
  | some (.int n) => return .ofInt n
  | some (.float x) => return x
  | _ => failure

/-- A count of 64 bits after an equals sign. -/
def count : Parser Nat := do
  Parser.punct "="
  match ← Parser.literal with
  | .int n _ => if n < Nat.pow 2 64 then return n else failure
  | _ => failure

/-- Any value after an equals sign, or none for what is no value. -/
def json : Parser (Option Json) := return (← expr).json?

/-- Passes over what follows a key: an expression after an equals sign, or entries in parentheses. -/
def skip (fuel : Nat) (ts : List Token) : Reading Unit :=
  if Ahead.isPunct "=" ts then .take expr (fun _ _ => ()) () ts
  else
    match fuel, ts with
    | fuel + 1, .group .paren _ :: _ => .nested (fun _ _ ts => skip fuel ts) () ts
    | _, _ => { state := (), rest := some ts }

/-- Passes over what follows a key and keeps the state. -/
def pass {σ : Type} (s : σ) (ts : List Token) : Reading σ :=
  { state := s, rest := (skip (Token.sizeAll ts) ts).rest }

end EntryValue
end SchemaGraph.Source
