import SchemaGraph.Number.Binary64

/-! The tokens of source text, with what stands between delimiters as one token. -/
namespace SchemaGraph.Source

inductive Delimiter where
  | paren
  | bracket
  | brace
deriving DecidableEq, Inhabited, Repr

/-- A literal token. -/
inductive Literal where
  | str (value : String)
  | int (value : Nat) (suffix : String)
  /-- A float with its text as written, which may also name two tuple fields. -/
  | float (value : Binary64) (text : List Char)
  /-- A character, a string of bytes, or digits that write no number. -/
  | other
deriving DecidableEq, Inhabited, Repr

inductive Token where
  /-- An identifier or keyword; a raw one keeps its mark. -/
  | ident (text : String)
  | lifetime (name : String)
  /-- A punctuation character, and whether another one follows at once. -/
  | punct (char : Char) (joint : Bool)
  | literal (value : Literal)
  | group (delimiter : Delimiter) (content : List Token)
deriving Inhabited, Repr

/-- A token, or one end of a group. -/
inductive FlatToken where
  | leaf (token : Token)
  | opening (delimiter : Delimiter)
  | closing (delimiter : Delimiter)
deriving Inhabited, Repr

/-- The groups of tokens: `done` are the tokens before, the nearest first, in the group that is open,
and `outer` are the groups around it with the tokens before them. Every group has to be closed. -/
def nestTokens (done : List Token) (outer : List (Delimiter × List Token)) :
    List FlatToken → Option (List Token)
  | [] => if outer.isEmpty then some done.reverse else none
  | .leaf t :: ts => nestTokens (t :: done) outer ts
  | .opening d :: ts => nestTokens [] ((d, done) :: outer) ts
  | .closing d :: ts =>
    match outer with
    | (d', before) :: outer =>
      if d = d' then nestTokens (.group d done.reverse :: before) outer ts else none
    | [] => none

mutual
/-- The number of tokens, those in groups included. -/
def Token.size : Token → Nat
  | .group _ ts => 1 + sizeAll ts
  | _ => 1

def Token.sizeAll : List Token → Nat
  | [] => 0
  | t :: ts => Token.size t + Token.sizeAll ts
end

end SchemaGraph.Source
