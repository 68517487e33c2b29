import SchemaGraph.Toml.Scalar
import SchemaGraph.Toml.Table

/-! From TOML text to a value. -/
namespace SchemaGraph.Toml

open Reader

/-- The most arrays and inline tables that may nest. -/
def maxNesting : Nat := 79

/-- A value inside of which so many arrays and tables may nest. -/
def valueWithin : Nat → Reader Json
  | 0 => do
    if let some s ← optQuoted then return .str s
    scalar
  | room + 1 => do
    if let some s ← optQuoted then return .str s
    if ← optText "[" then
      let (items, _) ← iterate
        (fun ((acc, done) : List Json × Bool) => do
          if done then return none
          filler
          if ← optText "]" then return some (acc, true)
          let j ← valueWithin room
          filler
          if !(← optText ",") then
            text "]"
            return some (j :: acc, true)
          return some (j :: acc, false))
        ([], false)
      return .arr items.reverse
    if ← optText "\x7b" then
      blanks
      if ← optText "\x7d" then return .obj []
      let (pairs, _) ← iterate
        (fun ((acc, done) : List (List String × Json) × Bool) => do
          if done then return none
          let path ← key
          text "="
          blanks
          let j ← valueWithin room
          blanks
          if ← optText "," then return some ((path, j) :: acc, false)
          text "\x7d"
          return some ((path, j) :: acc, true))
        ([], false)
      match Entries.addValues pairs.reverse [] with
      | some entries => return .obj (Node.fieldsOf entries)
      | none => failure
    scalar

/-- A table with its header, and its keys with their values. -/
structure Section where
  path : List String
  isItem : Bool
  values : List (List String × Json)

namespace Section

/-- Adds a table to a document. -/
def addTo (s : Section) (root : Entries) : Option Entries :=
  match s.path.getLast? with
  | none => Entries.addValues s.values root
  | some name =>
    let add := if s.isItem then Entries.addItem else Entries.addTable
    Entries.changeAt (add name (Entries.addValues s.values)) s.path.dropLast root

end Section

/-- A header; whether its table is an item of an array. -/
def header : Reader Section := do
  let isItem ← optText "[["
  if !isItem then text "["
  let path ← key
  text (if isItem then "]]" else "]")
  lineEnd
  return { path, isItem, values := [] }

/-- A key with its value in a line. -/
def entry : Reader (List String × Json) := do
  let path ← key
  text "="
  blanks
  let j ← valueWithin maxNesting
  lineEnd
  return (path, j)

/-- The tables of a document, the last one first. -/
def sections : Reader (List Section) :=
  iterate
    (fun (all : List Section) => do
      blanks
      if ← isEnd then return none
      if (← ahead "#") || (← ahead "\n") || (← ahead "\r") then
        lineEnd
        return some all
      if ← ahead "[" then return some ((← header) :: all)
      let e ← entry
      match all with
      | s :: before => return some ({ s with values := e :: s.values } :: before)
      | [] => return none)
    [{ path := [], isItem := false, values := [] }]

/-- The value of a document; a byte order mark at its start does not count. -/
def parse? (source : String) : Option Json := do
  let cs := source.toList
  let cs := if cs.head? = some '\uFEFF' then cs.tail else cs
  let (all, _) ← sections cs
  let root ← all.reverse.foldlM
    (fun root s => { s with values := s.values.reverse : Section }.addTo root) []
  return .obj (Node.fieldsOf root)

end SchemaGraph.Toml
