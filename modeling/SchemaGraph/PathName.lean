/-! Names of items as paths of segments between double colons. -/
namespace SchemaGraph.PathName

/-- The characters after the last double colon, of which `best` are those after the last one seen. -/
def lastFrom (best : List Char) : List Char → List Char
  | [] => best
  | c :: cs => if c = ':' ∧ cs.head? = some ':' then lastFrom cs.tail cs else lastFrom best cs

/-- The last segment of a path, as in `Vec` of `std::vec::Vec`. -/
def short (name : String) : String := String.ofList (lastFrom name.toList name.toList)

/-- The segments of a text whose first segment so far is `current`. -/
def segmentsFrom (current : List Char) : List Char → List (List Char)
  | ':' :: ':' :: cs => current :: segmentsFrom [] cs
  | c :: cs => segmentsFrom (current ++ [c]) cs
  | [] => [current]

def segments (name : String) : List String := (segmentsFrom [] name.toList).map String.ofList

/-- Segments that say where a path starts, and name no item. -/
def anchors : List String := ["", "crate", "self", "super"]

/-- The segments of a path that name a module or an item. -/
def named (name : String) : List String := (segments name).filter (!anchors.contains ·)

/-- Whether two paths agree on every segment that both spell out: one of them ends in the other. -/
def tailsMatch (a b : String) : Bool :=
  let (s, t) := (named a, named b)
  if s.length ≤ t.length then s.isSuffixOf t else t.isSuffixOf s

/-- An item of a module; the module of the root is the empty path. -/
def join (module name : String) : String :=
  if module.isEmpty then name else module ++ "::" ++ name

end SchemaGraph.PathName
