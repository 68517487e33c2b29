import SchemaGraph.Source.Token

/-! What is kept of parsed source: types, literal expressions, attributes and items. -/
namespace SchemaGraph.Source

/-- A type as written. -/
inductive TypeForm where
  /-- A path: whether it starts with a double colon, and its segments with their type arguments. -/
  | path (anchored : Bool) (segments : List (String × Option (List TypeForm)))
  /-- An array or a slice. -/
  | array (element : TypeForm)
  /-- A reference, a pointer, or parentheses. -/
  | around (inner : TypeForm)
  /-- The unit type. -/
  | unit
  /-- A type to be inferred. -/
  | infer
  /-- The trait bounds of a bounded type, each as a path. -/
  | bounded (bounds : List TypeForm)
  /-- Tuples, functions, macro calls, and paths into a type. -/
  | other
deriving Inhabited, Repr

/-- A path with its segments. -/
structure PathForm where
  anchored : Bool
  segments : List (String × Option (List TypeForm))
deriving Inhabited, Repr

namespace PathForm

/-- Whether no segment has arguments. -/
def isPlain (p : PathForm) : Bool := p.segments.all (fun (_, args) => args.isNone)

/-- The name of a path of a single plain segment. -/
def ident? (p : PathForm) : Option String :=
  match p.anchored, p.segments with
  | false, [(name, none)] => some name
  | _, _ => none

def toType (p : PathForm) : TypeForm := .path p.anchored p.segments

end PathForm

/-- A bound of a type or a parameter. -/
inductive BoundForm where
  | trait (path : PathForm)
  /-- A trait that is only bounded for constants. -/
  | constTrait
  /-- A lifetime or a list of captured parameters. -/
  | region
deriving Inhabited, Repr

namespace BoundForm

/-- The path of a trait, as a type. -/
def traitType? : BoundForm → Option TypeForm
  | trait p => some p.toType
  | _ => none

def isRegion : BoundForm → Bool
  | region => true
  | _ => false

end BoundForm

/-- A literal in an expression. -/
inductive Constant where
  | token (l : Literal)
  | bool (b : Bool)
deriving DecidableEq, Inhabited, Repr

/-- An expression: its literals with what may stand around them, and the shapes that decide what may
follow. -/
inductive Expr where
  | constant (c : Constant)
  | negated (e : Expr)
  | array (items : List Expr)
  | paren (e : Expr)
  /-- A range, which is no operand. -/
  | range
  /-- A comparison, which takes no second one. -/
  | comparison
  /-- A block, a conditional, a match or a loop, which ends a statement by itself. -/
  | blockLike
  /-- A call of a macro in braces. -/
  | bracedCall
  | other
deriving Inhabited, Repr

/-- A pattern, as far as it decides what may stand around it. -/
inductive PatternForm where
  /-- A range without one of its ends. -/
  | openRange
  | other
deriving DecidableEq, Inhabited, Repr

/-- What follows the path of an attribute. -/
inductive AttributeBody where
  | bare
  | list (content : List Token)
  | value (e : Expr)
deriving Inhabited, Repr

structure Attribute where
  path : PathForm
  body : AttributeBody
deriving Inhabited, Repr

namespace Attribute

/-- Whether an attribute is of a name. -/
def isNamed (a : Attribute) (name : String) : Bool := a.path.ident? = some name

end Attribute

/-- A type parameter with its default. -/
structure GenericParam where
  name : String
  default? : Option TypeForm
deriving Inhabited, Repr

structure Field where
  attributes : List Attribute
  name : String
  type : TypeForm
deriving Inhabited, Repr

/-- The fields of a struct or a variant. -/
inductive Fields where
  | named (fields : List Field)
  | unnamed
  | unit
deriving Inhabited, Repr

structure StructItem where
  attributes : List Attribute
  name : String
  params : List GenericParam
  fields : Fields
deriving Inhabited, Repr

structure Variant where
  attributes : List Attribute
  name : String
  fields : Fields
deriving Inhabited, Repr

structure EnumItem where
  attributes : List Attribute
  name : String
  variants : List Variant
deriving Inhabited, Repr

inductive Item where
  | struct (s : StructItem)
  | enum (e : EnumItem)
  /-- A module, with its items when they stand in it. -/
  | module (name : String) (content : Option (List Item))
  | other
deriving Inhabited

end SchemaGraph.Source
