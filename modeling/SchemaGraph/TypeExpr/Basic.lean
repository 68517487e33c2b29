import SchemaGraph.PathName

/-! Occurrences of types, their text and their nesting. -/
namespace SchemaGraph

/-- One occurrence of a type. -/
inductive TypeExpr where
  /-- A named type with its generic arguments. -/
  | named (name : String) (args : List TypeExpr)
  /-- An array of `dims` dimensions. -/
  | array (component : TypeExpr) (dims : Nat)
  /-- A generic parameter. -/
  | var (name : String)
  /-- An unnamed type with an optional upper bound. -/
  | wildcard (upper : Option TypeExpr)
  /-- A type of which nothing is known. -/
  | any
deriving Inhabited, Repr

namespace TypeExpr

/-! Equality is decidable. -/

mutual
def same : TypeExpr → TypeExpr → Bool
  | named n as, named m bs => n == m && sameArgs as bs
  | array a d, array b e => same a b && d == e
  | var n, var m => n == m
  | wildcard u, wildcard v => sameBound u v
  | any, any => true
  | _, _ => false

def sameArgs : List TypeExpr → List TypeExpr → Bool
  | [], [] => true
  | a :: as, b :: bs => same a b && sameArgs as bs
  | _, _ => false

def sameBound : Option TypeExpr → Option TypeExpr → Bool
  | none, none => true
  | some a, some b => same a b
  | _, _ => false
end

mutual
theorem same_iff : ∀ a b : TypeExpr, same a b = true ↔ a = b
  | named n as, b => by cases b <;> simp [same, sameArgs_iff]
  | array a d, b => by cases b <;> simp [same, same_iff a]
  | wildcard u, b => by cases b <;> simp [same, sameBound_iff]
  | var _, b | any, b => by cases b <;> simp [same]

theorem sameArgs_iff : ∀ a b : List TypeExpr, sameArgs a b = true ↔ a = b
  | [], [] | [], _ :: _ | _ :: _, [] => by simp [sameArgs]
  | a :: as, b :: bs => by simp [sameArgs, same_iff a b, sameArgs_iff as bs]

theorem sameBound_iff : ∀ a b : Option TypeExpr, sameBound a b = true ↔ a = b
  | none, none | none, some _ | some _, none => by simp [sameBound]
  | some a, some b => by simp [sameBound, same_iff a b]
end

instance : DecidableEq TypeExpr := fun a b => decidable_of_iff _ (same_iff a b)

/-- An array of `dims` more dimensions: arrays of arrays collapse into one, and no dimension is the
component itself. The sum is exact; `arrayOfWrapping` takes it in words. -/
def arrayOf (component : TypeExpr) (dims : Nat) : TypeExpr :=
  if dims = 0 then component
  else
    match component with
    | array inner n => array inner (n + dims)
    | t => array t dims

/-- The full name of a named type. -/
def baseName? : TypeExpr → Option String
  | named n _ => some n
  | _ => none

/-- The last segment of the name of a named type. -/
def shortName? (t : TypeExpr) : Option String := t.baseName?.map PathName.short

def args : TypeExpr → List TypeExpr
  | named _ as => as
  | _ => []

def isParameterized (t : TypeExpr) : Bool := !t.args.isEmpty

mutual
/-- Whether a generic parameter occurs in the type. -/
def hasVar : TypeExpr → Bool
  | named _ as => hasVarArgs as
  | array c _ => hasVar c
  | var _ => true
  | wildcard u => hasVarBound u
  | any => false

def hasVarArgs : List TypeExpr → Bool
  | [] => false
  | a :: as => hasVar a || hasVarArgs as

def hasVarBound : Option TypeExpr → Bool
  | none => false
  | some a => hasVar a
end

mutual
/-- The deepest nesting of generic arguments and array dimensions: 0 for `User`, 2 for
`Page<Vec<i32>>`. -/
def depth : TypeExpr → Nat
  | named _ [] => 0
  | named _ (a :: as) => 1 + max (depth a) (depthArgs as)
  | array c d => d + depth c
  | var _ | wildcard _ | any => 0

def depthArgs : List TypeExpr → Nat
  | [] => 0
  | a :: as => max (depth a) (depthArgs as)
end

mutual
/-- The characters of the type's text. -/
def chars : TypeExpr → List Char
  | named n [] => n.toList
  | named n (a :: as) => n.toList ++ '<' :: chars a ++ charsArgs as
  | array c d => chars c ++ (List.replicate d ['[', ']']).flatten
  | var n => n.toList
  | wildcard none => ['?']
  | wildcard (some u) => '?' :: ':' :: ' ' :: chars u
  | any => ['a', 'n', 'y']

def charsArgs : List TypeExpr → List Char
  | [] => ['>']
  | a :: as => ',' :: ' ' :: chars a ++ charsArgs as
end

/-- The text of the type. Of a type without variables it is the key under which its definition is
shared: two occurrences with one text are one instantiation. -/
def signature (t : TypeExpr) : String := String.ofList t.chars

end TypeExpr
end SchemaGraph
