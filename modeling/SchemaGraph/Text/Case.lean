import SchemaGraph.Text.CharClass
import SchemaGraph.Text.CaseContext
import SchemaGraph.Text.CaseMap

/-! Character classes and case mappings; ASCII characters are decided without the tables. -/
namespace SchemaGraph.Text

def isAscii (c : Char) : Bool := c.toNat < 128

def isUpper (c : Char) : Bool :=
  if isAscii c then c.isUpper else CharSet.uppercase.contains c

def isLower (c : Char) : Bool :=
  if isAscii c then c.isLower else CharSet.lowercase.contains c

def isAlphanumeric (c : Char) : Bool :=
  if isAscii c then c.isAlphanum else CharSet.alphanumeric.contains c

/-- The upper-case form of a character, which may have several. -/
def toUpper (c : Char) : List Char :=
  if isAscii c then [c.toUpper] else CaseMap.upper.apply c

/-- The lower-case form of a character. -/
def toLower (c : Char) : List Char :=
  if isAscii c then [c.toLower] else CaseMap.lower.apply c

/-- Maps the first character of a text to upper case. -/
def capitalize : List Char → List Char
  | [] => []
  | c :: cs => toUpper c ++ cs

/-- Maps the first character of a text to lower case. -/
def uncapitalize : List Char → List Char
  | [] => []
  | c :: cs => toLower c ++ cs

def upperAll (cs : List Char) : List Char := cs.flatMap toUpper

/-- Whether the first character that is not case-ignorable has a case. -/
def startsCased (cs : List Char) : Bool :=
  match cs.dropWhile CharSet.caseIgnorable.contains with
  | [] => false
  | c :: _ => CharSet.cased.contains c

/-- Maps every character to lower case, of which `before` are the ones already passed, the nearest
first: a sigma that ends a word takes its final form. -/
def lowerFrom (before : List Char) : List Char → List Char
  | [] => []
  | c :: cs =>
    let image :=
      if c = 'Σ' then [if startsCased before && !startsCased cs then 'ς' else 'σ'] else toLower c
    image ++ lowerFrom (c :: before) cs

def lowerAll (cs : List Char) : List Char := lowerFrom [] cs

end SchemaGraph.Text
