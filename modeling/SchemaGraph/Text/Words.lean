import SchemaGraph.Text.Case

/-! The words of an identifier, and the spellings of a list of words. -/
namespace SchemaGraph.Text

/-- Separators between words. -/
def isSeparator (c : Char) : Bool := c = '_' || c = '-'

/-- Whether a word starts at `c`, between `prev` and `next`: an upper-case letter after a lower-case
one or a digit, or the last capital of a run before a lower-case letter. -/
def startsWord (prev c : Char) (next : Option Char) : Bool :=
  isUpper c && (isLower prev || prev.isDigit || (isUpper prev && next.any isLower))

/-- The words of a text whose last word so far is `current` and whose last character is `prev`. -/
def wordsFrom (current : List Char) (prev : Char) : List Char → List (List Char)
  | [] => if current.isEmpty then [] else [current]
  | c :: cs =>
    if isSeparator c then
      if current.isEmpty then wordsFrom [] c cs else current :: wordsFrom [] c cs
    else if !current.isEmpty && startsWord prev c cs.head? then
      current :: wordsFrom (toLower c) c cs
    else wordsFrom (current ++ toLower c) c cs

/-- The words of an identifier in snake, kebab, camel or Pascal case, in lower case. -/
def words (name : List Char) : List (List Char) := wordsFrom [] '_' name

/-- A rule for the spelling of names. -/
inductive CaseRule where
  | camel
  | pascal
  | snake
  | kebab
  | screamingSnake
  | screamingKebab
  | lower
  | upper
deriving DecidableEq, Inhabited, Repr

namespace CaseRule

/-- The rule of a name. -/
def named? : String → Option CaseRule
  | "camelCase" => some camel
  | "PascalCase" => some pascal
  | "snake_case" => some snake
  | "kebab-case" => some kebab
  | "SCREAMING_SNAKE_CASE" => some screamingSnake
  | "SCREAMING-KEBAB-CASE" => some screamingKebab
  | "lowercase" => some lower
  | "UPPERCASE" => some upper
  | _ => none

/-- The words capitalised and run together. -/
def pascalCase (ws : List (List Char)) : List Char := ws.flatMap capitalize

/-- A name in the spelling of a rule. -/
def spell (rule : CaseRule) (name : List Char) : List Char :=
  match rule with
  | camel => uncapitalize (pascalCase (words name))
  | pascal => pascalCase (words name)
  | snake => ['_'].intercalate (words name)
  | kebab => ['-'].intercalate (words name)
  | screamingSnake => upperAll (['_'].intercalate (words name))
  | screamingKebab => upperAll (['-'].intercalate (words name))
  | lower => lowerAll name
  | upper => upperAll name

end CaseRule

/-- A field name under the rule of that name; without a known rule it stays as it is. -/
def renameField (name : String) (rule : Option String) : String :=
  match rule.bind CaseRule.named? with
  | some r => String.ofList (r.spell name.toList)
  | none => name

end SchemaGraph.Text
