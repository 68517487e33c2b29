/-! Reading the characters of TOML text one by one. -/
namespace SchemaGraph.Toml

/-- A reading of the characters at hand, which leaves those that it does not take. -/
abbrev Reader := StateT (List Char) Option

namespace Reader

variable {α : Type}

/-- Takes a character that satisfies a test. -/
def char (test : Char → Bool) : Reader Char := fun
  | c :: cs => if test c then some (c, cs) else none
  | [] => none

def text (s : String) : Reader Unit := fun cs =>
  if s.toList.isPrefixOf cs then some ((), cs.drop s.length) else none

/-- Takes a text when it is there. -/
def optText (s : String) : Reader Bool := fun cs =>
  if s.toList.isPrefixOf cs then some (true, cs.drop s.length) else some (false, cs)

/-- Whether a text is there. -/
def ahead (s : String) : Reader Bool := fun cs => some (s.toList.isPrefixOf cs, cs)

def isEnd : Reader Bool := fun cs => some (cs.isEmpty, cs)

/-- Takes the characters that satisfy a test. -/
def takeWhile (test : Char → Bool) : Reader (List Char) := fun cs =>
  some (cs.takeWhile test, cs.dropWhile test)

/-- Nothing is taken when a reading fails. -/
def attempt (p : Reader α) : Reader (Option α) := fun cs =>
  match p cs with
  | some (a, rest) => some (some a, rest)
  | none => some (none, cs)

/-- Repeats a step until it gives nothing, at most `fuel` times. -/
def iterateFor (step : α → Reader (Option α)) : Nat → α → Reader α
  | 0, _ => failure
  | fuel + 1, a => do
    match ← step a with
    | some a' => iterateFor step fuel a'
    | none => return a

/-- Repeats a step that takes characters until it gives nothing. -/
def iterate (step : α → Reader (Option α)) (a : α) : Reader α := do
  iterateFor step ((← get).length + 2) a

def blanks : Reader Unit := do
  let _ ← takeWhile (fun c => c = ' ' || c = '\t')

def newline : Reader Unit := do
  if !(← optText "\n") then text "\r\n"

/-- Whether a character may stand in a comment or a text: no control character but a tab. -/
def isPlain (c : Char) : Bool := c = '\t' || (32 ≤ c.toNat && c.toNat ≠ 127)

/-- A comment up to the end of its line. -/
def optComment : Reader Unit := do
  if ← optText "#" then
    let _ ← takeWhile isPlain

/-- What may follow an entry in its line, and the end of the line. -/
def lineEnd : Reader Unit := do
  blanks
  optComment
  if !(← isEnd) then newline

/-- Blanks, comments and ends of lines. -/
def filler : Reader Unit :=
  iterate
    (fun () => do
      blanks
      if ← ahead "#" then
        optComment
        newline
        return some ()
      if (← ahead "\n") || (← ahead "\r") then
        newline
        return some ()
      return none)
    ()

end Reader
end SchemaGraph.Toml
