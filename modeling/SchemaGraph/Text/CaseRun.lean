/-! Case mappings as runs of code points with one distance to their images. -/
namespace SchemaGraph

/-- Every `step`-th code point from `first` to `last` maps to the one `shift` further. -/
structure CaseRun where
  first : Nat
  last : Nat
  step : Nat
  shift : Int

/-- A case mapping: sorted runs, and the characters that map to several. -/
structure CaseMap where
  runs : Array CaseRun
  expansions : List (Nat × List Nat)

namespace CaseMap

/-- The run that holds `x`, searched between `low` and `high`. -/
def findRun (a : Array CaseRun) (x : Nat) : Nat → Nat → Nat → Option CaseRun
  | 0, _, _ => none
  | steps + 1, low, high =>
    if high ≤ low then none
    else
      let mid := (low + high) / 2
      match a[mid]? with
      | none => none
      | some r =>
        if x < r.first then findRun a x steps low mid
        else if r.last < x then findRun a x steps (mid + 1) high
        else if (x - r.first) % r.step = 0 then some r
        else none

/-- The image of a character. -/
def apply (m : CaseMap) (c : Char) : List Char :=
  let x := c.toNat
  match m.expansions.lookup x with
  | some codes => codes.map Char.ofNat
  | none =>
    match findRun m.runs x (m.runs.size.log2 + 1) 0 m.runs.size with
    | some r => [Char.ofNat (x + r.shift).toNat]
    | none => [c]

end CaseMap
end SchemaGraph
