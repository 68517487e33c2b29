import Mathlib.Logic.Relation
import SchemaGraph.Build.Walk

/-! The calls of a walk that are under way at the same time. -/
namespace SchemaGraph

/-- A walk under way. A call that goes on with another one waits for it; `waiting` says what each does
with the result, and `depth` is what the limit on nesting is compared with. -/
inductive Walking where
  /-- A call was just made. -/
  | call (type : TypeExpr) (node : Schema) (state : BuildState) (depth : Nat)
    (waiting : List (Walked → Walked))
  /-- A call just returned. -/
  | result (walked : Walked) (depth : Nat) (waiting : List (Walked → Walked))

namespace Walking

open BuildState

/-- What a call comes to whose type is within the limit on nesting. -/
def proceed (node : Schema) (s : BuildState) (depth : Nat) (waiting : List (Walked → Walked)) :
    Visit → Walking
  | .answer t schema s => result ⟨t, node.overlay schema, s⟩ depth waiting
  | .pass t => call t node s (depth + 1) (id :: waiting)
  | .wrap t around stands =>
    call t .empty s (depth + 1)
      ((fun w => ⟨stands w.type, node.overlay (around w.schema), w.state⟩) :: waiting)

/-- What comes next, unless the first call has returned. -/
def next (b : Builder) : Walking → Option Walking
  | call t node s depth waiting =>
    some (if b.options.maxNesting ≤ depth then result (walkWithin b 0 t node s) depth waiting
      else proceed node s depth waiting (visit b t s))
  | result w depth (resume :: waiting) => some (result (resume w) (depth - 1) waiting)
  | result _ _ [] => none

/-- The number of calls that have not returned. -/
def calls : Walking → Nat
  | call _ _ _ _ waiting => waiting.length + 1
  | result _ _ waiting => waiting.length

/-- The number of these that are within the limit on nesting. -/
def admitted (b : Builder) : Walking → Nat
  | call _ _ _ depth waiting =>
    if b.options.maxNesting ≤ depth then waiting.length else waiting.length + 1
  | result _ _ waiting => waiting.length

/-- The start of a walk. -/
def start (t : TypeExpr) (node : Schema) (s : BuildState) : Walking := call t node s 0 []

/-- Whether a walk that is at the first place comes to the second. -/
def Reaches (b : Builder) : Walking → Walking → Prop :=
  Relation.ReflTransGen (fun m n => m.next b = some n)

/-- Whether the depth of a walk is the number of its calls that wait, and within the limit. -/
def Counted (b : Builder) : Walking → Prop
  | call _ _ _ depth waiting => depth = waiting.length ∧ depth ≤ b.options.maxNesting
  | result _ depth waiting => depth = waiting.length ∧ depth ≤ b.options.maxNesting

variable {b : Builder} {m n : Walking}

theorem counted_start (t : TypeExpr) (node : Schema) (s : BuildState) : (start t node s).Counted b :=
  ⟨rfl, Nat.zero_le _⟩

theorem Counted.next (h : m.Counted b) (hn : m.next b = some n) : n.Counted b := by
  cases m with
  | call t node s depth waiting =>
    obtain ⟨hlen, hle⟩ := h
    cases hn
    split
    · exact ⟨hlen, hle⟩
    · rename_i hlt
      have hdeeper : depth + 1 ≤ b.options.maxNesting := by omega
      generalize visit b t s = step
      cases step with
      | answer stands schema s' => exact ⟨hlen, hle⟩
      | pass u => exact ⟨congrArg Nat.succ hlen, hdeeper⟩
      | wrap u around stands => exact ⟨congrArg Nat.succ hlen, hdeeper⟩
  | result w depth waiting =>
    obtain ⟨hlen, hle⟩ := h
    cases waiting with
    | nil => cases hn
    | cons resume waiting =>
      cases hn
      rw [List.length_cons] at hlen
      exact ⟨by omega, by omega⟩

theorem Counted.reaches (h : m.Counted b) (hr : Reaches b m n) : n.Counted b := by
  induction hr with
  | refl => exact h
  | tail _ hn ih => exact ih.next hn

theorem Counted.admitted_le (h : m.Counted b) : m.admitted b ≤ b.options.maxNesting := by
  cases m with
  | call t node s depth waiting =>
    obtain ⟨hlen, hle⟩ := h
    rw [admitted]
    split <;> omega
  | result w depth waiting =>
    obtain ⟨hlen, hle⟩ := h
    rw [admitted]
    omega

/-- The call beyond the limit is at most one. -/
theorem calls_le_admitted (m : Walking) : m.calls ≤ m.admitted b + 1 := by
  cases m with
  | call t node s depth waiting =>
    rw [calls, admitted]
    split <;> omega
  | result w depth waiting =>
    rw [calls, admitted]
    omega

/-- A call returns with the result of the walk, whatever waits for it. -/
theorem reaches_result {room depth : Nat} (h : room + depth = b.options.maxNesting) (t : TypeExpr)
    (node : Schema) (s : BuildState) (waiting : List (Walked → Walked)) :
    Reaches b (call t node s depth waiting) (result (walkWithin b room t node s) depth waiting) := by
  induction room generalizing t node depth waiting with
  | zero =>
    refine .single ?_
    rw [next, if_pos (by omega)]
  | succ room ih =>
    have hcall : (call t node s depth waiting).next b =
        some (proceed node s depth waiting (visit b t s)) := by
      rw [next, if_neg (by omega)]
    unfold walkWithin
    generalize visit b t s = step at hcall ⊢
    cases step with
    | answer stands schema s' => exact .single hcall
    | pass u => exact .head hcall (.tail (ih (by omega) u node _) rfl)
    | wrap u around stands => exact .head hcall (.tail (ih (by omega) u .empty _) rfl)

/-- A walk ends with its result. -/
theorem reaches_walk (b : Builder) (t : TypeExpr) (node : Schema) (s : BuildState) :
    Reaches b (start t node s) (result (s.walk b t node) 0 []) :=
  reaches_result (Nat.add_zero _) t node s []

end Walking
end SchemaGraph
