import Mathlib.Algebra.Ring.Nat
import SchemaGraph.Proofs.Links

/-! The limit on nesting: how deep the schema of a type nests, and what is left out of it. -/
namespace SchemaGraph

namespace Schema

mutual
/-- How deep items and values of maps nest in a node. -/
def levels : Schema → Nat
  | { items, additionalProperties, .. } => max (childLevels items) (childLevels additionalProperties)

def childLevels : Option Schema → Nat
  | none => 0
  | some s => levels s + 1
end

/-- Whether the second node is the first one with an opaque object in the place of one node, which may
stand below items and values of maps. -/
inductive Cut : Schema → Schema → Prop
  | here (s : Schema) : Cut s BuildState.opaqueObject
  | items {s i j : Schema} (hs : s.items = some i) (h : Cut i j) :
    Cut s { s with items := some j }
  | values {s v w : Schema} (hs : s.additionalProperties = some v) (h : Cut v w) :
    Cut s { s with additionalProperties := some w }

variable {s t : Schema}

theorem levels_of_isFlat (h : s.isFlat = true) : s.levels = 0 := by
  simp only [isFlat, Bool.and_eq_true, Option.isNone_iff_eq_none, and_assoc] at h
  obtain ⟨-, hitems, -, hvalues⟩ := h
  cases s
  simp_all [levels, childLevels]

theorem levels_arrayOf (s : Schema) (unique : Option Bool) :
    ({ arrayOf s with uniqueItems := unique } : Schema).levels = s.levels + 1 := by
  simp [arrayOf, levels, childLevels]

theorem levels_mapOf (s : Schema) : (mapOf s).levels = s.levels + 1 := by
  simp [mapOf, levels, childLevels]

theorem levels_nest (s : Schema) (n : Nat) : (s.nest n).levels = s.levels + n := by
  induction n with
  | zero => rfl
  | succ n ih =>
    have hstep := levels_arrayOf (s.nest n) none
    rw [ih] at hstep
    exact hstep

theorem Cut.nest (h : Cut s t) (n : Nat) : Cut (s.nest n) (t.nest n) := by
  induction n with
  | zero => exact h
  | succ n ih => exact .items rfl ih

end Schema

namespace BuildState

/-- The types that a walk comes to with levels left, one below the other. -/
def descent (b : Builder) : Nat → TypeExpr → BuildState → List TypeExpr
  | 0, _, _ => []
  | room + 1, t, s =>
    t :: match visit b t s with
      | .answer _ _ _ => []
      | .pass u | .wrap u _ _ => descent b room u s

/-- The dimensions of an array after its first one. -/
def furtherDims : TypeExpr → Nat
  | .array _ d => d - 1
  | _ => 0

end BuildState

/-- Whether a step of a walk from a type adds one level, or as many as the type has dimensions, to what
it finds below, and leaves the state alone where it goes on. -/
def Visit.Adds (t : TypeExpr) : Visit → Prop
  | answer _ schema _ => schema.levels ≤ 1
  | pass _ => True
  | wrap _ around _ => (∀ s, (around s).levels ≤ s.levels + 1 + BuildState.furtherDims t) ∧
      ∀ s s', Schema.Cut s s' → Schema.Cut (around s) (around s')

namespace BuildState

variable {b : Builder} {s : BuildState} {t : TypeExpr}

theorem adds_answer {schema : Schema} (stands : TypeExpr) (h : schema.levels = 0) :
    (Visit.answer stands schema s).Adds t := by
  change schema.levels ≤ 1
  omega

theorem levels_register (b : Builder) (t : TypeExpr) (s : BuildState) :
    (s.register b t).1.levels = 0 := by
  generalize hr : s.register b t = r
  cases hr ▸ registered b t s with
  | refused r why => rfl
  | known id hid => rfl
  | defined d hd => rfl

theorem adds_visitEnum (name : String) : (visitEnum b t name s).Adds t := by
  unfold visitEnum
  split
  · exact adds_answer _ rfl
  · exact adds_answer _ rfl

theorem adds_visitCollection (name : String) (args : List TypeExpr) (stands : TypeExpr) :
    (visitCollection b name args stands s).Adds t := by
  cases args with
  | nil => exact Nat.le_of_eq (Schema.levels_arrayOf .empty _)
  | cons a as =>
    constructor
    · intro items
      rw [Schema.levels_arrayOf]
      omega
    · exact fun items items' h => .items rfl h

theorem adds_visitMap (args : List TypeExpr) (stands : TypeExpr) :
    (visitMap args stands s).Adds t := by
  unfold visitMap
  split
  · constructor
    · intro values
      rw [Schema.levels_mapOf]
      omega
    · exact fun values values' h => .values rfl h
  · exact Nat.le_of_eq (Schema.levels_mapOf .empty)

theorem adds_visitNamed (hb : b.Flat) (name : String) (args : List TypeExpr) :
    (visitNamed b name args s).Adds (.named name args) := by
  dsimp only [visitNamed]
  split
  · rename_i terminal hterminal
    exact adds_answer _ (Schema.levels_of_isFlat (hb.terminal name terminal hterminal))
  · split
    · cases args with
      | nil => exact adds_answer _ rfl
      | cons a as => trivial
    · split
      · exact adds_visitEnum name
      · split
        · exact adds_visitCollection name args _
        · split
          · exact adds_visitMap args _
          · exact adds_answer _ (levels_register b _ s)

theorem adds_visit (hb : b.Flat) (t : TypeExpr) (s : BuildState) : (visit b t s).Adds t := by
  unfold visit
  split
  · rename_i schema hschema
    exact adds_answer _ (Schema.levels_of_isFlat (hb.convert t schema hschema))
  · cases t with
    | named name args => exact adds_visitNamed hb name args
    | array c d =>
      constructor
      · intro items
        rw [Schema.levels_nest]
        simp only [furtherDims]
        omega
      · exact fun items items' h => h.nest d
    | var name =>
      dsimp only
      split
      · exact adds_answer _ rfl
      · trivial
    | wildcard u => trivial
    | any => exact adds_answer _ rfl

/-- Every level of the limit gives at most one level of the schema, but for the further dimensions of
arrays. -/
theorem levels_walkWithin_le (hb : b.Flat) (room : Nat) (t : TypeExpr) (s : BuildState) :
    (walkWithin b room t .empty s).schema.levels ≤
      room + ((descent b room t s).map furtherDims).sum := by
  induction room generalizing t with
  | zero => exact Nat.zero_le _
  | succ room ih =>
    have hstep := adds_visit hb t s
    simp only [walkWithin, descent, List.map_cons, List.sum_cons]
    cases hv : visit b t s with
    | answer stands schema s' =>
      rw [hv] at hstep
      simp only [Visit.follow, Schema.empty_overlay]
      exact Nat.le_trans hstep (by omega)
    | pass u =>
      have := ih u
      simp only [Visit.follow]
      omega
    | wrap u around stands =>
      rw [hv] at hstep
      have hbelow := ih u
      have haround := hstep.1 (walkWithin b room u .empty s).schema
      simp only [Visit.follow, Schema.empty_overlay]
      omega

/-- A walk with more levels comes to the same, unless it comes to a type below the levels of the first:
then that type is left opaque, with a note. -/
theorem walkWithin_add (hb : b.Flat) (room more : Nat) (t : TypeExpr) (s : BuildState) :
    match (descent b (room + more) t s)[room]? with
    | none => walkWithin b (room + more) t .empty s = walkWithin b room t .empty s
    | some u =>
      Schema.Cut (walkWithin b (room + more) t .empty s).schema
          (walkWithin b room t .empty s).schema ∧
        (walkWithin b room t .empty s).state =
          s.record .nestingLimitReached u.signature (nestingMessage b.options.maxNesting) := by
  induction room generalizing t with
  | zero =>
    cases more with
    | zero => rfl
    | succ more =>
      simp only [descent, List.getElem?_cons_zero, walkWithin, Schema.empty_overlay,
        and_true]
      exact .here _
  | succ room ih =>
    have hstep := adds_visit hb t s
    rw [Nat.succ_add]
    simp only [walkWithin, descent, List.getElem?_cons_succ]
    cases hv : visit b t s with
    | answer stands schema s' => rfl
    | pass u => exact ih u
    | wrap u around stands =>
      rw [hv] at hstep
      have hbelow := ih u
      simp only [Visit.follow, Schema.empty_overlay]
      cases hu : (descent b (room + more) u s)[room]? with
      | none =>
        rw [hu] at hbelow
        simp only [hbelow]
      | some below =>
        rw [hu] at hbelow
        exact ⟨hstep.2 _ _ hbelow.1, hbelow.2⟩

/-- Where the limit leaves `o.maxNesting - depth` levels, the schema of a type nests no deeper but for
the further dimensions of arrays. What a walk with more levels finds below is left out of it, and only
that: an opaque object stands there, and the note names the type. -/
theorem nesting_walkWithin (index : Index) (overrides : OverrideMap)
    (filters : List (Declaration → Member → Bool)) (o : Options) (s : BuildState) (t : TypeExpr)
    (depth more : Nat) :
    let b := Builder.ofHost index overrides filters o
    let room := o.maxNesting - depth
    let shallow := walkWithin b room t .empty s
    let deep := walkWithin b (room + more) t .empty s
    shallow.schema.levels ≤ room + ((descent b room t s).map furtherDims).sum ∧
      match (descent b (room + more) t s)[room]? with
      | none => deep = shallow
      | some below =>
        Schema.Cut deep.schema shallow.schema ∧
          shallow.state =
            s.record .nestingLimitReached below.signature (nestingMessage o.maxNesting) := by
  intro b room shallow deep
  have hb : b.Flat := Builder.flat_ofHost index overrides filters o
  exact ⟨levels_walkWithin_le hb room t s, walkWithin_add hb room more t s⟩

/-- An array of three dimensions counts as one level of the limit, so that its schema nests deeper
than a limit of two, and nothing notes it. -/
theorem levels_gt_maxNesting :
    let b := Builder.ofHost .standard {} [] { maxNesting := 2 }
    let w := (init b).walk b (.array (.named "u8" []) 3) .empty
    TypeExpr.ofSource? "[[[u8; 4]; 3]; 2]" [] = some (.array (.named "u8" []) 3) ∧
      b.options.maxNesting < w.schema.levels ∧ w.state.diagnostics = [] := by
  decide +kernel

end BuildState
end SchemaGraph
