import SchemaGraph.Proofs.Repeat

/-! The trail of a walk: from one occurrence of a type to the next one inside it, down to the type that is
registered. Every step of it goes to an argument, to a component or to a meaning, so that two levels more than
a type is deep are enough for its walk. -/
namespace SchemaGraph

namespace TypeExpr

/-- Whether a type, if it is an array, has dimensions. -/
def hasDims : TypeExpr → Bool
  | array _ d => 0 < d
  | _ => true

/-- Whether every array in a type has dimensions. -/
def Dimensioned (t : TypeExpr) : Prop := ∀ u ∈ t.parts, u.hasDims = true

instance (t : TypeExpr) : Decidable t.Dimensioned :=
  inferInstanceAs (Decidable (∀ u ∈ t.parts, _))

end TypeExpr

/-- The types that a walk can come to from a type in one step. -/
inductive Below (scope : Scope) : TypeExpr → TypeExpr → Prop
  | argument {n : String} {as : List TypeExpr} {a : TypeExpr} (h : a ∈ as) :
    Below scope (.named n as) a
  | component (c : TypeExpr) (d : Nat) : Below scope (.array c d) c
  | meaning (n : String) : Below scope (.var n) (scope.meaning n)
  | bound (u : Option TypeExpr) :
    Below scope (.wildcard u) (TypeExpr.substituteBound scope.meaning u)

/-- The type with which a step goes on. -/
def Visit.next? : Visit → Option TypeExpr
  | answer _ _ _ => none
  | pass u => some u
  | wrap u _ _ => some u

namespace BuildState

variable {b : Builder} {s s' : BuildState} {scope : Scope} {t u v : TypeExpr} {room : Nat}

theorem below_visitNamed {name : String} {args : List TypeExpr}
    (h : (visitNamed b name args s).next? = some u) : Below s.scope (.named name args) u := by
  have hargument : ∀ a ∈ args, some a = some u → Below s.scope (.named name args) u := by
    rintro a ha heq
    cases heq
    exact .argument ha
  dsimp only [visitNamed] at h
  split at h
  · cases h
  · split at h
    · cases args with
      | nil => cases h
      | cons a as => exact hargument a (List.mem_cons_self ..) h
    · split at h
      · unfold visitEnum at h
        split at h <;> cases h
      · split at h
        · cases args with
          | nil => cases h
          | cons a as => exact hargument a (List.mem_cons_self ..) h
        · split at h
          · unfold visitMap at h
            split at h
            · exact hargument _ (by simp) h
            · cases h
          · cases h

theorem below_visit (h : (visit b t s).next? = some u) : Below s.scope t u := by
  unfold visit at h
  split at h
  · cases h
  · cases t with
    | named name args => exact below_visitNamed h
    | array c d =>
      cases h
      exact .component _ d
    | var name =>
      dsimp only at h
      split at h
      · cases h
      · cases h
        exact .meaning name
    | wildcard w =>
      cases h
      exact .bound w
    | any => cases h

theorem next?_congr (b : Builder) (t : TypeExpr) (h : s.scope = s'.scope) :
    (visit b t s).next? = (visit b t s').next? := by
  cases uniform_visit b t s'.scope with
  | answer e stands schema hv => rw [hv s h, hv s' rfl]; rfl
  | pass u hv => rw [hv s h, hv s' rfl]
  | wrap u around stands hv => rw [hv s h, hv s' rfl]

/-- Whether the walk of a type in a scope goes on with another one. -/
def Onward (b : Builder) (scope : Scope) (t u : TypeExpr) : Prop :=
  ∃ s : BuildState, s.scope = scope ∧ (visit b t s).next? = some u

theorem onward_iff : Onward b s.scope t u ↔ (visit b t s).next? = some u := by
  constructor
  · rintro ⟨s', hs, h⟩
    rwa [next?_congr b t hs] at h
  · exact fun h => ⟨s, rfl, h⟩

theorem Onward.below (h : Onward b scope t u) : Below scope t u := by
  obtain ⟨s, rfl, hnext⟩ := h
  exact below_visit hnext

/-- Whether the walk of a type in a scope comes to another one, or starts there. -/
abbrev Trail (b : Builder) (scope : Scope) : TypeExpr → TypeExpr → Prop :=
  Relation.ReflTransGen (Onward b scope)

/-- What a walk comes to lies on its trail. -/
theorem trail_of_mem_descent (h : u ∈ descent b room t s) : Trail b s.scope t u := by
  induction room generalizing t with
  | zero => cases h
  | succ room ih =>
    unfold descent at h
    rcases List.mem_cons.mp h with rfl | h
    · exact .refl
    · cases hv : visit b t s with
      | answer stands schema s' =>
        rw [hv] at h
        cases h
      | pass v =>
        rw [hv] at h
        have honward : Onward b s.scope t v := onward_iff.mpr (by rw [hv]; rfl)
        exact .head honward (ih h)
      | wrap v around stands =>
        rw [hv] at h
        have honward : Onward b s.scope t v := onward_iff.mpr (by rw [hv]; rfl)
        exact .head honward (ih h)

/-- What lies on the trail of a walk that ends, the walk comes to. -/
theorem Trail.mem_descent (h : Ends b room t s) (hu : Trail b s.scope t u) :
    u ∈ descent b room t s := by
  induction room generalizing t with
  | zero => exact absurd h (not_ends_zero b t s)
  | succ room ih =>
    unfold descent
    rcases hu.cases_head with rfl | ⟨v, honward, hu⟩
    · exact List.mem_cons_self ..
    · have hnext := onward_iff.mp honward
      cases hv : visit b t s with
      | answer stands schema s' =>
        rw [hv] at hnext
        cases hnext
      | pass w =>
        rw [hv] at hnext
        obtain rfl := Option.some.inj hnext
        exact List.mem_cons_of_mem t (ih ((ends_pass hv).mp h) hu)
      | wrap w around stands =>
        rw [hv] at hnext
        obtain rfl := Option.some.inj hnext
        exact List.mem_cons_of_mem t (ih ((ends_wrap hv).mp h) hu)

/-- A walk that ends registers the type on its trail that is registered. -/
theorem Ends.state_eq (h : Ends b room t s) (hu : Trail b s.scope t u) (hr : registers b u = true)
    (node : Schema) : (walkWithin b room t node s).state = (s.register b u).2 := by
  induction room generalizing t node with
  | zero => exact absurd h (not_ends_zero b t s)
  | succ room ih =>
    have hstep := affects_visit b t s
    generalize hv : visit b t s = step at hstep
    rcases hu.cases_head with rfl | ⟨v, honward, hu⟩
    · cases hstep with
      | register _ stands schema => rw [walkWithin_answer hv]
      | answer hnot | note hnot | pass hnot | wrap hnot =>
        rw [hr] at hnot
        cases hnot
    · have hnext := onward_iff.mp honward
      rw [hv] at hnext
      cases hstep with
      | answer | note | register => cases hnext
      | pass _ w =>
        cases hnext
        rw [walkWithin_pass hv]
        exact ih ((ends_pass hv).mp h) hu node
      | wrap _ w around stands =>
        cases hnext
        rw [walkWithin_wrap hv]
        exact ih ((ends_wrap hv).mp h) hu .empty

/-! How many levels a walk needs. -/

theorem ends_of_next? (h : ∀ u, (visit b t s).next? = some u → Ends b room u s) :
    Ends b (room + 1) t s := by
  cases hv : visit b t s with
  | answer stands schema s' => exact ends_answer hv room
  | pass u => exact (ends_pass hv).mpr (h u (by rw [hv]; rfl))
  | wrap u around stands => exact (ends_wrap hv).mpr (h u (by rw [hv]; rfl))

/-- One level more than a settled type is deep. -/
theorem ends_of_plain (ht : t.Plain) (hroom : t.depth < room) : Ends b room t s := by
  induction room generalizing t with
  | zero => omega
  | succ room ih =>
    apply ends_of_next?
    intro u hu
    cases below_visit hu with
    | @argument n as a ha =>
      have hlt := TypeExpr.depth_lt_of_mem_args (n := n) ha
      exact ih (TypeExpr.plain_named.mp ht u ha) (by omega)
    | component c d =>
      obtain ⟨hd, -, hc⟩ := TypeExpr.plain_array.mp ht
      rw [TypeExpr.depth] at hroom
      exact ih hc (by omega)
    | meaning n => exact absurd ht (TypeExpr.not_plain_var n)
    | bound w => exact absurd ht (TypeExpr.not_plain_wildcard w)

/-- Two levels more than a type with its meaning is deep, since on its trail at most one variable or
wildcard is replaced. -/
theorem ends_of_depth (ht : t.Dimensioned) (hroom : (s.scope.resolveDeep t).depth + 2 ≤ room) :
    Ends b room t s := by
  induction room generalizing t with
  | zero => omega
  | succ room ih =>
    apply ends_of_next?
    intro u hu
    cases below_visit hu with
    | @argument n as a ha =>
      rw [Scope.resolveDeep_named] at hroom
      have hmem := List.mem_map_of_mem (f := s.scope.resolveDeep) ha
      have hlt := TypeExpr.depth_lt_of_mem_args (n := n) hmem
      refine ih (fun v hv => ht v ?_) (by omega)
      exact TypeExpr.mem_parts_trans (TypeExpr.mem_parts_of_mem_args (t := .named n as) ha) hv
    | component _ d =>
      have hd : 0 < d := of_decide_eq_true (ht (.array u d) (TypeExpr.mem_parts_self _))
      rw [Scope.resolveDeep_array, TypeExpr.depth_arrayOf] at hroom
      refine ih (fun v hv => ht v ?_) (by omega)
      rw [TypeExpr.parts]
      exact List.mem_cons_of_mem _ hv
    | meaning n =>
      -- The level spent here leaves a type that is no shallower, but settled, so that none is spent so again.
      have hdepth : (s.scope.meaning n).depth + 2 ≤ room + 1 := hroom
      exact ends_of_plain (TypeExpr.plain_meaning s.scope n) (by omega)
    | bound w =>
      have hplain : (s.scope.resolveDeep (.wildcard w)).Plain := TypeExpr.plain_resolveDeep _ _
      have hdepth : (s.scope.resolveDeep (.wildcard w)).depth + 2 ≤ room + 1 := hroom
      exact ends_of_plain hplain (Nat.lt_of_succ_le (Nat.le_of_succ_le_succ hdepth))

/-- What lies on a trail is not deeper than where it starts. -/
theorem Trail.depth_le (h : Trail b scope t u) :
    (scope.resolveDeep u).depth ≤ (scope.resolveDeep t).depth := by
  induction h with
  | refl => exact Nat.le_refl _
  | tail _ honward ih =>
    refine Nat.le_trans ?_ ih
    cases honward.below with
    | @argument n as a ha =>
      rw [Scope.resolveDeep_named]
      exact Nat.le_of_lt (TypeExpr.depth_lt_of_mem_args (List.mem_map_of_mem ha))
    | component c d =>
      rw [Scope.resolveDeep_array, TypeExpr.depth_arrayOf]
      exact Nat.le_add_left ..
    | meaning n =>
      rw [Scope.resolveDeep_of_plain scope (TypeExpr.plain_meaning scope n)]
      exact Nat.le_refl _
    | bound w =>
      have hplain : (scope.resolveDeep (.wildcard w)).Plain := TypeExpr.plain_resolveDeep _ _
      have hsame := Scope.resolveDeep_of_plain scope hplain
      exact Nat.le_of_eq (congrArg TypeExpr.depth hsame)

end BuildState
end SchemaGraph
