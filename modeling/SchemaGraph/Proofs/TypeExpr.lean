import SchemaGraph.Build.Register

/-! Types as trees: induction, the parts of a type, and the types that substitution leaves. -/
namespace SchemaGraph.TypeExpr

/-- Induction with a hypothesis for every argument and for a bound. -/
@[elab_as_elim]
theorem inductOn {motive : TypeExpr → Prop} (t : TypeExpr)
    (named : ∀ n as, (∀ a ∈ as, motive a) → motive (named n as))
    (array : ∀ c d, motive c → motive (array c d))
    (var : ∀ n, motive (var n))
    (wildcard : ∀ u, (∀ t ∈ u, motive t) → motive (wildcard u))
    (any : motive any) : motive t := by
  refine @TypeExpr.rec motive (fun as => ∀ a ∈ as, motive a) (fun u => ∀ t ∈ u, motive t)
    named array var wildcard any ?_ ?_ ?_ ?_ t
  · simp
  · intro a as ha has
    simpa using ⟨ha, has⟩
  · simp
  · intro u hu
    simpa using hu

/-! The traversals, argument by argument. -/

theorem substituteArgs_eq_map (σ : String → TypeExpr) (as : List TypeExpr) :
    substituteArgs σ as = as.map (substitute σ) := by
  induction as with
  | nil => rfl
  | cons a as ih => simp [substituteArgs, ih]

theorem canonicalizeArgs_eq_map (i : Index) (as : List TypeExpr) :
    canonicalizeArgs i as = as.map (canonicalize i) := by
  induction as with
  | nil => rfl
  | cons a as ih => simp [canonicalizeArgs, ih]

theorem depth_le_depthArgs {as : List TypeExpr} {a : TypeExpr} (ha : a ∈ as) :
    a.depth ≤ depthArgs as := by
  induction as with
  | nil => cases ha
  | cons b as ih =>
    simp only [depthArgs]
    rcases List.mem_cons.mp ha with rfl | ha
    · omega
    · have := ih ha
      omega

theorem depth_lt_of_mem_args {n : String} {as : List TypeExpr} {a : TypeExpr} (ha : a ∈ as) :
    a.depth < (named n as).depth := by
  cases as with
  | nil => cases ha
  | cons b as =>
    have := depth_le_depthArgs ha
    simp only [depth, depthArgs] at this ⊢
    omega

/-! The parts of a type. -/

mutual
/-- The type and every type inside it. -/
def parts : TypeExpr → List TypeExpr
  | named n as => named n as :: partsArgs as
  | array c d => array c d :: parts c
  | var n => [var n]
  | wildcard u => wildcard u :: partsBound u
  | any => [any]

def partsArgs : List TypeExpr → List TypeExpr
  | [] => []
  | a :: as => parts a ++ partsArgs as

def partsBound : Option TypeExpr → List TypeExpr
  | none => []
  | some u => parts u
end

theorem partsArgs_eq_flatMap (as : List TypeExpr) : partsArgs as = as.flatMap parts := by
  induction as with
  | nil => rfl
  | cons a as ih => simp [partsArgs, ih]

/-! Types without open places. -/

def isArray : TypeExpr → Bool
  | array _ _ => true
  | _ => false

/-- Whether the top of a type is settled: neither a variable nor a wildcard, and an array has
dimensions and a component that is no array. -/
def isSettled : TypeExpr → Bool
  | named _ _ | any => true
  | array c d => 0 < d && !c.isArray
  | var _ | wildcard _ => false

/-- A type of which every part is settled: no variables, no wildcards, no arrays of arrays and none
without dimensions. -/
def Plain (t : TypeExpr) : Prop := ∀ u ∈ t.parts, u.isSettled = true

theorem plain_named {n : String} {as : List TypeExpr} :
    (named n as).Plain ↔ ∀ a ∈ as, a.Plain := by
  simp only [Plain, parts, partsArgs_eq_flatMap, List.forall_mem_cons, isSettled, List.mem_flatMap,
    true_and]
  exact ⟨fun h a ha u hu => h u ⟨a, ha, hu⟩, fun h u ⟨a, ha, hu⟩ => h a ha u hu⟩

theorem plain_array {c : TypeExpr} {d : Nat} :
    (array c d).Plain ↔ 0 < d ∧ c.isArray = false ∧ c.Plain := by
  simp [Plain, parts, isSettled, and_assoc]

theorem plain_any : any.Plain := by
  simp [Plain, parts, isSettled]

theorem not_plain_var (n : String) : ¬(var n).Plain := by
  simp [Plain, parts, isSettled]

theorem not_plain_wildcard (u : Option TypeExpr) : ¬(wildcard u).Plain := by
  simp [Plain, parts, isSettled]

theorem arrayOf_of_isArray {t : TypeExpr} {d : Nat} (h : t.isArray = false) (hd : 0 < d) :
    t.arrayOf d = array t d := by
  unfold arrayOf
  rw [if_neg (Nat.ne_of_gt hd)]
  split
  · cases h
  · rfl

theorem plain_arrayOf {c : TypeExpr} (hc : c.Plain) (d : Nat) : (arrayOf c d).Plain := by
  unfold arrayOf
  split
  · exact hc
  · cases c with
    | array inner n =>
      obtain ⟨hn, hinner, hp⟩ := plain_array.mp hc
      exact plain_array.mpr ⟨by omega, hinner, hp⟩
    | named n as => exact plain_array.mpr ⟨by omega, rfl, hc⟩
    | var n => exact plain_array.mpr ⟨by omega, rfl, hc⟩
    | wildcard u => exact plain_array.mpr ⟨by omega, rfl, hc⟩
    | any => exact plain_array.mpr ⟨by omega, rfl, hc⟩

theorem arrayOf_arrayOf (t : TypeExpr) (m n : Nat) : (t.arrayOf m).arrayOf n = t.arrayOf (m + n) := by
  by_cases hm : m = 0
  · subst hm
    rw [Nat.zero_add]
    rfl
  · by_cases hn : n = 0
    · subst hn
      rfl
    · cases t <;> simp [arrayOf, hm, hn, Nat.add_assoc]

theorem plain_substitute {σ : String → TypeExpr} (hσ : ∀ n, (σ n).Plain) (t : TypeExpr) :
    (t.substitute σ).Plain := by
  induction t using inductOn with
  | named n as ih =>
    simp only [substitute, substituteArgs_eq_map, plain_named, List.forall_mem_map]
    exact ih
  | array c d ih => exact plain_arrayOf ih d
  | var n => exact hσ n
  | wildcard u ih =>
    cases u with
    | none => exact plain_any
    | some u => exact ih u rfl
  | any => exact plain_any

theorem plain_meaning (s : Scope) (n : String) : (s.meaning n).Plain := by
  induction s generalizing n with
  | nil => exact plain_any
  | cons f outer ih =>
    unfold Scope.meaning
    split
    · exact plain_substitute ih _
    · exact ih n

theorem plain_resolveDeep (s : Scope) (t : TypeExpr) : (s.resolveDeep t).Plain :=
  plain_substitute (plain_meaning s) t

theorem isArray_canonicalize {i : Index} {t : TypeExpr} (ht : t.Plain) :
    (t.canonicalize i).isArray = t.isArray := by
  cases t with
  | array c d =>
    have hd := (plain_array.mp ht).1
    simp only [canonicalize, arrayOf, if_neg (Nat.ne_of_gt hd)]
    split <;> rfl
  | _ => rfl

/-- A settled type keeps its arrays under declared names. -/
theorem canonicalize_array {i : Index} {c : TypeExpr} {d : Nat} (h : (array c d).Plain) :
    (array c d).canonicalize i = array (c.canonicalize i) d := by
  obtain ⟨hd, hc, hp⟩ := plain_array.mp h
  have hca : (c.canonicalize i).isArray = false := (isArray_canonicalize hp).trans hc
  rw [canonicalize, arrayOf_of_isArray hca hd]

theorem plain_canonicalize {i : Index} {t : TypeExpr} (ht : t.Plain) : (t.canonicalize i).Plain := by
  induction t using inductOn with
  | named n as ih =>
    rw [plain_named] at ht
    simp only [canonicalize, canonicalizeArgs_eq_map, plain_named, List.forall_mem_map]
    exact fun a ha => ih a ha (ht a ha)
  | array c d ih => exact plain_arrayOf (ih (plain_array.mp ht).2.2) d
  | var n => exact ht
  | wildcard u => exact ht
  | any => exact ht

end SchemaGraph.TypeExpr

namespace SchemaGraph.Scope

theorem resolveDeep_named (s : Scope) (n : String) (as : List TypeExpr) :
    s.resolveDeep (.named n as) = .named n (as.map s.resolveDeep) := by
  rw [resolveDeep, TypeExpr.substitute, TypeExpr.substituteArgs_eq_map]
  rfl

theorem resolveDeep_array (s : Scope) (c : TypeExpr) (d : Nat) :
    s.resolveDeep (.array c d) = (s.resolveDeep c).arrayOf d := rfl

end SchemaGraph.Scope

namespace SchemaGraph.Frame

variable {P : TypeExpr → Prop}

theorem argumentFor_of {p : TypeParam} {a : Option TypeExpr} (hany : P .any)
    (hp : ∀ t ∈ p.bound, P t) (ha : ∀ t ∈ a, P t) : P (argumentFor p a) := by
  have hd : P (p.bound.getD .any) := by
    cases hb : p.bound with
    | none => exact hany
    | some t => exact hp t hb
  unfold argumentFor
  split
  · exact hd
  · exact hd
  · exact ha _ rfl

theorem forall_pair {ps : List TypeParam} {as : List TypeExpr} (hany : P .any)
    (hp : ∀ p ∈ ps, ∀ t ∈ p.bound, P t) (ha : ∀ a ∈ as, P a) : ∀ e ∈ pair ps as, P e.2 := by
  induction ps generalizing as with
  | nil => simp [pair]
  | cons p ps ih =>
    rw [List.forall_mem_cons] at hp
    cases as with
    | nil =>
      simp only [pair, List.forall_mem_cons]
      exact ⟨argumentFor_of hany hp.1 (by simp), ih hp.2 (by simp)⟩
    | cons a as =>
      rw [List.forall_mem_cons] at ha
      simp only [pair, List.forall_mem_cons]
      exact ⟨argumentFor_of hany hp.1 (by simpa using ha.1), ih hp.2 ha.2⟩

/-- What holds of the arguments of a type and of the bounds of its parameters holds of all bindings. -/
theorem forall_bindings {o : TypeExpr} {d : Declaration} (hany : P .any) (ho : ∀ a ∈ o.args, P a)
    (hd : ∀ p ∈ d.params, ∀ t ∈ p.bound, P t) : ∀ e ∈ (ofType o d).bindings, P e.2 := by
  have hpair := forall_pair hany hd ho
  refine List.foldlRecOn (motive := fun m : List (String × TypeExpr) => ∀ e ∈ m, P e.2) _ _
    (fun _ h => absurd h List.not_mem_nil) (fun m hm e he x hx => ?_)
  rcases Assoc.mem_put hx with hx | hx
  · exact hx ▸ hpair e he
  · exact hm x hx

end SchemaGraph.Frame

namespace SchemaGraph.BuildState

theorem plain_resolved (b : Builder) (s : BuildState) (t : TypeExpr) : (s.resolved b t).Plain :=
  TypeExpr.plain_canonicalize (TypeExpr.plain_resolveDeep s.scope t)

end SchemaGraph.BuildState
