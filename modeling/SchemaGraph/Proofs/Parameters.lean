import SchemaGraph.Proofs.Fields
import SchemaGraph.Proofs.Guarded
import SchemaGraph.Proofs.Levels

/-! What the parameters of a declaration mean below the frame of one of its types: their arguments, else
their bounds, else nothing known. -/
namespace SchemaGraph

/-! Substitutions that agree on the variables of a type. -/

namespace TypeExpr

variable {t c c' : TypeExpr} {σ τ : String → TypeExpr} {d : Nat}

theorem arrayOf_inj (hc : c.Plain) (hc' : c'.Plain) : c.arrayOf d = c'.arrayOf d ↔ c = c' := by
  refine ⟨fun h => ?_, fun h => h ▸ rfl⟩
  unfold arrayOf at h
  split at h
  · exact h
  · rename_i hd
    split at h <;> split at h
    · rename_i inner n _ inner' n'
      rw [array.injEq] at h
      rw [h.1, Nat.add_right_cancel h.2]
    · rename_i inner n _ _ _
      have hn := (plain_array.mp hc).1
      rw [array.injEq] at h
      omega
    · rename_i inner' n'
      have hn := (plain_array.mp hc').1
      rw [array.injEq] at h
      omega
    · exact (array.injEq .. ▸ h).1

/-- Substitutions give the same exactly when they agree on all variables that occur. -/
theorem substitute_eq_iff (hσ : ∀ n, (σ n).Plain) (hτ : ∀ n, (τ n).Plain) :
    t.substitute σ = t.substitute τ ↔ ∀ n, var n ∈ t.parts → σ n = τ n := by
  induction t using inductOn with
  | named m as ih =>
    simp only [substitute, substituteArgs_eq_map, named.injEq, true_and, List.map_inj_left, parts,
      partsArgs_eq_flatMap, List.mem_cons, reduceCtorEq, false_or, List.mem_flatMap]
    constructor
    · rintro h n ⟨a, ha, hn⟩
      exact (ih a ha).mp (h a ha) n hn
    · exact fun h a ha => (ih a ha).mpr (fun n hn => h n ⟨a, ha, hn⟩)
  | array c d ih =>
    rw [substitute, substitute, arrayOf_inj (plain_substitute hσ c) (plain_substitute hτ c), ih]
    simp [parts]
  | var m => simp [substitute, parts]
  | wildcard u ih =>
    cases u with
    | none => simp [substitute, substituteBound, parts, partsBound]
    | some u => simpa [substitute, substituteBound, parts, partsBound] using ih u rfl
  | any => simp [substitute, parts]

end TypeExpr

/-! The bindings of a frame. -/

/-- Whether a declaration has a parameter at a place, the last one of its name. -/
def Declaration.HasParam (d : Declaration) (i : Nat) (p : TypeParam) : Prop :=
  d.params[i]? = some p ∧ p.name ∉ (d.params.drop (i + 1)).map TypeParam.name

instance (d : Declaration) (i : Nat) (p : TypeParam) : Decidable (d.HasParam i p) :=
  inferInstanceAs (Decidable (_ ∧ _))

namespace Frame

theorem getElem?_pair (ps : List TypeParam) (as : List TypeExpr) (i : Nat) :
    (pair ps as)[i]? = ps[i]?.map (fun p => (p.name, argumentFor p as[i]?)) := by
  induction ps generalizing as i with
  | nil => simp [pair]
  | cons p ps ih => cases as <;> cases i <;> simp [pair, ih]

theorem map_fst_pair (ps : List TypeParam) (as : List TypeExpr) :
    (pair ps as).map Prod.fst = ps.map TypeParam.name := by
  induction ps generalizing as with
  | nil => rfl
  | cons p ps ih => cases as <;> simp [pair, ih]

/-- The frame of a type binds a parameter to what it stands for. -/
theorem binding?_ofType {d : Declaration} {i : Nat} {p : TypeParam} (hp : d.HasParam i p)
    (owner : TypeExpr) :
    (ofType owner d).binding? p.name = some (argumentFor p owner.args[i]?) := by
  have hentry : (pair d.params owner.args)[i]? = some (p.name, argumentFor p owner.args[i]?) := by
    rw [getElem?_pair, hp.1, Option.map_some]
  refine Assoc.lookup_foldl_put hentry ?_ []
  rw [List.map_drop, map_fst_pair, ← List.map_drop]
  exact hp.2

theorem argumentFor_of_ne {p : TypeParam} {a : TypeExpr} (ha : a ≠ .wildcard none) :
    argumentFor p (some a) = a := by
  unfold argumentFor
  split
  · rename_i h
    cases h
  · rename_i h
    exact absurd (Option.some.inj h) ha
  · rename_i h
    exact (Option.some.inj h).symm

end Frame

namespace Scope

theorem meaning_of_binding? {f : Frame} {name : String} {t : TypeExpr}
    (h : f.binding? name = some t) (outer : Scope) :
    meaning (f :: outer) name = outer.resolveDeep t := by
  rw [meaning, h]
  rfl

theorem resolveDeep_of_not_hasVar {t : TypeExpr} (h : t.hasVar = false) (s : Scope) :
    s.resolveDeep t = t.ground := TypeExpr.substitute_of_not_hasVar h

/-- What a parameter means below the frame of a type, with an argument or without one. -/
structure MeansParam (frame : Frame) (outer : Scope) (p : TypeParam) (a : Option TypeExpr) :
    Prop where
  /-- An argument is read outside of the frame, in every scope alike. -/
  argument : ∀ t, a = some t → meaning (frame :: outer) p.name = outer.resolveDeep t ∧
    ∀ other : Scope, meaning (frame :: other) p.name = meaning (frame :: outer) p.name
  /-- So is a bound that takes the place of an argument. -/
  bound : a = none → ∀ u, p.bound = some u →
    meaning (frame :: outer) p.name = outer.resolveDeep u
  /-- This is the bound read below the frame exactly when its variables mean the same on both sides. -/
  agrees : a = none → ∀ u, p.bound = some u →
    (meaning (frame :: outer) p.name = u.substitute (meaning (frame :: outer)) ↔
      ∀ n, .var n ∈ u.parts → outer.meaning n = meaning (frame :: outer) n)
  /-- A bound without variables is read in every scope alike. -/
  closed : a = none → ∀ u, p.bound = some u → u.hasVar = false → ∀ other : Scope,
    meaning (frame :: other) p.name = u.substitute (meaning (frame :: outer))
  /-- Without a bound nothing is known. -/
  unbounded : a = none → p.bound = none → meaning (frame :: outer) p.name = .any

/-- What the parameters of a declaration mean below the frame of an instantiation, whatever scope it stands
in. -/
theorem meaning_param {d : Declaration} {i : Nat} {p : TypeParam} (hp : d.HasParam i p)
    (name : String) {as : List TypeExpr}
    (has : ∀ a ∈ as, a.hasVar = false ∧ a ≠ .wildcard none) (outer : Scope) :
    MeansParam (.ofType (.named name as) d) outer p as[i]? := by
  have hmeaning : ∀ other : Scope, meaning (.ofType (.named name as) d :: other) p.name =
      other.resolveDeep (Frame.argumentFor p as[i]?) :=
    fun other => meaning_of_binding? (Frame.binding?_ofType hp (.named name as)) other
  have hmissing : as[i]? = none → ∀ u, p.bound = some u → ∀ other : Scope,
      meaning (.ofType (.named name as) d :: other) p.name = other.resolveDeep u := by
    intro ha u hu other
    rw [hmeaning, ha, Frame.argumentFor, hu, Option.getD_some]
  constructor
  · intro t ht
    obtain ⟨hvar, hne⟩ := has t (List.mem_of_getElem? ht)
    have hread : ∀ other : Scope,
        meaning (.ofType (.named name as) d :: other) p.name = other.resolveDeep t := by
      intro other
      rw [hmeaning, ht, Frame.argumentFor_of_ne hne]
    refine ⟨hread outer, fun other => ?_⟩
    rw [hread, hread, resolveDeep_of_not_hasVar hvar, resolveDeep_of_not_hasVar hvar]
  · exact fun ha u hu => hmissing ha u hu outer
  · intro ha u hu
    rw [hmissing ha u hu outer]
    exact TypeExpr.substitute_eq_iff (TypeExpr.plain_meaning _) (TypeExpr.plain_meaning _)
  · intro ha u hu hvar other
    rw [hmissing ha u hu other, resolveDeep_of_not_hasVar hvar,
      TypeExpr.substitute_of_not_hasVar hvar]
  · intro ha hu
    rw [hmeaning, ha, Frame.argumentFor, hu]
    rfl

/-- A pair whose second part is a list of the first one, unless it is given. -/
def pairDeclaration : Declaration where
  name := "Pair"
  params := [{ name := "A" }, { name := "B", bound := some (.named "Vec" [.var "A"]) }]
  members := [{ name := "first", type := .var "A" }, { name := "rest", type := .var "B" }]

theorem meaning_param_pair :
    pairDeclaration.HasParam 0 { name := "A" } ∧
      (∀ a ∈ [TypeExpr.named "i32" []], a.hasVar = false ∧ a ≠ .wildcard none) ∧
      MeansParam (.ofType (.named "Pair" [.named "i32" []]) pairDeclaration) [] { name := "A" }
        (some (.named "i32" [])) ∧
      meaning [.ofType (.named "Pair" [.named "i32" []]) pairDeclaration] "A" =
        .named "i32" [] := by
  have hp : pairDeclaration.HasParam 0 { name := "A" } := by decide
  have has : ∀ a ∈ [TypeExpr.named "i32" []], a.hasVar = false ∧ a ≠ .wildcard none := by decide
  have h := meaning_param hp "Pair" has []
  exact ⟨hp, has, h, (h.argument _ rfl).1⟩

/-- A bound does not see the arguments beside it, and takes what an enclosing frame has under their
names. -/
theorem meaning_pair_rest :
    let frame := Frame.ofType (.named "Pair" [.named "i32" []]) pairDeclaration
    let outer := Frame.ofType (.named "User" [.named "String" []])
      { name := "User", params := [{ name := "A" }] }
    pairDeclaration.HasParam 1 { name := "B", bound := some (.named "Vec" [.var "A"]) } ∧
      (TypeExpr.named "Vec" [.var "A"]).substitute (meaning [frame]) =
        .named "Vec" [.named "i32" []] ∧
      meaning [frame] "B" = .named "Vec" [.any] ∧
      meaning [frame, outer] "B" = .named "Vec" [.named "String" []] := by
  decide

end Scope

/-! The frames that registrations queue. -/

namespace BuildState

variable {b : Builder} {d : Declaration} {i : Nat} {p : TypeParam} {name : String}
  {as : List TypeExpr} {u : TypeExpr}

theorem resolved_named (hl : b.index.lookup name = some d) (s : BuildState)
    (as : List TypeExpr) :
    s.resolved b (.named name as) = .named d.name (as.map (s.resolved b)) := by
  rw [resolved, Scope.resolveDeep_named, TypeExpr.canonicalize_named,
    Index.declaredName_of_lookup hl, List.map_map]
  rfl

/-- A registration that adds a definition of a declared name queues it with the frame of its type. -/
theorem queue_register (hb : b.index.Built) (hl : b.index.lookup name = some d) (s : BuildState)
    (hnew : s.registry.size < (s.register b (.named name as)).2.registry.size) :
    (s.register b (.named name as)).2.worklist.queue =
      s.worklist.queue ++ [s.newItem (.named d.name (as.map (s.resolved b))) d] := by
  generalize hr : s.register b (.named name as) = r at hnew ⊢
  cases hr ▸ registered b (.named name as) s with
  | refused r why => exact absurd hnew (Nat.lt_irrefl _)
  | known id hid => exact absurd hnew (Nat.lt_irrefl _)
  | defined d' hd =>
    have hdeclared := hd.declared
    rw [baseName?_resolved hl, Option.bind_some, hb.coherent.lookup_name hl] at hdeclared
    cases hdeclared
    rw [define_worklist hd.fresh, resolved_named hl]
    rfl

/-- Whether a frame binds a parameter to a type, and members of its class that are written with the
parameter are read as that type. -/
structure Binds (b : Builder) (frame : Frame) (name : String) (t : TypeExpr) : Prop where
  binding : frame.binding? name = some t
  meaning : ∀ member, (Scope.setMember [frame] member).meaning name = t.ground
  visit : b.convert? (.var name) = none → t.ground ≠ .any → ∀ s : BuildState,
    (∃ member, s.scope = Scope.setMember [frame] member) → visit b (.var name) s = .pass t.ground

theorem binds_of_binding? {frame : Frame} {t : TypeExpr} (h : frame.binding? name = some t)
    (hvar : t.hasVar = false) : Binds b frame name t := by
  have hmeaning : ∀ member, (Scope.setMember [frame] member).meaning name = t.ground := by
    intro member
    rw [Scope.meaning_setMember, Scope.meaning_of_binding? h,
      Scope.resolveDeep_of_not_hasVar hvar]
  refine ⟨h, hmeaning, fun hconvert hne s ⟨member, hscope⟩ => ?_⟩
  have hread : s.scope.resolve (.var name) = t.ground := by
    rw [hscope]
    exact hmeaning member
  simp only [visit, hconvert, hread]

/-- A new definition of a generic class without an argument for a parameter is queued with the bound of the
parameter, as that of the class without any arguments is; for an argument that is an unbounded wildcard
it is queued with nothing known. -/
theorem register_binds_bound (hb : b.index.Built) (hl : b.index.lookup name = some d)
    (hp : d.HasParam i p) (hu : p.bound = some u) (hvar : u.hasVar = false) (s : BuildState)
    (hnew : s.registry.size < (s.register b (.named name as)).2.registry.size) :
    ∃ item, (s.register b (.named name as)).2.worklist.queue = s.worklist.queue ++ [item] ∧
      item.type = s.resolved b (.named name as) ∧
      (as[i]? = none → Binds b item.frame p.name u ∧
        Binds b (.ofType (s.resolved b (.named name [])) d) p.name u) ∧
      (as[i]? = some (.wildcard none) → Binds b item.frame p.name .any) := by
  have hbinding : ∀ as : List TypeExpr,
      (Frame.ofType (.named d.name (as.map (s.resolved b))) d).binding? p.name =
        some (Frame.argumentFor p (as[i]?.map (s.resolved b))) := by
    intro as
    rw [Frame.binding?_ofType hp, TypeExpr.args, List.getElem?_map]
  have hmissing : ∀ as : List TypeExpr, as[i]? = none →
      Binds b (.ofType (.named d.name (as.map (s.resolved b))) d) p.name u := by
    intro as ha
    have hbound := hbinding as
    rw [ha, Option.map_none, Frame.argumentFor, hu, Option.getD_some] at hbound
    exact binds_of_binding? hbound hvar
  refine ⟨_, queue_register hb hl s hnew, (resolved_named hl s as).symm,
    fun ha => ⟨hmissing as ha, ?_⟩, fun ha => ?_⟩
  · rw [resolved_named hl]
    exact hmissing [] rfl
  · -- The wildcard is resolved before the frame is made, and gets no bound.
    have hany := hbinding as
    rw [ha] at hany
    exact binds_of_binding? hany rfl

/-- A holder of anything, by default of an animal. -/
def holderIndex : Index :=
  (Index.standard.insert { name := "Animal", members := [{ name := "legs", type := .named "u8" [] }] }).insert
    { name := "Holder", params := [{ name := "T", bound := some (.named "Animal" []) }],
      members := [{ name := "pet", type := .var "T" }] }

theorem register_binds_bound_holder :
    let b : Builder := { index := holderIndex }
    let p : TypeParam := { name := "T", bound := some (.named "Animal" []) }
    ∃ d, b.index.Built ∧ b.index.lookup "Holder" = some d ∧ d.HasParam 0 p ∧
      (init b).registry.size < ((init b).register b (.named "Holder" [])).2.registry.size ∧
      ∃ item, ((init b).register b (.named "Holder" [])).2.worklist.queue = [item] ∧
        item.frame.binding? "T" = some (.named "Animal" []) := by
  intro b p
  have hb : b.index.Built := (Index.Built.standard.insert _).insert _
  have hl : (b.index.lookup "Holder").any (fun d => decide (d.HasParam 0 p)) = true := by
    decide +kernel
  obtain ⟨d, hd, hp⟩ := (Option.any_eq_true _ _).mp hl
  have hnew : (init b).registry.size < ((init b).register b (.named "Holder" [])).2.registry.size := by
    decide +kernel
  obtain ⟨item, hq, -, hmissing, -⟩ :=
    register_binds_bound hb hd (of_decide_eq_true hp) rfl rfl (init b) hnew
  exact ⟨d, hb, hd, of_decide_eq_true hp, hnew, item, hq, (hmissing rfl).1.binding⟩

/-- With a wildcard for its argument the holder does not hold an animal. -/
theorem register_wildcard_holder :
    let b : Builder := { index := holderIndex }
    (init b).registry.size <
        ((init b).register b (.named "Holder" [.wildcard none])).2.registry.size ∧
      ((init b).register b (.named "Holder" [])).2.worklist.queue.map
        (fun item => item.frame.binding? "T") = [some (.named "Animal" [])] ∧
      ((init b).register b (.named "Holder" [.wildcard none])).2.worklist.queue.map
        (fun item => item.frame.binding? "T") = [some .any] := by
  decide +kernel

end BuildState
end SchemaGraph
