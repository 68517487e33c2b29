import SchemaGraph.Proofs.Course

/-! Two builds in lockstep. A walk reads the scope of a state, and otherwise only notes diagnostics and
registers types. A relation between the states of two builds that these keep is kept by whole bodies, and
the bodies are the same, as long as the builds do not part; those that have parted stay so. -/
namespace SchemaGraph

/-- The builder with another limit on the number of definitions. -/
def Builder.limited (b : Builder) (limit : Option Nat) : Builder :=
  { b with options := { b.options with maxDefinitions := limit } }

section

variable {b : Builder} {limit : Option Nat}

@[simp] theorem Builder.limited_index : (b.limited limit).index = b.index := by
  simp [limited]

@[simp] theorem Builder.limited_terminals : (b.limited limit).terminals = b.terminals := by
  simp [limited]

@[simp] theorem Builder.limited_overrides : (b.limited limit).overrides = b.overrides := by
  simp [limited]

@[simp] theorem Builder.limited_maxNesting :
    (b.limited limit).options.maxNesting = b.options.maxNesting := by
  simp [limited]

@[simp] theorem Builder.limited_convert? (ty : TypeExpr) :
    (b.limited limit).convert? ty = b.convert? ty := by
  simp [convert?, limited]

@[simp] theorem Builder.limited_allows (d : Declaration) (m : Member) :
    (b.limited limit).allows d m = b.allows d m := by
  simp [allows, limited]

@[simp] theorem Body.memberOverrides_limited (d : Declaration) (m : Member) :
    memberOverrides (b.limited limit) d m = memberOverrides b d m := by
  simp [memberOverrides]

@[simp] theorem BuildState.resolved_limited (s : BuildState) (ty : TypeExpr) :
    s.resolved (b.limited limit) ty = s.resolved b ty := by
  simp [resolved]

@[simp] theorem BuildState.init_limited : init (b.limited limit) = init b := by
  simp [init, Builder.limited]

end

open BuildState

/-- What makes two builds go in lockstep: states that are `on` have one scope and stay on when both
register a type or note a diagnostic, unless the builds part; states that are `off` stay so. -/
structure Lockstep (b b' : Builder) (v : Vocabulary) (on off : BuildState → BuildState → Prop) :
    Prop where
  akin : ∃ limit, b' = b.limited limit
  index : v.CoversIndex b.index
  scope : ∀ {s s'}, on s s' → s.scope = s'.scope ∧ v.CoversScope s.scope
  enter : ∀ {s s'}, on s s' → ∀ scope, v.CoversScope scope →
    on { s with scope } { s' with scope }
  record : ∀ {s s'}, on s s' → ∀ code n m,
    off (s.record code n m) (s'.record code n m) ∨ on (s.record code n m) (s'.record code n m)
  register : ∀ {s s'}, on s s' → ∀ ty, v.Covers ty →
    off (s.register b ty).2 (s'.register b' ty).2 ∨
      ((s.register b ty).1 = (s'.register b' ty).1 ∧
        on (s.register b ty).2 (s'.register b' ty).2)
  grows : ∀ {s s' t t'}, off s s' → Grows b .full s t → Grows b' .full s' t' → off t t'

/-- Whether two steps of walks do the same, up to a parting where they answer. -/
inductive Visit.Same (on off : BuildState → BuildState → Prop) : Visit → Visit → Prop
  | answer (t : TypeExpr) {schema schema' : Schema} {s s' : BuildState}
    (h : off s s' ∨ (schema = schema' ∧ on s s')) :
    Same on off (.answer t schema s) (.answer t schema' s')
  | pass (t : TypeExpr) : Same on off (.pass t) (.pass t)
  | wrap (t : TypeExpr) (around : Schema → Schema) (stands : TypeExpr → TypeExpr) :
    Same on off (.wrap t around stands) (.wrap t around stands)

/-- Whether two walks give the same and end on. -/
structure Walked.Same (on : BuildState → BuildState → Prop) (w w' : Walked) : Prop where
  type : w.type = w'.type
  schema : w.schema = w'.schema
  state : on w.state w'.state

/-- Whether two bodies are the same so far, and on. -/
structure Body.Same (on : BuildState → BuildState → Prop) (x y : Body) : Prop where
  properties : x.properties = y.properties
  required : x.required = y.required
  visited : x.visited = y.visited
  state : on x.state y.state

namespace Lockstep

variable {b b' : Builder} {v : Vocabulary} {on off : BuildState → BuildState → Prop}
  {s s' : BuildState} {ty : TypeExpr} {x y : Body} {d : Declaration}

/-! Walking a type. -/

theorem stay (hs : on s s') (t : TypeExpr) (schema : Schema) :
    Visit.Same on off (.answer t schema s) (.answer t schema s') :=
  .answer t (.inr ⟨rfl, hs⟩)

theorem visitEnum (h : Lockstep b b' v on off) (hs : on s s') (ht : v.Covers ty) (name : String) :
    Visit.Same on off (BuildState.visitEnum b ty name s) (BuildState.visitEnum b' ty name s') := by
  obtain ⟨limit, rfl⟩ := h.akin
  simp only [BuildState.visitEnum, Builder.limited_index]
  split
  · exact stay hs _ _
  · exact .answer _ ((h.register hs ty ht).imp_right (fun hsame => ⟨rfl, hsame.2⟩))

theorem visitNamed (h : Lockstep b b' v on off) (hs : on s s') {name : String}
    {args : List TypeExpr} (ht : v.Covers (.named name args)) :
    Visit.Same on off (BuildState.visitNamed b name args s)
      (BuildState.visitNamed b' name args s') := by
  have henum := h.visitEnum hs ht name
  have hregister := h.register hs _ ht
  obtain ⟨limit, rfl⟩ := h.akin
  simp only [BuildState.visitNamed, Builder.limited_index, Builder.limited_terminals,
    ← (h.scope hs).1]
  split
  · exact stay hs _ _
  · split
    · cases args with
      | nil => exact stay hs _ _
      | cons a as => exact .pass a
    · split
      · exact henum
      · split
        · cases args with
          | nil => exact stay hs _ _
          | cons a as => exact .wrap _ _ _
        · split
          · unfold visitMap
            split
            · exact .wrap _ _ _
            · exact stay hs _ _
          · exact .answer _ hregister

theorem visit (h : Lockstep b b' v on off) (hs : on s s') (ht : v.Covers ty) :
    Visit.Same on off (BuildState.visit b ty s) (BuildState.visit b' ty s') := by
  have hconvert : b'.convert? ty = b.convert? ty := by
    obtain ⟨limit, rfl⟩ := h.akin
    exact Builder.limited_convert? ty
  unfold BuildState.visit
  rw [hconvert, ← (h.scope hs).1]
  split
  · exact stay hs _ _
  · cases ty with
    | named name args => exact h.visitNamed hs ht
    | array c k => exact .wrap _ _ _
    | var name =>
      have hname : s'.scopedName name = s.scopedName name := by
        unfold scopedName
        rw [(h.scope hs).1]
      dsimp only
      split
      · rw [hname]
        exact .answer _ ((h.record hs _ _ _).imp_right (fun hon => ⟨rfl, hon⟩))
      · exact .pass _
    | wildcard u => exact .pass _
    | any => exact stay hs _ _

theorem walkWithin (h : Lockstep b b' v on off) (hs : on s s') (ht : v.Covers ty) (room : Nat)
    (node : Schema) :
    off (BuildState.walkWithin b room ty node s).state
        (BuildState.walkWithin b' room ty node s').state ∨
      Walked.Same on (BuildState.walkWithin b room ty node s)
        (BuildState.walkWithin b' room ty node s') := by
  induction room generalizing ty node with
  | zero =>
    obtain ⟨limit, rfl⟩ := h.akin
    simp only [BuildState.walkWithin, Builder.limited_maxNesting]
    exact (h.record hs _ _ _).imp_right (fun hon => ⟨rfl, rfl, hon⟩)
  | succ room ih =>
    -- What the walk goes on with is in the vocabulary, as what it came from.
    have hcovers := asks_visit (b := b) v.inherited_occurs ⟨(h.scope hs).2, ht⟩
    have hsame := h.visit hs ht
    unfold BuildState.walkWithin
    generalize BuildState.visit b ty s = step at hcovers hsame ⊢
    generalize BuildState.visit b' ty s' = step' at hsame ⊢
    cases hsame with
    | answer stands hanswer =>
      exact hanswer.imp_right (fun ⟨hschema, hon⟩ => ⟨rfl, congrArg node.overlay hschema, hon⟩)
    | pass u => exact ih hcovers.2 node
    | wrap u around stands =>
      refine (ih hcovers.2 .empty).imp_right (fun hw => ⟨congrArg stands hw.type, ?_, hw.state⟩)
      exact congrArg (fun inner => node.overlay (around inner)) hw.schema

theorem walk (h : Lockstep b b' v on off) (hs : on s s') (ht : v.Covers ty) (node : Schema) :
    off (s.walk b ty node).state (s'.walk b' ty node).state ∨
      Walked.Same on (s.walk b ty node) (s'.walk b' ty node) := by
  have hroom : b'.options.maxNesting = b.options.maxNesting := by
    obtain ⟨limit, rfl⟩ := h.akin
    exact Builder.limited_maxNesting
  unfold BuildState.walk
  rw [hroom]
  exact h.walkWithin hs ht _ node

/-! Bodies. -/

theorem setMember (h : Lockstep b b' v on off) (hxy : Body.Same on x y) (m : Option String) :
    Body.Same on (x.setMember m) (y.setMember m) where
  properties := hxy.properties
  required := hxy.required
  visited := hxy.visited
  state := by
    obtain ⟨hscope, hcovers⟩ := h.scope hxy.state
    have hon := h.enter hxy.state _ (Vocabulary.coversScope_setMember hcovers m)
    unfold Body.setMember
    rw [← hscope]
    exact hon

theorem addMember (h : Lockstep b b' v on off) {m : Member} (hm : v.Covers m.type)
    (hxy : Body.Same on x y) :
    off (x.addMember b d m).state (y.addMember b' d m).state ∨
      Body.Same on (x.addMember b d m) (y.addMember b' d m) := by
  have hset := h.setMember hxy (some m.name)
  have hwalk := h.walk hset.state hm .empty
  obtain ⟨limit, rfl⟩ := h.akin
  dsimp only [Body.addMember]
  simp only [Builder.limited_allows, Body.memberOverrides_limited]
  split
  · exact .inr hxy
  · refine hwalk.imp_right (fun hw => ?_)
    constructor
    · simp only [hset.properties, hw.schema]
    · simp only [hset.required]
    · exact hset.visited
    · exact hw.state

/-- Folds stay in lockstep whose steps do. -/
theorem foldl {α : Type} {as : List α} {f g : Body → α → Body}
    (hsame : ∀ a ∈ as, ∀ x y, Body.Same on x y →
      off (f x a).state (g y a).state ∨ Body.Same on (f x a) (g y a))
    (hoff : ∀ a x y, off x.state y.state → off (f x a).state (g y a).state)
    (h : off x.state y.state ∨ Body.Same on x y) :
    off (as.foldl f x).state (as.foldl g y).state ∨
      Body.Same on (as.foldl f x) (as.foldl g y) :=
  List.foldl_rel (r := fun x y => off x.state y.state ∨ Body.Same on x y) h
    (fun a ha x y hxy => hxy.elim (fun hparted => .inl (hoff a x y hparted)) (hsame a ha x y))

theorem addMembers (h : Lockstep b b' v on off) (hd : v.CoversDeclaration d)
    (hxy : off x.state y.state ∨ Body.Same on x y) :
    off (x.addMembers b d).state (y.addMembers b' d).state ∨
      Body.Same on (x.addMembers b d) (y.addMembers b' d) := by
  have hfold := foldl (f := Body.addMember b d) (g := Body.addMember b' d)
    (fun m hm x y hxy => h.addMember (hd.member m hm) hxy)
    (fun m x y hoff => h.grows hoff (Body.grows_addMember b d m x) (Body.grows_addMember b' d m y))
    hxy
  rcases hfold with hoff | hsame
  · exact .inl (h.grows hoff (Grows.refl.enter _) (Grows.refl.enter _))
  · exact .inr (h.setMember hsame none)

theorem addSupertype (h : Lockstep b b' v on off) {f g : Declaration → Body → Body}
    (hfg : ∀ parent x y, v.CoversDeclaration parent → Body.Same on x y →
      off (f parent x).state (g parent y).state ∨ Body.Same on (f parent x) (g parent y))
    {supertype : TypeExpr} (hsup : v.Covers supertype) (hxy : Body.Same on x y) :
    off (x.addSupertype b f supertype).state (y.addSupertype b' g supertype).state ∨
      Body.Same on (x.addSupertype b f supertype) (y.addSupertype b' g supertype) := by
  obtain ⟨hscope, hcovers⟩ := h.scope hxy.state
  have hr := Vocabulary.covers_resolveDeep hcovers hsup
  have hindex : b'.index = b.index := by
    obtain ⟨limit, rfl⟩ := h.akin
    exact Builder.limited_index
  dsimp only [Body.addSupertype]
  rw [hindex, ← hscope, ← hxy.visited]
  split
  · exact .inr hxy
  · rename_i parent hparent
    obtain ⟨n, -, hl⟩ := Option.bind_eq_some_iff.mp hparent
    have hp := h.index.declaration n parent hl
    split
    · exact .inr hxy
    · have hframe : v.CoversScope (.ofType (x.state.scope.resolveDeep supertype) parent ::
          x.state.scope) :=
        List.forall_mem_cons.mpr ⟨Vocabulary.coversFrame_ofType hr hp, hcovers⟩
      have hentered : Body.Same on (x.enter (x.state.scope.resolveDeep supertype) parent)
          (y.enter (x.state.scope.resolveDeep supertype) parent) := by
        refine ⟨hxy.properties, hxy.required, congrArg (parent.name :: ·) hxy.visited, ?_⟩
        have hon := h.enter hxy.state _ hframe
        unfold Body.enter
        rw [← hscope]
        exact hon
      rcases hfg parent _ _ hp hentered with hoff | hsame
      · exact .inl (h.grows hoff (Grows.refl.enter _) (Grows.refl.enter _))
      · refine .inr ⟨hsame.properties, hsame.required, hsame.visited, ?_⟩
        obtain ⟨hscope', hcovers'⟩ := h.scope hsame.state
        have hon := h.enter hsame.state _ (fun f hf => hcovers' f (List.mem_of_mem_tail hf))
        unfold Body.leave
        rw [← hscope']
        exact hon

theorem addDeclaration (h : Lockstep b b' v on off) (hd : v.CoversDeclaration d) (fuel : Nat)
    (hxy : off x.state y.state ∨ Body.Same on x y) :
    off (x.addDeclaration b fuel d).state (y.addDeclaration b' fuel d).state ∨
      Body.Same on (x.addDeclaration b fuel d) (y.addDeclaration b' fuel d) := by
  induction fuel generalizing d x y with
  | zero => exact h.addMembers hd hxy
  | succ fuel ih =>
    have hdescend : ∀ parent (x y : Body), v.CoversDeclaration parent → Body.Same on x y →
        off (x.addDeclaration b fuel parent).state (y.addDeclaration b' fuel parent).state ∨
          Body.Same on (x.addDeclaration b fuel parent) (y.addDeclaration b' fuel parent) :=
      fun parent x y hp hxy => ih hp (.inr hxy)
    exact h.addMembers hd (foldl (f := Body.addSupertype b (Body.addDeclaration b fuel))
      (g := Body.addSupertype b' (Body.addDeclaration b' fuel))
      (fun supertype hsup x y hxy => h.addSupertype hdescend (hd.supertype supertype hsup) hxy)
      (fun supertype x y hoff => h.grows hoff (Body.grows_addSupertype b fuel supertype x)
        (Body.grows_addSupertype b' fuel supertype y)) hxy)

/-- The bodies of one type in one frame are the same, unless the builds part. -/
theorem expand (h : Lockstep b b' v on off) (hs : on s s') {i i' : WorkItem}
    (htype : i.type = i'.type) (hframe : i.frame = i'.frame) (hcovers : v.CoversFrame i.frame) :
    off (s.expand b i).2 (s'.expand b' i').2 ∨
      ((s.expand b i).1 = (s'.expand b' i').1 ∧ on (s.expand b i).2 (s'.expand b' i').2) := by
  obtain ⟨hscope, hscovers⟩ := h.scope hs
  have hbody := fun d (hd : v.CoversDeclaration d) => h.addDeclaration hd b.index.size
    (.inr (Body.Same.mk rfl rfl rfl (h.enter hs [i.frame] (by simpa [Vocabulary.CoversScope]))) :
      off _ _ ∨ Body.Same on { visited := [d.name], state := { s with scope := [i.frame] } }
        { visited := [d.name], state := { s' with scope := [i.frame] } })
  obtain ⟨limit, rfl⟩ := h.akin
  simp only [BuildState.expand, ← htype, ← hframe, Builder.limited_index]
  cases hd : i.type.baseName?.bind b.index.lookup with
  | none => exact .inr ⟨rfl, hs⟩
  | some d =>
    obtain ⟨n, -, hn⟩ := Option.bind_eq_some_iff.mp hd
    simp only [expandDeclaration, Builder.limited_index, Builder.limited_overrides, ← hscope]
    cases d.values? with
    | some values => exact .inr ⟨rfl, h.enter hs _ hscovers⟩
    | none =>
      rcases hbody d (h.index.declaration n d hn) with hoff | hsame
      · exact .inl (h.grows hoff (Grows.refl.enter _) (Grows.refl.enter _))
      · refine .inr ⟨?_, h.enter hsame.state _ hscovers⟩
        simp only [Body.toSchema, hsame.properties, hsame.required]

end Lockstep
end SchemaGraph
