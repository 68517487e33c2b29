import SchemaGraph.Build.Expand
import SchemaGraph.Proofs.Registry
import SchemaGraph.Proofs.Vocabulary

/-! What walking a type and expanding a body do to a build: they note diagnostics, change the scope and
define types that had no definition, and nothing else. -/
namespace SchemaGraph

namespace BuildState

variable {b : Builder} {v : Vocabulary} {s t : BuildState} {ty r : TypeExpr} {d : Declaration}

@[simp] theorem record_registry (code : DiagnosticCode) (n m : String) :
    (s.record code n m).registry = s.registry := rfl

@[simp] theorem record_worklist (code : DiagnosticCode) (n m : String) :
    (s.record code n m).worklist = s.worklist := rfl

@[simp] theorem record_scope (code : DiagnosticCode) (n m : String) :
    (s.record code n m).scope = s.scope := rfl

@[simp] theorem record_expanding (code : DiagnosticCode) (n m : String) :
    (s.record code n m).expanding = s.expanding := rfl

/-- The note of a collision is the only thing that it adds. -/
theorem noteCollision_cases (s : BuildState) (r : TypeExpr) (id : Nat) :
    s.noteCollision r id = s ∨ ∃ code n m, s.noteCollision r id = s.record code n m := by
  unfold noteCollision
  split
  · split
    · exact .inl rfl
    · exact .inr ⟨_, _, _, rfl⟩
  · exact .inl rfl

@[simp] theorem noteCollision_registry (id : Nat) :
    (s.noteCollision r id).registry = s.registry := by
  rcases noteCollision_cases s r id with h | ⟨_, _, _, h⟩ <;> simp [h]

@[simp] theorem noteCollision_worklist (id : Nat) :
    (s.noteCollision r id).worklist = s.worklist := by
  rcases noteCollision_cases s r id with h | ⟨_, _, _, h⟩ <;> simp [h]

@[simp] theorem noteCollision_scope (id : Nat) : (s.noteCollision r id).scope = s.scope := by
  rcases noteCollision_cases s r id with h | ⟨_, _, _, h⟩ <;> simp [h]

@[simp] theorem noteCollision_expanding (id : Nat) :
    (s.noteCollision r id).expanding = s.expanding := by
  rcases noteCollision_cases s r id with h | ⟨_, _, _, h⟩ <;> simp [h]

@[simp] theorem define_scope : (s.define r d).2.scope = s.scope := by
  simp [define]

@[simp] theorem define_expanding : (s.define r d).2.expanding = s.expanding := by
  simp [define]

/-- The entry of a new definition. -/
def newEntry (s : BuildState) (r : TypeExpr) : Entry where
  signature := r.signature
  type := r
  name := s.registry.freeName r.referenceName
  parent := s.expanding

/-- The work item of a new definition. -/
def newItem (s : BuildState) (r : TypeExpr) (d : Declaration) : WorkItem where
  owner := s.scope.owner?
  frame := .ofType r d
  type := r
  target := s.registry.size

theorem define_registry (h : s.registry.lookup r.signature = none) :
    (s.define r d).2.registry =
      { s.registry with entries := s.registry.entries ++ [s.newEntry r] } := by
  simp [define, Registry.insert_of_fresh h, newEntry]

theorem get?_define (h : s.registry.lookup r.signature = none) :
    (s.define r d).2.registry.get? s.registry.size = some (s.newEntry r) := by
  rw [define_registry h]
  simp [Registry.get?, Registry.size]

theorem distinct_define (hr : s.registry.Distinct) (h : s.registry.lookup r.signature = none) :
    (s.define r d).2.registry.Distinct := by
  rw [define_registry h]
  exact hr.add h (Registry.isTaken_freeName _ _)

theorem define_worklist (h : s.registry.lookup r.signature = none) :
    (s.define r d).2.worklist = s.worklist.push (s.newItem r d) := by
  simp [define, Registry.insert_of_fresh h, newItem]

theorem define_schema (h : s.registry.lookup r.signature = none) :
    (s.define r d).1 = (s.define r d).2.registry.reference s.registry.size := by
  rw [define_registry h]
  simp [define, Registry.insert_of_fresh h, newEntry]

/-- No limit refuses a type when its depth is allowed, it grows out of no ancestor as far as it is written with
variables, and there is room for one more. -/
theorem refusal?_eq_none_iff :
    s.refusal? b ty r = none ↔ r.depth ≤ b.options.maxNesting ∧
      (ty.hasVar = true → s.registry.growingAncestor s.expanding r = none) ∧
      ∀ limit, b.options.maxDefinitions = some limit → s.registry.size < limit := by
  unfold refusal?
  by_cases hdepth : b.options.maxNesting < r.depth
  · rw [if_pos hdepth]
    exact iff_of_false (Option.some_ne_none _) (fun h => Nat.not_le_of_lt hdepth h.1)
  rw [if_neg hdepth, and_iff_right (Nat.le_of_not_lt hdepth)]
  cases hancestor : (if ty.hasVar then s.registry.growingAncestor s.expanding r else none) with
  | some ancestor =>
    refine iff_of_false (Option.some_ne_none _) (fun h => ?_)
    have hnone : (if ty.hasVar then s.registry.growingAncestor s.expanding r else none) = none := by
      split
      · rename_i hvar
        exact h.1 hvar
      · rfl
    rw [hnone] at hancestor
    cases hancestor
  | none =>
    have hsteady : ty.hasVar = true → s.registry.growingAncestor s.expanding r = none := by
      intro hvar
      rwa [if_pos hvar] at hancestor
    rw [and_iff_right hsteady]
    cases b.options.maxDefinitions <;> simp

/-- When an occurrence of a type leads to a new definition. -/
structure Defines (b : Builder) (s : BuildState) (ty : TypeExpr) (d : Declaration) : Prop where
  declared : (s.resolved b ty).baseName?.bind b.index.lookup = some d
  fresh : s.registry.lookup (s.resolved b ty).signature = none
  allowed : s.refusal? b ty (s.resolved b ty) = none

/-- The outcomes of a registration. -/
inductive Registered (b : Builder) (ty : TypeExpr) (s : BuildState) : Schema × BuildState → Prop
  | refused (r : TypeExpr) (why : Refusal) : Registered b ty s (s.refuse r why)
  | known (id : Nat) (h : s.registry.lookup (s.resolved b ty).signature = some id) :
    Registered b ty s (s.registry.reference id, s)
  | defined (d : Declaration) (h : Defines b s ty d) :
    Registered b ty s (s.define (s.resolved b ty) d)

theorem registered (b : Builder) (ty : TypeExpr) (s : BuildState) :
    Registered b ty s (s.register b ty) := by
  dsimp only [register]
  split
  · exact .refused _ _
  · rename_i d hd
    split
    · rename_i id hid
      exact .known id hid
    · rename_i hnew
      split
      · exact .refused _ _
      · rename_i hok
        exact .defined d ⟨hd, hnew, hok⟩

theorem register_unknown (h : (s.resolved b ty).baseName?.bind b.index.lookup = none) :
    s.register b ty = s.refuse (s.resolved b ty) .unknown := by
  simp only [register, h]

theorem register_known {id : Nat} (hd : (s.resolved b ty).baseName?.bind b.index.lookup = some d)
    (h : s.registry.lookup (s.resolved b ty).signature = some id) :
    s.register b ty = (s.registry.reference id, s) := by
  simp only [register, hd, h]

theorem register_refused {why : Refusal}
    (hd : (s.resolved b ty).baseName?.bind b.index.lookup = some d)
    (h : s.registry.lookup (s.resolved b ty).signature = none)
    (hr : s.refusal? b ty (s.resolved b ty) = some why) :
    s.register b ty = s.refuse (s.resolved b ty) why := by
  simp only [register, hd, h, hr]

theorem register_defines (h : Defines b s ty d) :
    s.register b ty = s.define (s.resolved b ty) d := by
  simp only [register, h.declared, h.fresh, h.allowed]

theorem Defines.depth_le (h : Defines b s ty d) : (s.resolved b ty).depth ≤ b.options.maxNesting :=
  (refusal?_eq_none_iff.mp h.allowed).1

theorem Defines.size_lt (h : Defines b s ty d) {limit : Nat}
    (hl : b.options.maxDefinitions = some limit) : s.registry.size < limit :=
  (refusal?_eq_none_iff.mp h.allowed).2.2 limit hl

/-- What a build does between two states while the body of one definition is walked. -/
inductive Grows (b : Builder) (v : Vocabulary) (s : BuildState) : BuildState → Prop
  | refl : Grows b v s s
  | note {t : BuildState} (h : Grows b v s t) (code : DiagnosticCode) (n m : String) :
    Grows b v s (t.record code n m)
  | enter {t : BuildState} (h : Grows b v s t) (scope : Scope) : Grows b v s { t with scope }
  | define {t : BuildState} {ty : TypeExpr} {d : Declaration} (h : Grows b v s t)
    (hv : v.Covers (t.resolved b ty)) (hd : Defines b t ty d) :
    Grows b v s (t.define (t.resolved b ty) d).2

namespace Grows

theorem trans {u : BuildState} (hst : Grows b v s t) (htu : Grows b v t u) : Grows b v s u := by
  induction htu with
  | refl => exact hst
  | note _ code n m ih => exact ih.note code n m
  | enter _ scope ih => exact ih.enter scope
  | define _ hv hd ih => exact ih.define hv hd

theorem expanding (h : Grows b v s t) : t.expanding = s.expanding := by
  induction h with
  | refl => rfl
  | note _ _ _ _ ih => exact ih
  | enter _ _ ih => exact ih
  | define _ _ _ ih => rw [define_expanding, ih]

/-- Definitions are only added. -/
theorem entries (h : Grows b v s t) :
    ∃ more, t.registry.entries = s.registry.entries ++ more := by
  induction h with
  | refl => exact ⟨[], by simp⟩
  | note _ _ _ _ ih => exact ih
  | enter _ _ ih => exact ih
  | @define t ty d _ _ hd ih =>
    obtain ⟨more, hm⟩ := ih
    refine ⟨more ++ [t.newEntry (t.resolved b ty)], ?_⟩
    rw [define_registry hd.fresh, ← List.append_assoc, ← hm]

end Grows

/-- What a build does between two states, with a property of every occurrence that gets a new definition,
in the scope in which it stands. -/
inductive Asks (b : Builder) (P : Scope → TypeExpr → Prop) (s : BuildState) : BuildState → Prop
  | refl : Asks b P s s
  | note {t : BuildState} (h : Asks b P s t) (code : DiagnosticCode) (n m : String) :
    Asks b P s (t.record code n m)
  | enter {t : BuildState} (h : Asks b P s t) (scope : Scope) : Asks b P s { t with scope }
  | define {t : BuildState} {ty : TypeExpr} {d : Declaration} (h : Asks b P s t)
    (hp : P t.scope ty) (hd : Defines b t ty d) : Asks b P s (t.define (t.resolved b ty) d).2

variable {P : Scope → TypeExpr → Prop}

theorem Asks.trans {u : BuildState} (hst : Asks b P s t) (htu : Asks b P t u) : Asks b P s u := by
  induction htu with
  | refl => exact hst
  | note _ code n m ih => exact ih.note code n m
  | enter _ scope ih => exact ih.enter scope
  | define _ hp hd ih => exact ih.define hp hd

theorem Asks.grows (h : Asks b P s t)
    (hP : ∀ scope ty, P scope ty → v.Covers ((scope.resolveDeep ty).canonicalize b.index)) :
    Grows b v s t := by
  induction h with
  | refl => exact .refl
  | note _ code n m ih => exact ih.note code n m
  | enter _ scope ih => exact ih.enter scope
  | define _ hp hd ih => exact ih.define (hP _ _ hp) hd

/-! Walking a type. -/

theorem asks_register (h : P s.scope ty) : Asks b P s (s.register b ty).2 := by
  generalize hr : s.register b ty = r
  cases hr ▸ registered b ty s with
  | refused r why => exact Asks.refl.note _ _ _
  | known id hid => exact .refl
  | defined d hd => exact Asks.refl.define h hd

@[simp] theorem register_scope (b : Builder) (ty : TypeExpr) (s : BuildState) :
    (s.register b ty).2.scope = s.scope := by
  generalize hr : s.register b ty = r
  cases hr ▸ registered b ty s with
  | refused r why => rfl
  | known id h => rfl
  | defined d h => exact define_scope

end BuildState

/-- Whether a property of occurrences passes from a type to the types that a walk of it comes to. -/
structure Inherited (P : Scope → TypeExpr → Prop) : Prop where
  argument : ∀ s n as, P s (.named n as) → ∀ a ∈ as, P s a
  component : ∀ s c d, P s (.array c d) → P s c
  meaning : ∀ s n, P s (.var n) → P s (s.meaning n)
  bound : ∀ s u, P s (.wildcard u) → P s (TypeExpr.substituteBound s.meaning u)

/-- Whether a step of a walk from a state asks for such occurrences, and goes on with them. -/
def Visit.Asks (b : Builder) (P : Scope → TypeExpr → Prop) (s : BuildState) : Visit → Prop
  | answer _ _ t => s.Asks b P t ∧ t.scope = s.scope
  | pass ty => P s.scope ty
  | wrap ty _ _ => P s.scope ty

namespace BuildState

variable {b : Builder} {P : Scope → TypeExpr → Prop} {s t : BuildState} {ty : TypeExpr}
  {d : Declaration}

theorem asks_visitEnum (h : P s.scope ty) (name : String) : (visitEnum b ty name s).Asks b P s := by
  unfold visitEnum
  split
  · exact ⟨.refl, rfl⟩
  · exact ⟨asks_register h, register_scope b ty s⟩

theorem asks_visitCollection {args : List TypeExpr} (hargs : ∀ a ∈ args, P s.scope a)
    (name : String) (stands : TypeExpr) : (visitCollection b name args stands s).Asks b P s := by
  cases args with
  | nil => exact ⟨.refl, rfl⟩
  | cons a as => exact hargs a (List.mem_cons_self ..)

theorem asks_visitMap {args : List TypeExpr} (hargs : ∀ a ∈ args, P s.scope a)
    (stands : TypeExpr) : (visitMap args stands s).Asks b P s := by
  unfold visitMap
  split
  · exact hargs _ (by simp)
  · exact ⟨.refl, rfl⟩

theorem asks_visitNamed (hP : Inherited P) {name : String} {args : List TypeExpr}
    (h : P s.scope (.named name args)) : (visitNamed b name args s).Asks b P s := by
  have hargs := hP.argument _ _ _ h
  dsimp only [visitNamed]
  split
  · exact ⟨.refl, rfl⟩
  · split
    · cases args with
      | nil => exact ⟨.refl, rfl⟩
      | cons a as => exact hargs a (List.mem_cons_self ..)
    · split
      · exact asks_visitEnum h name
      · split
        · exact asks_visitCollection hargs name _
        · split
          · exact asks_visitMap hargs _
          · exact ⟨asks_register h, register_scope b _ s⟩

theorem asks_visit (hP : Inherited P) (h : P s.scope ty) : (visit b ty s).Asks b P s := by
  unfold visit
  split
  · exact ⟨.refl, rfl⟩
  · split
    · exact hP.bound _ _ h
    · have hmeaning := hP.meaning _ _ h
      split
      · exact ⟨Asks.refl.note _ _ _, rfl⟩
      · exact hmeaning
    · exact ⟨.refl, rfl⟩
    · exact hP.component _ _ _ h
    · exact asks_visitNamed hP h

/-- A walk notes diagnostics and asks for definitions, in the scope in which it starts. -/
theorem asks_walkWithin (hP : Inherited P) (h : P s.scope ty) (room : Nat) (node : Schema) :
    Asks b P s (walkWithin b room ty node s).state ∧
      (walkWithin b room ty node s).state.scope = s.scope := by
  induction room generalizing ty node with
  | zero => exact ⟨Asks.refl.note _ _ _, rfl⟩
  | succ room ih =>
    have hstep := asks_visit (b := b) hP h
    unfold walkWithin
    generalize visit b ty s = step at hstep ⊢
    cases step with
    | answer stands schema t => exact hstep
    | pass u => exact ih hstep node
    | wrap u around stands => exact ih hstep .empty

theorem asks_walk (hP : Inherited P) (h : P s.scope ty) (node : Schema) :
    Asks b P s (s.walk b ty node).state := (asks_walkWithin hP h _ node).1

/-- No property of occurrences. -/
theorem inherited_true : Inherited (fun _ _ => True) :=
  ⟨fun _ _ _ _ _ _ => trivial, fun _ _ _ _ => trivial, fun _ _ _ => trivial, fun _ _ _ => trivial⟩

@[simp] theorem walk_scope (b : Builder) (ty : TypeExpr) (node : Schema) (s : BuildState) :
    (s.walk b ty node).state.scope = s.scope :=
  (asks_walkWithin inherited_true trivial _ node).2

end BuildState

@[simp] theorem Scope.setMember_setMember (s : Scope) (m n : Option String) :
    (s.setMember m).setMember n = s.setMember n := by
  cases s <;> rfl

@[simp] theorem Scope.tail_setMember (s : Scope) (m : Option String) :
    (s.setMember m).tail = s.tail := by
  cases s <;> rfl

/-- Whether what holds of a declaration in its scope, with so many levels of supertypes left, gives a
property to the types of its members, and holds of its supertypes. -/
structure Descends (b : Builder) (P : Scope → TypeExpr → Prop)
    (Q : Nat → Scope → Declaration → Prop) : Prop where
  member : ∀ k s d, Q k s d → ∀ m ∈ d.members, ∀ name, P (s.setMember name) m.type
  supertype : ∀ k s d, Q (k + 1) s d → ∀ t ∈ d.supertypes, ∀ parent,
    (s.resolveDeep t).baseName?.bind b.index.lookup = some parent →
      Q k (.ofType (s.resolveDeep t) parent :: s) parent

/-! Expanding a body. -/

namespace Body

open BuildState

variable {b : Builder} {P : Scope → TypeExpr → Prop} {Q : Nat → Scope → Declaration → Prop}
  {s : BuildState} {d : Declaration} {body : Body}

theorem asks_addMember (hP : Inherited P) {m : Member}
    (hm : P (body.state.scope.setMember (some m.name)) m.type) :
    Asks b P body.state (body.addMember b d m).state := by
  dsimp only [Body.addMember]
  split
  · exact .refl
  · exact (Asks.refl.enter _).trans (asks_walk hP hm .empty)

theorem scope_addMember (b : Builder) (d : Declaration) (body : Body) (m : Member) :
    (body.addMember b d m).state.scope = body.state.scope ∨
      (body.addMember b d m).state.scope = body.state.scope.setMember (some m.name) := by
  dsimp only [Body.addMember]
  split
  · exact .inl rfl
  · exact .inr (by rw [walk_scope]; rfl)

theorem asks_addMembers (hP : Inherited P)
    (hd : ∀ m ∈ d.members, ∀ name, P (body.state.scope.setMember name) m.type) :
    Asks b P body.state (body.addMembers b d).state ∧
      (body.addMembers b d).state.scope = body.state.scope.setMember none := by
  have hfold : Asks b P body.state (d.members.foldl (addMember b d) body).state ∧
      ∀ name, (d.members.foldl (addMember b d) body).state.scope.setMember name =
        body.state.scope.setMember name := by
    refine List.foldlRecOn (motive := fun body' : Body => Asks b P body.state body'.state ∧
      ∀ name, body'.state.scope.setMember name = body.state.scope.setMember name) d.members _
      ⟨.refl, fun _ => rfl⟩ (fun body' ⟨hasks, hscope⟩ m hm => ⟨?_, fun name => ?_⟩)
    · exact hasks.trans (asks_addMember hP (hscope _ ▸ hd m hm _))
    · rcases scope_addMember b d body' m with h | h
      · rw [h, hscope]
      · rw [h, Scope.setMember_setMember, hscope]
  exact ⟨hfold.1.enter _, hfold.2 none⟩

/-- What entering a supertype can come to. -/
theorem addSupertype_cases (b : Builder) (descend : Declaration → Body → Body) (body : Body)
    (supertype : TypeExpr) :
    body.addSupertype b descend supertype = body ∨
      ∃ parent, (body.state.scope.resolveDeep supertype).baseName?.bind b.index.lookup =
          some parent ∧ parent.name ∉ body.visited ∧
        body.addSupertype b descend supertype =
          (descend parent (body.enter (body.state.scope.resolveDeep supertype) parent)).leave := by
  dsimp only [addSupertype]
  split
  · exact .inl rfl
  · rename_i parent hparent
    split
    · exact .inl rfl
    · rename_i hnew
      simp only [Bool.or_eq_true, List.contains_iff_mem, not_or] at hnew
      exact .inr ⟨parent, hparent, hnew.2, rfl⟩

/-- Adding a declaration leaves the scope as it was, and asks for what its members and supertypes do. -/
theorem asks_addDeclaration (hP : Inherited P) (hQ : Descends b P Q) (fuel : Nat)
    (hd : Q fuel body.state.scope d) :
    Asks b P body.state (body.addDeclaration b fuel d).state ∧
      (body.addDeclaration b fuel d).state.scope = body.state.scope.setMember none := by
  induction fuel generalizing d body with
  | zero => exact asks_addMembers hP (hQ.member _ _ _ hd)
  | succ fuel ih =>
    have hsupertypes : Asks b P body.state
          (d.supertypes.foldl (addSupertype b (addDeclaration b fuel)) body).state ∧
        (d.supertypes.foldl (addSupertype b (addDeclaration b fuel)) body).state.scope =
          body.state.scope := by
      refine List.foldlRecOn (motive := fun body' : Body => Asks b P body.state body'.state ∧
        body'.state.scope = body.state.scope) d.supertypes _ ⟨.refl, rfl⟩
        (fun body' ⟨hasks, hscope⟩ supertype hsup => ?_)
      rcases addSupertype_cases b (addDeclaration b fuel) body' supertype with
        heq | ⟨parent, hparent, -, heq⟩
      · rw [heq]
        exact ⟨hasks, hscope⟩
      · have hentered : Q fuel (body'.enter (body'.state.scope.resolveDeep supertype)
            parent).state.scope parent := by
          change Q fuel (.ofType (body'.state.scope.resolveDeep supertype) parent ::
            body'.state.scope) parent
          rw [hscope] at hparent ⊢
          exact hQ.supertype _ _ _ hd supertype hsup parent hparent
        obtain ⟨hdown, hback⟩ := ih hentered
        rw [heq]
        refine ⟨((hasks.enter _).trans hdown).enter _, ?_⟩
        rw [← hscope]
        exact (congrArg List.tail hback).trans (Scope.tail_setMember ..)
    unfold addDeclaration
    generalize d.supertypes.foldl (addSupertype b (addDeclaration b fuel)) body = body' at *
    obtain ⟨hasks, hscope⟩ := hsupertypes
    have hmembers := asks_addMembers (b := b) hP (hscope ▸ hQ.member _ _ _ hd)
    exact ⟨hasks.trans hmembers.1, hmembers.2.trans (by rw [hscope])⟩

end Body

namespace BuildState

variable {b : Builder} {P : Scope → TypeExpr → Prop} {Q : Nat → Scope → Declaration → Prop}
  {s : BuildState} {d : Declaration}

theorem asks_expandDeclaration (hP : Inherited P) (hQ : Descends b P Q) {frame : Frame}
    (hd : Q b.index.size [frame] d) : Asks b P s (s.expandDeclaration b d frame).2 := by
  dsimp only [expandDeclaration]
  split
  · exact Asks.refl.enter _
  · let start : Body := { visited := [d.name], state := { s with scope := [frame] } }
    have hbody : Asks b P start.state (start.addDeclaration b b.index.size d).state :=
      (Body.asks_addDeclaration hP hQ b.index.size hd).1
    exact ((Asks.refl.enter _).trans hbody).enter _

/-- Expanding a definition asks for what the members and supertypes of its declaration do. -/
theorem asks_expand (hP : Inherited P) (hQ : Descends b P Q) {item : WorkItem}
    (hd : ∀ d, item.type.baseName?.bind b.index.lookup = some d → Q b.index.size [item.frame] d) :
    Asks b P s (s.expand b item).2 := by
  unfold expand
  split
  · exact .refl
  · rename_i d hitem
    exact asks_expandDeclaration hP hQ (hd d hitem)

@[simp] theorem expand_scope (b : Builder) (item : WorkItem) (s : BuildState) :
    (s.expand b item).2.scope = s.scope := by
  unfold expand
  split <;> rfl

end BuildState

/-! Vocabularies are such properties. -/

namespace Vocabulary

variable {b : Builder} {v : Vocabulary}

/-- Whether an occurrence and its scope use names as a vocabulary allows. -/
def Occurs (v : Vocabulary) (s : Scope) (t : TypeExpr) : Prop := v.CoversScope s ∧ v.Covers t

theorem inherited_occurs (v : Vocabulary) : Inherited v.Occurs where
  argument _ _ _ h a ha := ⟨h.1, (covers_named.mp h.2).2 a ha⟩
  component _ _ _ h := ⟨h.1, covers_array.mp h.2⟩
  meaning _ n h := ⟨h.1, covers_meaning h.1 n⟩
  bound _ _ h := ⟨h.1, covers_resolveDeep h.1 h.2⟩

theorem descends_occurs (hi : v.CoversIndex b.index) :
    Descends b v.Occurs (fun _ s d => v.CoversScope s ∧ v.CoversDeclaration d) where
  member _ _ _ h m hm name := ⟨coversScope_setMember h.1 name, h.2.member m hm⟩
  supertype _ s _ h t ht parent hparent := by
    obtain ⟨n, -, hl⟩ := Option.bind_eq_some_iff.mp hparent
    have hp := hi.declaration n parent hl
    have hr := covers_resolveDeep h.1 (h.2.supertype t ht)
    exact ⟨List.forall_mem_cons.mpr ⟨coversFrame_ofType hr hp, h.1⟩, hp⟩

end Vocabulary

namespace BuildState

variable {b : Builder} {v : Vocabulary} {s t : BuildState} {ty : TypeExpr}

theorem Asks.covers (hi : v.CoversIndex b.index) (h : Asks b v.Occurs s t) : Grows b v s t :=
  h.grows (fun _ _ h => Vocabulary.covers_canonicalize hi (Vocabulary.covers_resolveDeep h.1 h.2))

theorem grows_register (hi : v.CoversIndex b.index) (hs : v.CoversScope s.scope)
    (hty : v.Covers ty) : Grows b v s (s.register b ty).2 :=
  (asks_register (P := v.Occurs) ⟨hs, hty⟩).covers hi

theorem grows_walk (hi : v.CoversIndex b.index) (hs : v.CoversScope s.scope) (hty : v.Covers ty)
    (node : Schema) : Grows b v s (s.walk b ty node).state :=
  (asks_walk v.inherited_occurs ⟨hs, hty⟩ node).covers hi

/-- Expanding a definition defines types of the vocabulary of its frame. -/
theorem grows_expand (hi : v.CoversIndex b.index) {item : WorkItem}
    (hf : v.CoversFrame item.frame) : Grows b v s (s.expand b item).2 := by
  refine (asks_expand v.inherited_occurs (Vocabulary.descends_occurs hi) (fun d hd => ?_)).covers hi
  obtain ⟨n, -, hl⟩ := Option.bind_eq_some_iff.mp hd
  exact ⟨by simpa [Vocabulary.CoversScope] using hf, hi.declaration n d hl⟩

end BuildState
end SchemaGraph
