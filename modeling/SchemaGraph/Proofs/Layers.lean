import SchemaGraph.Proofs.Links
import SchemaGraph.Proofs.Outline

/-! Layers of overrides write into the bodies of definitions, and a build reads no body: which definitions
there are, what they are called and what is noted does not depend on the overrides. -/
namespace SchemaGraph

/-! Walks. -/

/-- The step with the outlines in the state that it answers with. -/
def Visit.outlined : Visit → Visit
  | answer t schema s => answer t schema s.outlined
  | pass t => pass t
  | wrap t around stands => wrap t around stands

/-- The walk with the outlines in the state that it comes to. -/
def Walked.outlined (w : Walked) : Walked := { w with state := w.state.outlined }

namespace BuildState

variable {b : Builder} {s s' : BuildState} {t : TypeExpr}

theorem visitEnum_outlined (b : Builder) (t : TypeExpr) (name : String) (s : BuildState) :
    visitEnum b t name s.outlined = (visitEnum b t name s).outlined := by
  rw [visitEnum, visitEnum, register_outlined]
  split <;> rfl

theorem visitNamed_outlined (b : Builder) (name : String) (args : List TypeExpr) (s : BuildState) :
    visitNamed b name args s.outlined = (visitNamed b name args s).outlined := by
  dsimp only [visitNamed, outlined_scope]
  split
  · rfl
  · split
    · cases args <;> rfl
    · split
      · exact visitEnum_outlined ..
      · split
        · cases args <;> rfl
        · split
          · unfold visitMap
            split <;> rfl
          · rw [visitClass, visitClass, register_outlined]
            rfl

theorem visit_outlined (b : Builder) (t : TypeExpr) (s : BuildState) :
    visit b t s.outlined = (visit b t s).outlined := by
  unfold visit
  split
  · rfl
  · cases t with
    | named name args => exact visitNamed_outlined ..
    | var name =>
      dsimp only [outlined_scope]
      split <;> rfl
    | _ => rfl

theorem walkWithin_outlined (b : Builder) (room : Nat) (t : TypeExpr) (node : Schema)
    (s : BuildState) : walkWithin b room t node s.outlined = (walkWithin b room t node s).outlined := by
  induction room generalizing t node with
  | zero => rfl
  | succ room ih =>
    simp only [walkWithin, visit_outlined]
    cases visit b t s with
    | answer stands schema s' => rfl
    | pass u => exact ih u node
    | wrap u around stands =>
      simp only [Visit.outlined, Visit.follow, ih]
      rfl

end BuildState

/-! Overrides. -/

/-- The builder with other overrides beside the declarations. -/
def Builder.overridden (b : Builder) (o : OverrideMap) : Builder := { b with overrides := o }

/-- Whether other overrides hide the same members of declarations. -/
def Builder.HidesAlike (b : Builder) (o : OverrideMap) : Prop :=
  ∀ n d, b.index.lookup n = some d → ∀ m ∈ d.members,
    (Body.memberOverrides (b.overridden o) d m).hidden = (Body.memberOverrides b d m).hidden

@[simp] theorem Builder.overridden_index (b : Builder) (o : OverrideMap) :
    (b.overridden o).index = b.index := rfl

@[simp] theorem Builder.overridden_maxNesting (b : Builder) (o : OverrideMap) :
    (b.overridden o).options.maxNesting = b.options.maxNesting := rfl

@[simp] theorem Builder.overridden_allows (b : Builder) (o : OverrideMap) (d : Declaration)
    (m : Member) : (b.overridden o).allows d m = b.allows d m := rfl

namespace BuildState

variable {b : Builder} {o : OverrideMap} {s s' : BuildState}

/-- A walk reads no overrides. -/
theorem walkWithin_overridden (b : Builder) (o : OverrideMap) (room : Nat) :
    walkWithin (b.overridden o) room = walkWithin b room := by
  induction room with
  | zero => rfl
  | succ room ih => exact congrArg (fun descend t node s => (visit b t s).follow descend node s) ih

/-- From states with the same outlines walks give the same, and come to such states. -/
theorem walk_overridden (h : s.outlined = s'.outlined) (o : OverrideMap) (t : TypeExpr)
    (node : Schema) :
    (s.walk b t node).outlined = (s'.walk (b.overridden o) t node).outlined := by
  rw [walk, walk, Builder.overridden_maxNesting, walkWithin_overridden, ← walkWithin_outlined, h,
    walkWithin_outlined]

end BuildState

namespace Body

/-- Whether two bodies have entered the same declarations, in states with the same outlines. -/
structure Parallel (x y : Body) : Prop where
  visited : x.visited = y.visited
  state : x.state.outlined = y.state.outlined

variable {b : Builder} {o : OverrideMap} {x y : Body} {d : Declaration}

theorem Parallel.setMember (h : x.Parallel y) (m : Option String) :
    (x.setMember m).Parallel (y.setMember m) where
  visited := h.visited
  state := congrArg (fun s : BuildState => { s with scope := s.scope.setMember m }) h.state

theorem Parallel.enter (h : x.Parallel y) (supertype : TypeExpr) (parent : Declaration) :
    (x.enter supertype parent).Parallel (y.enter supertype parent) where
  visited := congrArg (parent.name :: ·) h.visited
  state := congrArg
    (fun s : BuildState => { s with scope := .ofType supertype parent :: s.scope }) h.state

theorem Parallel.leave (h : x.Parallel y) : x.leave.Parallel y.leave where
  visited := h.visited
  state := congrArg (fun s : BuildState => { s with scope := s.scope.tail }) h.state

/-- What is written for a member comes after its walk. -/
theorem Parallel.addMember {m : Member} (h : x.Parallel y)
    (hhidden : (memberOverrides (b.overridden o) d m).hidden = (memberOverrides b d m).hidden) :
    (x.addMember b d m).Parallel (y.addMember (b.overridden o) d m) := by
  dsimp only [Body.addMember]
  rw [hhidden, Builder.overridden_allows]
  split
  · exact h
  · have hwalk := BuildState.walk_overridden (b := b) (h.setMember (some m.name)).state o m.type .empty
    exact ⟨h.visited, congrArg Walked.state hwalk⟩

theorem Parallel.addMembers (h : x.Parallel y)
    (hhidden : ∀ m ∈ d.members,
      (memberOverrides (b.overridden o) d m).hidden = (memberOverrides b d m).hidden) :
    (x.addMembers b d).Parallel (y.addMembers (b.overridden o) d) := by
  refine Parallel.setMember ?_ none
  exact List.foldl_rel h (fun m hm _ _ hxy => hxy.addMember (hhidden m hm))

theorem Parallel.addSupertype {descend descend' : Declaration → Body → Body}
    (hdescend : ∀ n p, b.index.lookup n = some p → ∀ {x y : Body}, x.Parallel y →
      (descend p x).Parallel (descend' p y))
    (h : x.Parallel y) (supertype : TypeExpr) :
    (x.addSupertype b descend supertype).Parallel
      (y.addSupertype (b.overridden o) descend' supertype) := by
  have hscope : y.state.scope = x.state.scope := (congrArg BuildState.scope h.state).symm
  dsimp only [Body.addSupertype]
  rw [hscope, Builder.overridden_index, ← h.visited]
  split
  · exact h
  · rename_i p hp
    obtain ⟨n, -, hn⟩ := Option.bind_eq_some_iff.mp hp
    split
    · exact h
    · exact (hdescend n p hn (h.enter _ p)).leave

theorem Parallel.addDeclaration (ho : b.HidesAlike o) (fuel : Nat) {n : String}
    (hd : b.index.lookup n = some d) (h : x.Parallel y) :
    (x.addDeclaration b fuel d).Parallel (y.addDeclaration (b.overridden o) fuel d) := by
  induction fuel generalizing n d x y with
  | zero => exact h.addMembers (ho n d hd)
  | succ fuel ih =>
    have hdescend : ∀ n p, b.index.lookup n = some p → ∀ {x y : Body}, x.Parallel y →
        (x.addDeclaration b fuel p).Parallel (y.addDeclaration (b.overridden o) fuel p) :=
      fun n p hp _ _ hxy => ih hp hxy
    refine Parallel.addMembers ?_ (ho n d hd)
    exact List.foldl_rel h (fun t _ _ _ hxy => hxy.addSupertype hdescend t)

end Body

namespace BuildState

variable {b : Builder} {o : OverrideMap} {s s' : BuildState}

theorem expand_overridden (ho : b.HidesAlike o) (item : WorkItem) (h : s.outlined = s'.outlined) :
    (s.expand b item).2.outlined = (s'.expand (b.overridden o) item).2.outlined := by
  have hscope : s'.scope = s.scope := (congrArg BuildState.scope h).symm
  dsimp only [expand]
  rw [Builder.overridden_index]
  split
  · exact h
  · rename_i d hd
    obtain ⟨n, -, hn⟩ := Option.bind_eq_some_iff.mp hd
    have hbody : Body.Parallel
        { visited := [d.name], state := { s with scope := [item.frame] } }
        { visited := [d.name], state := { s' with scope := [item.frame] } } :=
      ⟨rfl, congrArg (fun s : BuildState => { s with scope := [item.frame] }) h⟩
    have houter : ∀ {t t' : BuildState}, t.outlined = t'.outlined →
        { t with scope := s.scope }.outlined = { t' with scope := s'.scope }.outlined := by
      intro t t' ht
      rw [hscope]
      exact congrArg (fun t : BuildState => { t with scope := s.scope }) ht
    dsimp only [expandDeclaration]
    cases d.values? with
    | some vs => exact houter h
    | none => exact houter (hbody.addDeclaration ho b.index.size hn).state

theorem step_overridden (ho : b.HidesAlike o) (h : s.outlined = s'.outlined) :
    (s.step b).outlined = (s'.step (b.overridden o)).outlined := by
  have hworklist : s'.worklist = s.worklist := (congrArg BuildState.worklist h).symm
  have hexpanding : s'.expanding = s.expanding := (congrArg BuildState.expanding h).symm
  have hcomplete : ∀ {t t' : BuildState}, t.outlined = t'.outlined → ∀ id body body',
      { t with expanding := s.expanding, registry := t.registry.complete id body }.outlined =
        { t' with expanding := s.expanding, registry := t'.registry.complete id body' }.outlined := by
    intro t t' ht id body body'
    simp only [outlined, Registry.outlined_complete]
    exact congrArg (fun t : BuildState => { t with expanding := s.expanding }) ht
  dsimp only [step]
  rw [hworklist, hexpanding]
  cases s.worklist.pop? with
  | none => exact h
  | some next =>
    obtain ⟨item, worklist⟩ := next
    have hopened : { s with worklist, expanding := some item.target }.outlined =
        { s' with worklist, expanding := some item.target }.outlined :=
      congrArg (fun s : BuildState => { s with worklist, expanding := some item.target }) h
    exact hcomplete (expand_overridden ho item hopened) _ _ _

theorem drain_overridden (ho : b.HidesAlike o) (h : s.outlined = s'.outlined) :
    (s.drain b).outlined = (s'.drain (b.overridden o)).outlined := by
  -- The queue is no part of a body, so that both drains take the same number of steps.
  induction s using drain_induction (b := b) generalizing s' with
  | done s hd =>
    have hsame : s.isDone = s'.isDone := (congrArg BuildState.isDone h :)
    rwa [drain_of_isDone hd, drain_of_isDone (hsame.symm.trans hd)]
  | step s hd ih =>
    have hsame : s.isDone = s'.isDone := (congrArg BuildState.isDone h :)
    have hd' : s'.isDone = false := hsame.symm.trans hd
    rw [← drain_step hd, ← drain_step (b := b.overridden o) hd']
    exact ih (step_overridden ho h)

theorem addRoot_overridden (ho : b.HidesAlike o) (h : s.outlined = s'.outlined) (root : TypeExpr) :
    (s.addRoot b root).1 = (s'.addRoot (b.overridden o) root).1 ∧
      (s.addRoot b root).2.outlined = (s'.addRoot (b.overridden o) root).2.outlined := by
  have hwalk := walk_overridden (b := b) h o root .empty
  have hschema : (s.walk b root .empty).schema = (s'.walk (b.overridden o) root .empty).schema :=
    (congrArg Walked.schema hwalk :)
  exact ⟨hschema, drain_overridden ho (congrArg Walked.state hwalk)⟩

theorem addRoots_overridden (ho : b.HidesAlike o) (h : s.outlined = s'.outlined)
    (roots : List TypeExpr) :
    (s.addRoots b roots).1 = (s'.addRoots (b.overridden o) roots).1 ∧
      (s.addRoots b roots).2.outlined = (s'.addRoots (b.overridden o) roots).2.outlined := by
  induction roots generalizing s s' with
  | nil => exact ⟨rfl, h⟩
  | cons root roots ih =>
    obtain ⟨hschema, hstate⟩ := addRoot_overridden ho h root
    obtain ⟨hschemas, hend⟩ := ih hstate
    exact ⟨List.cons_eq_cons.mpr ⟨hschema, hschemas⟩, hend⟩

end BuildState

/-! Names of definitions. -/

namespace Assoc

variable {α : Type u} {β : Type v} {γ : Type w} [Ord α]

theorem map_insert (f : β → γ) (k : α) (v : β) (m : List (α × β)) :
    (insert k v m).map (Prod.map id f) = insert k (f v) (m.map (Prod.map id f)) := by
  induction m with
  | nil => rfl
  | cons e m ih =>
    obtain ⟨k', v'⟩ := e
    simp only [insert, List.map_cons, Prod.map_apply, id_eq]
    split
    · rfl
    · rfl
    · rw [List.map_cons, ih]
      rfl

/-- Entries are sorted by their keys alone. -/
theorem map_sorted (f : β → γ) (entries : List (α × β)) :
    (sorted entries).map (Prod.map id f) = sorted (entries.map (Prod.map id f)) := by
  rw [sorted, sorted, List.foldl_map]
  refine (List.foldl_hom _ (fun m e => ?_)).symm
  exact (map_insert f e.1 e.2 m).symm

end Assoc

theorem Registry.definitions_outlined (r : Registry) :
    r.outlined.definitions = r.definitions.map (Prod.map id (fun _ => {})) := by
  rw [definitions, definitions, Assoc.map_sorted, outlined, outline, List.map_map, List.map_map]
  rfl

/-- Definitions with the same outlines have the same names. -/
theorem Registry.names_definitions {r r' : Registry} (h : r.outlined = r'.outlined) :
    r.definitions.map Prod.fst = r'.definitions.map Prod.fst := by
  have hnames : ∀ r : Registry, r.outlined.definitions.map Prod.fst = r.definitions.map Prod.fst := by
    intro r
    rw [definitions_outlined, List.map_map]
    rfl
  rw [← hnames r, h, hnames r']

namespace Builder

variable {b : Builder} {o : OverrideMap}

/-- Overrides never change which definitions exist. Builds of the same roots with overrides that hide the
same members come to the same definitions, with the same signatures, types, names and parents in this
order, and their documents have the same roots, names and diagnostics. Only bodies are left to differ. -/
theorem outline_overridden (ho : b.HidesAlike o) (roots : List TypeExpr) :
    ((b.overridden o).registry roots).outline = (b.registry roots).outline ∧
      ((b.overridden o).buildMany roots).roots = (b.buildMany roots).roots ∧
      ((b.overridden o).buildMany roots).diagnostics = (b.buildMany roots).diagnostics ∧
      ((b.overridden o).buildMany roots).definitions.map Prod.fst =
        (b.buildMany roots).definitions.map Prod.fst := by
  have hinit : (BuildState.init b).outlined = (BuildState.init (b.overridden o)).outlined := rfl
  obtain ⟨hroots, hstate⟩ := BuildState.addRoots_overridden ho hinit roots
  have hregistry : (b.registry roots).outlined = ((b.overridden o).registry roots).outlined :=
    (congrArg BuildState.registry hstate :)
  refine ⟨(congrArg Registry.entries hregistry).symm, hroots.symm, ?_, ?_⟩
  · exact (congrArg BuildState.diagnostics hstate :).symm
  · exact (Registry.names_definitions hregistry).symm

/-- Users with a pet, a friend and a secret, which is hidden. -/
def pets : Index :=
  let pet : Declaration :=
    { name := "zoo::Pet", members := [{ name := "age", type := .named "u8" [] }] }
  let user : Declaration :=
    { name := "zoo::User"
      members := [
        { name := "pet", type := .named "Option" [.named "zoo::Pet" []] },
        { name := "friend", type := .named "zoo::User" [] },
        { name := "secret", type := .named "zoo::Lost" [], overrides := { hidden := true } }] }
  (Index.standard.insert pet).insert user

/-- A text in place of the pet. -/
def petNames : OverrideMap :=
  OverrideMap.insertMember {} "User" "pet"
    { type := some .string, rename := some "petName", required := some true }

/-- The properties of definitions, whether each is a reference, and the required ones. -/
def propertyKinds (r : Registry) : List (String × List (String × Bool) × List String) :=
  r.entries.map (fun e =>
    (e.name, (e.body.properties.getD []).map (fun p => (p.1, p.2.ref.isSome)),
      e.body.required.getD []))

/-- The member that leads to the second definition becomes a text under another name, and is required. -/
theorem outline_overridden_pets :
    let b : Builder := { index := pets }
    let b' : Builder := b.overridden petNames
    let roots : List TypeExpr := [.array (.named "zoo::User" []) 1]
    b.HidesAlike petNames ∧ (b'.registry roots).outline = (b.registry roots).outline ∧
      propertyKinds (b.registry roots) =
        [("User", [("pet", true), ("friend", true)], []), ("Pet", [("age", false)], [])] ∧
      propertyKinds (b'.registry roots) =
        [("User", [("petName", false), ("friend", true)], ["petName"]),
          ("Pet", [("age", false)], [])] := by
  intro b b' roots
  have ho : b.HidesAlike petNames := by
    intro n d hd m hm
    obtain ⟨k, hk⟩ := Index.mem_of_lookup hd
    have hall : ∀ e ∈ pets.declarations, ∀ m ∈ e.2.members,
        (Body.memberOverrides b' e.2 m).hidden = (Body.memberOverrides b e.2 m).hidden := by
      decide +kernel
    exact hall (k, d) hk m hm
  have hbodies : ((BuildState.init b).addRootsWithin? b 2 roots).map
      (fun r => propertyKinds r.2.registry) = some
        [("User", [("pet", true), ("friend", true)], []), ("Pet", [("age", false)], [])] := by
    decide +kernel
  have hbodies' : ((BuildState.init b').addRootsWithin? b' 2 roots).map
      (fun r => propertyKinds r.2.registry) = some
        [("User", [("petName", false), ("friend", true)], ["petName"]),
          ("Pet", [("age", false)], [])] := by
    decide +kernel
  exact ⟨ho, (outline_overridden ho roots).1, BuildState.eq_of_addRootsWithin? hbodies,
    BuildState.eq_of_addRootsWithin? hbodies'⟩

end Builder
end SchemaGraph
