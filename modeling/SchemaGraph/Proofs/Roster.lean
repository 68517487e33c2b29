import SchemaGraph.Proofs.Ancestry
import SchemaGraph.Proofs.Chart
import SchemaGraph.Proofs.Fields

/-! The members that are walked into a body, one after the other, and what is written of them: the schema of
the last member that becomes a property, and the properties that a member requires. -/
namespace SchemaGraph

/-! Lists without their repetitions, and keys. -/

theorem eraseDups_concat {α : Type} [DecidableEq α] (l : List α) (a : α) :
    (l ++ [a]).eraseDups = if a ∈ l then l.eraseDups else l.eraseDups ++ [a] := by
  rw [List.eraseDups_append]
  split
  · rename_i h
    simp [List.removeAll, h]
  · rename_i h
    simp [List.removeAll, h, List.eraseDups_cons]

theorem nodup_eraseDups {α : Type} [DecidableEq α] (l : List α) : l.eraseDups.Nodup := by
  induction l using List.reverseRecOn with
  | nil => exact .nil
  | append_singleton l a ih =>
    rw [eraseDups_concat]
    split
    · exact ih
    · rename_i h
      refine List.nodup_append.mpr ⟨ih, by simp, fun x hx y hy heq => h ?_⟩
      rw [← List.mem_singleton.mp hy, ← heq]
      exact List.mem_eraseDups.mp hx

/-- What is written are the keys of the entries, in the order in which they come first. -/
theorem Assoc.map_fst_foldl_put {α β : Type} [DecidableEq α] (entries : List (α × β)) :
    (entries.foldl (fun m e => put e.1 e.2 m) []).map Prod.fst =
      (entries.map Prod.fst).eraseDups := by
  induction entries using List.reverseRecOn with
  | nil => rfl
  | append_singleton entries e ih =>
    rw [List.foldl_append, List.foldl_cons, List.foldl_nil, map_fst_put, ih, List.map_append,
      List.map_singleton, eraseDups_concat]
    simp only [List.mem_eraseDups]

/-! Members in their places. -/

/-- A member of a declaration, with the scope in which it is walked. -/
structure Place where
  scope : Scope
  owner : Declaration
  member : Member

namespace Place

/-- A member of a declaration that is walked in a scope. -/
def within (scope : Scope) (d : Declaration) (m : Member) : Place :=
  ⟨scope.setMember (some m.name), d, m⟩

def overrides (b : Builder) (p : Place) : Overrides := Body.memberOverrides b p.owner p.member

/-- The property that the member becomes. -/
def property (b : Builder) (p : Place) : String := Body.property b p.owner p.member

/-- Whether the member is listed as required. -/
def requires (b : Builder) (p : Place) : Bool := (p.overrides b).required = some true

/-- Walks the member in its scope. -/
def walk (b : Builder) (p : Place) (s : BuildState) : Schema × BuildState :=
  let w := { s with scope := p.scope }.walk b p.member.type .empty
  ((p.overrides b).apply w.schema, w.state)

end Place

/-- Members that have been walked one after the other, with their schemas. -/
structure Draft where
  written : List (Place × Schema) := []
  state : BuildState

namespace Draft

def add (b : Builder) (x : Draft) (p : Place) : Draft :=
  let (schema, s) := p.walk b x.state
  { written := x.written ++ [(p, schema)], state := s }

/-- The properties that are written of members. -/
def properties (b : Builder) (x : Draft) : List (String × Schema) :=
  (x.written.map (fun e => (e.1.property b, e.2))).foldl (fun m e => Assoc.put e.1 e.2 m) []

/-- The properties that the members require. -/
def required (b : Builder) (x : Draft) : List String :=
  ((x.written.map Prod.fst).filter (Place.requires b)).map (Place.property b) |>.eraseDups

end Draft

/-- Walks members one after the other from a state on. -/
def BuildState.draft (b : Builder) (s : BuildState) (ps : List Place) : Draft :=
  ps.foldl (Draft.add b) { state := s }

namespace Draft

variable {b : Builder} {s : BuildState}

theorem draft_concat (ps : List Place) (p : Place) :
    s.draft b (ps ++ [p]) = (s.draft b ps).add b p := by
  rw [BuildState.draft, List.foldl_append]
  rfl

theorem map_fst_written (ps : List Place) : (s.draft b ps).written.map Prod.fst = ps := by
  induction ps using List.reverseRecOn with
  | nil => rfl
  | append_singleton ps p ih =>
    rw [draft_concat, add, List.map_append, ih]
    rfl

theorem properties_add (x : Draft) (p : Place) :
    (x.add b p).properties b =
      Assoc.put (p.property b) (p.walk b x.state).1 (x.properties b) := by
  simp [properties, add]

theorem required_add (x : Draft) (p : Place) :
    (x.add b p).required b =
      if p.requires b = true ∧ p.property b ∉ x.required b then x.required b ++ [p.property b]
      else x.required b := by
  cases hp : p.requires b with
  | false => simp [required, add, hp]
  | true =>
    have hlast : (x.add b p).required b =
        (((x.written.map Prod.fst).filter (Place.requires b)).map (Place.property b) ++
          [p.property b]).eraseDups := by
      simp [required, add, hp]
    rw [hlast, eraseDups_concat]
    simp only [required, List.mem_eraseDups, true_and, ite_not]

/-- The properties are those that the members become, in the order in which they come first. -/
theorem keys_draft (s : BuildState) (ps : List Place) :
    ((s.draft b ps).properties b).map Prod.fst = (ps.map (Place.property b)).eraseDups := by
  rw [properties, Assoc.map_fst_foldl_put, List.map_map]
  conv_rhs => rw [← map_fst_written (b := b) (s := s) ps, List.map_map]
  rfl

theorem required_draft (s : BuildState) (ps : List Place) :
    (s.draft b ps).required b =
      ((ps.filter (Place.requires b)).map (Place.property b)).eraseDups := by
  rw [required, map_fst_written]

/-- The last member that becomes a property gives its schema. -/
theorem lookup_draft (s : BuildState) (front : List Place) (p : Place) {rest : List Place}
    (h : p.property b ∉ rest.map (Place.property b)) :
    ((s.draft b (front ++ p :: rest)).properties b).lookup (p.property b) =
      some (p.walk b (s.draft b front).state).1 := by
  induction rest using List.reverseRecOn with
  | nil => rw [draft_concat, properties_add, Assoc.lookup_put_self]
  | append_singleton rest q ih =>
    rw [List.map_append, List.mem_append, not_or, List.map_singleton, List.mem_singleton] at h
    rw [← List.cons_append, ← List.append_assoc, draft_concat, properties_add,
      Assoc.lookup_put_of_ne h.2, ih h.1]

theorem draft_append (ps qs : List Place) :
    s.draft b (ps ++ qs) = qs.foldl (Draft.add b) (s.draft b ps) := List.foldl_append

end Draft

namespace Builder

/-- Whether a member is allowed by every filter and hidden by no layer. -/
def shows (b : Builder) (d : Declaration) (m : Member) : Bool :=
  b.allows d m && !(Body.memberOverrides b d m).hidden

theorem not_shows (b : Builder) (d : Declaration) (m : Member) :
    (!b.allows d m || (Body.memberOverrides b d m).hidden) = !b.shows d m := by
  rw [shows, Bool.not_and, Bool.not_not]

/-- The members of a declaration that are in its body. -/
def visible (b : Builder) (d : Declaration) : List Member := d.members.filter (b.shows d)

/-- The visible members of a declaration, walked in a scope. -/
def places (b : Builder) (stop : Scope × Declaration) : List Place :=
  (b.visible stop.2).map (Place.within stop.1 stop.2)

/-- The members in the body of a type, in the order in which they are walked. -/
def roster (b : Builder) (t : TypeExpr) : List Place := (b.index.stops t).flatMap b.places

end Builder

/-! Bodies are drafts of their rosters. -/

/-- Whether a body is what has been written of some members, and stands in a scope. -/
structure Body.Drafted (b : Builder) (x : Draft) (scope : Scope) (body : Body) : Prop where
  properties : body.properties = x.properties b
  required : body.required = x.required b
  state : body.state = { x.state with scope }

/-- Whether a body is what has been written of the members along a tour. -/
structure Body.Toured (b : Builder) (s : BuildState) (scope : Scope) (l : Tour) (body : Body) :
    Prop extends Body.Drafted b (s.draft b (l.stops.flatMap b.places)) scope body where
  visited : body.visited = l.visited

namespace Body

variable {b : Builder} {x : Draft} {s : BuildState} {scope outer : Scope} {body : Body}
  {l : Tour} {d : Declaration}

theorem addMember_of_not_shows {m : Member} (h : b.shows d m = false) :
    body.addMember b d m = body := by
  unfold Body.addMember
  dsimp only
  rw [Builder.not_shows, h]
  rfl

theorem Drafted.addMember (h : Drafted b x outer body) {m : Member} (hm : b.shows d m = true)
    (hsame : outer.setMember (some m.name) = scope.setMember (some m.name)) :
    Drafted b (x.add b (.within scope d m)) (scope.setMember (some m.name))
      (body.addMember b d m) := by
  have hbegun : (body.setMember (some m.name)).state =
      { x.state with scope := scope.setMember (some m.name) } := by
    rw [← hsame, Body.setMember, h.state]
  have hscope := BuildState.walk_scope b m.type .empty
    { x.state with scope := scope.setMember (some m.name) }
  unfold Body.addMember
  dsimp only
  rw [Builder.not_shows, hm, Bool.not_true, if_neg Bool.false_ne_true, hbegun]
  constructor
  · rw [Draft.properties_add, ← h.properties]
    rfl
  · rw [Draft.required_add, ← h.required]
    simp only [Place.requires, decide_eq_true_eq]
    rfl
  · exact congrArg (fun inner => { (x.add b (.within scope d m)).state with scope := inner }) hscope

/-- The members of a declaration are written after what is there. -/
theorem Drafted.addMembers (h : Drafted b x scope body) :
    Drafted b ((b.places (scope, d)).foldl (Draft.add b) x) (scope.setMember none)
      (body.addMembers b d) := by
  have hfold : ∀ (ms : List Member) (outer : Scope) (body : Body) (x : Draft),
      Drafted b x outer body → (∀ name, outer.setMember name = scope.setMember name) →
        ∃ inner : Scope, (∀ name, inner.setMember name = scope.setMember name) ∧
          Drafted b (((ms.filter (b.shows d)).map (Place.within scope d)).foldl (Draft.add b) x)
            inner (ms.foldl (Body.addMember b d) body) := by
    intro ms
    induction ms with
    | nil => exact fun outer body x h hsame => ⟨outer, hsame, h⟩
    | cons m ms ih =>
      intro outer body x h hsame
      cases hm : b.shows d m with
      | false =>
        rw [List.filter_cons_of_neg (by simp [hm]), List.foldl_cons, addMember_of_not_shows hm]
        exact ih outer body x h hsame
      | true =>
        rw [List.filter_cons_of_pos hm, List.map_cons, List.foldl_cons, List.foldl_cons]
        exact ih _ _ _ (h.addMember hm (hsame _)) (fun name => Scope.setMember_setMember ..)
  obtain ⟨inner, hinner, hm⟩ := hfold d.members scope body x h (fun _ => rfl)
  refine ⟨hm.properties, hm.required, ?_⟩
  unfold Body.addMembers
  rw [← hinner, Body.setMember, hm.state]
  rfl

theorem Toured.addMembers (h : Toured b s scope l body) :
    Toured b s (scope.setMember none) (l.add scope d) (body.addMembers b d) where
  toDrafted := by
    have hmembers := h.toDrafted.addMembers (d := d)
    rwa [← Draft.draft_append, ← List.flatMap_singleton b.places, ← List.flatMap_append] at hmembers
  visited := by
    refine Eq.trans ?_ h.visited
    exact List.foldlRecOn (motive := fun body' : Body => body'.visited = body.visited) d.members _
      rfl (fun body' hbody m _ => (visited_addMember b d m).trans hbody)

theorem Toured.addSupertype {descend : Declaration → Body → Body}
    {go : Declaration → Scope → Tour → Tour}
    (hdescend : ∀ {scope : Scope} {body : Body} {l : Tour} (parent : Declaration),
      Toured b s scope l body → Toured b s (scope.setMember none) (go parent scope l)
        (descend parent body))
    (h : Toured b s scope l body) (supertype : TypeExpr) :
    Toured b s scope (l.addSupertype b.index go scope supertype)
      (body.addSupertype b descend supertype) := by
  have hscope : body.state.scope = scope := by rw [h.state]
  unfold Body.addSupertype Tour.addSupertype
  dsimp only
  rw [hscope, h.visited]
  cases hparent : (scope.resolveDeep supertype).baseName?.bind b.index.lookup with
  | none => exact h
  | some parent =>
    dsimp only
    by_cases hskip : (parent.isEnum || l.visited.contains parent.name) = true
    · rw [if_pos hskip, if_pos hskip]
      exact h
    · rw [if_neg hskip, if_neg hskip]
      have hentered : Toured b s (.ofType (scope.resolveDeep supertype) parent :: scope)
          { l with visited := parent.name :: l.visited }
          (body.enter (scope.resolveDeep supertype) parent) := by
        refine ⟨⟨h.properties, h.required, ?_⟩, congrArg (parent.name :: ·) h.visited⟩
        rw [Body.enter, h.state]
      have hinner := hdescend parent hentered
      refine ⟨⟨hinner.properties, hinner.required, ?_⟩, hinner.visited⟩
      rw [Body.leave, hinner.state]
      rfl

/-- Adding a declaration writes the members along its tour. -/
theorem Toured.addDeclaration (fuel : Nat) (h : Toured b s scope l body) :
    Toured b s (scope.setMember none) (Tour.addDeclaration b.index fuel d scope l)
      (body.addDeclaration b fuel d) := by
  induction fuel generalizing d scope body l with
  | zero => exact h.addMembers
  | succ fuel ih =>
    have hinherited : Toured b s scope
        (d.supertypes.foldl (Tour.addSupertype b.index (Tour.addDeclaration b.index fuel) scope) l)
        (d.supertypes.foldl (Body.addSupertype b (Body.addDeclaration b fuel)) body) :=
      List.foldl_rel h (fun t _ _ _ h => h.addSupertype (fun parent h => ih (d := parent) h) t)
    exact hinherited.addMembers

end Body

/-- Whether a node has the properties that have been written of members, and lists those that are required,
if there are any. -/
structure Schema.Holds (b : Builder) (x : Draft) (schema : Schema) : Prop where
  properties : schema.properties.getD [] = x.properties b
  required : schema.required = if x.required b = [] then none else some (x.required b)

theorem Body.Drafted.toSchema {b : Builder} {x : Draft} {scope : Scope} {body : Body}
    (h : body.Drafted b x scope) : body.toSchema.Holds b x where
  properties := h.properties
  required := by
    rw [← h.required, Body.toSchema]
    simp only [List.isEmpty_iff]

/-- Overrides of a type leave its properties as they are. -/
theorem Schema.Holds.apply {b : Builder} {x : Draft} {schema : Schema} (h : schema.Holds b x)
    (o : Overrides) : (o.apply schema).Holds b x := ⟨h.properties, h.required⟩

namespace BuildState

variable {b : Builder} {s t : BuildState} {item : WorkItem}

/-- Expanding a definition writes its roster, and comes back to the scope in which it began. -/
theorem expand_drafts (h : item.Framed b) (s : BuildState) :
    (s.expand b item).1.Holds b (s.draft b (b.roster item.type)) ∧
      (s.expand b item).2 = { (s.draft b (b.roster item.type)).state with scope := s.scope } := by
  obtain ⟨d, hd, hframe⟩ := h
  unfold expand Builder.roster Index.stops
  rw [hd]
  dsimp only
  unfold expandDeclaration Declaration.isEnum
  dsimp only
  cases hvalues : d.values? with
  | some vs => exact ⟨⟨rfl, rfl⟩, rfl⟩
  | none =>
    let start : Body :=
      { visited := [d.name], state := { s with scope := [.ofType item.type d] } }
    have hstart : start.Toured b s [.ofType item.type d] { visited := [d.name] } :=
      ⟨⟨rfl, rfl, rfl⟩, rfl⟩
    have hbody := hstart.addDeclaration (d := d) b.index.size
    rw [hframe, if_neg (by simp)]
    refine ⟨hbody.toSchema.apply _, ?_⟩
    have hstate := congrArg (fun t : BuildState => { t with scope := s.scope }) hbody.state
    exact hstate

/-- Where a build stands whose definitions have the bodies that expansions on the way gave. -/
structure Unrolled (b : Builder) (s : BuildState) : Prop where
  order : ∃ items, InOrder items.length items s
  framed : ∀ i ∈ s.worklist.queue, i.Framed b
  expanded : ∀ e ∈ s.registry.entries, e.completed = true → ∃ t item, Course b t s ∧
    item.Framed b ∧ item.type = e.type ∧ (t.expand b item).1 = e.body

theorem unrolled_init (b : Builder) : Unrolled b (init b) where
  order := ⟨[], inOrder_init b⟩
  framed := by simp [init]
  expanded := by simp [init]

theorem Unrolled.grows (h : Unrolled b s) (hg : Grows b .full s t) : Unrolled b t := by
  obtain ⟨items, ho⟩ := h.order
  refine ⟨⟨items, ho.grows hg⟩, hg.framed h.framed, fun e he hc => ?_⟩
  obtain ⟨u, item, hu, hbody⟩ := h.expanded e (hg.mem_of_completed he hc) hc
  exact ⟨u, item, hu.grows hg, hbody⟩

theorem Unrolled.step (h : Unrolled b s) (hd : s.isDone = false) : Unrolled b (s.step b) := by
  obtain ⟨item, rest, hq, hstep, hg⟩ := step_cases b hd
  obtain ⟨items, ho⟩ := h.order
  have horder := ho.step (b := b) hq
  obtain ⟨e₀, he₀, htype⟩ := ho.carried (i := item) (List.mem_append_right items (by simp [hq]))
  have hframed : item.Framed b := h.framed item (by simp [hq])
  have hcourse := course_step b s
  rw [hstep] at horder hcourse ⊢
  refine ⟨⟨_, horder⟩, hg.framed (fun i hi => h.framed i (hq ▸ List.mem_cons_of_mem item hi)), ?_⟩
  intro e he hc
  rcases hg.completed_closed he₀ he hc with rfl | hold
  · -- The definition that was taken: its body has just been walked.
    exact ⟨_, item, (Course.refl.grows hg).closed s item _, hframed, htype.symm, rfl⟩
  · obtain ⟨u, i, hu, hbody⟩ := h.expanded e hold hc
    exact ⟨u, i, hu.trans hcourse, hbody⟩

theorem unrolled_after (b : Builder) (calls : List Call) : Unrolled b (after b calls) :=
  after_induction (unrolled_init b) (fun _ _ hg h => h.grows hg) (fun _ hd h => h.step hd) calls

/-- A body that has been walked is what was written of the roster of its type, from a state on that the
build passed. -/
theorem holds_after (b : Builder) (calls : List Call) {e : Entry}
    (he : e ∈ (after b calls).registry.entries) (hc : e.completed = true) :
    ∃ s, Course b s (after b calls) ∧ e.body.Holds b (s.draft b (b.roster e.type)) := by
  obtain ⟨s, item, hs, hframed, htype, hbody⟩ := (unrolled_after b calls).expanded e he hc
  exact ⟨s, hs, htype ▸ hbody ▸ (expand_drafts hframed s).1⟩

end BuildState

namespace Builder

open BuildState (after rootCalls)

theorem addRoots_init (b : Builder) (roots : List TypeExpr) :
    ((BuildState.init b).addRoots b roots).2 = after b (rootCalls roots) :=
  BuildState.addRoots_state b roots (BuildState.init b)

theorem nodup_names (b : Builder) (roots : List TypeExpr) :
    ((b.registry roots).entries.map Entry.name).Nodup := by
  rw [registry, addRoots_init]
  exact (BuildState.sound_after b (rootCalls roots)).names

/-- Behind every definition of a build is an entry of its registry. -/
theorem exists_entry {b : Builder} {roots : List TypeExpr} {name : String} {body : Schema}
    (h : (name, body) ∈ (b.buildMany roots).definitions) :
    ∃ e ∈ (b.registry roots).entries, e.name = name ∧ e.body = body := by
  have hmem := (Registry.perm_definitions (nodup_names b roots)).mem_iff.mp h
  obtain ⟨e, he, heq⟩ := List.mem_map.mp hmem
  exact ⟨e, he, Prod.mk.inj heq⟩

/-- Every definition of a build is what was written of the roster of its type, from a state on that the build
passed. -/
theorem holds_registry {b : Builder} {roots : List TypeExpr} {e : Entry}
    (he : e ∈ (b.registry roots).entries) :
    (b.buildMany roots).definitions.lookup e.name = some e.body ∧
      ∃ s, BuildState.Course b s ((BuildState.init b).addRoots b roots).2 ∧
        e.body.Holds b (s.draft b (b.roster e.type)) := by
  have hdone : ((BuildState.init b).addRoots b roots).2.isDone = true :=
    BuildState.isDone_addRoots roots rfl
  refine ⟨Registry.lookup_definitions (nodup_names b roots) he, ?_⟩
  rw [registry] at he
  rw [addRoots_init] at he hdone ⊢
  have horder := BuildState.inOrder_after b (rootCalls roots)
  exact BuildState.holds_after b _ he
    (horder.all_completed (BuildState.queue_eq_nil_of_isDone hdone) e he)

end Builder
end SchemaGraph
