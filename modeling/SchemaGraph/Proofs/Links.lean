import SchemaGraph.Proofs.Inheritance
import SchemaGraph.Proofs.Refers
import SchemaGraph.Proofs.SingleFlight

/-! No reference dangles: every reference in a result leads to one of its definitions. -/
namespace SchemaGraph

/-- The pointers of all definitions. -/
def Registry.pointers (r : Registry) : List String := r.entries.map (fun e => r.place ++ e.name)

@[simp] theorem Registry.pointers_complete (r : Registry) (id : Nat) (body : Schema) :
    (r.complete id body).pointers = r.pointers :=
  map_complete (f := fun e => r.place ++ e.name) (fun _ _ => rfl) id body

theorem Registry.reference_of_get? {r : Registry} {id : Nat} {e : Entry} (h : r.get? id = some e) :
    r.reference id = .reference (r.place ++ e.name) := by
  simp [reference, h, Reference.below]

/-- Whether the references in a node all lead to definitions. -/
def Schema.LinksTo (r : Registry) (s : Schema) : Prop := ∀ p, s.Refers p → p ∈ r.pointers

namespace Schema

variable {r r' : Registry} {s t : Schema}

theorem LinksTo.mono (h : s.LinksTo r) (hr : r.pointers ⊆ r'.pointers) : s.LinksTo r' :=
  fun p hp => hr (h p hp)

theorem LinksTo.overlay (hs : s.LinksTo r) (ht : t.LinksTo r) : (s.overlay t).LinksTo r :=
  fun p hp => (refers_overlay hp).elim (hs p) (ht p)

theorem linksTo_of_isFlat (h : s.isFlat = true) : s.LinksTo r :=
  fun _ hp => absurd hp (not_refers_of_isFlat h)

theorem linksTo_reference {id : Nat} (h : id < r.size) : (r.reference id).LinksTo r := by
  have hget : r.get? id = some r.entries[id] := List.getElem?_eq_getElem h
  rw [Registry.reference_of_get? hget]
  intro p hp
  rw [refers_reference hp]
  exact List.mem_map.mpr ⟨_, Registry.mem_of_get? hget, rfl⟩

end Schema

/-- Whether the schemas that a builder is given, by converters and for terminal types, are no
references and hold no nodes. -/
structure Builder.Flat (b : Builder) : Prop where
  convert : ∀ ty s, b.convert? ty = some s → s.isFlat = true
  terminal : ∀ name s, b.terminals.lookup name = some s → s.isFlat = true

namespace Builder

/-- The builder of a host that has no converters. -/
def ofHost (index : Index) (overrides : OverrideMap) (filters : List (Declaration → Member → Bool))
    (o : Options) : Builder :=
  withOptions { index, overrides, filters } o

theorem flat_ofHost (index : Index) (overrides : OverrideMap)
    (filters : List (Declaration → Member → Bool)) (o : Options) :
    (ofHost index overrides filters o).Flat where
  convert ty s h := by cases h
  terminal name s h := Terminals.isFlat_withExtra h

/-- The registry at the end of a build. -/
def registry (b : Builder) (roots : List TypeExpr) : Registry :=
  ((BuildState.init b).addRoots b roots).2.registry

end Builder

namespace BuildState

variable {b : Builder} {v : Vocabulary} {s t : BuildState} {ty : TypeExpr}

theorem Grows.place (h : Grows b v s t) : t.registry.place = s.registry.place := by
  induction h with
  | refl => rfl
  | note _ _ _ _ ih => exact ih
  | enter _ _ ih => exact ih
  | define _ _ hd ih => rw [define_registry hd.fresh, ih]

theorem Grows.pointers (h : Grows b v s t) : s.registry.pointers ⊆ t.registry.pointers := by
  obtain ⟨more, hm⟩ := h.entries
  rw [Registry.pointers, Registry.pointers, h.place, hm, List.map_append]
  exact List.subset_append_left ..

theorem linksTo_register (b : Builder) (ty : TypeExpr) (s : BuildState) :
    (s.register b ty).1.LinksTo (s.register b ty).2.registry := by
  generalize hr : s.register b ty = r
  cases hr ▸ registered b ty s with
  | refused r why => exact Schema.linksTo_of_isFlat rfl
  | known id h =>
    exact Schema.linksTo_reference (List.findIdx?_eq_some_iff_getElem.mp h).1
  | defined d h =>
    rw [define_schema h.fresh]
    refine Schema.linksTo_reference ?_
    simp [define_registry h.fresh, Registry.size]

end BuildState

/-- Whether one step of a walk adds only references that lead to definitions. -/
def Visit.Links : Visit → Prop
  | answer _ schema t => schema.LinksTo t.registry
  | pass _ => True
  | wrap _ around _ => ∀ s p, (around s).Refers p → s.Refers p

namespace BuildState

variable {b : Builder} {v : Vocabulary} {s t : BuildState} {ty : TypeExpr}

theorem links_visitEnum (name : String) : (visitEnum b ty name s).Links := by
  unfold visitEnum
  split
  · exact Schema.linksTo_of_isFlat rfl
  · exact Schema.linksTo_of_isFlat rfl

theorem links_visitCollection (name : String) (args : List TypeExpr) (stands : TypeExpr) :
    (visitCollection b name args stands s).Links := by
  cases args with
  | nil =>
    exact fun p hp => absurd (Schema.refers_arrayOf hp) (Schema.not_refers_of_isFlat rfl)
  | cons a as => exact fun items p hp => Schema.refers_arrayOf hp

theorem links_visitMap (args : List TypeExpr) (stands : TypeExpr) :
    (visitMap args stands s).Links := by
  unfold visitMap
  split
  · exact fun values p hp => Schema.refers_mapOf hp
  · exact fun p hp => absurd (Schema.refers_mapOf hp) (Schema.not_refers_of_isFlat rfl)

theorem links_visitNamed (hb : b.Flat) (name : String) (args : List TypeExpr) :
    (visitNamed b name args s).Links := by
  dsimp only [visitNamed]
  split
  · rename_i terminal hterminal
    exact Schema.linksTo_of_isFlat (hb.terminal name terminal hterminal)
  · split
    · cases args with
      | nil => exact Schema.linksTo_of_isFlat rfl
      | cons a as => trivial
    · split
      · exact links_visitEnum name
      · split
        · exact links_visitCollection name args _
        · split
          · exact links_visitMap args _
          · exact linksTo_register b _ s

theorem links_visit (hb : b.Flat) (ty : TypeExpr) : (visit b ty s).Links := by
  unfold visit
  split
  · rename_i schema hschema
    exact Schema.linksTo_of_isFlat (hb.convert ty schema hschema)
  · split
    · trivial
    · split
      · exact Schema.linksTo_of_isFlat rfl
      · trivial
    · exact Schema.linksTo_of_isFlat rfl
    · exact fun items p hp => Schema.refers_nest hp
    · exact links_visitNamed hb _ _

/-- A walk into a node whose references lead to definitions makes one of this kind. -/
theorem linksTo_walkWithin (hb : b.Flat) (room : Nat) (ty : TypeExpr) (node : Schema)
    (s : BuildState) (hnode : node.LinksTo s.registry) :
    (walkWithin b room ty node s).schema.LinksTo (walkWithin b room ty node s).state.registry := by
  induction room generalizing ty node with
  | zero => exact hnode.overlay (Schema.linksTo_of_isFlat rfl)
  | succ room ih =>
    have hw : (visit b ty s).Asks b (fun _ _ => True) s := asks_visit inherited_true trivial
    have hl := links_visit (s := s) hb ty
    unfold walkWithin
    generalize visit b ty s = step at hw hl ⊢
    cases step with
    | answer stands schema t => exact (hnode.mono hw.1.full.pointers).overlay hl
    | pass u => exact ih u node hnode
    | wrap u around stands =>
      have hasks : Asks b (fun _ _ => True) s (walkWithin b room u .empty s).state :=
        (asks_walkWithin inherited_true trivial room .empty).1
      have hinner := ih u .empty (Schema.linksTo_of_isFlat rfl)
      exact (hnode.mono hasks.full.pointers).overlay (fun p hp => hinner p (hl _ p hp))

theorem linksTo_walk (hb : b.Flat) (ty : TypeExpr) (node : Schema) (s : BuildState)
    (hnode : node.LinksTo s.registry) :
    (s.walk b ty node).schema.LinksTo (s.walk b ty node).state.registry :=
  linksTo_walkWithin hb _ ty node s hnode

end BuildState

/-! Bodies. -/

namespace Body

/-- Whether the references in the properties so far lead to definitions. -/
def Linked (body : Body) : Prop := ∀ e ∈ body.properties, e.2.LinksTo body.state.registry

variable {b : Builder} {d : Declaration} {body : Body}

theorem Linked.addMember (hb : b.Flat) (h : body.Linked) (d : Declaration) (m : Member) :
    (body.addMember b d m).Linked := by
  dsimp only [Body.addMember]
  split
  · exact h
  · have hg := BuildState.grows_process b m.type .empty (body.setMember (some m.name)).state
    have hw := BuildState.linksTo_walk hb m.type .empty
      (body.setMember (some m.name)).state (Schema.linksTo_of_isFlat rfl)
    intro e he
    rcases Assoc.mem_put he with hv | he
    · rw [hv]
      exact fun p hp => hw p (Overrides.refers_apply hp)
    · exact (h e he).mono hg.pointers

theorem Linked.addDeclaration (hb : b.Flat) (h : body.Linked) (fuel : Nat) (d : Declaration) :
    (body.addDeclaration b fuel d).Linked :=
  addDeclaration_keeps (fun _ h d m => h.addMember hb d m) (fun _ h => h) (fun _ h _ _ => h)
    (fun _ h => h) fuel d h

theorem Linked.toSchema (h : body.Linked) : body.toSchema.LinksTo body.state.registry := by
  intro p hp
  obtain ⟨e, he, hp⟩ := Schema.refers_object hp
  exact h e he p hp

end Body

namespace BuildState

variable {b : Builder} {s t : BuildState}

theorem linksTo_expand (hb : b.Flat) (item : WorkItem) (s : BuildState) :
    (s.expand b item).1.LinksTo (s.expand b item).2.registry := by
  unfold expand
  split
  · exact Schema.linksTo_of_isFlat rfl
  · rename_i d _
    intro p hp
    have hp := Overrides.refers_apply hp
    cases hvalues : d.values? with
    | some values =>
      simp only [hvalues] at hp
      exact absurd hp (Schema.not_refers_of_isFlat rfl)
    | none =>
      simp only [expandDeclaration, hvalues] at hp ⊢
      have hstart : Body.Linked
          { visited := [d.name], state := { s with scope := [item.frame] } } := by
        intro e he
        cases he
      exact (hstart.addDeclaration hb b.index.size d).toSchema p hp

/-- Whether the references in the bodies so far lead to definitions. -/
def Linked (s : BuildState) : Prop :=
  ∀ e ∈ s.registry.entries, e.body.LinksTo s.registry

theorem Linked.grows {v : Vocabulary} (h : s.Linked) (hg : Grows b v s t) : t.Linked := by
  induction hg with
  | refl => exact h
  | note _ _ _ _ ih => exact ih
  | enter _ _ ih => exact ih
  | @define t ty d hg hv hd ih =>
    have hp := (Grows.define (Grows.refl (s := t)) hv hd).pointers
    intro e he
    rw [define_registry hd.fresh, List.mem_append, List.mem_singleton] at he
    rcases he with he | rfl
    · exact (ih e he).mono hp
    · exact Schema.linksTo_of_isFlat rfl

theorem Linked.step (hb : b.Flat) (hd : s.isDone = false) (h : s.Linked) : (s.step b).Linked := by
  obtain ⟨item, rest, -, hstep, hg⟩ := step_cases b hd
  have hopened : (s.opened item rest).Linked := h
  have hwalked := hopened.grows hg
  have hbody := linksTo_expand hb item (s.opened item rest)
  rw [hstep]
  intro e he p hp
  rw [closed, Registry.pointers_complete]
  rcases Registry.mem_complete he with he | ⟨e', -, rfl⟩
  · exact hwalked e he p hp
  · exact hbody p hp

theorem pointers_step (hd : s.isDone = false) :
    s.registry.pointers ⊆ (s.step b).registry.pointers := by
  obtain ⟨item, rest, -, hstep, hg⟩ := step_cases b hd
  rw [hstep, closed, Registry.pointers_complete]
  exact hg.pointers

theorem pointers_drain (b : Builder) (s : BuildState) :
    s.registry.pointers ⊆ (s.drain b).registry.pointers :=
  drain_keeps (P := fun t => s.registry.pointers ⊆ t.registry.pointers)
    (fun _ hd h => List.Subset.trans h (pointers_step hd)) (List.Subset.refl _)

theorem place_after (b : Builder) (calls : List Call) :
    (after b calls).registry.place = b.options.place := by
  refine after_induction (P := fun s => s.registry.place = b.options.place) rfl ?_ ?_ calls
  · intro s t hg h
    rw [hg.place, h]
  · intro s hd h
    obtain ⟨item, rest, -, hstep, hg⟩ := step_cases b hd
    rw [hstep]
    exact hg.place.trans h

/-! Roots. -/

/-- The calls that walk roots and expand what these lead to. -/
def rootCalls (roots : List TypeExpr) : List Call :=
  roots.flatMap (fun root => [.process root .empty, .drain])

theorem addRoots_state (b : Builder) (roots : List TypeExpr) (s : BuildState) :
    (s.addRoots b roots).2 = (rootCalls roots).foldl (perform b) s := by
  induction roots generalizing s with
  | nil => rfl
  | cons root roots ih => exact ih _

theorem isDone_addRoots (roots : List TypeExpr) (h : s.isDone = true) :
    (s.addRoots b roots).2.isDone = true := by
  induction roots generalizing s with
  | nil => exact h
  | cons root roots ih => exact ih (isDone_drain b _)

/-- The references in the schemas of roots and in all bodies lead to definitions. -/
theorem linked_addRoots (hb : b.Flat) (roots : List TypeExpr) (h : s.Linked) :
    (∀ root ∈ (s.addRoots b roots).1, root.LinksTo (s.addRoots b roots).2.registry) ∧
      (s.addRoots b roots).2.Linked ∧
        s.registry.pointers ⊆ (s.addRoots b roots).2.registry.pointers := by
  induction roots generalizing s with
  | nil => exact ⟨fun _ hmem => absurd hmem List.not_mem_nil, h, List.Subset.refl _⟩
  | cons root roots ih =>
    have hg := grows_process b root .empty s
    have hwalk := linksTo_walk hb root .empty s (Schema.linksTo_of_isFlat rfl)
    have hdrain := pointers_drain b (s.walk b root .empty).state
    have hlinked : ((s.walk b root .empty).state.drain b).Linked :=
      drain_keeps (fun _ hd h => h.step hb hd) (h.grows hg)
    obtain ⟨hroots, hafter, hsub⟩ := ih hlinked
    refine ⟨fun r hr => ?_, hafter,
      List.Subset.trans hg.pointers (List.Subset.trans hdrain hsub)⟩
    rcases List.mem_cons.mp hr with rfl | hr
    · exact hwalk.mono (List.Subset.trans hdrain hsub)
    · exact hroots r hr

end BuildState

namespace Registry

variable {r : Registry} {e : Entry}

/-- Where no name occurs twice, no definition is lost. -/
theorem perm_definitions (hn : (r.entries.map Entry.name).Nodup) :
    r.definitions.Perm (r.entries.map (fun e => (e.name, e.body))) := by
  refine Assoc.perm_sorted ?_
  rwa [List.map_map]

/-- Where no name occurs twice, that of a definition leads to its body. -/
theorem lookup_definitions (hn : (r.entries.map Entry.name).Nodup) (he : e ∈ r.entries) :
    r.definitions.lookup e.name = some e.body := by
  have hperm := perm_definitions hn
  refine Assoc.lookup_of_mem ((hperm.map Prod.fst).nodup_iff.mpr ?_)
    (hperm.mem_iff.mpr (List.mem_map_of_mem he))
  rwa [List.map_map]

end Registry

/-- Whether the references in the schemas of roots and in definitions, those of a registry, all lead to
definitions. -/
structure Resolved (place : String) (r : Registry) (roots : List Schema)
    (definitions : List (String × Schema)) : Prop where
  /-- The pointer of a reference is the place of definitions followed by the name of one. -/
  references : ∀ s ∈ roots ++ definitions.map Prod.snd, ∀ p, s.Refers p →
    ∃ name ∈ definitions.map Prod.fst, p = place ++ name
  /-- Behind a name stands the body that was walked for it. -/
  bodies : ∀ name ∈ definitions.map Prod.fst, ∃ e, r.byName? name = some e ∧
    e.completed = true ∧ definitions.lookup name = some e.body
  /-- No definition is lost. -/
  length : definitions.length = r.size

namespace Builder

open BuildState

variable {b : Builder}

theorem resolved_buildMany (hb : b.Flat) (roots : List TypeExpr) :
    Resolved b.options.place (b.registry roots) (b.buildMany roots).roots
      (b.buildMany roots).definitions := by
  have hdone : ((init b).addRoots b roots).2.isDone = true := isDone_addRoots roots rfl
  obtain ⟨hroots, hlinked, -⟩ :=
    linked_addRoots hb roots (s := init b) (fun _ h => absurd h List.not_mem_nil)
  have hafter := addRoots_state b roots (init b)
  dsimp only [registry, buildMany]
  generalize ((init b).addRoots b roots).2 = s at hdone hroots hlinked hafter ⊢
  have hafter : s = after b (rootCalls roots) := hafter
  have hnames : (s.registry.entries.map Entry.name).Nodup :=
    hafter ▸ (sound_after b (rootCalls roots)).names
  have hplace : s.registry.place = b.options.place := hafter ▸ place_after b (rootCalls roots)
  have hcompleted : ∀ e ∈ s.registry.entries, e.completed = true :=
    (hafter ▸ inOrder_after b (rootCalls roots)).all_completed (queue_eq_nil_of_isDone hdone)
  have hperm := Registry.perm_definitions hnames
  have hmem : ∀ d ∈ s.registry.definitions, ∃ e ∈ s.registry.entries, (e.name, e.body) = d :=
    fun d hd => List.mem_map.mp (hperm.mem_iff.mp hd)
  constructor
  · intro schema hschema p hp
    have hto : schema.LinksTo s.registry := by
      rcases List.mem_append.mp hschema with h | h
      · exact hroots schema h
      · obtain ⟨d, hd, rfl⟩ := List.mem_map.mp h
        obtain ⟨e, he, rfl⟩ := hmem d hd
        exact hlinked e he
    obtain ⟨e, he, rfl⟩ := List.mem_map.mp (hto p hp)
    have hd : (e.name, e.body) ∈ s.registry.definitions :=
      hperm.mem_iff.mpr (List.mem_map_of_mem he)
    exact ⟨e.name, List.mem_map_of_mem hd, by rw [hplace]⟩
  · intro name hname
    obtain ⟨d, hd, rfl⟩ := List.mem_map.mp hname
    obtain ⟨e, he, rfl⟩ := hmem d hd
    exact ⟨e, Registry.byName?_of_nodup hnames he, hcompleted e he,
      Registry.lookup_definitions hnames he⟩
  · simpa [Registry.size] using hperm.length_eq

/-- No reference dangles in the documents of a host that has no converters. -/
theorem resolved_ofHost (index : Index) (overrides : OverrideMap)
    (filters : List (Declaration → Member → Bool)) (o : Options) :
    (∀ roots, Resolved o.place ((ofHost index overrides filters o).registry roots)
      ((ofHost index overrides filters o).buildMany roots).roots
      ((ofHost index overrides filters o).buildMany roots).definitions) ∧
    ∀ root, Resolved o.place ((ofHost index overrides filters o).registry [root])
      [((ofHost index overrides filters o).build root).root]
      ((ofHost index overrides filters o).build root).definitions := by
  have hb := flat_ofHost index overrides filters o
  exact ⟨resolved_buildMany hb, fun root => resolved_buildMany hb [root]⟩

end Builder
end SchemaGraph
