import SchemaGraph.Proofs.Layout
import SchemaGraph.Proofs.Links
import SchemaGraph.Proofs.Refusal
import SchemaGraph.Proofs.Trail

/-! Unfolding: the instantiations that a root leads to when nothing is cut. Where none of them grows out of a
shallower one and there is room for all, a build defines exactly these, and reports no growth. -/
namespace SchemaGraph

open BuildState

/-! What a root leads to. -/

/-- Whether an occurrence of a type in a scope asks for the definition of a declared type, at a type on its
trail. -/
structure Asked (b : Builder) (scope : Scope) (t u r : TypeExpr) : Prop where
  trail : Trail b scope t u
  registered : registers b u = true
  resolved : (scope.resolveDeep u).canonicalize b.index = r
  declared : ∃ d, r.baseName?.bind b.index.lookup = some d

/-- Whether the body of a type asks for the definition of another one. -/
def Leads (b : Builder) (q r : TypeExpr) : Prop :=
  ∃ m ∈ b.layout q, ∃ u, Asked b m.1 m.2 u r

/-- The declared types that a root leads to, through bodies that are all expanded. -/
inductive Reached (b : Builder) (root : TypeExpr) : TypeExpr → Prop
  | root {u r : TypeExpr} (h : Asked b [] root u r) : Reached b root r
  | member {q r : TypeExpr} (h : Reached b root q) (hl : Leads b q r) : Reached b root r

/-- The types that are met on the way, as they are meant: the root, and those of members. -/
inductive Met (b : Builder) (root : TypeExpr) : TypeExpr → Prop
  | root : Met b root (Scope.resolveDeep [] root)
  | member {q : TypeExpr} {m : Scope × TypeExpr} (h : Reached b root q) (hm : m ∈ b.layout q) :
    Met b root (m.1.resolveDeep m.2)

/-- Lines of descent, the latest first: the body of each type asks for the one before it, and the root asks
for the last. -/
inductive Line (b : Builder) (root : TypeExpr) : List TypeExpr → Prop
  | root {u r : TypeExpr} (h : Asked b [] root u r) : Line b root [r]
  | member {q r : TypeExpr} {l : List TypeExpr} (h : Line b root (q :: l)) (hl : Leads b q r) :
    Line b root (r :: q :: l)

/-- Whether on no line of descent without repetitions, an occurrence with variables in the body of the latest
type asks for a new type that is a deeper instantiation of the class of one on the line. -/
def Steady (b : Builder) (root : TypeExpr) : Prop :=
  ∀ q l m u r, Line b root (q :: l) → (q :: l).Nodup → m ∈ b.layout q → Asked b m.1 m.2 u r →
    u.hasVar = true → r ∉ q :: l → ∀ x ∈ q :: l, x.baseName? = r.baseName? → r.depth ≤ x.depth

/-- Whether a builder has room for all that a root leads to. -/
structure Spacious (b : Builder) (root : TypeExpr) : Prop where
  definitions : b.options.maxDefinitions = none
  /-- The nesting that is allowed is two levels more than any type that is met is deep. -/
  nesting : ∀ t, Met b root t → t.depth + 2 ≤ b.options.maxNesting
  /-- Every array that is met has dimensions. -/
  arrays : root.Dimensioned ∧ ∀ q, Reached b root q → ∀ m ∈ b.layout q, m.2.Dimensioned
  /-- Signatures tell the types apart. -/
  signatures : ∀ q r, Reached b root q → Reached b root r → q.signature = r.signature → q = r

theorem Spacious.depth_le {b : Builder} {root t u r : TypeExpr} {scope : Scope}
    (h : Spacious b root) (hmet : Met b root (scope.resolveDeep t)) (ha : Asked b scope t u r) :
    r.depth ≤ b.options.maxNesting := by
  have hdepth := h.nesting _ hmet
  have hle := Trail.depth_le ha.trail
  rw [← ha.resolved, TypeExpr.depth_canonicalize]
  omega

namespace BuildState

variable {b : Builder} {root q r t u : TypeExpr} {s : BuildState} {d : Declaration} {e : Entry}
  {scope : Scope} {room p : Nat}

/-- What holds of the definitions and the diagnostics while a root is unfolded, in the middle of a body
too. -/
structure Unfolding (b : Builder) (root : TypeExpr) (s : BuildState) : Prop where
  sound : Sound b s
  reached : ∀ q ∈ s.registry.types, Reached b root q
  /-- A definition without parent was asked for by the root, any other by the body of its parent. -/
  rooted : ∀ e ∈ s.registry.entries, e.parent = none → ∃ u, Asked b [] root u e.type
  led : ∀ id e p, s.registry.get? id = some e → e.parent = some p →
    ∃ q, s.registry.get? p = some q ∧ Leads b q.type e.type
  ungrown : ∀ g ∈ s.diagnostics, g.code ≠ .growingInstantiation

namespace Unfolding

theorem init (b : Builder) (root : TypeExpr) : Unfolding b root (BuildState.init b) where
  sound := sound_init b
  reached := by simp [BuildState.init, Registry.types]
  rooted := by simp [BuildState.init]
  led := by simp [BuildState.init, Registry.get?]
  ungrown := by simp [BuildState.init]

theorem record (h : Unfolding b root s) {code : DiagnosticCode} (hcode : code ≠ .growingInstantiation)
    (name message : String) : Unfolding b root (s.record code name message) where
  sound := h.sound.grows (v := .full) (Grows.refl.note ..)
  reached := h.reached
  rooted := h.rooted
  led := h.led
  ungrown g hg := by
    rcases Diagnostics.mem_of_mem_record hg with hg | rfl
    · exact h.ungrown g hg
    · exact hcode

theorem enter (h : Unfolding b root s) (scope : Scope) : Unfolding b root { s with scope } where
  sound := h.sound.grows (v := .full) (Grows.refl.enter scope)
  reached := h.reached
  rooted := h.rooted
  led := h.led
  ungrown := h.ungrown

/-- Lineages are lines of descent. -/
theorem line (h : Unfolding b root s) {start : Option Nat} {l : List TypeExpr}
    (hl : s.registry.Lineage start (q :: l)) : Line b root (q :: l) := by
  generalize hall : q :: l = all at hl
  -- By induction on the lineage: below a type stands its parent, whose body led to it.
  induction hl generalizing q l with
  | root => cases hall
  | @entry id e l' he hl' ih =>
    cases hp : e.parent with
    | none =>
      obtain ⟨u, ha⟩ := h.rooted e (Registry.mem_of_get? he) hp
      rw [hp] at hl'
      cases hl'
      exact .root ha
    | some p =>
      obtain ⟨parent, hparent, hleads⟩ := h.led id e p he hp
      rw [hp] at hl'
      cases hl' with
      | entry he' hl' =>
        obtain rfl := Option.some.inj (he'.symm.trans hparent)
        exact .member (ih rfl) hleads

end Unfolding

/-- What a state offers to a type that is asked for: it is reached, its depth is allowed, and the definition
that is expanded, if any, leads to it. -/
structure Wanted (b : Builder) (root : TypeExpr) (s : BuildState) (u r : TypeExpr) : Prop where
  resolved : s.resolved b u = r
  declared : ∃ d, r.baseName?.bind b.index.lookup = some d
  reached : Reached b root r
  depth : r.depth ≤ b.options.maxNesting
  rooted : s.expanding = none → Asked b [] root u r
  led : ∀ p, s.expanding = some p → ∃ q, s.registry.get? p = some q ∧ Leads b q.type r
  steady : ∀ l, s.registry.Lineage s.expanding l → u.hasVar = true → r ∉ l → ∀ x ∈ l,
    x.baseName? = r.baseName? → r.depth ≤ x.depth

namespace Wanted

/-- No reason applies against its definition. -/
theorem refused?_eq_none (hw : Wanted b root s u r) (h : Unfolding b root s)
    (hlimit : b.options.maxDefinitions = none) : s.refused? b u = none := by
  cases hwhy : s.refused? b u with
  | none => rfl
  | some why =>
    have happlies := (first_of_refused? h.sound hwhy).applies
    cases happlies with
    | unknown hnone =>
      obtain ⟨d, hd⟩ := hw.declared
      rw [hw.resolved, hd] at hnone
      cases hnone
    | tooDeep _ hdeep =>
      have hdepth := hw.depth
      rw [hw.resolved] at hdeep
      omega
    | @growing l ancestor hnew hvar _ hl hfind =>
      have hfresh : r ∉ l := by
        intro hr
        obtain ⟨e, he, htype⟩ := List.mem_map.mp (hl.subset_types hr)
        have hsame := Registry.lookup_eq_none_iff.mp hnew e he
        rw [hw.resolved, (h.sound.entries e he).signature, htype] at hsame
        exact hsame rfl
      have hmem := List.mem_of_find?_eq_some hfind
      have hshallow := List.find?_some hfind
      rw [hw.resolved] at hshallow
      simp only [TypeExpr.isShallower, decide_eq_true_eq] at hshallow
      have hle := hw.steady l hl hvar hfresh ancestor hmem hshallow.1
      omega
    | tooMany _ hsome _ =>
      rw [hlimit] at hsome
      cases hsome

theorem define (hw : Wanted b root s u r) (h : Unfolding b root s) (hd : Defines b s u d) :
    Unfolding b root (s.define (s.resolved b u) d).2 := by
  have hg : Grows b .full s (s.define (s.resolved b u) d).2 :=
    Grows.refl.define (Vocabulary.covers_full _) hd
  constructor
  · exact h.sound.define hd
  · rw [types_define hd.fresh, List.forall_mem_append, List.forall_mem_singleton, hw.resolved]
    exact ⟨h.reached, hw.reached⟩
  · intro e he hp
    rw [define_registry hd.fresh] at he
    rcases List.mem_append.mp he with he | he
    · exact h.rooted e he hp
    · obtain rfl := List.mem_singleton.mp he
      refine ⟨u, ?_⟩
      have hasked := hw.rooted hp
      rwa [← hw.resolved] at hasked
  · intro id e p he hp
    have hkeep : (∃ q, s.registry.get? p = some q ∧ Leads b q.type e.type) →
        ∃ q, (s.define (s.resolved b u) d).2.registry.get? p = some q ∧ Leads b q.type e.type := by
      rintro ⟨q, hq, hleads⟩
      exact ⟨q, hg.get? hq, hleads⟩
    apply hkeep
    rw [define_registry hd.fresh, Registry.get?, List.getElem?_append] at he
    split at he
    · exact h.led id e p he hp
    · obtain rfl := List.mem_singleton.mp (List.mem_of_getElem? he)
      have hled := hw.led p hp
      rwa [← hw.resolved] at hled
  · intro g hg
    obtain ⟨m, hm⟩ := define_diagnostics (d := d) hd.fresh
    rw [hm] at hg
    split at hg
    · exact h.ungrown g hg
    · rcases Diagnostics.mem_of_mem_record hg with hg | rfl
      · exact h.ungrown g hg
      · exact (by decide : DiagnosticCode.referenceNameCollision ≠ .growingInstantiation)

/-- Asking for a type gives it a definition, if it had none. -/
theorem register (hw : Wanted b root s u r) (hfit : Spacious b root) (h : Unfolding b root s) :
    Unfolding b root (s.register b u).2 ∧ r ∈ (s.register b u).2.registry.types := by
  rcases known_or_defines (hw.refused?_eq_none h hfit.definitions) with ⟨d, id, hd, hid⟩ | ⟨d, hd⟩
  · rw [register_known hd hid]
    refine ⟨h, ?_⟩
    obtain ⟨e, he, hsame⟩ := Registry.exists_of_lookup hid
    have hmem := Registry.mem_of_get? he
    have htype : e.type ∈ s.registry.types := List.mem_map_of_mem hmem
    rw [(h.sound.entries e hmem).signature, hw.resolved] at hsame
    rwa [← hfit.signatures e.type r (h.reached _ htype) hw.reached hsame]
  · rw [register_defines hd]
    refine ⟨hw.define h hd, ?_⟩
    rw [types_define hd.fresh, hw.resolved]
    simp

end Wanted

/-- Walking an occurrence whose types are all wanted gives them definitions. -/
theorem Unfolding.walk (h : Unfolding b root s) (hfit : Spacious b root) (hends : Ends b room t s)
    (hwanted : ∀ u r, Asked b s.scope t u r → Wanted b root s u r) (node : Schema) :
    Unfolding b root (walkWithin b room t node s).state ∧
      ∀ u r, Asked b s.scope t u r → r ∈ (walkWithin b room t node s).state.registry.types := by
  constructor
  · have hchanges := hends.changes node
    generalize (walkWithin b room t node s).state = s' at hchanges
    cases hchanges with
    | nothing => exact h
    | note name message => exact h.record (by decide) name message
    | @register u hu hr =>
      cases hd : (s.resolved b u).baseName?.bind b.index.lookup with
      | none =>
        rw [register_unknown hd]
        exact h.record (by decide) ..
      | some d =>
        have hasked : Asked b s.scope t u (s.resolved b u) :=
          ⟨trail_of_mem_descent hu, hr, rfl, ⟨d, hd⟩⟩
        exact ((hwanted u _ hasked).register hfit h).1
  · intro u r ha
    rw [hends.state_eq ha.trail ha.registered]
    exact ((hwanted u r ha).register hfit h).2

theorem grows_walkMembers (b : Builder) (s : BuildState) (ms : List (Scope × TypeExpr)) :
    Grows b .full s (walkMembers b s ms) := by
  induction ms generalizing s with
  | nil => exact .refl
  | cons m ms ih =>
    have hmember : Grows b .full s (walkMember b s m) :=
      (Grows.refl.enter m.1).trans (grows_process b m.2 .empty _)
    exact hmember.trans (ih _)

/-- While the body of a definition is walked, every type that a member asks for is wanted. -/
theorem Asked.wanted {m : Scope × TypeExpr} (ha : Asked b m.1 m.2 u r) (hm : m ∈ b.layout e.type)
    (h : Unfolding b root s) (hfit : Spacious b root) (hsteady : Steady b root)
    (hp : s.expanding = some p) (he : s.registry.get? p = some e) :
    Wanted b root { s with scope := m.1 } u r := by
  have hreached : Reached b root e.type :=
    h.reached _ (List.mem_map_of_mem (Registry.mem_of_get? he))
  have hleads : Leads b e.type r := ⟨m, hm, u, ha⟩
  constructor
  · exact ha.resolved
  · exact ha.declared
  · exact hreached.member hleads
  · exact hfit.depth_le (.member hreached hm) ha
  · intro hnone
    rw [hp] at hnone
    cases hnone
  · intro p' hp'
    obtain rfl := Option.some.inj (hp.symm.trans hp')
    exact ⟨e, he, hleads⟩
  · intro l hl hvar hfresh
    have hlineage : s.registry.Lineage (some p) l := hp ▸ hl
    have hnodup := hlineage.nodup h.sound.parents (nodup_types h.sound)
    cases hlineage with
    | entry he' hl' =>
      obtain rfl := Option.some.inj (he.symm.trans he')
      exact hsteady e.type _ m u r (h.line (.entry he hl')) hnodup hm ha hvar hfresh

/-- Walking members of the definition that is expanded gives definitions to all types that they ask for. -/
theorem Unfolding.walkMembers (h : Unfolding b root s) (hfit : Spacious b root)
    (hsteady : Steady b root) (hp : s.expanding = some p) (he : s.registry.get? p = some e)
    {ms : List (Scope × TypeExpr)} (hms : ms ⊆ b.layout e.type) :
    Unfolding b root (walkMembers b s ms) ∧
      ∀ m ∈ ms, ∀ u r, Asked b m.1 m.2 u r → r ∈ (walkMembers b s ms).registry.types := by
  induction ms generalizing s with
  | nil => exact ⟨h, fun m hm => absurd hm List.not_mem_nil⟩
  | cons m ms ih =>
    rw [List.cons_subset] at hms
    have hreached : Reached b root e.type :=
      h.reached _ (List.mem_map_of_mem (Registry.mem_of_get? he))
    have hends : Ends b b.options.maxNesting m.2 { s with scope := m.1 } :=
      ends_of_depth (hfit.arrays.2 _ hreached m hms.1) (hfit.nesting _ (.member hreached hms.1))
    have hwalked := (h.enter m.1).walk hfit hends
      (fun u r ha => Asked.wanted ha hms.1 h hfit hsteady hp he) .empty
    have hg : Grows b .full s (walkMember b s m) :=
      (Grows.refl.enter m.1).trans (grows_process b m.2 .empty _)
    obtain ⟨hafter, hrest⟩ := ih hwalked.1 (hg.expanding.trans hp) (hg.get? he) hms.2
    refine ⟨hafter, fun m' hm' u r ha => ?_⟩
    rcases List.mem_cons.mp hm' with rfl | hm'
    · exact (grows_walkMembers b _ ms).types (hwalked.2 u r ha)
    · exact hrest m' hm' u r ha

/-- Where the unfolding of a root stands between two definitions: what completed bodies lead to has
definitions. -/
structure Unfolds (b : Builder) (root : TypeExpr) (s : BuildState) : Prop extends Charted b .full s where
  unfolding : Unfolding b root s
  closed : ∀ e ∈ s.registry.entries, e.completed = true → ∀ r, Leads b e.type r →
    r ∈ s.registry.types

theorem Unfolding.closed {item : WorkItem} {out : Schema × BuildState} (h : Unfolding b root out.2)
    (hsound : Sound b (s.closed item out)) : Unfolding b root (s.closed item out) where
  sound := hsound
  reached := by simpa [BuildState.closed] using h.reached
  rooted e he hp := by
    rcases Registry.mem_complete he with he | ⟨e', he', rfl⟩
    · exact h.rooted e he hp
    · exact h.rooted e' he' hp
  led id e p he hp := by
    rw [BuildState.closed, Registry.get?_complete, Option.map_eq_some_iff] at he
    obtain ⟨e', he', rfl⟩ := he
    have hsame : ∀ e' : Entry,
        (if item.target = id then { e' with body := out.1, completed := true } else e').parent =
          e'.parent ∧
        (if item.target = id then { e' with body := out.1, completed := true } else e').type =
          e'.type := by
      intro e'
      split <;> exact ⟨rfl, rfl⟩
    rw [(hsame e').1] at hp
    rw [(hsame e').2]
    obtain ⟨q, hq, hleads⟩ := h.led id e' p he' hp
    rw [BuildState.closed, Registry.get?_complete, hq]
    refine ⟨_, rfl, ?_⟩
    split <;> exact hleads
  ungrown := h.ungrown

theorem Unfolds.step (h : Unfolds b root s) (hfit : Spacious b root) (hsteady : Steady b root)
    (hd : s.isDone = false) : Unfolds b root (s.step b) := by
  have hcharted := h.toCharted.step (Vocabulary.coversIndex_full _) hd
  obtain ⟨item, rest, hq⟩ := exists_queue hd
  obtain ⟨e, he, htype⟩ := h.target hq
  have hframed : item.Framed b := h.framed item (by simp [hq])
  have hopened : Unfolding b root (s.opened item rest) :=
    ⟨h.unfolding.sound.opened hq, h.unfolding.reached, h.unfolding.rooted, h.unfolding.led,
      h.unfolding.ungrown⟩
  have hwalked := hopened.walkMembers hfit hsteady rfl he (List.Subset.refl _)
  have hg : Grows b .full (s.opened item rest) ((s.opened item rest).expand b item).2 :=
    grows_step_body b s item rest
  have hstate := expand_state hframed (s.opened item rest)
  rw [← htype] at hstate
  have hbody : Unfolding b root ((s.opened item rest).expand b item).2 := by
    rw [hstate]
    exact hwalked.1.enter _
  rw [step_of_cons hq] at hcharted ⊢
  refine ⟨hcharted, hbody.closed hcharted.sound, fun e' he' hdone r hleads => ?_⟩
  have htypes : (s.closed item ((s.opened item rest).expand b item)).registry.types =
      ((s.opened item rest).expand b item).2.registry.types := by
    simp [BuildState.closed]
  rw [htypes]
  -- What is completed is the definition just taken, all of whose members were walked, or was so before.
  rcases hg.completed_closed he he' hdone with rfl | hold
  · obtain ⟨m, hm, u, ha⟩ := hleads
    rw [hstate]
    exact hwalked.2 m hm u r ha
  · exact hg.types (h.closed e' hold hdone r hleads)

/-- The walk of a root gives definitions to all types that it asks for. -/
theorem unfolds_root (hfit : Spacious b root) :
    Unfolds b root ((init b).walk b root .empty).state ∧
      ∀ u r, Asked b [] root u r → r ∈ ((init b).walk b root .empty).state.registry.types := by
  have hinit := Unfolding.init b root
  have hends : Ends b b.options.maxNesting root (init b) :=
    ends_of_depth hfit.arrays.1 (hfit.nesting _ .root)
  have hwanted : ∀ u r, Asked b (init b).scope root u r → Wanted b root (init b) u r := by
    intro u r ha
    have hdepth : r.depth ≤ b.options.maxNesting := hfit.depth_le .root ha
    refine ⟨ha.resolved, ha.declared, .root ha, hdepth, fun _ => ha, ?_, ?_⟩
    · intro p hp
      cases hp
    · intro l hl _ _ x hx
      cases hl
      cases hx
  have hwalked := hinit.walk hfit hends hwanted .empty
  have hcharted := (charted_init b .full).walk (Vocabulary.coversIndex_full _)
    (Vocabulary.covers_full root)
  refine ⟨⟨hcharted, hwalked.1, fun e he hdone => ?_⟩, hwalked.2⟩
  have hnone := (grows_process b root .empty (init b)).mem_of_completed he hdone
  cases hnone

theorem Unfolds.drain (h : Unfolds b root s) (hfit : Spacious b root) (hsteady : Steady b root) :
    Unfolds b root (s.drain b) :=
  drain_keeps (fun _ hd hs => hs.step hfit hsteady hd) h

end BuildState

namespace Builder

variable {b : Builder} {root : TypeExpr}

/-- Unfolding is complete, and nothing is cut by mistake. Where on no line of descent an
occurrence with variables asks for a new and deeper instantiation of a class, and there is room for all that a
root leads to, a build reports no growth, and its definitions are those of the types that are reached, with
their bodies. -/
theorem build_unfolds (hfit : Spacious b root) (hsteady : Steady b root) :
    (∀ g ∈ (b.build root).diagnostics, g.code ≠ .growingInstantiation) ∧
      ∀ r, Reached b root r ↔ ∃ e ∈ (b.registry [root]).entries, e.type = r ∧
        e.completed = true ∧ (b.build root).definitions.lookup e.name = some e.body := by
  let s := ((BuildState.init b).walk b root .empty).state
  let t := s.drain b
  obtain ⟨hroot, hasked⟩ := unfolds_root hfit
  have ht : Unfolds b root t := hroot.drain hfit hsteady
  have hcompleted : ∀ e ∈ t.registry.entries, e.completed = true := by
    obtain ⟨items, horder⟩ := ht.order
    exact horder.all_completed (queue_eq_nil_of_isDone (isDone_drain b s))
  have hreached : ∀ r, Reached b root r → r ∈ t.registry.types := by
    intro r hr
    induction hr with
    | root ha => exact (course_drain b s).types (hasked _ _ ha)
    | member _ hleads ih =>
      obtain ⟨e, he, rfl⟩ := List.mem_map.mp ih
      exact ht.closed e he (hcompleted e he) _ hleads
  refine ⟨ht.unfolding.ungrown, fun r => ⟨fun hr => ?_, ?_⟩⟩
  · obtain ⟨e, he, htype⟩ := List.mem_map.mp (hreached r hr)
    exact ⟨e, he, htype, hcompleted e he, Registry.lookup_definitions ht.sound.names he⟩
  · rintro ⟨e, he, rfl, -, -⟩
    exact ht.unfolding.reached _ (List.mem_map_of_mem he)

end Builder

/-! Finding by computation what a root leads to. -/

/-- Whether an occurrence, walked with so many levels, asks for types of a list only, and with variables only
for such as are also in another one. -/
def Closes (b : Builder) (room : Nat) (l varying : List TypeExpr) (m : Scope × TypeExpr) : Prop :=
  let s : BuildState := { registry := { place := "" }, scope := m.1 }
  Ends b room m.2 s ∧ ∀ u ∈ descent b room m.2 s, registers b u = true →
    let r := (m.1.resolveDeep u).canonicalize b.index
    (r.baseName?.bind b.index.lookup).isSome = true → r ∈ l ∧ (u.hasVar = true → r ∈ varying)

instance (b : Builder) (room : Nat) (l varying : List TypeExpr) (m : Scope × TypeExpr) :
    Decidable (Closes b room l varying m) := by
  unfold Closes
  infer_instance

/-- Whether an occurrence, walked with so many levels, asks for a type. -/
def Finds (b : Builder) (room : Nat) (r : TypeExpr) (m : Scope × TypeExpr) : Prop :=
  let s : BuildState := { registry := { place := "" }, scope := m.1 }
  ∃ u ∈ descent b room m.2 s, registers b u = true ∧
    (m.1.resolveDeep u).canonicalize b.index = r ∧ (r.baseName?.bind b.index.lookup).isSome = true

instance (b : Builder) (room : Nat) (r : TypeExpr) (m : Scope × TypeExpr) :
    Decidable (Finds b room r m) := by
  unfold Finds
  infer_instance

section

variable {b : Builder} {root q r u : TypeExpr} {m : Scope × TypeExpr} {room : Nat}
  {l varying : List TypeExpr}

theorem asked_of_finds (h : Finds b room r m) : ∃ u, Asked b m.1 m.2 u r := by
  obtain ⟨u, hu, hr, hresolved, hsome⟩ := h
  exact ⟨u, trail_of_mem_descent hu, hr, hresolved, Option.isSome_iff_exists.mp hsome⟩

theorem leads_of_finds (h : ∃ m ∈ b.layout q, Finds b room r m) : Leads b q r := by
  obtain ⟨m, hm, hfinds⟩ := h
  exact ⟨m, hm, asked_of_finds hfinds⟩

theorem Asked.mem_of_closes (ha : Asked b m.1 m.2 u r)
    (h : Closes b room l varying m) : r ∈ l ∧ (u.hasVar = true → r ∈ varying) := by
  obtain ⟨hends, hmem⟩ := h
  have hdescent := Trail.mem_descent hends ha.trail
  have hsome := Option.isSome_iff_exists.mpr ha.declared
  have hresolved := ha.resolved
  subst hresolved
  exact hmem u hdescent ha.registered hsome

/-- A list that is closed under what bodies ask for has all that the root leads to. -/
theorem Reached.mem_of_closes (h : Reached b root r) (hroot : Closes b room l l ([], root))
    (hl : ∀ q ∈ l, ∀ m ∈ b.layout q, Closes b room l l m) : r ∈ l := by
  induction h with
  | root ha => exact (Asked.mem_of_closes (m := ([], root)) ha hroot).1
  | member _ hleads ih =>
    obtain ⟨m, hm, u, ha⟩ := hleads
    exact (ha.mem_of_closes (hl _ ih m hm)).1

theorem Met.of_closes {P : TypeExpr → Prop} {t : TypeExpr} (h : Met b root t)
    (hreached : ∀ q, Reached b root q → q ∈ l) (hroot : P (Scope.resolveDeep [] root))
    (hl : ∀ q ∈ l, ∀ m ∈ b.layout q, P (m.1.resolveDeep m.2)) : P t := by
  cases h with
  | root => exact hroot
  | member hq hm => exact hl _ (hreached _ hq) _ hm

theorem Line.reached (h : Line b root (q :: l)) : Reached b root q := by
  generalize hall : q :: l = all at h
  induction h generalizing q l with
  | root ha =>
    cases hall
    exact .root ha
  | member h hleads ih =>
    cases hall
    exact .member (ih rfl) hleads

end

/-- A node with a label, which is a node of fixed argument, and with children of its own argument. -/
def labelledNodes : Index := Index.standard.insert
  { name := "Node", params := [{ name := "T" }]
    members := [⟨"value", .var "T", {}⟩,
      ⟨"label", .named "Option" [.named "Node" [.named "Vec" [.named "String" []]]], {}⟩,
      ⟨"children", .named "Vec" [.named "Node" [.var "T"]], {}⟩] }

/-- The label is deeper than the node that has it, and is defined, since it is always the same. -/
theorem Builder.build_unfolds_labels :
    let b : Builder := { index := labelledNodes, options := { maxNesting := 5 } }
    let root : TypeExpr := .named "Node" [.named "i32" []]
    let label : TypeExpr := .named "Node" [.named "Vec" [.named "String" []]]
    Spacious b root ∧ Steady b root ∧ Reached b root label ∧
      (∀ g ∈ (b.build root).diagnostics, g.code ≠ .growingInstantiation) ∧
      ∃ e ∈ (b.registry [root]).entries, e.type = label ∧
        (b.build root).definitions.lookup e.name = some e.body := by
  intro b root label
  let l : List TypeExpr := [root, label]
  have hroot : Closes b 5 l l ([], root) := by decide +kernel
  have hl : ∀ q ∈ l, ∀ m ∈ b.layout q, Closes b 5 l l m := by decide +kernel
  have hmem : ∀ q, Reached b root q → q ∈ l := fun q hq => hq.mem_of_closes hroot hl
  have hfit : Spacious b root := by
    constructor
    · rfl
    · exact fun t ht => ht.of_closes (P := fun t => t.depth + 2 ≤ 5) hmem (by decide +kernel)
        (by decide +kernel)
    · refine ⟨by decide +kernel, fun q hq => ?_⟩
      have hdims : ∀ q ∈ l, ∀ m ∈ b.layout q, m.2.Dimensioned := by decide +kernel
      exact hdims q (hmem q hq)
    · intro q r hq hr
      have hinj : ∀ q ∈ l, ∀ r ∈ l, q.signature = r.signature → q = r := by decide +kernel
      exact hinj q (hmem q hq) r (hmem r hr)
  have hsteady : Steady b root := by
    intro q l' m u r hline _ hm ha hvar hfresh
    have hself : ∀ q ∈ l, ∀ m ∈ b.layout q, Closes b 5 l [q] m := by decide +kernel
    have hr := (ha.mem_of_closes (hself q (hmem q hline.reached) m hm)).2 hvar
    rw [List.mem_singleton.mp hr] at hfresh
    exact absurd (List.mem_cons_self ..) hfresh
  have hreached : Reached b root label := by
    obtain ⟨u, ha⟩ := asked_of_finds (b := b) (m := ([], root)) (r := root)
      (by decide +kernel : Finds b 1 root ([], root))
    exact .member (.root ha) (leads_of_finds (by decide +kernel : ∃ m ∈ b.layout root, Finds b 2 label m))
  obtain ⟨hungrown, hdefined⟩ := Builder.build_unfolds hfit hsteady
  obtain ⟨e, he, htype, -, hbody⟩ := (hdefined label).mp hreached
  exact ⟨hfit, hsteady, hreached, hungrown, e, he, htype, hbody⟩

/-- A pair of two arguments that leads to one of the second argument and a collection. -/
def shiftedPairs : Index := Index.standard.insert
  { name := "Pair", params := [{ name := "A" }, { name := "B" }]
    members := [⟨"next", .named "Pair" [.var "B", .named "Vec" [.named "i32" []]], {}⟩] }

/-- Room alone is not enough. The pair leads to three types in all, none of them deeper than two levels.
The second is cut for growth because it is deeper than the first, and the third is never found. -/
theorem Builder.build_cuts_shiftedPairs :
    let b : Builder := { index := shiftedPairs }
    let int : TypeExpr := .named "i32" []
    let ints : TypeExpr := .named "Vec" [int]
    let root : TypeExpr := .named "Pair" [int, int]
    (∀ r, Reached b root r ↔ r ∈ [root, .named "Pair" [int, ints], .named "Pair" [ints, ints]]) ∧
      Spacious b root ∧ (∀ t, Met b root t → t.depth ≤ 2) ∧
      (b.build root).diagnostics.map (fun g => (g.code, g.typeName)) =
        [(.growingInstantiation, "Pair<i32, Vec<i32>>")] ∧
      (b.registry [root]).entries.map Entry.type = [root] := by
  intro b int ints root
  let second : TypeExpr := .named "Pair" [int, ints]
  let third : TypeExpr := .named "Pair" [ints, ints]
  let l : List TypeExpr := [root, second, third]
  have hroot : Closes b 2 l l ([], root) := by decide +kernel
  have hl : ∀ q ∈ l, ∀ m ∈ b.layout q, Closes b 2 l l m := by decide +kernel
  have hmem : ∀ q, Reached b root q → q ∈ l := fun q hq => hq.mem_of_closes hroot hl
  have hfirst : Reached b root root := by
    obtain ⟨u, ha⟩ := asked_of_finds (by decide +kernel : Finds b 1 root ([], root))
    exact .root ha
  have hsecond : Reached b root second :=
    .member hfirst (leads_of_finds (by decide +kernel : ∃ m ∈ b.layout root, Finds b 1 second m))
  have hthird : Reached b root third :=
    .member hsecond (leads_of_finds (by decide +kernel : ∃ m ∈ b.layout second, Finds b 1 third m))
  have hdepth : ∀ t, Met b root t → t.depth ≤ 2 := fun t ht =>
    ht.of_closes (P := fun t => t.depth ≤ 2) hmem (by decide +kernel) (by decide +kernel)
  refine ⟨fun r => ⟨hmem r, fun hr => ?_⟩, ?_, hdepth, ?_, ?_⟩
  · simp only [List.mem_cons, List.not_mem_nil, or_false] at hr
    rcases hr with rfl | rfl | rfl
    · exact hfirst
    · exact hsecond
    · exact hthird
  · constructor
    · rfl
    · exact fun t ht => Nat.le_trans (Nat.add_le_add_right (hdepth t ht) 2) (by decide)
    · have hdims : ∀ q ∈ l, ∀ m ∈ b.layout q, m.2.Dimensioned := by decide +kernel
      exact ⟨by decide +kernel, fun q hq => hdims q (hmem q hq)⟩
    · have hinj : ∀ q ∈ l, ∀ r ∈ l, q.signature = r.signature → q = r := by decide +kernel
      exact fun q r hq hr => hinj q (hmem q hq) r (hmem r hr)
  · have hrun : ((BuildState.init b).addRootsWithin? b 1 [root]).map
        (fun r => r.2.diagnostics.map (fun g => (g.code, g.typeName))) =
          some [(.growingInstantiation, "Pair<i32, Vec<i32>>")] := by decide +kernel
    exact eq_of_addRootsWithin? hrun
  · exact eq_of_addRootsWithin? (f := fun r => r.2.registry.entries.map Entry.type) (n := 1)
      (by decide +kernel)

end SchemaGraph
