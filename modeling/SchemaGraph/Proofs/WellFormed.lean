import Mathlib.Data.List.Induction
import SchemaGraph.Proofs.Calls
import SchemaGraph.Proofs.Index

/-! The registry of a build is well formed after every sequence of calls. -/
namespace SchemaGraph

/-- What holds of a definition by itself. -/
structure Entry.Sound (b : Builder) (e : Entry) : Prop where
  signature : e.signature = e.type.signature
  plain : e.type.Plain
  depth : e.type.depth ≤ b.options.maxNesting

/-- Whether a type is written under declared names and has that of a declaration at its top. -/
structure TypeExpr.Declared (i : Index) (t : TypeExpr) : Prop where
  canonical : t.canonicalize i = t
  declared : ∃ d, i.declared? d.name = some d ∧ t.baseName? = some d.name

namespace BuildState

/-- What holds of the definitions of a build at any time. -/
structure Sound (b : Builder) (s : BuildState) : Prop where
  signatures : (s.registry.entries.map Entry.signature).Nodup
  names : (s.registry.entries.map Entry.name).Nodup
  entries : ∀ e ∈ s.registry.entries, e.Sound b
  limit : ∀ limit, b.options.maxDefinitions = some limit → s.registry.size ≤ limit
  parents : ∀ id e p, s.registry.get? id = some e → e.parent = some p → p < id
  expanding : ∀ p, s.expanding = some p → p < s.registry.size
  queued : ∀ i ∈ s.worklist.queue, i.target < s.registry.size

variable {b : Builder} {s t : BuildState} {ty : TypeExpr} {d : Declaration}

theorem sound_init (b : Builder) : Sound b (init b) where
  signatures := by simp [init]
  names := by simp [init]
  entries := by simp [init]
  limit := by simp [init, Registry.size]
  parents := by simp [init, Registry.get?]
  expanding := by simp [init]
  queued := by simp [init]

theorem Defines.newEntry_sound (hd : Defines b s ty d) :
    (s.newEntry (s.resolved b ty)).Sound b :=
  ⟨rfl, plain_resolved b s ty, hd.depth_le⟩

theorem Sound.distinct (h : Sound b s) : s.registry.Distinct := ⟨h.signatures, h.names⟩

theorem Sound.define (h : Sound b s) (hd : Defines b s ty d) :
    Sound b (s.define (s.resolved b ty) d).2 := by
  have hdistinct := distinct_define (d := d) h.distinct hd.fresh
  have hsize : (s.define (s.resolved b ty) d).2.registry.size = s.registry.size + 1 := by
    simp [define_registry hd.fresh, Registry.size]
  constructor
  · exact hdistinct.signatures
  · exact hdistinct.names
  · rw [define_registry hd.fresh]
    simp only [List.mem_append, List.mem_singleton, or_imp, forall_and, forall_eq]
    exact ⟨h.entries, hd.newEntry_sound⟩
  · intro limit hl
    have := hd.size_lt hl
    omega
  · intro id e p he hp
    rw [define_registry hd.fresh, Registry.get?, List.getElem?_append] at he
    split at he
    · exact h.parents id e p he hp
    · rename_i hid
      have := List.mem_singleton.mp (List.mem_of_getElem? he)
      subst this
      have := h.expanding p hp
      simp only [Registry.size] at this
      omega
  · intro p hp
    have := h.expanding p (by simpa using hp)
    omega
  · rw [define_worklist hd.fresh, hsize]
    simp only [Worklist.push, List.mem_append, List.mem_singleton, or_imp, forall_and, forall_eq]
    exact ⟨fun i hi => Nat.lt_succ_of_lt (h.queued i hi), Nat.lt_succ_self _⟩

theorem Sound.grows {v : Vocabulary} (h : Sound b s) (hg : Grows b v s t) : Sound b t := by
  induction hg with
  | refl => exact h
  | note _ _ _ _ ih => exact ⟨ih.1, ih.2, ih.3, ih.4, ih.5, ih.6, ih.7⟩
  | enter _ _ ih => exact ⟨ih.1, ih.2, ih.3, ih.4, ih.5, ih.6, ih.7⟩
  | define _ _ hd ih => exact ih.define hd

theorem Sound.opened {item : WorkItem} {rest : List WorkItem} (h : Sound b s)
    (hq : s.worklist.queue = item :: rest) : Sound b (s.opened item rest) where
  signatures := h.signatures
  names := h.names
  entries := h.entries
  limit := h.limit
  parents := h.parents
  expanding := by
    rintro p ⟨⟩
    exact h.queued item (by simp [hq])
  queued i hi := h.queued i (hq ▸ List.mem_cons_of_mem item hi)

theorem Sound.closed {item : WorkItem} {r : Schema × BuildState} (h : Sound b r.2)
    (he : ∀ p, s.expanding = some p → p < r.2.registry.size) : Sound b (s.closed item r) where
  signatures := (h.distinct.complete ..).signatures
  names := (h.distinct.complete ..).names
  entries e hmem := by
    rcases Registry.mem_complete hmem with he | ⟨e', he', rfl⟩
    · exact h.entries e he
    · have hs := h.entries e' he'
      exact ⟨hs.signature, hs.plain, hs.depth⟩
  limit limit hl := by
    simpa [BuildState.closed] using h.limit limit hl
  parents id e p hget hp := by
    rw [BuildState.closed, Registry.get?_complete, Option.map_eq_some_iff] at hget
    obtain ⟨e', he', rfl⟩ := hget
    refine h.parents id e' p he' ?_
    split at hp <;> exact hp
  expanding p hp := by
    simpa [BuildState.closed] using he p hp
  queued i hi := by
    simpa [BuildState.closed] using h.queued i hi

theorem Grows.size_le {v : Vocabulary} (h : Grows b v s t) : s.registry.size ≤ t.registry.size := by
  obtain ⟨more, hm⟩ := h.entries
  simp [Registry.size, hm]

theorem Sound.step (hd : s.isDone = false) (h : Sound b s) : Sound b (s.step b) := by
  obtain ⟨item, rest, hq, hstep, hg⟩ := step_cases b hd
  rw [hstep]
  exact ((h.opened hq).grows hg).closed
    (fun p hp => Nat.lt_of_lt_of_le (h.expanding p hp) hg.size_le)

theorem sound_after (b : Builder) (calls : List Call) : Sound b (after b calls) :=
  after_induction (sound_init b) (fun _ _ hg h => h.grows hg) (fun _ hd h => h.step hd) calls

/-! Declared names. -/

theorem Defines.declared_resolved (hc : b.index.Coherent) (hd : Defines b s ty d) :
    (s.resolved b ty).Declared b.index where
  canonical := TypeExpr.canonicalize_idem hc (TypeExpr.plain_resolveDeep s.scope ty)
  declared := by
    obtain ⟨n, -, hl⟩ := Option.bind_eq_some_iff.mp hd.declared
    exact ⟨d, hc.declared?_name hl,
      TypeExpr.baseName?_canonicalize hc (TypeExpr.plain_resolveDeep s.scope ty) hd.declared⟩

theorem Grows.declared {v : Vocabulary} (hc : b.index.Coherent) (hg : Grows b v s t)
    (h : ∀ ty ∈ s.registry.entries.map Entry.type, ty.Declared b.index) :
    ∀ ty ∈ t.registry.entries.map Entry.type, ty.Declared b.index := by
  induction hg with
  | refl => exact h
  | note _ _ _ _ ih => exact ih
  | enter _ _ ih => exact ih
  | @define t ty d _ _ hd ih =>
    rw [define_registry hd.fresh]
    simp only [List.map_append, List.mem_append, List.map_cons, List.map_nil, List.mem_singleton,
      or_imp, forall_and, forall_eq]
    exact ⟨ih, hd.declared_resolved hc⟩

theorem declared_after (hc : b.index.Coherent) (calls : List Call) :
    ∀ ty ∈ (after b calls).registry.entries.map Entry.type, ty.Declared b.index := by
  refine after_induction
    (P := fun s => ∀ ty ∈ s.registry.entries.map Entry.type, ty.Declared b.index)
    (by simp [init]) (fun _ _ hg h => hg.declared hc h) ?_ calls
  intro s hd h
  obtain ⟨item, rest, -, hstep, hg⟩ := step_cases b hd
  rw [hstep, closed, Registry.map_complete (f := Entry.type) (fun _ _ => rfl)]
  exact hg.declared hc h

end BuildState

/-! Where definitions come from. -/

/-- A definition apart from its body. -/
def Entry.outline (e : Entry) : Entry := { e with completed := false, body := {} }

namespace Registry

def outline (r : Registry) : List Entry := r.entries.map Entry.outline

@[simp] theorem outline_complete (r : Registry) (id : Nat) (body : Schema) :
    (r.complete id body).outline = r.outline :=
  map_complete (f := Entry.outline) (fun _ _ => rfl) id body

theorem length_outline (r : Registry) : r.outline.length = r.size := by
  simp [outline, size]

theorem outline_getElem? (r : Registry) (id : Nat) :
    r.outline[id]? = (r.get? id).map Entry.outline := by
  simp [outline, get?]

/-- Whether the second definition is the first one, its parent, the parent of that, and so on. -/
inductive Ancestor (r : Registry) : Nat → Nat → Prop
  | self (id : Nat) : Ancestor r id id
  | parent {id p q : Nat} {e : Entry} (he : r.get? id = some e) (hp : e.parent = some p)
    (h : Ancestor r p q) : Ancestor r id q

theorem exists_ancestor {r : Registry}
    (hr : ∀ id e p, r.get? id = some e → e.parent = some p → p < id) {id : Nat}
    (hid : id < r.size) :
    ∃ root e, r.Ancestor id root ∧ r.get? root = some e ∧ e.parent = none := by
  induction id using Nat.strongRecOn with
  | ind id ih =>
    have he : r.get? id = some r.entries[id] := List.getElem?_eq_getElem hid
    cases hp : r.entries[id].parent with
    | none => exact ⟨id, _, .self id, he, hp⟩
    | some p =>
      have hlt := hr id _ p he hp
      obtain ⟨root, e, ha, hroot⟩ := ih p hlt (Nat.lt_trans hlt hid)
      exact ⟨root, e, .parent he hp ha, hroot⟩

end Registry

namespace BuildState

variable {b : Builder} {s t : BuildState}

/-- Whether the second state has the definitions of the first and then some with such parents. -/
def Extends (P : Option Nat → Prop) (s t : BuildState) : Prop :=
  ∃ more, t.registry.outline = s.registry.outline ++ more ∧ ∀ e ∈ more, P e.parent

theorem Extends.refl {P : Option Nat → Prop} (s : BuildState) : Extends P s s := ⟨[], by simp⟩

theorem Extends.trans {P : Option Nat → Prop} {u : BuildState} (hst : Extends P s t)
    (htu : Extends P t u) : Extends P s u := by
  obtain ⟨m₁, h₁, hp₁⟩ := hst
  obtain ⟨m₂, h₂, hp₂⟩ := htu
  refine ⟨m₁ ++ m₂, by rw [h₂, h₁, List.append_assoc], ?_⟩
  simp only [List.mem_append, or_imp, forall_and]
  exact ⟨hp₁, hp₂⟩

/-- What is found in the body of a definition has this definition as its parent. -/
theorem Grows.extends {v : Vocabulary} (h : Grows b v s t) : Extends (· = s.expanding) s t := by
  induction h with
  | refl => exact .refl s
  | note _ _ _ _ ih => exact ih
  | enter _ _ ih => exact ih
  | @define t ty d hg _ hd ih =>
    refine ih.trans ⟨[(t.newEntry (t.resolved b ty)).outline], ?_, ?_⟩
    · simp [Registry.outline, define_registry hd.fresh]
    · simpa [Entry.outline, newEntry] using hg.expanding

theorem extends_step (hd : s.isDone = false) : Extends (· ≠ none) s (s.step b) := by
  obtain ⟨item, rest, -, hstep, hg⟩ := step_cases b hd
  obtain ⟨more, hm, hp⟩ := hg.extends
  refine ⟨more, ?_, fun e he => by simp [hp e he, opened]⟩
  rw [hstep, closed, Registry.outline_complete]
  exact hm

theorem extends_drain (b : Builder) (s : BuildState) : Extends (· ≠ none) s (s.drain b) := by
  induction s using drain_induction (b := b) with
  | done s hd =>
    rw [drain_of_isDone hd]
    exact .refl s
  | step s hd ih =>
    rw [drain_step hd] at ih
    exact (extends_step hd).trans ih

theorem expanding_after (b : Builder) (calls : List Call) : (after b calls).expanding = none := by
  refine after_induction (P := fun s => s.expanding = none) rfl ?_ ?_ calls
  · intro s t hg h
    rw [hg.expanding, h]
  · intro s hd h
    obtain ⟨item, rest, -, hstep, -⟩ := step_cases b hd
    rw [hstep]
    exact h

/-- Other calls than draining find definitions without parents. -/
theorem extends_perform {c : Call} (hc : c ≠ .drain) (hs : s.expanding = none) :
    Extends (· = none) s (s.perform b c) := by
  rw [← hs]
  cases c with
  | process t node => exact (grows_process b t node s).extends
  | register t => exact (grows_register_full b t s).extends
  | drain => exact absurd rfl hc

theorem after_append (b : Builder) (calls : List Call) (c : Call) :
    after b (calls ++ [c]) = (after b calls).perform b c := by
  simp [after]

/-- Whether a definition was found by one of the calls itself, and not in the body of another. -/
def FoundByCall (b : Builder) (calls : List Call) (id : Nat) : Prop :=
  ∃ before c rest, calls = before ++ c :: rest ∧ c ≠ .drain ∧
    (after b before).registry.size ≤ id ∧ id < (after b (before ++ [c])).registry.size

/-- A definition of a later state is one of the earlier state, or its parent is as said. -/
theorem Extends.get? {P : Option Nat → Prop} (h : Extends P s t) {id : Nat} {e : Entry}
    (he : t.registry.get? id = some e) :
    (∃ e', s.registry.get? id = some e' ∧ e'.outline = e.outline) ∨
      s.registry.size ≤ id ∧ P e.parent := by
  obtain ⟨more, hm, hmore⟩ := h
  have hget := t.registry.outline_getElem? id
  rw [hm, he, List.getElem?_append, Registry.length_outline] at hget
  split at hget
  · rw [Registry.outline_getElem?] at hget
    exact .inl (Option.map_eq_some_iff.mp hget)
  · rename_i hid
    rw [Option.map_some] at hget
    exact .inr ⟨Nat.le_of_not_lt hid, hmore e.outline (List.mem_of_getElem? hget)⟩

/-- A definition without parent was found by a call. -/
theorem foundByCall_of_parent_none (calls : List Call) {id : Nat} {e : Entry}
    (he : (after b calls).registry.get? id = some e) (hp : e.parent = none) :
    FoundByCall b calls id := by
  induction calls using List.reverseRecOn generalizing e with
  | nil => simp [after, init, Registry.get?] at he
  | append_singleton front c ih =>
    have hlt : id < (after b (front ++ [c])).registry.size := Registry.lt_size_of_get? he
    have hearlier : ∀ e', (after b front).registry.get? id = some e' → e'.outline = e.outline →
        FoundByCall b (front ++ [c]) id := by
      intro e' he' ho
      have hparent : e'.parent = none := by
        have := congrArg Entry.parent ho
        exact this.trans hp
      obtain ⟨before, c', rest, rfl, hc', hfound⟩ := ih he' hparent
      exact ⟨before, c', rest ++ [c], by simp, hc', hfound⟩
    rw [after_append] at he
    -- A drain finds definitions in bodies only, and these have parents.
    by_cases hc : c = .drain
    · subst hc
      rcases (extends_drain b (after b front)).get? he with ⟨e', he', ho⟩ | ⟨-, hnone⟩
      · exact hearlier e' he' ho
      · exact absurd hp hnone
    · rcases (extends_perform hc (expanding_after b front)).get? he with ⟨e', he', ho⟩ | ⟨hle, -⟩
      · exact hearlier e' he' ho
      · exact ⟨front, c, [], rfl, hc, hle, hlt⟩

/-- What a host may rely on about the registry after some calls. -/
structure WellFormed (b : Builder) (calls : List Call) : Prop where
  /-- No two definitions share a signature. -/
  signatures : ((after b calls).registry.entries.map Entry.signature).Nodup
  /-- No two definitions share a name. -/
  names : ((after b calls).registry.entries.map Entry.name).Nodup
  /-- The signature and the name of a definition lead to it. -/
  found : ∀ id e, (after b calls).registry.get? id = some e →
    (after b calls).registry.lookup e.signature = some id ∧
      (after b calls).registry.byName? e.name = some e
  /-- The signature of a definition is the text of its type, which is settled, not nested too deep and
  written under declared names, with that of a declaration at its top. -/
  entries : ∀ e ∈ (after b calls).registry.entries, e.Sound b ∧ e.type.Declared b.index
  /-- There are not more definitions than allowed. -/
  limit : ∀ limit, b.options.maxDefinitions = some limit →
    (after b calls).registry.size ≤ limit
  /-- A definition is found before those in its body. -/
  parents : ∀ id e p, (after b calls).registry.get? id = some e → e.parent = some p → p < id
  /-- Every chain of parents ends at a definition that was found by a call itself. -/
  roots : ∀ id, id < (after b calls).registry.size →
    ∃ root e, (after b calls).registry.Ancestor id root ∧
      (after b calls).registry.get? root = some e ∧ e.parent = none ∧ FoundByCall b calls root

/-- The registry is well formed after every sequence of calls. -/
theorem wellFormed_after (b : Builder) (hb : b.index.Built) (calls : List Call) :
    WellFormed b calls := by
  have h := sound_after b calls
  have hdecl := declared_after hb.coherent calls
  refine ⟨h.signatures, h.names, fun id e he => ⟨?_, ?_⟩, fun e he => ⟨h.entries e he, ?_⟩,
    h.limit, h.parents, ?_⟩
  · exact Registry.lookup_of_nodup h.signatures he
  · exact Registry.byName?_of_nodup h.names (Registry.mem_of_get? he)
  · exact hdecl e.type (List.mem_map_of_mem he)
  · intro id hid
    obtain ⟨root, e, ha, he, hp⟩ := Registry.exists_ancestor h.parents hid
    exact ⟨root, e, ha, he, hp, foundByCall_of_parent_none calls he hp⟩

/-- Two declarations that ask for one name. -/
def twoUsers : Index := (Index.standard.insert { name := "a::User" }).insert { name := "b::User" }

theorem wellFormed_twoUsers :
    twoUsers.Built ∧
      WellFormed { index := twoUsers }
        [.register (.named "User" []), .register (.named "a::User" []),
          .process (.array (.named "b::User" []) 1) .empty] ∧
      (after { index := twoUsers }
        [.register (.named "User" []), .register (.named "a::User" []),
          .process (.array (.named "b::User" []) 1) .empty]).registry.entries.map Entry.name =
        ["User", "User2"] := by
  have hb : twoUsers.Built := (Index.Built.standard.insert _).insert _
  exact ⟨hb, wellFormed_after { index := twoUsers } hb _, by decide +kernel⟩

end BuildState
end SchemaGraph
