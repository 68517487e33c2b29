import Mathlib.Data.List.Induction
import SchemaGraph.Proofs.Lineage
import SchemaGraph.Proofs.Shared

/-! A build from a state that has definitions already follows the build from the start. It passes over what
is there, and finds the rest in the same order, with the same lineages: it meets no limit that the other
does not meet. -/
namespace SchemaGraph

open TypeExpr (telling)

namespace Diagnostics

theorem Clean.record {ds : Diagnostics} (h : ds.Clean) {code : DiagnosticCode}
    (hcode : code.isLimit = false) (n m : String) : (ds.record code n m).Clean := by
  unfold Diagnostics.record
  split
  · exact h
  · intro d hd
    rcases List.mem_append.mp hd with hd | hd
    · exact h d hd
    · rw [List.mem_singleton.mp hd]
      exact hcode

end Diagnostics

namespace BuildState

/-- Whether all types of a list can have definitions together, under the names that they ask for. -/
structure Fits (b : Builder) (all : List TypeExpr) : Prop where
  names : ∀ ty ∈ all, ∀ u ∈ all, ty.referenceName = u.referenceName → ty = u
  limit : ∀ limit, b.options.maxDefinitions = some limit → all.length ≤ limit

/-- Whether the second state is the first one on top of the definitions of `base`: it has what the first
has beside these, queued in the same order and with the same lineages. -/
structure Shadow (b : Builder) (base all : List TypeExpr) (s t : BuildState) : Prop where
  level : Level b s t
  left : Sound b s
  right : Sound b t
  clean : s.diagnostics.Clean → t.diagnostics.Clean
  types : t.registry.types = base ++ s.registry.types.filter (· ∉ base)
  fits : t.registry.types ⊆ all
  queue : t.worklist.queue.map WorkItem.type =
    (s.worklist.queue.map WorkItem.type).filter (· ∉ base)
  parents : ∀ e ∈ s.registry.entries, ∀ e' ∈ t.registry.entries, e.type = e'.type →
    e.type ∉ base → ∃ l, s.registry.Lineage e.parent l ∧ t.registry.Lineage e'.parent l
  expanding : ∃ l, s.registry.Lineage s.expanding l ∧ t.registry.Lineage t.expanding l

variable {b : Builder} {base all : List TypeExpr} {s t : BuildState} {ty r : TypeExpr}
  {d : Declaration}

theorem Faithful.lookup_eq_none_iff (h : Faithful b s) (hr : r.Plain) (ht : telling.Covers r) :
    s.registry.lookup r.signature = none ↔ r ∉ s.registry.types := by
  constructor
  · intro hl hmem
    obtain ⟨e, he, rfl⟩ := List.mem_map.mp hmem
    exact Registry.lookup_eq_none_iff.mp hl e he (h.entries e he).signature
  · intro hmem
    cases hl : s.registry.lookup r.signature with
    | none => rfl
    | some id =>
      obtain ⟨e, he, -, rfl⟩ := h.get?_of_lookup hr ht hl
      exact absurd (List.mem_map_of_mem (Registry.mem_of_get? he)) hmem

theorem Shadow.mem_types_iff (h : Shadow b base all s t) (ty : TypeExpr) :
    ty ∈ t.registry.types ↔ ty ∈ base ∨ ty ∈ s.registry.types := by
  rw [h.types, List.mem_append, List.mem_filter]
  by_cases hb : ty ∈ base <;> simp [hb]

theorem Shadow.enter (h : Shadow b base all s t) {scope : Scope}
    (hscope : telling.CoversScope scope) :
    Shadow b base all { s with scope } { t with scope } where
  level := h.level.enter hscope
  left := h.left.grows (v := .full) (Grows.refl.enter scope)
  right := h.right.grows (v := .full) (Grows.refl.enter scope)
  clean := h.clean
  types := h.types
  fits := h.fits
  queue := h.queue
  parents := h.parents
  expanding := h.expanding

theorem Shadow.record (h : Shadow b base all s t) (code : DiagnosticCode) (n m : String) :
    Shadow b base all (s.record code n m) (t.record code n m) where
  level := h.level.record code n m
  left := h.left.grows (v := .full) (Grows.refl.note code n m)
  right := h.right.grows (v := .full) (Grows.refl.note code n m)
  clean hc := by
    cases hcode : code.isLimit with
    | true => exact absurd hc (Diagnostics.not_clean_record hcode n m)
    | false =>
      have hs := hc.mono (Diagnostics.keeps_record ..)
      exact (h.clean hs).record hcode n m
  types := h.types
  fits := h.fits
  queue := h.queue
  parents := h.parents
  expanding := h.expanding

/-- What the state on top has already, it passes over. -/
theorem Shadow.pass (h : Shadow b base all s t) {u : BuildState} (hlevel : Level b u t)
    (hsound : Sound b u) (hclean : u.diagnostics.Clean → s.diagnostics.Clean) {more : List Entry}
    (houtline : u.registry.outline = s.registry.outline ++ more)
    (hmore : ∀ e ∈ more, e.type ∈ base)
    (hqueue : (u.worklist.queue.map WorkItem.type).filter (· ∉ base) =
      (s.worklist.queue.map WorkItem.type).filter (· ∉ base))
    (hexpanding : u.expanding = s.expanding) : Shadow b base all u t := by
  have hmono : s.registry.outline <+: u.registry.outline := ⟨more, houtline.symm⟩
  constructor
  · exact hlevel
  · exact hsound
  · exact h.right
  · exact fun hc => h.clean (hclean hc)
  · have hnone : (more.map Entry.type).filter (· ∉ base) = [] := by
      rw [List.filter_eq_nil_iff]
      simpa using hmore
    rw [h.types, Registry.types_eq_map_outline, Registry.types_eq_map_outline u.registry, houtline,
      List.map_append, List.filter_append, hnone, List.append_nil]
  · exact h.fits
  · rw [h.queue, hqueue]
  · intro e he e' he' htype hbase
    have hmem : e.outline ∈ s.registry.outline ++ more :=
      houtline ▸ List.mem_map_of_mem he
    rcases List.mem_append.mp hmem with hold | hnew
    · obtain ⟨e₀, he₀, heq⟩ := List.mem_map.mp hold
      obtain ⟨htype₀, hparent₀⟩ := Entry.eq_of_outline_eq heq
      obtain ⟨l, hl, hl'⟩ := h.parents e₀ he₀ e' he' (htype₀.trans htype) (htype₀ ▸ hbase)
      exact ⟨l, hparent₀ ▸ hl.mono hmono, hl'⟩
    · exact absurd (hmore _ hnew) hbase
  · obtain ⟨l, hl, hl'⟩ := h.expanding
    rw [hexpanding]
    exact ⟨l, hl.mono hmono, hl'⟩

/-- What the second state knows it passes over. -/
theorem Shadow.register_of_mem (h : Shadow b base all s t)
    (hd : (s.resolved b ty).baseName?.bind b.index.lookup = some d)
    (ht : telling.Covers (s.resolved b ty)) (hmem : s.resolved b ty ∈ t.registry.types) :
    (t.register b ty).2 = t := by
  have hr := h.level.resolved ty
  cases hl : t.registry.lookup (s.resolved b ty).signature with
  | none =>
    exact absurd hmem ((h.level.right.lookup_eq_none_iff (plain_resolved b s ty) ht).mp hl)
  | some id => rw [register_known (hr ▸ hd) (hr ▸ hl)]

theorem Level.define_left (h : Level b s t) (hd : Defines b s ty d)
    (ht : telling.Covers (s.resolved b ty))
    (hc : (s.define (s.resolved b ty) d).2.diagnostics.Clean) :
    Level b (s.define (s.resolved b ty) d).2 t where
  left := h.left.define hd ht hc
  right := h.right
  scope := by rw [define_scope, h.scope]
  covers := by
    rw [define_scope]
    exact h.covers

/-- What both states define for the first time they define alike. -/
theorem Shadow.define (h : Shadow b base all s t) (hds : Defines b s ty d) (hdt : Defines b t ty d)
    (ht : telling.Covers (s.resolved b ty)) (hbase : s.resolved b ty ∉ base)
    (hmem : s.resolved b ty ∈ all)
    (hc : (s.define (s.resolved b ty) d).2.diagnostics.Clean)
    (hc' : (t.define (s.resolved b ty) d).2.diagnostics.Clean) :
    Shadow b base all (s.define (s.resolved b ty) d).2 (t.define (s.resolved b ty) d).2 := by
  have hr := h.level.resolved ty
  have hfresh' : t.registry.lookup (s.resolved b ty).signature = none := hr ▸ hdt.fresh
  have hmono : s.registry.outline <+: (s.define (s.resolved b ty) d).2.registry.outline :=
    prefix_define hds.fresh
  have hmono' : t.registry.outline <+: (t.define (s.resolved b ty) d).2.registry.outline :=
    prefix_define hfresh'
  have hunknown := (h.level.left.lookup_eq_none_iff (plain_resolved b s ty) ht).mp hds.fresh
  have hunknown' := (h.level.right.lookup_eq_none_iff (plain_resolved b s ty) ht).mp hfresh'
  constructor
  · have hlevel := h.level.define_left hds ht hc
    refine ⟨hlevel.left, ?_, ?_, hlevel.covers⟩
    · rw [hr] at hc' ht ⊢
      exact h.level.right.define hdt ht hc'
    · rw [hlevel.scope, define_scope]
  · exact h.left.define hds
  · rw [hr]
    exact h.right.define hdt
  · exact fun _ => hc'
  · rw [types_define hds.fresh, types_define hfresh', h.types]
    simp [hbase]
  · rw [types_define hfresh']
    simpa using ⟨h.fits, hmem⟩
  · rw [queue_define hds.fresh, queue_define hfresh', h.queue]
    simp [hbase]
  · intro e he e' he' htype hne
    rw [define_registry hds.fresh, List.mem_append, List.mem_singleton] at he
    rw [define_registry hfresh', List.mem_append, List.mem_singleton] at he'
    rcases he with he | rfl
    · rcases he' with he' | rfl
      · obtain ⟨l, hl, hl'⟩ := h.parents e he e' he' htype hne
        exact ⟨l, hl.mono hmono, hl'.mono hmono'⟩
      · exact absurd (List.mem_map.mpr ⟨e, he, htype⟩) hunknown
    · rcases he' with he' | rfl
      · exact absurd (List.mem_map.mpr ⟨e', he', htype.symm⟩) hunknown'
      · obtain ⟨l, hl, hl'⟩ := h.expanding
        exact ⟨l, hl.mono hmono, hl'.mono hmono'⟩
  · obtain ⟨l, hl, hl'⟩ := h.expanding
    rw [define_expanding, define_expanding]
    exact ⟨l, hl.mono hmono, hl'.mono hmono'⟩

/-- A type that the one state may define the other may define too. -/
theorem Shadow.allowed (hall : Fits b all) (h : Shadow b base all s t)
    (hs : s.refusal? b ty r = none) (hnew : r ∉ t.registry.types) (hmem : r ∈ all) :
    t.refusal? b ty r = none := by
  obtain ⟨l, hl, hl'⟩ := h.expanding
  have hgrowing : t.registry.growingAncestor t.expanding r =
      s.registry.growingAncestor s.expanding r := by
    rw [Registry.growingAncestor_eq_find? h.left.parents hl,
      Registry.growingAncestor_eq_find? h.right.parents hl']
  have hroom : ∀ limit, b.options.maxDefinitions = some limit → t.registry.size < limit := by
    intro limit hlimit
    have hnodup : (r :: t.registry.types).Nodup := List.nodup_cons.mpr ⟨hnew, nodup_types h.right⟩
    have hsub : r :: t.registry.types ⊆ all := List.cons_subset.mpr ⟨hmem, h.fits⟩
    have hle := List.Nodup.length_le_of_subset hnodup hsub
    have hall := hall.limit limit hlimit
    simp only [List.length_cons, Registry.types, List.length_map] at hle
    rw [Registry.size]
    omega
  obtain ⟨hdepth, hsteady, -⟩ := refusal?_eq_none_iff.mp hs
  rw [← hgrowing] at hsteady
  exact refusal?_eq_none_iff.mpr ⟨hdepth, hsteady, hroom⟩

/-- No name is taken that a type asks for. -/
theorem Fits.freeName (hall : Fits b all) (ht : Faithful b t) (hsub : t.registry.types ⊆ all)
    (hnew : r ∉ t.registry.types) (hmem : r ∈ all) :
    t.registry.freeName r.referenceName = r.referenceName := by
  refine if_neg (fun htaken => hnew ?_)
  obtain ⟨e, he, hsame⟩ := List.mem_map.mp (Registry.isTaken_iff.mp htaken)
  have hin : e.type ∈ t.registry.types := List.mem_map_of_mem he
  rw [(ht.entries e he).name] at hsame
  exact hall.names _ (hsub hin) _ hmem hsame ▸ hin

/-- What the first state defines, the second one defines too, or has in `base`. -/
theorem Shadow.register_define (hall : Fits b all) (h : Shadow b base all s t)
    (hds : Defines b s ty d) (ht : telling.Covers (s.resolved b ty)) (hmem : s.resolved b ty ∈ all)
    (hc : (s.define (s.resolved b ty) d).2.diagnostics.Clean) :
    Shadow b base all (s.define (s.resolved b ty) d).2 (t.register b ty).2 := by
  have hr := h.level.resolved ty
  have hplain := plain_resolved b s ty
  have hg : Grows b .full s (s.define (s.resolved b ty) d).2 :=
    Grows.refl.define (Vocabulary.covers_full _) hds
  by_cases hbase : s.resolved b ty ∈ base
  · rw [h.register_of_mem hds.declared ht ((h.mem_types_iff _).mpr (.inl hbase))]
    refine h.pass (h.level.define_left hds ht hc) (h.left.define hds)
      (fun hc => hc.mono hg.diagnostics) (outline_define hds.fresh) (by simpa [newEntry]) ?_
      (define_expanding ..)
    rw [queue_define hds.fresh]
    simp [hbase]
  · have hnew : s.resolved b ty ∉ t.registry.types := by
      rw [h.mem_types_iff, not_or]
      exact ⟨hbase, (h.level.left.lookup_eq_none_iff hplain ht).mp hds.fresh⟩
    have hfresh := (h.level.right.lookup_eq_none_iff hplain ht).mpr hnew
    have hallowed := h.allowed hall hds.allowed hnew hmem
    have hdt : Defines b t ty d := ⟨hr ▸ hds.declared, hr ▸ hfresh, hr ▸ hallowed⟩
    have hc' : (t.define (s.resolved b ty) d).2.diagnostics.Clean := by
      obtain ⟨m, hm⟩ := define_diagnostics (d := d) hfresh
      rw [hm, if_pos (hall.freeName h.level.right h.fits hnew hmem)]
      exact h.clean (hc.mono hg.diagnostics)
    rw [register_defines hdt, ← hr]
    exact h.define hds hdt ht hbase hmem hc hc'

theorem Shadow.register (hall : Fits b all) (hi : telling.CoversIndex b.index)
    (h : Shadow b base all s t) (ht : telling.Covers ty)
    (hc : (s.register b ty).2.diagnostics.Clean)
    (hfits : (s.register b ty).2.registry.types ⊆ all) :
    (s.register b ty).1 = (t.register b ty).1 ∧
      Shadow b base all (s.register b ty).2 (t.register b ty).2 := by
  have hr := h.level.resolved ty
  have htell : telling.Covers (s.resolved b ty) :=
    Vocabulary.covers_canonicalize hi (Vocabulary.covers_resolveDeep h.level.covers ht)
  suffices hshadow : Shadow b base all (s.register b ty).2 (t.register b ty).2 from
    ⟨(h.level.register hi ht hc (hshadow.clean hc)).1, hshadow⟩
  cases hd : (s.resolved b ty).baseName?.bind b.index.lookup with
  | none =>
    rw [register_unknown hd, register_unknown (hr ▸ hd), ← hr]
    exact h.record ..
  | some d =>
    cases hl : s.registry.lookup (s.resolved b ty).signature with
    | some id =>
      obtain ⟨e, he, -, htype⟩ := h.level.left.get?_of_lookup (plain_resolved b s ty) htell hl
      have hmem : s.resolved b ty ∈ s.registry.types :=
        htype ▸ List.mem_map_of_mem (Registry.mem_of_get? he)
      rw [h.register_of_mem hd htell ((h.mem_types_iff _).mpr (.inr hmem)), register_known hd hl]
      exact h
    | none =>
      cases hrefusal : s.refusal? b ty (s.resolved b ty) with
      | some why =>
        rw [register_refused hd hl hrefusal] at hc
        exact absurd hc (Diagnostics.not_clean_record (refusal?_isLimit hrefusal) _ _)
      | none =>
        have hds : Defines b s ty d := ⟨hd, hl, hrefusal⟩
        rw [register_defines hds] at hc hfits ⊢
        have hmem : s.resolved b ty ∈ all := hfits (by simp [types_define hl])
        exact h.register_define hall hds htell hmem hc

/-- A build and the one on top of other definitions go in lockstep while the first meets no limit. -/
theorem lockstep_shadow (hall : Fits b all) (hi : telling.CoversIndex b.index)
    (base : List TypeExpr) :
    Lockstep b b telling (Shadow b base all)
      (fun s _ => ¬(s.diagnostics.Clean ∧ s.registry.types ⊆ all)) where
  akin := ⟨b.options.maxDefinitions, rfl⟩
  index := hi
  scope h := ⟨h.level.scope, h.level.covers⟩
  enter h _ hscope := h.enter hscope
  record h code n m := .inr (h.record code n m)
  register {s t} h ty ht := by
    by_cases hc : (s.register b ty).2.diagnostics.Clean ∧
        (s.register b ty).2.registry.types ⊆ all
    · exact .inr (h.register hall hi ht hc.1 hc.2)
    · exact .inl hc
  grows hoff hg _ hc := hoff ⟨hc.1.mono hg.diagnostics, List.Subset.trans hg.types hc.2⟩

variable {i i' : WorkItem} {rest rest' : List WorkItem}

theorem Shadow.opened (h : Shadow b base all s t) (hs : Settled b s) (ht : Settled b t)
    (hq : s.worklist.queue = i :: rest) (hq' : t.worklist.queue = i' :: rest')
    (htype : i.type = i'.type) (hbase : i.type ∉ base) :
    Shadow b base all (s.opened i rest) (t.opened i' rest') where
  level := ⟨⟨hs.faithful.place, hs.faithful.entries⟩, ⟨ht.faithful.place, ht.faithful.entries⟩,
    h.level.scope, h.level.covers⟩
  left := h.left.opened hq
  right := h.right.opened hq'
  clean := h.clean
  types := h.types
  fits := h.fits
  queue := by
    have hqueue := h.queue
    rw [hq, hq', List.map_cons, List.map_cons, List.filter_cons_of_pos (by simpa using hbase)]
      at hqueue
    exact (List.cons.inj hqueue).2
  parents := h.parents
  expanding := by
    obtain ⟨e, he, hetype⟩ := hs.target hq
    obtain ⟨e', he', hetype'⟩ := ht.target hq'
    have hsame : e.type = e'.type := by rw [hetype, hetype', htype]
    obtain ⟨l, hl, hl'⟩ := h.parents e (Registry.mem_of_get? he) e' (Registry.mem_of_get? he') hsame
      (hetype ▸ hbase)
    exact ⟨e.type :: l, .entry he hl, hsame ▸ .entry he' hl'⟩

theorem Shadow.closed (h : Shadow b base all s t) {r r' : Schema × BuildState}
    (hr : Shadow b base all r.2 r'.2) (hs : s.registry.outline <+: r.2.registry.outline)
    (ht : t.registry.outline <+: r'.2.registry.outline) :
    Shadow b base all (s.closed i r) (t.closed i' r') := by
  have hsize := Registry.size_le_of_prefix hs
  have hsize' := Registry.size_le_of_prefix ht
  constructor
  · exact ⟨hr.level.left.closed, hr.level.right.closed, hr.level.scope, hr.level.covers⟩
  · exact hr.left.closed (fun p hp => Nat.lt_of_lt_of_le (h.left.expanding p hp) hsize)
  · exact hr.right.closed (fun p hp => Nat.lt_of_lt_of_le (h.right.expanding p hp) hsize')
  · exact hr.clean
  · simpa [BuildState.closed] using hr.types
  · simpa [BuildState.closed] using hr.fits
  · exact hr.queue
  · have hold : ∀ (u : BuildState) (q : Schema × BuildState) j, ∀ e ∈ (u.closed j q).registry.entries,
        ∃ e₀ ∈ q.2.registry.entries, e₀.type = e.type ∧ e₀.parent = e.parent := by
      intro u q j e he
      rcases Registry.mem_complete he with he | ⟨e₀, he₀, rfl⟩
      · exact ⟨e, he, rfl, rfl⟩
      · exact ⟨e₀, he₀, rfl, rfl⟩
    intro e he e' he' htype hbase
    obtain ⟨e₀, he₀, htype₀, hparent₀⟩ := hold _ _ _ e he
    obtain ⟨e₁, he₁, htype₁, hparent₁⟩ := hold _ _ _ e' he'
    obtain ⟨l, hl, hl'⟩ := hr.parents e₀ he₀ e₁ he₁ (by rw [htype₀, htype₁, htype])
      (htype₀ ▸ hbase)
    rw [← hparent₀, ← hparent₁]
    exact ⟨l, (Registry.lineage_complete ..).mpr hl, (Registry.lineage_complete ..).mpr hl'⟩
  · obtain ⟨l, hl, hl'⟩ := h.expanding
    exact ⟨l, (Registry.lineage_complete ..).mpr (hl.mono hs),
      (Registry.lineage_complete ..).mpr (hl'.mono ht)⟩

theorem Shadow.step_pass (hi : telling.CoversIndex b.index)
    (hclosed : ∀ ty ∈ base, ∃ body, Expands b (· ∈ base) ty body) (h : Shadow b base all s t)
    (hs : Settled b s) (ht : Settled b t) (hq : s.worklist.queue = i :: rest)
    (hbase : i.type ∈ base) (hsettled : Settled b (s.step b))
    (hc : (s.step b).diagnostics.Clean) : Shadow b base all (s.step b) t := by
  have hd : s.isDone = false := by simp [isDone, hq]
  have hsound := h.left.step hd
  obtain ⟨items, ho⟩ := hs.order
  obtain ⟨more, houtline, -⟩ := extends_step (b := b) hd
  have htypes : (s.step b).registry.types = s.registry.types ++ more.map Entry.type := by
    rw [Registry.types_eq_map_outline, houtline, List.map_append, ← Registry.types_eq_map_outline]
  -- What the body needs is there before, or among the definitions below.
  have hwithin : (s.step b).Within (fun ty => ty ∈ base ∨ ty ∈ s.registry.types) := by
    obtain ⟨body, hbody⟩ := hclosed i.type hbase
    obtain ⟨hcovers, hframed, hopened, -⟩ := hs.walked hi hq
    rw [step_of_cons hq] at hc ⊢
    have hexpand : ((s.opened i rest).expand b i).2.Within
        (fun ty => ty ∈ base ∨ ty ∈ s.registry.types) :=
      (hbody.mono (fun _ => Or.inl)).within hi hcovers hopened hs.scope hframed hc
        (fun ty hty => .inr hty)
    simpa [Within, BuildState.closed] using hexpand
  have hmore : ∀ e ∈ more, e.type ∈ base := by
    intro e he
    have hnew : e.type ∈ more.map Entry.type := List.mem_map_of_mem he
    have hnodup := nodup_types hsound
    rw [htypes] at hnodup
    rcases hwithin e.type (htypes ▸ List.mem_append_right _ hnew) with hin | hold
    · exact hin
    · exact absurd rfl ((List.nodup_append.mp hnodup).2.2 _ hold _ hnew)
  have hqueue : (s.step b).worklist.queue.map WorkItem.type =
      rest.map WorkItem.type ++ more.map Entry.type := by
    have hbefore := ho.types
    have hafter := (ho.step (b := b) hq).types
    change _ = (s.step b).registry.types at hafter
    change _ = s.registry.types at hbefore
    rw [htypes, ← hbefore, hq] at hafter
    simpa using hafter
  refine h.pass (level_of_scope hsettled.faithful ht.faithful hsettled.scope ht.scope) hsound
    (fun hc => hc.mono (course_step b s).diagnostics) houtline hmore ?_ ?_
  · have hnone : (more.map Entry.type).filter (· ∉ base) = [] := by
      rw [List.filter_eq_nil_iff]
      simpa using hmore
    rw [hqueue, hq, List.filter_append, hnone, List.append_nil, List.map_cons,
      List.filter_cons_of_neg (by simpa using hbase)]
  · rw [step_of_cons hq]
    rfl

/-- A step of the first state is one of the second too, or expands what the second has already. -/
theorem Shadow.step (hall : Fits b all) (hi : telling.CoversIndex b.index)
    (hclosed : ∀ ty ∈ base, ∃ body, Expands b (· ∈ base) ty body) (h : Shadow b base all s t)
    (hs : Settled b s) (ht : Settled b t) (hd : s.isDone = false)
    (hc : (s.step b).diagnostics.Clean) (hfits : (s.step b).registry.types ⊆ all) :
    Shadow b base all (s.step b) t ∨
      t.isDone = false ∧ Shadow b base all (s.step b) (t.step b) := by
  have hsettled := hs.step hi hd hc
  obtain ⟨i, rest, hq⟩ := exists_queue hd
  by_cases hbase : i.type ∈ base
  · left
    exact h.step_pass hi hclosed hs ht hq hbase hsettled hc
  · right
    obtain ⟨hcovers, hframed, hopened, hg⟩ := hs.walked hi hq
    have hqueue := h.queue
    rw [hq, List.map_cons, List.filter_cons_of_pos (by simpa using hbase)] at hqueue
    obtain ⟨i', rest', hq', htype, -⟩ := List.map_eq_cons_iff.mp hqueue
    obtain ⟨-, hframed', -, hg'⟩ := ht.walked hi hq'
    refine ⟨by simp [isDone, hq'], ?_⟩
    rw [step_of_cons hq] at hc hfits ⊢
    rw [step_of_cons hq']
    have hshadow := h.opened hs ht hq hq' htype.symm hbase
    rcases (lockstep_shadow hall hi base).expand hshadow htype.symm
      (hframed.frame_eq hframed' htype.symm) (hframed.covers hi hcovers) with hoff | ⟨-, hon⟩
    · exact absurd ⟨hc, by simpa [BuildState.closed] using hfits⟩ hoff
    · exact h.closed hon hg.outline hg'.outline

/-- What the first build meets no limit in, the second one meets none in. -/
theorem Shadow.drain (hall : Fits b all) (hi : telling.CoversIndex b.index)
    (hclosed : ∀ ty ∈ base, ∃ body, Expands b (· ∈ base) ty body) (h : Shadow b base all s t)
    (hs : Settled b s) (ht : Settled b t) (hc : (s.drain b).diagnostics.Clean)
    (hfits : (s.drain b).registry.types ⊆ all) : Shadow b base all (s.drain b) (t.drain b) := by
  induction s using drain_induction (b := b) generalizing t with
  | done s hd =>
    have hq := h.queue
    rw [queue_eq_nil_of_isDone hd, List.map_nil, List.filter_nil, List.map_eq_nil_iff] at hq
    rw [drain_of_isDone hd, drain_of_isDone (by simp [isDone, hq])]
    exact h
  | step s hd ih =>
    rw [← drain_step hd] at hc hfits ⊢
    have hcourse := course_drain b (s.step b)
    have hcstep := hc.mono hcourse.diagnostics
    have hsettled := hs.step hi hd hcstep
    rcases h.step hall hi hclosed hs ht hd hcstep (List.Subset.trans hcourse.types hfits) with
      hpass | ⟨hdone, hboth⟩
    · exact ih hpass hsettled ht hc hfits
    · rw [← drain_step hdone]
      exact ih hboth hsettled (ht.step hi hdone (hboth.clean hcstep)) hc hfits

theorem addRoots_append_singleton (b : Builder) (roots : List TypeExpr) (root : TypeExpr)
    (s : BuildState) :
    (s.addRoots b (roots ++ [root])).2 = ((s.addRoots b roots).2.addRoot b root).2 := by
  rw [addRoots_state, addRoots_state, rootCalls, List.flatMap_append, List.foldl_append]
  rfl

/-- Roots whose builds meet no limit, and whose definitions fit together, meet none in any order. -/
theorem clean_addRoots (hall : Fits b all) (hi : telling.CoversIndex b.index)
    {roots : List TypeExpr} (hr : ∀ root ∈ roots, telling.Covers root)
    (hc : ∀ root ∈ roots, ((init b).addRoot b root).2.diagnostics.Clean)
    (hfits : ∀ root ∈ roots, ((init b).addRoot b root).2.registry.types ⊆ all) :
    ((init b).addRoots b roots).2.diagnostics.Clean ∧
      ((init b).addRoots b roots).2.registry.types ⊆ all := by
  induction roots using List.reverseRecOn with
  | nil =>
    refine ⟨fun d hd => ?_, fun ty hty => ?_⟩
    · cases hd
    · cases hty
  | append_singleton roots root ih =>
    simp only [List.forall_mem_append, List.forall_mem_singleton] at hr hc hfits
    obtain ⟨hclean, hsub⟩ := ih hr.1 hc.1 hfits.1
    obtain ⟨hsettled, -⟩ := (settled_init b).addRoots hi hr.1 hclean
    have hdone : ((init b).addRoots b roots).2.isDone = true := isDone_addRoots roots rfl
    rw [addRoots_append_singleton]
    generalize ((init b).addRoots b roots).2 = s at *
    have hstart : Shadow b s.registry.types all (init b) s := by
      constructor
      · exact level_of_scope (faithful_init b) hsettled.faithful rfl hsettled.scope
      · exact sound_init b
      · exact hsettled.sound
      · exact fun _ => hclean
      · simp [init, Registry.types]
      · exact hsub
      · simp [init, queue_eq_nil_of_isDone hdone]
      · simp [init]
      · exact ⟨[], .root, by rw [hsettled.expanding]; exact .root⟩
    have hcourse := course_drain b ((init b).walk b root .empty).state
    have hcwalk := hc.2.mono hcourse.diagnostics
    have hwalk : Shadow b s.registry.types all ((init b).walk b root .empty).state
        (s.walk b root .empty).state := by
      rcases (lockstep_shadow hall hi _).walk hstart hr.2 .empty with hoff | hsame
      · exact absurd ⟨hcwalk, List.Subset.trans hcourse.types hfits.2⟩ hoff
      · exact hsame.state
    have hdrain := hwalk.drain hall hi (hsettled.closed hdone) ((settled_init b).walk hi hr.2 hcwalk)
      (hsettled.walk hi hr.2 (hwalk.clean hcwalk)) hc.2 hfits.2
    exact ⟨hdrain.clean hc.2, hdrain.fits⟩

end BuildState
end SchemaGraph
