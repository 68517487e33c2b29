import Mathlib.Data.Finset.Card
import SchemaGraph.Proofs.Chart
import SchemaGraph.Proofs.Guarded
import SchemaGraph.Proofs.Links
import SchemaGraph.Proofs.Signature

/-! The comparison with ancestors ends polymorphic recursion by itself, where an index is guarded: whatever
nesting is allowed, the definitions that roots lead to are bounded. Along a lineage a type can only be
deeper than all before it when its name is new. -/
namespace SchemaGraph

open TypeExpr (telling)

/-! Lineages. -/

def TypeExpr.bases (l : List TypeExpr) : Finset (Option String) := (l.map TypeExpr.baseName?).toFinset

theorem TypeExpr.card_bases_le {l l' : List TypeExpr} (h : l ⊆ l') :
    (bases l).card ≤ (bases l').card := by
  refine Finset.card_le_card (fun n hn => ?_)
  rw [bases, List.mem_toFinset] at hn ⊢
  exact List.map_subset _ h hn

/-- Whether no definition is deeper than the names of its lineage allow. -/
def Registry.Steady (h j : Nat) (r : Registry) : Prop :=
  ∀ start t l, r.Lineage start (t :: l) → t.depth ≤ h + j * (TypeExpr.bases (t :: l)).card

theorem Registry.Steady.complete {r : Registry} {h j : Nat} (hr : r.Steady h j) (id : Nat) (body : Schema) :
    (r.complete id body).Steady h j := by
  intro start t l hlineage
  exact hr start t l ((Registry.lineage_complete id body).mp hlineage)

namespace BuildState

variable {b : Builder} {P : Scope → TypeExpr → Prop} {s t : BuildState} {ty : TypeExpr}
  {d : Declaration} {l : List TypeExpr} {h j m k : Nat}

theorem steady_define (hs : Sound b s) (hst : s.registry.Steady h j) (hd : Defines b s ty d)
    (hl : s.registry.Lineage s.expanding l)
    (hr : (s.resolved b ty).depth ≤
      h + j * (TypeExpr.bases (s.resolved b ty :: l)).card) :
    (s.define (s.resolved b ty) d).2.registry.Steady h j := by
  have hmono : s.registry.outline <+: (s.define (s.resolved b ty) d).2.registry.outline :=
    prefix_define hd.fresh
  intro start u l' hlineage
  cases hlineage with
  | @entry id e _ he hrest =>
    rw [define_registry hd.fresh, Registry.get?, List.getElem?_append] at he
    split at he
    · -- An old definition has its old lineage.
      obtain ⟨l'', hl''⟩ := Registry.exists_lineage hs.parents he
      obtain rfl := hrest.unique (hl''.mono hmono)
      exact hst _ _ _ (.entry he hl'')
    · obtain rfl := List.mem_singleton.mp (List.mem_of_getElem? he)
      obtain rfl := hrest.unique (hl.mono hmono)
      exact hr

/-- An occurrence with variables that gets a definition has no shallower ancestor of its name. -/
theorem Defines.le_depth (hd : Defines b s ty d) (hs : Sound b s)
    (hl : s.registry.Lineage s.expanding l) (hvar : ty.hasVar = true) {u : TypeExpr} (hu : u ∈ l)
    (hname : u.baseName? = (s.resolved b ty).baseName?) : (s.resolved b ty).depth ≤ u.depth := by
  have hnone : s.registry.growingAncestor s.expanding (s.resolved b ty) = none :=
    (refusal?_eq_none_iff.mp hd.allowed).2.1 hvar
  rw [Registry.growingAncestor_eq_find? hs.parents hl] at hnone
  split at hnone
  · have hnot := List.find?_eq_none.mp hnone u hu
    simp only [TypeExpr.isShallower, hname, true_and, decide_eq_true_eq, Nat.not_lt] at hnot
    exact hnot
  · rename_i hparameters
    have hargs : (s.resolved b ty).depth = 0 := by
      obtain ⟨n, hn, -⟩ := Option.bind_eq_some_iff.mp hd.declared
      cases hr : s.resolved b ty with
      | named n as =>
        rw [hr] at hparameters
        cases as with
        | nil => rfl
        | cons a as => exact absurd rfl hparameters
      | _ =>
        rw [hr] at hn
        cases hn
    omega

theorem Defines.depth_le_bases (hd : Defines b s ty d) (hs : Sound b s)
    (hst : s.registry.Steady h j) (hl : s.registry.Lineage s.expanding l)
    (hm : m ≤ h + j * (TypeExpr.bases l).card) (hk : h + k ≤ m + j)
    (hr : (s.resolved b ty).depth ≤ m ∨
      ty.hasVar = true ∧ (s.resolved b ty).depth ≤ h + k) :
    (s.resolved b ty).depth ≤ h + j * (TypeExpr.bases (s.resolved b ty :: l)).card := by
  generalize hrs : s.resolved b ty = r at *
  have hmono := Nat.mul_le_mul_left j (TypeExpr.card_bases_le (List.subset_cons_self r l))
  rcases hr with hr | ⟨hvar, hr⟩
  · omega
  · by_cases hname : r.baseName? ∈ l.map TypeExpr.baseName?
    · obtain ⟨u, hu, hsame⟩ := List.mem_map.mp hname
      have hle : r.depth ≤ u.depth := hrs ▸ hd.le_depth hs hl hvar hu (hrs ▸ hsame)
      obtain ⟨l₁, l₂, rfl⟩ := List.append_of_mem hu
      obtain ⟨start, hlineage⟩ := hl.drop
      have hdepth := hst _ _ _ hlineage
      have hsub : u :: l₂ ⊆ r :: (l₁ ++ u :: l₂) :=
        List.Subset.trans (List.subset_append_right l₁ _) (List.subset_cons_self r _)
      have hcard := Nat.mul_le_mul_left j (TypeExpr.card_bases_le hsub)
      omega
    · -- A new name makes room for one more body.
      have hcard : (TypeExpr.bases (r :: l)).card = (TypeExpr.bases l).card + 1 := by
        rw [TypeExpr.bases, List.map_cons, List.toFinset_cons, Finset.card_insert_of_notMem
          (by rwa [List.mem_toFinset])]
        rfl
      rw [hcard, Nat.mul_add, Nat.mul_one]
      omega

/-- What a body asks for keeps the registry steady. -/
theorem Asks.steady (ha : Asks b P s t) (hs : Sound b s) (hst : s.registry.Steady h j)
    (hl : s.registry.Lineage s.expanding l) (hm : m ≤ h + j * (TypeExpr.bases l).card)
    (hk : h + k ≤ m + j)
    (hP : ∀ (u : BuildState) ty d, P u.scope ty →
      (u.resolved b ty).baseName?.bind b.index.lookup = some d →
        (u.resolved b ty).depth ≤ m ∨ ty.hasVar = true ∧ (u.resolved b ty).depth ≤ h + k) :
    t.registry.Steady h j := by
  induction ha with
  | refl => exact hst
  | note _ _ _ _ ih => exact ih
  | enter _ _ ih => exact ih
  | @define u ty d ha hp hd ih =>
    have hg := ha.full
    have hsound := hs.grows hg
    have hlineage : u.registry.Lineage u.expanding l := hg.expanding ▸ hl.mono hg.outline
    have hr := hd.depth_le_bases hsound ih hlineage hm hk (hP u ty d hp hd.declared)
    exact steady_define hsound ih hd hlineage hr

/-! A guarded index keeps the registry steady. -/

theorem inherited_root (h : Nat) : Inherited (fun s t => s = [] ∧ t.ground.depth ≤ h) where
  argument s n as := by
    rintro ⟨hs, ht⟩ a ha
    have hpart : a ∈ (TypeExpr.named n as).parts := TypeExpr.mem_parts_of_mem_args ha
    exact ⟨hs, Nat.le_trans (TypeExpr.depth_ground_le_of_mem_parts hpart) ht⟩
  component s c d := by
    rintro ⟨hs, ht⟩
    have hpart : c ∈ (TypeExpr.array c d).parts :=
      List.mem_cons_of_mem _ (TypeExpr.mem_parts_self c)
    exact ⟨hs, Nat.le_trans (TypeExpr.depth_ground_le_of_mem_parts hpart) ht⟩
  meaning s n := by
    rintro ⟨rfl, -⟩
    exact ⟨rfl, Nat.zero_le h⟩
  bound s u := by
    rintro ⟨rfl, ht⟩
    refine ⟨rfl, ?_⟩
    change (TypeExpr.ground (TypeExpr.wildcard u)).ground.depth ≤ h
    rwa [TypeExpr.ground, TypeExpr.substitute_of_plain (TypeExpr.plain_ground _)]

theorem Charted.steady_walk (hs : Charted b v s) (hst : s.registry.Steady h j) {root : TypeExpr}
    (hroot : root.ground.depth ≤ h) : (s.walk b root .empty).state.registry.Steady h j := by
  have ha : Asks b (fun s t => s = [] ∧ t.ground.depth ≤ h) s (s.walk b root .empty).state :=
    asks_walk (inherited_root h) ⟨hs.scope, hroot⟩ .empty
  have hlineage : s.registry.Lineage s.expanding [] := by
    rw [hs.expanding]
    exact .root
  refine ha.steady (m := h) (k := 0) hs.sound hst hlineage (Nat.le_add_right ..)
    (Nat.le_add_right ..) (fun u ty d hp _ => .inl ?_)
  obtain ⟨hscope, hdepth⟩ := hp
  rw [resolved, TypeExpr.depth_canonicalize, hscope]
  exact hdepth

theorem Charted.steady_step (hs : Charted b v s) (hguarded : b.index.Guarded)
    (hh : b.index.DepthLe h) (hst : s.registry.Steady h ((b.index.size + 1) * h))
    (hd : s.isDone = false) : (s.step b).registry.Steady h ((b.index.size + 1) * h) := by
  obtain ⟨item, rest, hq⟩ := exists_queue hd
  obtain ⟨hplain, -, ⟨d, hd', hframe⟩, l, hl⟩ := hs.next hq
  -- The body is as deep as the type that is expanded, or as what is written, and that type as its lineage
  -- allows; inheritance adds what is written once for each declaration.
  let m := max h item.type.depth
  have hhm : h ≤ m := Nat.le_max_left ..
  have hm : m ≤ h + (b.index.size + 1) * h * (TypeExpr.bases (item.type :: l)).card :=
    Nat.max_le.mpr ⟨Nat.le_add_right .., hst _ _ _ hl⟩
  have ha : Asks b (Tracked b.index m (m + b.index.size * h)) (s.opened item rest)
      ((s.opened item rest).expand b item).2 := by
    refine asks_expand (inherited_tracked hguarded hh hhm) (descends_tracked hguarded hh hhm)
      (fun d' hd => ?_)
    obtain rfl := Option.some.inj (hd.symm.trans hd')
    obtain ⟨n, -, hn⟩ := Option.bind_eq_some_iff.mp hd
    obtain ⟨key, hkey⟩ := Index.mem_of_lookup hn
    have htame := Scope.tame_ofType (i := b.index) hplain
      (fun t ht => Nat.le_trans (hh.of_mem hkey ht) hhm) (Nat.le_max_right h item.type.depth)
    exact ⟨⟨m, hframe ▸ htame, Nat.le_refl _⟩, key, hkey⟩
  have hroom : h + (m + b.index.size * h) ≤ m + (b.index.size + 1) * h := by
    rw [Nat.add_mul, Nat.one_mul]
    omega
  have hsteady := ha.steady (hs.sound.opened hq) hst hl hm hroom
    (fun u ty d hp hd => hp.depth_resolved hh hhm hd)
  rw [step_of_cons hq]
  exact hsteady.complete _ _

theorem Charted.addRoots (hs : Charted b v s) (hi : v.CoversIndex b.index)
    (hguarded : b.index.Guarded) (hh : b.index.DepthLe h)
    (hst : s.registry.Steady h ((b.index.size + 1) * h)) {roots : List TypeExpr}
    (hroots : ∀ root ∈ roots, v.Covers root ∧ root.ground.depth ≤ h) :
    Charted b v (s.addRoots b roots).2 ∧
      (s.addRoots b roots).2.registry.Steady h ((b.index.size + 1) * h) := by
  induction roots generalizing s with
  | nil => exact ⟨hs, hst⟩
  | cons root roots ih =>
    rw [List.forall_mem_cons] at hroots
    have hdrain := drain_keeps (P := fun s => Charted b v s ∧
        s.registry.Steady h ((b.index.size + 1) * h))
      (fun _ hd hs => ⟨hs.1.step hi hd, hs.1.steady_step hguarded hh hs.2 hd⟩)
      ⟨hs.walk hi hroots.1.1, hs.steady_walk hst hroots.1.2⟩
    exact ih hdrain.1 hdrain.2 hroots.2

/-- The names of a lineage are among those of the vocabulary. -/
theorem Charted.card_bases_le {names : List String} {arities : List Nat} {start : Option Nat}
    (hs : Charted b (.listed names arities) s) (hl : s.registry.Lineage start l) :
    (TypeExpr.bases l).card ≤ names.length + 1 := by
  have hsub : TypeExpr.bases l ⊆ insert none (names.map some).toFinset := by
    intro n hn
    rw [TypeExpr.bases, List.mem_toFinset] at hn
    obtain ⟨u, hu, rfl⟩ := List.mem_map.mp hn
    have hcovers := hs.covers u (hl.subset_types hu)
    cases u with
    | named n as =>
      have hmem := (Vocabulary.covers_named.mp hcovers).1.1
      simp [TypeExpr.baseName?, hmem]
    | _ => exact Finset.mem_insert_self ..
  calc (TypeExpr.bases l).card
      ≤ (insert none (names.map some).toFinset).card := Finset.card_le_card hsub
    _ ≤ (names.map some).toFinset.card + 1 := Finset.card_insert_le ..
    _ ≤ (names.map some).length + 1 := Nat.succ_le_succ (List.toFinset_card_le _)
    _ = names.length + 1 := by rw [List.length_map]

/-- No definition is deeper than all names together allow. -/
theorem Charted.depth_le {names : List String} {arities : List Nat}
    (hs : Charted b (.listed names arities) s) (hst : s.registry.Steady h j) :
    ∀ ty ∈ s.registry.types, ty.depth ≤ h + j * (names.length + 1) := by
  intro ty hty
  obtain ⟨e, he, rfl⟩ := List.mem_map.mp hty
  obtain ⟨id, hid⟩ := List.getElem?_of_mem he
  have hget : s.registry.get? id = some e := hid
  obtain ⟨l, hl⟩ := Registry.exists_lineage hs.sound.parents hget
  have hlineage : s.registry.Lineage (some id) (e.type :: l) := .entry hget hl
  have hdepth := hst _ _ _ hlineage
  have hcard := Nat.mul_le_mul_left j (hs.card_bases_le hlineage)
  omega

theorem Charted.size_le {names : List String} {arities : List Nat}
    (hs : Charted b (.listed names arities) s) (hst : s.registry.Steady h j) :
    s.registry.size ≤
      (TypeExpr.instances names arities (h + j * (names.length + 1))).length := by
  have hsub : s.registry.types ⊆
      TypeExpr.instances names arities (h + j * (names.length + 1)) := by
    intro ty hty
    obtain ⟨e, he, rfl⟩ := List.mem_map.mp hty
    exact Vocabulary.mem_instances (hs.covers _ hty) (hs.sound.entries e he).plain
      (hs.depth_le hst _ hty)
  have hle := (nodup_types hs.sound).length_le_of_subset hsub
  rwa [Registry.types, List.length_map] at hle

end BuildState

/-- The definitions that roots lead to are bounded by a guarded index, whatever the options allow. -/
theorem Builder.exists_size_le (i : Index) (hi : i.Guarded) (roots : List TypeExpr) :
    ∃ bound, ∀ b : Builder, b.index = i → (b.registry roots).size ≤ bound := by
  let h := TypeExpr.depthArgs ((i.types ++ roots).map TypeExpr.ground)
  have hdepth : ∀ t ∈ i.types ++ roots, t.ground.depth ≤ h := fun t ht =>
    TypeExpr.depth_le_depthArgs (List.mem_map_of_mem ht)
  refine ⟨(TypeExpr.instances (i.usedNames roots) (i.usedArities roots)
    (h + (i.size + 1) * h * ((i.usedNames roots).length + 1))).length, ?_⟩
  rintro b rfl
  have hroots : ∀ root ∈ roots, (b.index.vocabulary roots).Covers root ∧ root.ground.depth ≤ h := by
    intro root hroot
    have hmem : root ∈ b.index.types ++ roots := List.mem_append_right _ hroot
    exact ⟨Index.covers_of_mem_types hmem, hdepth root hmem⟩
  have hempty : (BuildState.init b).registry.Steady h ((b.index.size + 1) * h) := by
    rintro _ _ _ (_ | ⟨he, -⟩)
    simp [BuildState.init, Registry.get?] at he
  obtain ⟨hcharted, hsteady⟩ := (BuildState.charted_init b (b.index.vocabulary roots)).addRoots
    (Index.coversIndex_vocabulary b.index roots) hi
    (fun t ht => hdepth t (List.mem_append_left _ ht)) hempty hroots
  exact hcharted.size_le hsteady

/-! A class that goes on with itself around collections of its argument. -/

def nestDeclaration (member : TypeExpr) : Declaration where
  name := "Nest"
  params := [{ name := "T" }]
  members := [⟨"next", member, {}⟩]

def nests (member : TypeExpr) : Index := Index.standard.insert (nestDeclaration member)

namespace TypeExpr

/-- Collections of collections, `k` times. -/
def collections : Nat → TypeExpr
  | 0 => named "i32" []
  | k + 1 => named "Vec" [collections k]

def nest (k : Nat) : TypeExpr := named "Nest" [collections k]

/-- The class around a collection of its argument. -/
def nestMore : TypeExpr := named "Nest" [named "Vec" [var "T"]]

end TypeExpr

/-- Where the class is asked for directly, there is a bound. -/
theorem Builder.exists_size_le_nests :
    (nests (.named "Option" [.nestMore])).Guarded ∧
      ∃ bound, ∀ b : Builder, b.index = nests (.named "Option" [.nestMore]) →
        (b.registry [.nest 0]).size ≤ bound := by
  have hguarded : (nests (.named "Option" [.nestMore])).Guarded := by decide +kernel
  exact ⟨hguarded, exists_size_le _ hguarded _⟩

namespace TypeExpr

theorem depth_nest (k : Nat) : (nest k).depth = k + 1 := by
  have hdepth : (collections k).depth = k := by
    induction k with
    | zero => rfl
    | succ k ih => simp [collections, depth, depthArgs, ih, Nat.add_comm]
  simp [nest, depth, depthArgs, hdepth, Nat.add_comm]

theorem hasVar_nest (k : Nat) : (nest k).hasVar = false := by
  have hvar : (collections k).hasVar = false := by
    induction k with
    | zero => rfl
    | succ k ih => simp [collections, hasVar, hasVarArgs, ih]
  simp [nest, hasVar, hasVarArgs, hvar]

theorem plain_collections (k : Nat) : (collections k).Plain := by
  induction k with
  | zero => exact plain_named.mpr (by simp)
  | succ k ih => exact plain_named.mpr (by simpa using ih)

theorem plain_nest (k : Nat) : (nest k).Plain := plain_named.mpr (by simpa using plain_collections k)

theorem telling_nest (k : Nat) : telling.Covers (nest k) := by
  have hi32 : PathName.Telling "i32" := by decide
  have hvec : PathName.Telling "Vec" := by decide
  have hnest : PathName.Telling "Nest" := by decide
  have htell : telling.Covers (collections k) := by
    induction k with
    | zero => exact Vocabulary.covers_named.mpr ⟨hi32, by simp⟩
    | succ k ih => exact Vocabulary.covers_named.mpr ⟨hvec, by simpa using ih⟩
  exact Vocabulary.covers_named.mpr ⟨hnest, by simpa using htell⟩

/-- The classes are different, and so are their signatures. -/
theorem signature_nest_injective {j k : Nat} (h : (nest j).signature = (nest k).signature) :
    j = k := by
  have hsame := eq_of_signature_eq (plain_nest j) (plain_nest k) (telling_nest j) (telling_nest k) h
  have hdepth := congrArg depth hsame
  rw [depth_nest, depth_nest] at hdepth
  omega

theorem canonicalize_nest (k : Nat) :
    (nest k).canonicalize (nests (.wildcard nestMore)) = nest k := by
  have hnest : (nests (.wildcard nestMore)).lookup "Nest" =
      some (nestDeclaration (.wildcard nestMore)) := by decide +kernel
  have hvec : (nests (.wildcard nestMore)).lookup "Vec" = none := by decide +kernel
  have hcollections : (collections k).canonicalize (nests (.wildcard nestMore)) = collections k := by
    induction k with
    | zero => decide +kernel
    | succ k ih => simp [collections, canonicalize, canonicalizeArgs, ih, hvec]
  simp [nest, canonicalize, canonicalizeArgs, hcollections, hnest, nestDeclaration]

end TypeExpr

namespace BuildState

open TypeExpr (nest collections nestMore)

/-- The builder of such classes, asked for in a bound, under a limit on nesting. -/
def nesting (n : Nat) : Builder where
  index := nests (.wildcard nestMore)
  options := { maxNesting := n }

/-- Whether there is a definition under the signature of a type. -/
def Has (s : BuildState) (t : TypeExpr) : Prop :=
  t.signature ∈ s.registry.entries.map Entry.signature

variable {s t : BuildState} {ty : TypeExpr} {item : WorkItem} {n k : Nat}

theorem Has.course {u : BuildState} (h : t.Has ty) (hc : Course b t u) : u.Has ty := by
  have hsignatures : ∀ r : Registry,
      r.entries.map Entry.signature = r.outline.map Entry.signature := by
    intro r
    rw [Registry.outline, List.map_map]
    rfl
  rw [Has, hsignatures] at h ⊢
  exact (hc.outline.map Entry.signature).subset h

theorem lookup_nest (n : Nat) :
    (nesting n).index.lookup "Nest" = some (nestDeclaration (.wildcard nestMore)) := by
  change (nests (.wildcard nestMore)).lookup "Nest" = _
  decide +kernel

theorem resolved_nest (s : BuildState) (n k : Nat) : s.resolved (nesting n) (nest k) = nest k := by
  have hself : s.scope.resolveDeep (nest k) = nest k :=
    TypeExpr.substitute_of_plain (TypeExpr.plain_nest k)
  rw [resolved, hself]
  exact TypeExpr.canonicalize_nest k

/-- A class within the limit gets its definition: without variables it has no ancestors to fear. -/
theorem has_register (hk : k < n) : (s.register (nesting n) (nest k)).2.Has (nest k) := by
  have hr := resolved_nest s n k
  have hd : (s.resolved (nesting n) (nest k)).baseName?.bind (nesting n).index.lookup =
      some (nestDeclaration (.wildcard nestMore)) := by
    rw [hr]
    exact lookup_nest n
  cases hl : s.registry.lookup (s.resolved (nesting n) (nest k)).signature with
  | some id =>
    rw [register_known hd hl]
    obtain ⟨e, he, hsignature⟩ := Registry.exists_of_lookup hl
    rw [hr] at hsignature
    exact List.mem_map.mpr ⟨e, Registry.mem_of_get? he, hsignature⟩
  | none =>
    have hallowed : s.refusal? (nesting n) (nest k) (s.resolved (nesting n) (nest k)) = none := by
      have hdepth : ¬(nesting n).options.maxNesting < (nest k).depth := by
        rw [TypeExpr.depth_nest]
        exact Nat.not_lt.mpr hk
      rw [hr, refusal?, if_neg hdepth, TypeExpr.hasVar_nest]
      rfl
    rw [register_defines ⟨hd, hl, hallowed⟩, Has, define_registry hl, hr]
    simp [newEntry]

theorem visit_nest (s : BuildState) (n k : Nat) :
    visit (nesting n) (nest k) s =
      visitClass (nesting n) (nest k) (s.scope.resolveDeep (nest k)) s := by
  have hterminal : (nesting n).terminals.lookup "Nest" = none := by
    change Terminals.builtin.lookup "Nest" = none
    rw [← Option.isNone_iff_eq_none]
    decide +kernel
  have hkind : ∀ m, (nesting n).index.isA "Nest" m = false := by
    intro m
    change (nests (.wildcard nestMore)).isA "Nest" m = false
    cases m <;> decide +kernel
  change visitNamed (nesting n) "Nest" [collections k] s = _
  simp only [visitNamed, hterminal, hkind]
  rfl

theorem walkWithin_nest (s : BuildState) (n k room : Nat) (node : Schema) :
    (walkWithin (nesting n) (room + 1) (nest k) node s).state =
      (s.register (nesting n) (nest k)).2 := by
  simp only [walkWithin, visit_nest]
  rfl

/-- Walking the bound brings the next class. -/
theorem has_walk (hk : k + 1 < n) (hs : s.scope.meaning "T" = collections k) (node : Schema) :
    (s.walk (nesting n) (.wildcard nestMore) node).state.Has (nest (k + 1)) := by
  obtain ⟨room, rfl⟩ := Nat.exists_eq_add_of_le' (show 2 ≤ n by omega)
  have hbound : TypeExpr.substituteBound s.scope.meaning (some nestMore) = nest (k + 1) := by
    simp [nestMore, TypeExpr.substituteBound, TypeExpr.substitute, TypeExpr.substituteArgs, hs,
      nest, collections]
  have hvisit : visit (nesting (room + 2)) (.wildcard nestMore) s = .pass (nest (k + 1)) := by
    rw [← hbound]
    rfl
  have hwalk : (s.walk (nesting (room + 2)) (.wildcard nestMore) node).state =
      (walkWithin (nesting (room + 2)) (room + 1) (nest (k + 1)) node s).state := by
    change (walkWithin (nesting (room + 2)) (room + 2) _ node s).state = _
    rw [walkWithin.eq_def]
    simp only [hvisit]
    rfl
  rw [hwalk, walkWithin_nest]
  exact has_register hk

/-- Expanding a class brings the next one. -/
theorem has_expand (hk : k + 1 < n) (htype : item.type = nest k)
    (hframe : item.frame = .ofType (nest k) (nestDeclaration (.wildcard nestMore))) :
    (s.expand (nesting n) item).2.Has (nest (k + 1)) := by
  have hd : item.type.baseName?.bind (nesting n).index.lookup =
      some (nestDeclaration (.wildcard nestMore)) := by
    rw [htype]
    exact lookup_nest n
  let start : Body := { visited := ["Nest"], state := { s with scope := [item.frame] } }
  let entered := start.setMember (some "next")
  have hmeaning : entered.state.scope.meaning "T" = collections k := by
    have hbinding : (Frame.ofType (nest k) (nestDeclaration (.wildcard nestMore))).binding? "T" =
        some (collections k) := by
      cases k <;> rfl
    change (Scope.setMember [item.frame] (some "next")).meaning "T" = collections k
    rw [Scope.meaning_setMember, hframe, Scope.meaning, hbinding]
    exact TypeExpr.substitute_of_plain (TypeExpr.plain_collections k)
  have hwalk := has_walk hk hmeaning .empty
  unfold expand
  simp only [hd]
  exact hwalk

/-- Whether what was taken from the queue has brought the class that comes next. -/
def Nested (n : Nat) (s : BuildState) : Prop :=
  Charted (nesting n) telling s ∧ ∃ items, InOrder items.length items s ∧
    ∀ i ∈ items, ∀ k, i.type = nest k → k + 1 < n → s.Has (nest (k + 1))

theorem coversIndex_nesting (n : Nat) : telling.CoversIndex (nesting n).index := by
  have hnames : ∀ m ∈ (nests (.wildcard nestMore)).usedNames [], PathName.Telling m := by
    decide +kernel
  exact Index.coversIndex_telling hnames

theorem Nested.step (hs : Nested n s) (hd : s.isDone = false) : Nested n (s.step (nesting n)) := by
  obtain ⟨hcharted, items, ho, hnext⟩ := hs
  obtain ⟨item, rest, hq⟩ := exists_queue hd
  obtain ⟨-, -, ⟨d, hdeclared, hframe⟩, -⟩ := hcharted.next hq
  refine ⟨hcharted.step (coversIndex_nesting n) hd, items ++ [item], ho.step hq, ?_⟩
  rw [List.forall_mem_append, List.forall_mem_singleton]
  constructor
  · exact fun i hi k htype hk => (hnext i hi k htype hk).course (course_step (nesting n) s)
  · intro k htype hk
    rw [htype] at hdeclared hframe
    obtain rfl := Option.some.inj ((lookup_nest n).symm.trans hdeclared)
    have hexpand := has_expand (s := s.opened item rest) hk htype hframe
    rw [step_of_cons hq, Has, closed, Registry.map_complete (f := Entry.signature) (fun _ _ => rfl)]
    exact hexpand

theorem nested_walk (n : Nat) :
    Nested n ((init (nesting n)).walk (nesting n) (nest 0) .empty).state := by
  have hg := grows_process (nesting n) (nest 0) .empty (init (nesting n))
  refine ⟨?_, [], (inOrder_init (nesting n)).grows hg, by simp⟩
  exact (charted_init (nesting n) telling).walk (coversIndex_nesting n) (TypeExpr.telling_nest 0)

/-- When nothing waits, every class has brought the next one. -/
theorem Nested.has_succ (hs : Nested n s) (hd : s.isDone = true) (h : s.Has (nest k))
    (hk : k + 1 < n) : s.Has (nest (k + 1)) := by
  obtain ⟨hcharted, items, ho, hnext⟩ := hs
  obtain ⟨e, he, hsignature⟩ := List.mem_map.mp h
  have hentry := hcharted.sound.entries e he
  have htype : e.type = nest k := TypeExpr.eq_of_signature_eq hentry.plain (TypeExpr.plain_nest k)
    (hcharted.covers _ (List.mem_map_of_mem he)) (TypeExpr.telling_nest k)
    (hentry.signature.symm.trans hsignature)
  have htypes := ho.types
  rw [queue_eq_nil_of_isDone hd, List.append_nil] at htypes
  have hitem : e.type ∈ items.map WorkItem.type := htypes ▸ List.mem_map_of_mem he
  obtain ⟨i, hi, hsame⟩ := List.mem_map.mp hitem
  exact hnext i hi k (hsame.trans htype) hk

theorem has_nest (n : Nat) :
    ∀ k < n, ((init (nesting n)).addRoots (nesting n) [nest 0]).2.Has (nest k) := by
  let s := ((init (nesting n)).walk (nesting n) (nest 0) .empty).state
  have hdrained : Nested n (s.drain (nesting n)) :=
    drain_keeps (fun _ hd hs => hs.step hd) (nested_walk n)
  change ∀ k < n, (s.drain (nesting n)).Has (nest k)
  intro k hk
  induction k with
  | zero =>
    obtain ⟨room, rfl⟩ := Nat.exists_eq_add_of_le' (show 1 ≤ n from hk)
    have hroot : s.Has (nest 0) := by
      change (walkWithin (nesting (room + 1)) (room + 1) (nest 0) .empty _).state.Has (nest 0)
      rw [walkWithin_nest]
      exact has_register hk
    exact hroot.course (course_drain _ s)
  | succ k ih => exact hdrained.has_succ (isDone_drain _ s) (ih (by omega)) hk

end BuildState

/-- Where the class is asked for in the bound of a wildcard, there is no bound: it is not compared with
its ancestors, and its definitions go on to the limit on nesting. -/
theorem Builder.not_exists_size_le_nests :
    ¬∃ bound, ∀ b : Builder, b.index = nests (.wildcard (some .nestMore)) →
      (b.registry [.nest 0]).size ≤ bound := by
  rintro ⟨bound, hbound⟩
  have hle := hbound (BuildState.nesting (bound + 1)) rfl
  have hnodup : ((List.range (bound + 1)).map (fun k => (TypeExpr.nest k).signature)).Nodup :=
    List.nodup_range.map (fun _ _ hjk => TypeExpr.signature_nest_injective hjk)
  have hsub : (List.range (bound + 1)).map (fun k => (TypeExpr.nest k).signature) ⊆
      ((BuildState.nesting (bound + 1)).registry [.nest 0]).entries.map Entry.signature := by
    intro signature hmem
    obtain ⟨k, hk, rfl⟩ := List.mem_map.mp hmem
    exact BuildState.has_nest (bound + 1) k (List.mem_range.mp hk)
  have hcount := hnodup.length_le_of_subset hsub
  rw [List.length_map, List.length_range, List.length_map] at hcount
  exact absurd (Nat.le_trans hcount hle) (by omega)

end SchemaGraph
