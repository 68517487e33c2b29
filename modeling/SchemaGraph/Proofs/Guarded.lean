import SchemaGraph.Proofs.Depth
import SchemaGraph.Proofs.Discovery

/-! Where growth is looked for, and where it is not. An occurrence with variables is compared with its
ancestors. A bound of a wildcard and an argument of a supertype are resolved before they are asked for, so
that no variable is left in them: an index is guarded when it builds no declared type from variables there. -/
namespace SchemaGraph

namespace TypeExpr

/-- Whether a type has a declaration. -/
def isDeclared (i : Index) (t : TypeExpr) : Bool := (t.baseName?.bind i.lookup).isSome

/-- The bounds of the wildcards in a type. -/
def bounds (t : TypeExpr) : List TypeExpr :=
  t.parts.filterMap (fun p =>
    match p with
    | wildcard u => u
    | _ => none)

/-- Whether a type builds no declared type from variables. -/
def Guarded (i : Index) (t : TypeExpr) : Prop :=
  ∀ p ∈ t.parts, p.isDeclared i = true → p.hasVar = false

/-- Whether the declared types in a type are at most so deep. -/
def Shallow (i : Index) (m : Nat) (t : TypeExpr) : Prop :=
  ∀ p ∈ t.parts, p.isDeclared i = true → p.depth ≤ m

end TypeExpr

/-- Whether a declaration builds no declared types from variables in the bounds of wildcards, in the
arguments of supertypes and in the bounds of parameters. -/
structure Declaration.Guarded (i : Index) (d : Declaration) : Prop where
  member : ∀ x ∈ d.members, ∀ u ∈ x.type.bounds, u.Guarded i
  supertype : ∀ t ∈ d.supertypes, ∀ p ∈ t.parts, ∀ a ∈ p.args, a.Guarded i
  param : ∀ p ∈ d.params, ∀ t ∈ p.bound, t.Guarded i

/-- Whether all declarations are guarded. -/
def Index.Guarded (i : Index) : Prop := ∀ e ∈ i.declarations, e.2.Guarded i

/-- Whether what the types of an index are written with is at most so deep. -/
def Index.DepthLe (i : Index) (h : Nat) : Prop := ∀ t ∈ i.types, t.ground.depth ≤ h

namespace TypeExpr

variable {i : Index} {t p : TypeExpr} {σ : String → TypeExpr} {m : Nat} {d : Declaration}

instance (i : Index) (t : TypeExpr) : Decidable (t.Guarded i) :=
  inferInstanceAs (Decidable (∀ p ∈ t.parts, p.isDeclared i = true → p.hasVar = false))

instance (i : Index) (d : Declaration) : Decidable (d.Guarded i) :=
  decidable_of_iff ((∀ x ∈ d.members, ∀ u ∈ x.type.bounds, u.Guarded i) ∧
      (∀ t ∈ d.supertypes, ∀ p ∈ t.parts, ∀ a ∈ p.args, a.Guarded i) ∧
        ∀ p ∈ d.params, ∀ t ∈ p.bound, t.Guarded i)
    ⟨fun ⟨h, h', h''⟩ => ⟨h, h', h''⟩, fun h => ⟨h.member, h.supertype, h.param⟩⟩

instance (i : Index) : Decidable i.Guarded :=
  inferInstanceAs (Decidable (∀ e ∈ i.declarations, e.2.Guarded i))

theorem shallow_of_depth_le (ht : t.Plain) (h : t.depth ≤ m) : t.Shallow i m :=
  fun _ hp _ => Nat.le_trans (depth_le_of_mem_parts ht hp) h

theorem shallow_any : any.Shallow i m := shallow_of_depth_le plain_any (Nat.zero_le _)

theorem Shallow.mem_parts (h : t.Shallow i m) (hp : p ∈ t.parts) : p.Shallow i m :=
  fun q hq => h q (mem_parts_trans hp hq)

/-- Among shallow meanings, substitution makes nothing deeper than a guarded type itself. -/
theorem Guarded.shallow_substitute (h : t.Guarded i) (hσ : ∀ k, (σ k).Shallow i m)
    (hm : t.ground.depth ≤ m) : (t.substitute σ).Shallow i m := by
  intro p hp hdeclared
  cases p with
  | named n as =>
    rcases exists_of_mem_parts_substitute hp with ⟨k, hk⟩ | ⟨bs, hbs, heq⟩
    · exact hσ k _ hk hdeclared
    · have hvar := h _ hbs hdeclared
      rw [heq, substitute_of_not_hasVar hvar]
      exact Nat.le_trans (depth_ground_le_of_mem_parts hbs) hm
  | _ => cases hdeclared

/-- What has a declaration under its declared name has one. -/
theorem isDeclared_of_canonicalize (ht : t.Plain)
    (h : (t.canonicalize i).baseName?.bind i.lookup = some d) : t.isDeclared i = true := by
  cases t with
  | named n as =>
    simp only [canonicalize, baseName?, Option.bind_some] at h
    cases hl : i.lookup n with
    | none =>
      rw [hl, Option.map_none, Option.getD_none, hl] at h
      cases h
    | some d' => simp [isDeclared, baseName?, hl]
  | array c d =>
    rw [canonicalize_array ht] at h
    cases h
  | _ => cases h

/-- The arguments of what substitution makes. -/
theorem exists_of_mem_args_substitute {a : TypeExpr} (h : a ∈ (t.substitute σ).args) :
    (∃ k, a ∈ (σ k).args) ∨ ∃ p ∈ t.parts, ∃ c ∈ p.args, a = c.substitute σ := by
  induction t using inductOn with
  | named n as =>
    rw [substitute, substituteArgs_eq_map, args] at h
    obtain ⟨c, hc, rfl⟩ := List.mem_map.mp h
    exact .inr ⟨_, mem_parts_self _, c, hc, rfl⟩
  | array c d ih =>
    have hc : a ∈ (c.substitute σ).args := by
      rw [substitute] at h
      unfold arrayOf at h
      split at h
      · exact h
      · split at h <;> cases h
    rcases ih hc with hmeaning | ⟨p, hp, hargs⟩
    · exact .inl hmeaning
    · exact .inr ⟨p, List.mem_cons_of_mem _ hp, hargs⟩
  | var k => exact .inl ⟨k, h⟩
  | wildcard u ih =>
    cases u with
    | none => cases h
    | some u =>
      rcases ih u rfl h with hmeaning | ⟨p, hp, hargs⟩
      · exact .inl hmeaning
      · exact .inr ⟨p, List.mem_cons_of_mem _ hp, hargs⟩
  | any => cases h

end TypeExpr

namespace Scope

variable {i : Index} {m k j : Nat} {s : Scope} {t : TypeExpr}

/-- Whether the meanings of variables are at most `k` deep, and the declared types in them at most `m`. -/
structure Tame (i : Index) (m k : Nat) (s : Scope) : Prop where
  shallow : ∀ n, (s.meaning n).Shallow i m
  depth : ∀ n, (s.meaning n).depth ≤ k

theorem meaning_setMember (s : Scope) (member : Option String) :
    (s.setMember member).meaning = s.meaning := by
  cases s <;> rfl

theorem Tame.setMember (h : s.Tame i m k) (member : Option String) :
    (s.setMember member).Tame i m k := by
  constructor
  · rw [meaning_setMember]
    exact h.shallow
  · rw [meaning_setMember]
    exact h.depth

theorem Tame.mono (h : s.Tame i m k) (hk : k ≤ j) : s.Tame i m j :=
  ⟨h.shallow, fun n => Nat.le_trans (h.depth n) hk⟩

theorem tame_nil (i : Index) (m k : Nat) : Tame i m k [] :=
  ⟨fun _ => TypeExpr.shallow_any, fun _ => Nat.zero_le _⟩

theorem Tame.cons {f : Frame} (h : s.Tame i m k)
    (hf : ∀ e ∈ f.bindings, (s.resolveDeep e.2).Shallow i m ∧ (s.resolveDeep e.2).depth ≤ k) :
    Tame i m k (f :: s) := by
  have hmeaning : ∀ n, (Scope.meaning (f :: s) n).Shallow i m ∧
      (Scope.meaning (f :: s) n).depth ≤ k := by
    intro n
    unfold meaning
    split
    · rename_i bound hb
      exact hf _ (Assoc.mem_of_lookup hb)
    · exact ⟨h.shallow n, h.depth n⟩
  exact ⟨fun n => (hmeaning n).1, fun n => (hmeaning n).2⟩

variable {h : Nat} {d parent : Declaration}

/-- The scope of a definition is as deep as its type, or as what is written. -/
theorem tame_ofType {o : TypeExpr} (ho : o.Plain) (hd : ∀ t ∈ d.types, t.ground.depth ≤ m)
    (hm : o.depth ≤ m) : Tame i m m [.ofType o d] := by
  refine (tame_nil i m m).cons (Frame.forall_bindings
    (P := fun u => (resolveDeep [] u).Shallow i m ∧ (resolveDeep [] u).depth ≤ m)
    ⟨TypeExpr.shallow_any, Nat.zero_le _⟩ (fun a ha => ?_) (fun p hp t ht => ?_))
  · have hpart := TypeExpr.mem_parts_of_mem_args ha
    have hle := Nat.le_trans (TypeExpr.depth_le_of_mem_parts ho hpart) hm
    rw [resolveDeep, TypeExpr.substitute_of_plain (ho.mem_parts hpart)]
    exact ⟨TypeExpr.shallow_of_depth_le (ho.mem_parts hpart) hle, hle⟩
  · have hmem : t ∈ d.types := List.mem_append_right _ (List.mem_filterMap.mpr ⟨p, hp, ht⟩)
    exact ⟨TypeExpr.shallow_of_depth_le (TypeExpr.plain_ground t) (hd t hmem), hd t hmem⟩

/-- A guarded supertype makes the scope deeper, but not the declared types in it. -/
theorem Tame.enter (hs : s.Tame i m k) (hd : d.Guarded i) (hparent : parent.Guarded i)
    (hdepth : ∀ u ∈ d.types ++ parent.types, u.ground.depth ≤ h) (hm : h ≤ m)
    (ht : t ∈ d.supertypes) : Tame i m (h + k) (.ofType (s.resolveDeep t) parent :: s) := by
  have hresolve : ∀ u, u.Guarded i → u.ground.depth ≤ h →
      (s.resolveDeep u).Shallow i m ∧ (s.resolveDeep u).depth ≤ h + k := by
    intro u hu hle
    have hsub := TypeExpr.depth_substitute_le hs.depth u
    exact ⟨hu.shallow_substitute hs.shallow (Nat.le_trans hle hm),
      Nat.le_trans hsub (Nat.add_le_add_right hle k)⟩
  refine (hs.mono (Nat.le_add_left ..)).cons (Frame.forall_bindings
    (P := fun u => (s.resolveDeep u).Shallow i m ∧ (s.resolveDeep u).depth ≤ h + k)
    ⟨TypeExpr.shallow_any, Nat.zero_le _⟩ (fun a ha => ?_) (fun p hp u hu => ?_))
  · -- An argument of the resolved supertype stands in a variable's meaning, or was written there.
    have hplain : a.Plain :=
      (TypeExpr.plain_resolveDeep s t).mem_parts (TypeExpr.mem_parts_of_mem_args ha)
    rw [resolveDeep, TypeExpr.substitute_of_plain hplain]
    rcases TypeExpr.exists_of_mem_args_substitute ha with ⟨n, hn⟩ | ⟨p, hp, c, hc, rfl⟩
    · have hpart := TypeExpr.mem_parts_of_mem_args hn
      have hle := TypeExpr.depth_le_of_mem_parts (TypeExpr.plain_meaning s n) hpart
      exact ⟨(hs.shallow n).mem_parts hpart,
        Nat.le_trans (Nat.le_trans hle (hs.depth n)) (Nat.le_add_left ..)⟩
    · have hmem : t ∈ d.types ++ parent.types := by simp [Declaration.types, ht]
      have hpart := TypeExpr.mem_parts_trans hp (TypeExpr.mem_parts_of_mem_args hc)
      exact hresolve c (hd.supertype t ht p hp c hc)
        (Nat.le_trans (TypeExpr.depth_ground_le_of_mem_parts hpart) (hdepth t hmem))
  · have hmem : u ∈ d.types ++ parent.types := List.mem_append_right _
      (List.mem_append_right _ (List.mem_filterMap.mpr ⟨p, hp, hu⟩))
    exact hresolve u (hparent.param p hp u hu) (hdepth u hmem)

end Scope

/-! What a body asks for. -/

/-- Whether an occurrence stands in a tame scope, and is written in a member or settled. -/
def Tracked (i : Index) (m k : Nat) (s : Scope) (t : TypeExpr) : Prop :=
  s.Tame i m k ∧
    ((∃ e ∈ i.declarations, ∃ x ∈ e.2.members, t ∈ x.type.parts) ∨ t.Plain ∧ t.Shallow i m)

section

variable {b : Builder} {i : Index} {h m k : Nat} {d : Declaration} {x : Member} {t : TypeExpr}

theorem Index.DepthLe.of_mem {e : String × Declaration} (hh : i.DepthLe h) (he : e ∈ i.declarations)
    (ht : t ∈ e.2.types) : t.ground.depth ≤ h :=
  hh t (List.mem_flatMap.mpr ⟨e, he, ht⟩)

theorem Index.DepthLe.of_part {e : String × Declaration} (hh : i.DepthLe h)
    (he : e ∈ i.declarations) (hx : x ∈ e.2.members) (ht : t ∈ x.type.parts) :
    t.ground.depth ≤ h := by
  have hmem : x.type ∈ e.2.types := by
    simp only [Declaration.types, List.append_assoc]
    exact List.mem_append_left _ (List.mem_map_of_mem hx)
  exact Nat.le_trans (TypeExpr.depth_ground_le_of_mem_parts ht) (hh.of_mem he hmem)

theorem Tracked.part {s : Scope} {p : TypeExpr} (ht : Tracked i m k s t) (hp : p ∈ t.parts) :
    Tracked i m k s p := by
  obtain ⟨hs, ⟨e, he, x, hx, hmem⟩ | ⟨hplain, hshallow⟩⟩ := ht
  · exact ⟨hs, .inl ⟨e, he, x, hx, TypeExpr.mem_parts_trans hmem hp⟩⟩
  · exact ⟨hs, .inr ⟨hplain.mem_parts hp, hshallow.mem_parts hp⟩⟩

theorem inherited_tracked (hi : i.Guarded) (hh : i.DepthLe h) (hm : h ≤ m) :
    Inherited (Tracked i m k) where
  argument s n as ht a ha := ht.part (TypeExpr.mem_parts_of_mem_args ha)
  component s c d ht := ht.part (List.mem_cons_of_mem _ (TypeExpr.mem_parts_self c))
  meaning s n := by
    rintro ⟨hs, -⟩
    exact ⟨hs, .inr ⟨TypeExpr.plain_meaning s n, hs.shallow n⟩⟩
  bound s u := by
    rintro ⟨hs, ht⟩
    refine ⟨hs, .inr ⟨TypeExpr.plain_resolveDeep s (.wildcard u), ?_⟩⟩
    cases u with
    | none => exact TypeExpr.shallow_any
    | some u =>
      rcases ht with ⟨e, he, x, hx, hmem⟩ | ⟨hp, -⟩
      · have hu : u ∈ x.type.bounds := List.mem_filterMap.mpr ⟨_, hmem, rfl⟩
        have hpart : u ∈ (TypeExpr.wildcard (some u)).parts :=
          List.mem_cons_of_mem _ (TypeExpr.mem_parts_self u)
        have hle := hh.of_part he hx (TypeExpr.mem_parts_trans hmem hpart)
        exact ((hi e he).member x hx u hu).shallow_substitute hs.shallow (Nat.le_trans hle hm)
      · exact absurd hp (TypeExpr.not_plain_wildcard _)

theorem descends_tracked (hi : b.index.Guarded) (hh : b.index.DepthLe h) (hm : h ≤ m) :
    Descends b (Tracked b.index m k) (fun fuel s d =>
      (∃ j, s.Tame b.index m j ∧ j + fuel * h ≤ k) ∧ ∃ n, (n, d) ∈ b.index.declarations) where
  member fuel s d := by
    rintro ⟨⟨j, hs, hj⟩, n, hd⟩ x hx name
    refine ⟨(hs.setMember name).mono (by omega), .inl ⟨(n, d), hd, x, hx, ?_⟩⟩
    exact TypeExpr.mem_parts_self _
  supertype fuel s d := by
    rintro ⟨⟨j, hs, hj⟩, n, hd⟩ t ht parent hparent
    obtain ⟨key, -, hl⟩ := Option.bind_eq_some_iff.mp hparent
    obtain ⟨n', hp⟩ := Index.mem_of_lookup hl
    have hdepth : ∀ u ∈ d.types ++ parent.types, u.ground.depth ≤ h := by
      intro u hu
      rcases List.mem_append.mp hu with hu | hu
      · exact hh.of_mem hd hu
      · exact hh.of_mem hp hu
    rw [Nat.add_mul, Nat.one_mul] at hj
    exact ⟨⟨h + j, hs.enter (hi _ hd) (hi _ hp) hdepth hm ht, by omega⟩, n', hp⟩

/-- What gets a definition is not deep, or was compared with its ancestors. -/
theorem Tracked.depth_resolved {s : BuildState} {ty : TypeExpr} (ht : Tracked b.index m k s.scope ty)
    (hh : b.index.DepthLe h) (hm : h ≤ m)
    (hd : (s.resolved b ty).baseName?.bind b.index.lookup = some d) :
    (s.resolved b ty).depth ≤ m ∨ ty.hasVar = true ∧ (s.resolved b ty).depth ≤ h + k := by
  have hdepth : (s.resolved b ty).depth = (s.scope.resolveDeep ty).depth :=
    TypeExpr.depth_canonicalize ..
  rw [hdepth]
  obtain ⟨hs, ⟨e, he, x, hx, hmem⟩ | ⟨hp, hshallow⟩⟩ := ht
  · -- Only with variables it can be deeper than it is written.
    have hle := hh.of_part he hx hmem
    cases hvar : ty.hasVar with
    | false =>
      left
      rw [Scope.resolveDeep, TypeExpr.substitute_of_not_hasVar hvar]
      exact Nat.le_trans hle hm
    | true =>
      right
      have hsub := TypeExpr.depth_substitute_le hs.depth ty
      exact ⟨rfl, Nat.le_trans hsub (Nat.add_le_add_right hle k)⟩
  · left
    have hself : s.scope.resolveDeep ty = ty := TypeExpr.substitute_of_plain hp
    rw [BuildState.resolved, hself] at hd
    rw [hself]
    exact hshallow ty (TypeExpr.mem_parts_self ty) (TypeExpr.isDeclared_of_canonicalize hp hd)

end

end SchemaGraph
