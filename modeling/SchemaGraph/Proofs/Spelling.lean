import SchemaGraph.Proofs.Index
import SchemaGraph.Proofs.Outline
import SchemaGraph.Proofs.References

/-! Spellings. A class may be named by any path that leads to its declaration, at the top of a type and in
its arguments, and has one definition under all of them. -/
namespace SchemaGraph

/-- Whether two names are one, or lead to one declaration. -/
def Index.Spells (i : Index) (n m : String) : Prop :=
  n = m ∨ ∃ d, i.lookup n = some d ∧ i.lookup m = some d

instance (i : Index) (n m : String) : Decidable (i.Spells n m) :=
  decidable_of_iff (n = m ∨ ((i.lookup n).isSome = true ∧ i.lookup n = i.lookup m)) (by
    refine or_congr_right ⟨fun ⟨hsome, heq⟩ => ?_, fun ⟨d, hn, hm⟩ => ?_⟩
    · obtain ⟨d, hd⟩ := Option.isSome_iff_exists.mp hsome
      exact ⟨d, hd, heq ▸ hd⟩
    · exact ⟨by rw [hn]; rfl, hn.trans hm.symm⟩)

theorem Index.Spells.declaredName {i : Index} {n m : String} (h : i.Spells n m) :
    i.declaredName n = i.declaredName m := by
  rcases h with rfl | ⟨d, hn, hm⟩
  · rfl
  · rw [declaredName_of_lookup hn, declaredName_of_lookup hm]

namespace TypeExpr

/-- Whether two types have one shape, and at every name in it two spellings of one. -/
inductive Respells (i : Index) : TypeExpr → TypeExpr → Prop
  | named {n m : String} {as bs : List TypeExpr} (hn : i.Spells n m)
    (hargs : List.Forall₂ (Respells i) as bs) : Respells i (named n as) (named m bs)
  | array {t u : TypeExpr} (d : Nat) (h : Respells i t u) : Respells i (array t d) (array u d)
  | var (n : String) : Respells i (var n) (var n)
  | unbounded : Respells i (wildcard none) (wildcard none)
  | bounded {t u : TypeExpr} (h : Respells i t u) :
    Respells i (wildcard (some t)) (wildcard (some u))
  | any : Respells i any any

variable {i : Index} {t u : TypeExpr}

theorem Respells.refl (i : Index) (t : TypeExpr) : Respells i t t := by
  induction t using inductOn with
  | named n as ih => exact .named (.inl rfl) (List.forall₂_same.mpr ih)
  | array c d ih => exact .array d ih
  | var n => exact .var n
  | wildcard b ih =>
    cases b with
    | none => exact .unbounded
    | some t => exact .bounded (ih t rfl)
  | any => exact .any

/-- Arrays collapse under declared names as they do before. -/
theorem canonicalize_arrayOf (i : Index) (t : TypeExpr) (d : Nat) :
    (t.arrayOf d).canonicalize i = (t.canonicalize i).arrayOf d := by
  by_cases hd : d = 0
  · subst hd
    rfl
  · cases t with
    | array c n =>
      have hcollapse : (array c n).arrayOf d = array c (n + d) := if_neg hd
      rw [hcollapse, canonicalize, canonicalize, arrayOf_arrayOf]
    | _ => simp [arrayOf, hd, canonicalize]

theorem map_eq_map_of_forall₂ {α β γ : Type} {R : α → β → Prop} {f : α → γ} {g : β → γ}
    {as : List α} {bs : List β} (h : List.Forall₂ R as bs)
    (hfg : ∀ a ∈ as, ∀ b, R a b → f a = g b) : as.map f = bs.map g := by
  induction h with
  | nil => rfl
  | cons hab _ ih =>
    rw [List.forall_mem_cons] at hfg
    rw [List.map_cons, List.map_cons, hfg.1 _ hab, ih hfg.2]

/-- Whatever a type is resolved to, no spelling is left under declared names. -/
theorem Respells.canonicalize_resolveDeep (h : Respells i t u) (s : Scope) :
    (s.resolveDeep t).canonicalize i = (s.resolveDeep u).canonicalize i := by
  induction t using inductOn generalizing u with
  | named n as ih =>
    cases h with
    | @named _ m _ bs hn hargs =>
      have hmap := map_eq_map_of_forall₂ hargs (fun a ha _ hab => ih a ha hab)
      rw [Scope.resolveDeep_named, Scope.resolveDeep_named, canonicalize_named, canonicalize_named,
        hn.declaredName, List.map_map, List.map_map]
      exact congrArg _ hmap
  | array c d ih =>
    cases h with
    | array _ h =>
      rw [Scope.resolveDeep_array, Scope.resolveDeep_array, canonicalize_arrayOf,
        canonicalize_arrayOf, ih h]
  | var n =>
    cases h with
    | var => rfl
  | wildcard b ih =>
    cases h with
    | unbounded => rfl
    | @bounded t u h => exact (ih t rfl h :)
  | any =>
    cases h with
    | any => rfl

end TypeExpr

/-! Definitions stay where they are found. -/

theorem Registry.lookup_of_prefix {r r' : Registry} {signature : String} {id : Nat}
    (h : r.outline <+: r'.outline) (hid : r.lookup signature = some id) :
    r'.lookup signature = some id := by
  obtain ⟨more, hmore⟩ := h
  have hfirst : r.outline.findIdx? (·.signature == signature) = some id :=
    (lookup_outlined r signature).trans hid
  rw [← lookup_outlined, lookup, outlined, ← hmore, List.findIdx?_append, hfirst]
  rfl

theorem Registry.reference_of_prefix {r r' : Registry} {id : Nat} (hplace : r'.place = r.place)
    (h : r.outline <+: r'.outline) (hid : id < r.size) : r'.reference id = r.reference id := by
  have hsame : r'.outline[id]? = r.outline[id]? := by
    obtain ⟨more, hmore⟩ := h
    rw [← hmore, List.getElem?_append_left (by rwa [length_outline])]
  have hname : ∀ r : Registry, (r.get? id).map Entry.name = r.outline[id]?.map Entry.name := by
    intro r
    rw [outline_getElem?, Option.map_map]
    rfl
  rw [reference, reference, hname, hname, hplace, hsame]

namespace BuildState

variable {b : Builder} {s s' : BuildState} {t u r : TypeExpr} {schema : Schema} {p : String}

/-- Whether a declared type has a definition, to which a schema is the reference. -/
structure Found (b : Builder) (s : BuildState) (r : TypeExpr) (schema : Schema) : Prop where
  declared : ∃ d, r.baseName?.bind b.index.lookup = some d
  known : ∃ id, s.registry.lookup r.signature = some id ∧ s.registry.reference id = schema

theorem Found.register (h : Found b s (s.resolved b t) schema) : s.register b t = (schema, s) := by
  obtain ⟨⟨d, hd⟩, id, hid, hschema⟩ := h
  rw [register_known hd hid, hschema]

theorem Found.course (h : Found b s r schema) (hc : Course b s s') : Found b s' r schema := by
  obtain ⟨hd, id, hid, hschema⟩ := h
  refine ⟨hd, id, Registry.lookup_of_prefix hc.outline hid, ?_⟩
  rw [Registry.reference_of_prefix hc.place hc.outline (List.findIdx?_eq_some_iff_getElem.mp hid).1,
    hschema]

theorem lookup_define (h : s.registry.lookup r.signature = none) (d : Declaration) :
    (s.define r d).2.registry.lookup r.signature = some s.registry.size := by
  have hnone : s.registry.entries.findIdx? (·.signature == r.signature) = none := h
  rw [define_registry h, Registry.lookup, List.findIdx?_append, hnone]
  simp [newEntry, Registry.size]

theorem found_register (hp : (s.register b t).1.ref = some p) :
    Found b (s.register b t).2 (s.resolved b t) (s.register b t).1 := by
  cases hd : (s.resolved b t).baseName?.bind b.index.lookup with
  | none =>
    rw [register_unknown hd] at hp
    cases hp
  | some d =>
    cases hid : s.registry.lookup (s.resolved b t).signature with
    | some id =>
      rw [register_known hd hid]
      exact ⟨⟨d, hd⟩, id, hid, rfl⟩
    | none =>
      cases hwhy : s.refusal? b t (s.resolved b t) with
      | some why =>
        rw [register_refused hd hid hwhy] at hp
        cases hp
      | none =>
        rw [register_defines ⟨hd, hid, hwhy⟩]
        exact ⟨⟨d, hd⟩, s.registry.size, lookup_define hid d, (define_schema hid).symm⟩

/-- Spellings are independent. When a type has been answered by a reference, registering another spelling
of it, in its place or at any later time at which the type means the same, gives this reference and
changes nothing. -/
theorem register_respelled (h : t.Respells b.index u) (hp : (s.register b t).1.ref = some p) :
    (s.register b t).2.register b u = s.register b t ∧
      ∀ s', Course b (s.register b t).2 s' → s'.scope.resolveDeep t = s.scope.resolveDeep t →
        s'.register b u = ((s.register b t).1, s') := by
  have hlater : ∀ s', Course b (s.register b t).2 s' →
      s'.scope.resolveDeep t = s.scope.resolveDeep t →
      s'.register b u = ((s.register b t).1, s') := by
    intro s' hc hmeans
    have hsame : s'.resolved b u = s.resolved b t := by
      rw [resolved, resolved, ← h.canonicalize_resolveDeep, hmeans]
    exact Found.register (hsame ▸ (found_register hp).course hc)
  refine ⟨hlater _ .refl ?_, hlater⟩
  rw [register_scope]

/-- Users and pages of items. -/
def pagedUsers : Index :=
  (Index.standard.insert { name := "models::User" }).insert
    { name := "models::Page", params := [{ name := "T" }] }

/-- A page of lists of users, under a variable, an array and a wildcard. -/
theorem register_respelled_users :
    let b : Builder := { index := pagedUsers }
    let s : BuildState :=
      { init b with scope := [{ bindings := [("K", .array (.named "User" []) 1)] }] }
    let page (name user : String) : TypeExpr :=
      .named name [.wildcard (some (.array (.named user [.var "K", .named "Lost" []]) 2))]
    let t := page "crate::models::Page" "models::User"
    let u := page "Page" "crate::models::User"
    t ≠ u ∧ t.Respells b.index u ∧
      (s.register b t).1.ref = some "#/components/schemas/PageUserUserArrayLostArray" ∧
      (s.register b t).2.register b u = s.register b t := by
  intro b s page t u
  have hpage : b.index.Spells "crate::models::Page" "Page" := by decide +kernel
  have huser : b.index.Spells "models::User" "crate::models::User" := by decide +kernel
  have hargs := List.forall₂_same.mpr
    (fun a (_ : a ∈ [.var "K", .named "Lost" []]) => TypeExpr.Respells.refl b.index a)
  have h : t.Respells b.index u :=
    .named hpage (.cons (.bounded (.array 2 (.named huser hargs))) .nil)
  have hp : (s.register b t).1.ref = some "#/components/schemas/PageUserUserArrayLostArray" := by
    decide +kernel
  exact ⟨by decide +kernel, h, hp, (register_respelled h hp).1⟩

end BuildState
end SchemaGraph
