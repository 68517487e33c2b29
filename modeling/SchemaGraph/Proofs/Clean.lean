import SchemaGraph.Proofs.Course
import SchemaGraph.Proofs.Links
import SchemaGraph.Proofs.Signature

/-! Builds that meet no limit and no collision of names. In them every reference is named after the type
that it stands for, and a definition is found for every declared type that occurs. -/
namespace SchemaGraph

open TypeExpr (telling)

/-- Whether a diagnostic says that a type lost its definition, or the name that it asked for. -/
def DiagnosticCode.isLimit : DiagnosticCode → Bool
  | unknownType | unresolvedVariable => false
  | referenceNameCollision | definitionLimitReached | growingInstantiation
  | nestingLimitReached => true

namespace Diagnostics

/-- Whether no limit was met and no definition renamed. -/
def Clean (ds : Diagnostics) : Prop := ∀ d ∈ ds, d.code.isLimit = false

theorem Clean.mono {ds ds' : Diagnostics} (h : ds'.Clean) (hle : ds <+: ds') : ds.Clean :=
  fun d hd => h d (hle.subset hd)

/-- What is recorded stands there afterwards, if only under an older message. -/
theorem exists_record (ds : Diagnostics) (code : DiagnosticCode) (n m : String) :
    ∃ d ∈ ds.record code n m, d.code = code := by
  obtain ⟨d, hd, hcode, -⟩ := mem_record ds code n m
  exact ⟨d, hd, hcode⟩

theorem not_clean_record {ds : Diagnostics} {code : DiagnosticCode} (h : code.isLimit = true)
    (n m : String) : ¬(ds.record code n m).Clean := by
  intro hc
  obtain ⟨d, hd, rfl⟩ := exists_record ds code n m
  rw [hc d hd] at h
  cases h

end Diagnostics

/-- What the definition of a type is when no other stands in its way. -/
structure Entry.Faithful (e : Entry) : Prop where
  signature : e.signature = e.type.signature
  name : e.name = e.type.referenceName
  plain : e.type.Plain
  telling : telling.Covers e.type

namespace BuildState

/-- Whether the definitions so far are named after their types, which their signatures tell apart. -/
structure Faithful (b : Builder) (s : BuildState) : Prop where
  place : s.registry.place = b.options.place
  entries : ∀ e ∈ s.registry.entries, e.Faithful

/-- The schema of a reference to a type. -/
def link (b : Builder) (r : TypeExpr) : Schema :=
  match r.baseName?.bind b.index.lookup with
  | none => opaqueObject
  | some _ => .reference (b.options.place ++ r.referenceName)

/-- The types that a reference to a type needs definitions of. -/
def needs (b : Builder) (r : TypeExpr) : List TypeExpr :=
  match r.baseName?.bind b.index.lookup with
  | none => []
  | some _ => [r]

/-- Whether the second state has definitions of the types of the first, of some others, and of no
more. -/
def Adds (more : List TypeExpr) (s t : BuildState) : Prop :=
  ∀ ty, ty ∈ t.registry.types ↔ ty ∈ s.registry.types ∨ ty ∈ more

variable {b : Builder} {v : Vocabulary} {s t : BuildState} {ty r : TypeExpr} {d : Declaration}

theorem Adds.refl (s : BuildState) : Adds [] s s := fun ty => by simp

theorem Adds.trans {u : BuildState} {m m' : List TypeExpr} (hst : Adds m s t) (htu : Adds m' t u) :
    Adds (m ++ m') s u := by
  intro ty
  rw [htu ty, hst ty, List.mem_append, or_assoc]

theorem freeName_of_clean (h : s.registry.lookup r.signature = none)
    (hc : (s.define r d).2.diagnostics.Clean) :
    s.registry.freeName r.referenceName = r.referenceName := by
  obtain ⟨m, hm⟩ := define_diagnostics (d := d) h
  rw [hm] at hc
  split at hc
  · assumption
  · exact absurd hc (Diagnostics.not_clean_record rfl _ _)

theorem faithful_init (b : Builder) : Faithful b (init b) where
  place := rfl
  entries := by simp [init]

theorem Faithful.define (h : Faithful b s) (hd : Defines b s ty d)
    (ht : telling.Covers (s.resolved b ty))
    (hc : (s.define (s.resolved b ty) d).2.diagnostics.Clean) :
    Faithful b (s.define (s.resolved b ty) d).2 where
  place := by
    rw [define_registry hd.fresh]
    exact h.place
  entries := by
    rw [define_registry hd.fresh]
    simp only [List.mem_append, List.mem_singleton, or_imp, forall_and, forall_eq]
    exact ⟨h.entries, rfl, freeName_of_clean hd.fresh hc, plain_resolved b s ty, ht⟩

theorem Faithful.grows (h : Faithful b s) (hg : Grows b telling s t) (hc : t.diagnostics.Clean) :
    Faithful b t := by
  induction hg with
  | refl => exact h
  | note hg code n m ih => exact ⟨(ih (hc.mono (Diagnostics.keeps_record ..))).1,
      (ih (hc.mono (Diagnostics.keeps_record ..))).2⟩
  | enter _ _ ih => exact ⟨(ih hc).1, (ih hc).2⟩
  | define hg hv hd ih =>
    have hmono := (Grows.define (Grows.refl (b := b)) hv hd).diagnostics
    exact (ih (hc.mono hmono)).define hd hv hc

/-- Behind the signature of a type stands the definition of that type. -/
theorem Faithful.get?_of_lookup (h : Faithful b s) (hr : r.Plain) (ht : telling.Covers r) {id : Nat}
    (hl : s.registry.lookup r.signature = some id) :
    ∃ e, s.registry.get? id = some e ∧ e.Faithful ∧ e.type = r := by
  obtain ⟨e, he, hsame⟩ := Registry.exists_of_lookup hl
  have hf := h.entries e (Registry.mem_of_get? he)
  refine ⟨e, he, hf, TypeExpr.eq_of_signature_eq hf.plain hr hf.telling ht ?_⟩
  rw [← hf.signature, hsame]

theorem refusal?_isLimit {why : Refusal} (h : s.refusal? b ty r = some why) :
    why.code.isLimit = true := by
  unfold refusal? at h
  split at h
  · cases h
    rfl
  · split at h
    · cases h
      rfl
    · split at h
      · split at h
        · cases h
          rfl
        · cases h
      · cases h

/-- Where no limit is met, a reference depends on its type alone, and its definition is there. -/
theorem register_of_clean (hs : Faithful b s) (ht : telling.Covers (s.resolved b ty))
    (hc : (s.register b ty).2.diagnostics.Clean) :
    (s.register b ty).1 = link b (s.resolved b ty) ∧
      Adds (needs b (s.resolved b ty)) s (s.register b ty).2 := by
  have hplain := plain_resolved b s ty
  unfold link needs
  cases hd : (s.resolved b ty).baseName?.bind b.index.lookup with
  | none =>
    rw [register_unknown hd]
    exact ⟨rfl, .refl s⟩
  | some d =>
    cases hl : s.registry.lookup (s.resolved b ty).signature with
    | some id =>
      obtain ⟨e, he, hf, htype⟩ := hs.get?_of_lookup hplain ht hl
      have hmem : s.resolved b ty ∈ s.registry.types :=
        htype ▸ List.mem_map_of_mem (Registry.mem_of_get? he)
      rw [register_known hd hl]
      refine ⟨?_, fun u => ?_⟩
      · rw [Registry.reference_of_get? he, hs.place, hf.name, htype]
      · simp only [List.mem_singleton, iff_self_or]
        rintro rfl
        exact hmem
    | none =>
      cases hr : s.refusal? b ty (s.resolved b ty) with
      | some why =>
        rw [register_refused hd hl hr] at hc
        exact absurd hc (Diagnostics.not_clean_record (refusal?_isLimit hr) _ _)
      | none =>
        rw [register_defines ⟨hd, hl, hr⟩] at hc ⊢
        have hname := freeName_of_clean hl hc
        refine ⟨?_, fun u => ?_⟩
        · rw [define_schema hl, Registry.reference_of_get? (get?_define hl), define_registry hl]
          simp only [newEntry, hs.place, hname]
        · rw [define_registry hl]
          simp [Registry.types, newEntry]

end BuildState
end SchemaGraph
