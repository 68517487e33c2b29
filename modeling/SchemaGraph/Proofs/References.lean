import Mathlib.Data.List.Nodup
import SchemaGraph.Proofs.Clean

/-! Which occurrences of types lead to one definition. Definitions are found by their signatures, and a
signature says which type it is of, but for a class called `any`. -/
namespace SchemaGraph

open TypeExpr (legible)

/-- Whether the definition of a signature has a pointer. -/
def Registry.Points (r : Registry) (signature pointer : String) : Prop :=
  ∃ e ∈ r.outline, e.signature = signature ∧ r.place ++ e.name = pointer

/-- Pointers tell signatures apart. -/
theorem Registry.Distinct.eq_iff {r : Registry} (h : r.Distinct) {n n' p p' : String}
    (hp : r.Points n p) (hp' : r.Points n' p') : p = p' ↔ n = n' := by
  have hnames : (r.outline.map Entry.name).Nodup := by
    rw [Registry.outline, List.map_map]
    exact h.names
  have hsignatures : (r.outline.map Entry.signature).Nodup := by
    rw [Registry.outline, List.map_map]
    exact h.signatures
  obtain ⟨e, he, rfl, rfl⟩ := hp
  obtain ⟨e', he', rfl, rfl⟩ := hp'
  rw [String.append_right_inj]
  constructor
  · intro hname
    rw [List.inj_on_of_nodup_map hnames he he' hname]
  · intro hsignature
    rw [List.inj_on_of_nodup_map hsignatures he he' hsignature]

namespace BuildState

variable {b : Builder} {v : Vocabulary} {s t s' : BuildState} {ty ty' : TypeExpr} {n p p' : String}

theorem Grows.distinct (hg : Grows b v s t) (h : s.registry.Distinct) : t.registry.Distinct := by
  induction hg with
  | refl => exact h
  | note _ _ _ _ ih => exact ih
  | enter _ _ ih => exact ih
  | define _ _ hd ih => exact distinct_define ih hd.fresh

namespace Course

theorem distinct (hc : Course b s t) (h : s.registry.Distinct) : t.registry.Distinct := by
  induction hc with
  | refl => exact h
  | grows _ hg ih => exact hg.distinct ih
  | opened _ _ _ ih => exact ih
  | closed _ _ _ _ ih => exact ih.complete ..

theorem place (hc : Course b s t) : t.registry.place = s.registry.place := by
  induction hc with
  | refl => rfl
  | grows _ hg ih => exact hg.place.trans ih
  | opened _ _ _ ih => exact ih
  | closed _ _ _ _ ih => exact ih

theorem points (hc : Course b s t) (h : s.registry.Points n p) : t.registry.Points n p := by
  obtain ⟨e, he, hsignature, hpointer⟩ := h
  exact ⟨e, hc.outline.subset he, hsignature, hc.place ▸ hpointer⟩

end Course

theorem points_of_get? {id : Nat} {e : Entry} (h : s.registry.get? id = some e)
    (hp : (s.registry.reference id).ref = some p) : s.registry.Points e.signature p := by
  rw [Registry.reference_of_get? h] at hp
  exact ⟨e.outline, List.mem_map_of_mem (Registry.mem_of_get? h), rfl, Option.some.inj hp⟩

/-- An occurrence that is answered by a reference leads to the definition of its signature. -/
theorem points_register (h : (s.register b ty).1.ref = some p) :
    (s.register b ty).2.registry.Points (s.resolved b ty).signature p := by
  generalize hr : s.register b ty = r at h
  cases hr ▸ registered b ty s with
  | refused r why => cases h
  | known id hid =>
    obtain ⟨e, he, hsignature⟩ := Registry.exists_of_lookup hid
    exact hsignature ▸ points_of_get? he h
  | defined d hd =>
    rw [define_schema hd.fresh] at h
    exact points_of_get? (get?_define hd.fresh) h

/-- Two occurrences in a build are answered by the same reference when their types are the same, under
declared names and apart from classes called `any`. -/
theorem reference_eq_iff_blur (hs : Course b (init b) s) (hs' : Course b (s.register b ty).2 s')
    (hl : legible.Covers (s.resolved b ty)) (hl' : legible.Covers (s'.resolved b ty'))
    (hp : (s.register b ty).1.ref = some p) (hp' : (s'.register b ty').1.ref = some p') :
    p = p' ↔ (s.resolved b ty).blur = (s'.resolved b ty').blur := by
  have hfirst : Course b s (s.register b ty).2 := Course.refl.grows (grows_register_full b ty s)
  have hsecond : Course b s' (s'.register b ty').2 :=
    Course.refl.grows (grows_register_full b ty' s')
  have hdistinct : (s'.register b ty').2.registry.Distinct :=
    (((hs.trans hfirst).trans hs').trans hsecond).distinct (sound_init b).distinct
  have hpoints := (hs'.trans hsecond).points (points_register hp)
  rw [hdistinct.eq_iff hpoints (points_register hp'),
    TypeExpr.signature_eq_iff_blur (plain_resolved b s ty) (plain_resolved b s' ty') hl hl']

/-- A class called `any`, and wrappers of one value. -/
def wrappers : Index :=
  (Index.standard.insert { name := "any", members := [⟨"x", .named "i32" [], {}⟩] }).insert
    { name := "Wrapper", params := [{ name := "T" }], members := [⟨"value", .var "T", {}⟩] }

/-- Wrappers of different terminal types have different references. -/
theorem reference_eq_iff_blur_wrappers :
    let b : Builder := { index := wrappers }
    let t := ((init b).register b (.named "Wrapper" [.named "i32" []])).2
    ("#/components/schemas/WrapperI32" = "#/components/schemas/WrapperString" ↔
      ((init b).resolved b (.named "Wrapper" [.named "i32" []])).blur =
        (t.resolved b (.named "Wrapper" [.named "String" []])).blur) := by
  intro b t
  have hl : ∀ u ∈ [(init b).resolved b (.named "Wrapper" [.named "i32" []]),
      t.resolved b (.named "Wrapper" [.named "String" []])], legible.Covers u := by
    intro u hu
    refine TypeExpr.legible_of_names ?_
    revert u
    decide +kernel
  have hs : Course b (init b) (init b) := .refl
  have hs' : Course b ((init b).register b (.named "Wrapper" [.named "i32" []])).2 t := .refl
  exact reference_eq_iff_blur hs hs' (hl _ (by simp)) (hl _ (by simp)) (by decide +kernel)
    (by decide +kernel)

/-- A wrapper of the class called `any` and one of a pair are merged. -/
theorem reference_wrappers_merged :
    let b : Builder := { index := wrappers }
    let ty : TypeExpr := .named "Wrapper" [.named "any" []]
    let ty' : TypeExpr := .named "Wrapper" [.any]
    let t := ((init b).register b ty).2
    (Index.standard.addSource? ""
        "struct any { x: i32 } struct Wrapper<T> { value: T }").map
          (fun r => (r.1.declarations, r.1.markers)) = some (wrappers.declarations, wrappers.markers) ∧
      TypeExpr.ofSource? "Wrapper<any>" [] = some ty ∧
      TypeExpr.ofSource? "Wrapper<(i32, i32)>" [] = some ty' ∧
      ((init b).register b ty).1.ref = some "#/components/schemas/WrapperAny" ∧
      (t.register b ty').1.ref = some "#/components/schemas/WrapperAny" ∧
      (init b).resolved b ty ≠ t.resolved b ty' := by
  refine ⟨?_, ?_, ?_, ?_, ?_, ?_⟩ <;> decide +kernel

end BuildState
end SchemaGraph
