import SchemaGraph.Proofs.Course

/-! Lineages: the types of the definitions from one to the root that led to it. The search for a shallower
ancestor reads nothing else of the registry. -/
namespace SchemaGraph

/-- Whether `u` instantiates the generic type of `t` less deeply. -/
def TypeExpr.isShallower (t u : TypeExpr) : Bool := u.baseName? = t.baseName? ∧ u.depth < t.depth

namespace Registry

/-- The types of a definition, of its parent, of the parent of that, and so on to the root. -/
inductive Lineage (r : Registry) : Option Nat → List TypeExpr → Prop
  | root : Lineage r none []
  | entry {id : Nat} {e : Entry} {l : List TypeExpr} (he : r.get? id = some e)
    (h : Lineage r e.parent l) : Lineage r (some id) (e.type :: l)

variable {r r' : Registry} {start : Option Nat} {l l' : List TypeExpr} {id : Nat}

theorem Lineage.unique (h : r.Lineage start l) (h' : r.Lineage start l') : l = l' := by
  induction h generalizing l' with
  | root =>
    cases h'
    rfl
  | entry he h ih =>
    cases h' with
    | entry he' h' =>
      obtain rfl := Option.some.inj (he.symm.trans he')
      rw [ih h']

/-- A lineage stays what it is when more is defined. -/
theorem Lineage.mono (h : r.Lineage start l) (hr : r.outline <+: r'.outline) :
    r'.Lineage start l := by
  induction h with
  | root => exact .root
  | @entry id e l he h ih =>
    obtain ⟨e', he', houtline⟩ := get?_of_prefix hr he
    obtain ⟨htype, hparent⟩ := Entry.eq_of_outline_eq houtline
    rw [← htype]
    exact .entry he' (hparent ▸ ih)

@[simp] theorem lineage_complete (id : Nat) (body : Schema) :
    (r.complete id body).Lineage start l ↔ r.Lineage start l := by
  have hsame : (r.complete id body).outline = r.outline := outline_complete ..
  exact ⟨fun h => h.mono (hsame ▸ List.prefix_rfl), fun h => h.mono (hsame ▸ List.prefix_rfl)⟩

theorem Lineage.subset_types (h : r.Lineage start l) : l ⊆ r.types := by
  induction h with
  | root => exact List.nil_subset _
  | entry he _ ih => exact List.cons_subset.mpr ⟨List.mem_map_of_mem (mem_of_get? he), ih⟩

theorem Lineage.drop (h : r.Lineage start (l ++ l')) : ∃ start', r.Lineage start' l' := by
  induction l generalizing start with
  | nil => exact ⟨start, h⟩
  | cons t l ih =>
    cases h with
    | entry he h => exact ih h

/-- The search goes along the lineage up to the first shallower type, and ends with it. -/
theorem Lineage.ancestorFrom_eq_find? (h : r.Lineage start l) (t : TypeExpr) {fuel : Nat}
    (hfuel : l.length ≤ fuel) :
    (r.ancestorFrom t fuel start).map Entry.type = l.find? t.isShallower := by
  induction h generalizing fuel with
  | root => cases fuel <;> rfl
  | @entry id e l he h ih =>
    obtain ⟨fuel, rfl⟩ := Nat.exists_eq_add_of_le' (Nat.le_trans (Nat.le_add_left 1 _) hfuel)
    have hsame : shallower t e = t.isShallower e.type := rfl
    simp only [ancestorFrom, he, List.find?_cons, hsame]
    cases t.isShallower e.type with
    | true => rfl
    | false => exact ih (Nat.le_of_succ_le_succ hfuel)

section

variable (hr : ∀ id e p, r.get? id = some e → e.parent = some p → p < id)

include hr

theorem exists_lineage {e : Entry} (he : r.get? id = some e) : ∃ l, r.Lineage e.parent l := by
  induction id using Nat.strongRecOn generalizing e with
  | ind id ih =>
    cases hp : e.parent with
    | none => exact ⟨[], .root⟩
    | some p =>
      have hlt := hr id e p he hp
      have hsize : p < r.entries.length := Nat.lt_trans hlt (lt_size_of_get? he)
      have hget : r.get? p = some r.entries[p] := List.getElem?_eq_getElem hsize
      obtain ⟨l, hl⟩ := ih p hlt hget
      exact ⟨_, .entry hget hl⟩

theorem Lineage.length_le (h : r.Lineage (some id) l) : l.length ≤ id + 1 := by
  generalize hstart : some id = start at h
  induction h generalizing id with
  | root => cases hstart
  | @entry id e l he h ih =>
    cases hstart
    cases hp : e.parent with
    | none =>
      rw [hp] at h
      cases h
      exact Nat.le_add_left ..
    | some p =>
      have hlt := hr id e p he hp
      have hle := ih hp.symm
      rw [List.length_cons]
      omega

/-- The types of a lineage belong to definitions that were found before. -/
theorem Lineage.exists_le (h : r.Lineage start l) {t : TypeExpr} (ht : t ∈ l) :
    ∃ id e, r.get? id = some e ∧ e.type = t ∧ ∀ p, start = some p → id ≤ p := by
  induction h with
  | root => cases ht
  | @entry id e l he h ih =>
    rcases List.mem_cons.mp ht with rfl | ht
    · exact ⟨id, e, he, rfl, fun p hp => Nat.le_of_eq (Option.some.inj hp)⟩
    · obtain ⟨id', e', he', htype, hle⟩ := ih ht
      refine ⟨id', e', he', htype, fun p hp => ?_⟩
      obtain rfl := Option.some.inj hp
      cases hparent : e.parent with
      | none =>
        rw [hparent] at h
        cases h
        cases ht
      | some q =>
        have hlt := hr id e q he hparent
        have hle' := hle q hparent
        omega

/-- Where no type has two definitions, none comes twice in a lineage. -/
theorem Lineage.nodup (h : r.Lineage start l) (hn : r.types.Nodup) : l.Nodup := by
  induction h with
  | root => exact List.nodup_nil
  | @entry id e l he h ih =>
    refine List.nodup_cons.mpr ⟨fun hmem => ?_, ih⟩
    obtain ⟨id', e', he', htype, hle⟩ := h.exists_le hr hmem
    have hsame : r.types[id']? = r.types[id]? := by
      have hget : ∀ j, r.types[j]? = (r.get? j).map Entry.type := fun j => List.getElem?_map ..
      rw [hget, hget, he, he', Option.map_some, Option.map_some, htype]
    have hid : id' < r.types.length := by
      rw [types, List.length_map]
      exact lt_size_of_get? he'
    have heq : id' = id := (List.getElem?_inj hid hn).mp hsame
    cases hparent : e.parent with
    | none =>
      rw [hparent] at h
      cases h
      cases hmem
    | some q =>
      have hlt := hr id e q he hparent
      have hle' := hle q hparent
      omega

/-- The nearest shallower ancestor is the first shallower type of the lineage. -/
theorem growingAncestor_eq_find? (h : r.Lineage start l) (t : TypeExpr) :
    r.growingAncestor start t = if t.isParameterized then l.find? t.isShallower else none := by
  have hle : l.length ≤ r.size + 1 := by
    cases start with
    | none =>
      cases h
      exact Nat.zero_le _
    | some id =>
      have hid : id < r.size := by
        cases h with
        | entry he h => exact lt_size_of_get? he
      exact Nat.le_trans (h.length_le hr) (by omega)
  unfold growingAncestor
  rw [h.ancestorFrom_eq_find? t hle]

end

end Registry
end SchemaGraph
