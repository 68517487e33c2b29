import SchemaGraph.Proofs.TypeExpr

/-! How deep types are that substitution makes: no deeper than what is written, with the deepest meaning of
a variable below it. -/
namespace SchemaGraph.TypeExpr

variable {t p q : TypeExpr} {σ : String → TypeExpr} {as : List TypeExpr} {m : Nat}

/-- The type with nothing known in the places of its variables. -/
def ground (t : TypeExpr) : TypeExpr := t.substitute (fun _ => any)

theorem plain_ground (t : TypeExpr) : t.ground.Plain := plain_substitute (fun _ => plain_any) t

theorem depthArgs_le_iff : depthArgs as ≤ m ↔ ∀ a ∈ as, a.depth ≤ m := by
  induction as with
  | nil => simp [depthArgs]
  | cons a as ih =>
    rw [List.forall_mem_cons, ← ih, depthArgs]
    omega

theorem depth_named_le_iff {n : String} :
    (named n as).depth ≤ m ↔ ∀ a ∈ as, a.depth + 1 ≤ m := by
  cases as with
  | nil => simp [depth]
  | cons a as =>
    have hargs : depthArgs as ≤ m - 1 ↔ ∀ b ∈ as, b.depth ≤ m - 1 := depthArgs_le_iff
    rw [depth, List.forall_mem_cons]
    constructor
    · intro h
      refine ⟨by omega, fun b hb => ?_⟩
      have := hargs.mp (by omega) b hb
      omega
    · rintro ⟨ha, has⟩
      have := hargs.mpr (fun b hb => by
        have := has b hb
        omega)
      omega

theorem depth_arrayOf (c : TypeExpr) (d : Nat) : (arrayOf c d).depth = d + c.depth := by
  unfold arrayOf
  split
  · omega
  · split
    · simp only [depth]
      omega
    · rfl

/-! Substitution. -/

theorem depth_substitute_le (hσ : ∀ n, (σ n).depth ≤ m) (t : TypeExpr) :
    (t.substitute σ).depth ≤ t.ground.depth + m := by
  induction t using inductOn with
  | named n as ih =>
    have hground : ∀ a ∈ as, a.ground.depth + 1 ≤ (named n as).ground.depth := by
      have hself := Nat.le_refl (named n as).ground.depth
      rw [ground, substitute, substituteArgs_eq_map] at hself ⊢
      simpa [ground] using depth_named_le_iff.mp hself
    rw [substitute, substituteArgs_eq_map, depth_named_le_iff, List.forall_mem_map]
    intro a ha
    have hdepth := ih a ha
    have hlt := hground a ha
    omega
  | array c d ih =>
    rw [substitute, depth_arrayOf, ground, substitute, depth_arrayOf, ← ground]
    omega
  | var n => exact Nat.le_trans (hσ n) (Nat.le_add_left ..)
  | wildcard u ih =>
    cases u with
    | none => exact Nat.zero_le _
    | some u => exact ih u rfl
  | any => exact Nat.zero_le _

theorem hasVarArgs_eq_any (as : List TypeExpr) : hasVarArgs as = as.any hasVar := by
  induction as with
  | nil => rfl
  | cons a as ih => rw [hasVarArgs, ih, List.any_cons]

/-- Without variables a type does not depend on their meanings. -/
theorem substitute_of_not_hasVar (h : t.hasVar = false) : t.substitute σ = t.ground := by
  induction t using inductOn with
  | named n as ih =>
    rw [hasVar, hasVarArgs_eq_any, List.any_eq_false] at h
    rw [ground, substitute, substitute, substituteArgs_eq_map, substituteArgs_eq_map]
    exact congrArg (named n) (List.map_congr_left
      (fun a ha => ih a ha (Bool.eq_false_iff.mpr (h a ha))))
  | array c d ih => rw [ground, substitute, substitute, ih h, ground]
  | var n => cases h
  | wildcard u ih =>
    cases u with
    | none => rfl
    | some u => exact ih u rfl h
  | any => rfl

theorem substitute_of_plain (h : t.Plain) : t.substitute σ = t := by
  induction t using inductOn with
  | named n as ih =>
    have hargs : as.map (substitute σ) = as := by
      rw [List.map_congr_left (fun a ha => ih a ha (plain_named.mp h a ha)), List.map_id']
    rw [substitute, substituteArgs_eq_map, hargs]
  | array c d ih =>
    obtain ⟨hd, hc, hp⟩ := plain_array.mp h
    rw [substitute, ih hp, arrayOf_of_isArray hc hd]
  | var n => exact absurd h (not_plain_var n)
  | wildcard u => exact absurd h (not_plain_wildcard u)
  | any => rfl

theorem depth_canonicalize (i : Index) (t : TypeExpr) : (t.canonicalize i).depth = t.depth := by
  induction t using inductOn with
  | named n as ih =>
    have hle : ∀ k, ((named n as).canonicalize i).depth ≤ k ↔ (named n as).depth ≤ k := by
      intro k
      rw [canonicalize, canonicalizeArgs_eq_map, depth_named_le_iff, depth_named_le_iff,
        List.forall_mem_map]
      exact forall₂_congr (fun a ha => by rw [ih a ha])
    exact Nat.le_antisymm ((hle _).mpr (Nat.le_refl _)) ((hle _).mp (Nat.le_refl _))
  | array c d ih => rw [canonicalize, depth_arrayOf, ih, depth]
  | _ => rfl

/-! Parts. -/

theorem mem_parts_self (t : TypeExpr) : t ∈ t.parts := by
  cases t <;> simp [parts]

theorem mem_parts_trans (hp : p ∈ t.parts) (hq : q ∈ p.parts) : q ∈ t.parts := by
  induction t using inductOn with
  | named n as ih =>
    rw [parts, partsArgs_eq_flatMap, List.mem_cons, List.mem_flatMap] at hp
    rcases hp with rfl | ⟨a, ha, hp⟩
    · exact hq
    · rw [parts, partsArgs_eq_flatMap]
      exact List.mem_cons_of_mem _ (List.mem_flatMap.mpr ⟨a, ha, ih a ha hp⟩)
  | array c d ih =>
    rcases List.mem_cons.mp hp with rfl | hp
    · exact hq
    · exact List.mem_cons_of_mem _ (ih hp)
  | var n => exact List.mem_singleton.mp hp ▸ hq
  | wildcard u ih =>
    rcases List.mem_cons.mp hp with rfl | hp
    · exact hq
    · cases u with
      | none => cases hp
      | some u => exact List.mem_cons_of_mem _ (ih u rfl hp)
  | any => exact List.mem_singleton.mp hp ▸ hq

theorem mem_parts_of_mem_args (h : p ∈ t.args) : p ∈ t.parts := by
  cases t with
  | named n as =>
    rw [parts, partsArgs_eq_flatMap]
    exact List.mem_cons_of_mem _ (List.mem_flatMap.mpr ⟨p, h, mem_parts_self p⟩)
  | _ => cases h

theorem Plain.mem_parts (h : t.Plain) (hp : p ∈ t.parts) : p.Plain :=
  fun q hq => h q (mem_parts_trans hp hq)

theorem depth_ground_le_of_mem_parts (hp : p ∈ t.parts) : p.ground.depth ≤ t.ground.depth := by
  induction t using inductOn with
  | named n as ih =>
    rw [parts, partsArgs_eq_flatMap, List.mem_cons, List.mem_flatMap] at hp
    rcases hp with rfl | ⟨a, ha, hp⟩
    · exact Nat.le_refl _
    · have hlt : a.ground.depth < (named n as).ground.depth := by
        rw [ground, ground, substitute, substituteArgs_eq_map]
        exact depth_lt_of_mem_args (List.mem_map_of_mem ha)
      exact Nat.le_trans (ih a ha hp) (Nat.le_of_lt hlt)
  | array c d ih =>
    rcases List.mem_cons.mp hp with rfl | hp
    · exact Nat.le_refl _
    · refine Nat.le_trans (ih hp) ?_
      rw [ground, ground, substitute, depth_arrayOf]
      exact Nat.le_add_left ..
  | var n => exact List.mem_singleton.mp hp ▸ Nat.le_refl _
  | wildcard u ih =>
    rcases List.mem_cons.mp hp with rfl | hp
    · exact Nat.le_refl _
    · cases u with
      | none => cases hp
      | some u => exact ih u rfl hp
  | any => exact List.mem_singleton.mp hp ▸ Nat.le_refl _

theorem depth_le_of_mem_parts (h : t.Plain) (hp : p ∈ t.parts) : p.depth ≤ t.depth := by
  have hle := depth_ground_le_of_mem_parts hp
  rwa [ground, ground, substitute_of_plain h, substitute_of_plain (h.mem_parts hp)] at hle

theorem mem_parts_arrayOf {n : String} {c : TypeExpr} {d : Nat}
    (h : named n as ∈ (arrayOf c d).parts) : named n as ∈ c.parts := by
  unfold arrayOf at h
  split at h
  · exact h
  · split at h
    · exact List.mem_cons_of_mem _ (by simpa [parts] using h)
    · simpa [parts] using h

/-- A named part of what substitution makes comes from the meaning of a variable, or from a named part. -/
theorem exists_of_mem_parts_substitute {n : String} (h : named n as ∈ (t.substitute σ).parts) :
    (∃ k, named n as ∈ (σ k).parts) ∨
      ∃ bs, named n bs ∈ t.parts ∧ named n as = (named n bs).substitute σ := by
  induction t using inductOn with
  | named m bs ih =>
    rw [substitute, substituteArgs_eq_map, parts, partsArgs_eq_flatMap, List.mem_cons,
      List.mem_flatMap] at h
    rcases h with h | ⟨_, hmem, h⟩
    · cases h
      exact .inr ⟨bs, mem_parts_self _, by rw [substitute, substituteArgs_eq_map]⟩
    · obtain ⟨a, ha, rfl⟩ := List.mem_map.mp hmem
      have ha' : a ∈ (named m bs).parts := mem_parts_of_mem_args ha
      rcases ih a ha h with hmeaning | ⟨cs, hcs, heq⟩
      · exact .inl hmeaning
      · exact .inr ⟨cs, mem_parts_trans ha' hcs, heq⟩
  | array c d ih =>
    rcases ih (mem_parts_arrayOf h) with hmeaning | ⟨cs, hcs, heq⟩
    · exact .inl hmeaning
    · exact .inr ⟨cs, List.mem_cons_of_mem _ hcs, heq⟩
  | var k => exact .inl ⟨k, h⟩
  | wildcard u ih =>
    cases u with
    | none => simp [substitute, substituteBound, parts] at h
    | some u =>
      rcases ih u rfl h with hmeaning | ⟨cs, hcs, heq⟩
      · exact .inl hmeaning
      · exact .inr ⟨cs, List.mem_cons_of_mem _ hcs, heq⟩
  | any => simp [substitute, parts] at h

end SchemaGraph.TypeExpr
