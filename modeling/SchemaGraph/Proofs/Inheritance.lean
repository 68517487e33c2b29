import SchemaGraph.Proofs.Calls

/-! The supertypes of a declaration, of which each is entered once. -/
namespace SchemaGraph

namespace Index

variable {i : Index} {visited visited' : List String}

/-- How many declarations have not been entered. -/
def unvisited (i : Index) (visited : List String) : Nat :=
  i.declarations.countP (fun e => !visited.contains e.2.name)

theorem unvisited_le (i : Index) (visited : List String) : i.unvisited visited ≤ i.size :=
  List.countP_le_length

theorem unvisited_le_of_subset (h : visited ⊆ visited') :
    i.unvisited visited' ≤ i.unvisited visited := by
  refine List.countP_mono_left (fun e _ => ?_)
  simp only [Bool.not_eq_true', ← Bool.not_eq_true, List.contains_iff_mem]
  exact mt (fun hmem => h hmem)

/-- Entering a declaration for the first time leaves fewer to enter. -/
theorem unvisited_cons_lt {n : String} {d : Declaration} (hl : i.lookup n = some d)
    (hnew : d.name ∉ visited) : i.unvisited (d.name :: visited) < i.unvisited visited := by
  obtain ⟨k, hk⟩ := mem_of_lookup hl
  exact Registry.countP_unseen_lt hk hnew

end Index

namespace Body

variable {b : Builder} {body : Body}

/-- What every step of adding a declaration keeps, adding it keeps. -/
theorem addDeclaration_keeps {P : Body → Prop}
    (hmember : ∀ body, P body → ∀ d m, P (body.addMember b d m))
    (hset : ∀ body, P body → P (body.setMember none))
    (henter : ∀ body, P body → ∀ r parent, P (body.enter r parent))
    (hleave : ∀ body, P body → P body.leave) (fuel : Nat) (d : Declaration) (h : P body) :
    P (body.addDeclaration b fuel d) := by
  have hmembers : ∀ body, P body → ∀ d, P (body.addMembers b d) := fun body h d =>
    hset _ (List.foldlRecOn d.members _ h (fun body hb m _ => hmember body hb d m))
  induction fuel generalizing d body with
  | zero => exact hmembers body h d
  | succ fuel ih =>
    refine hmembers _ (List.foldlRecOn d.supertypes _ h (fun body hb supertype _ => ?_)) d
    rcases addSupertype_cases b (Body.addDeclaration b fuel) body supertype with
      heq | ⟨parent, -, -, heq⟩
    · rwa [heq]
    · rw [heq]
      exact hleave _ (ih parent (henter body hb _ parent))

theorem visited_addMember (b : Builder) (d : Declaration) (m : Member) :
    (body.addMember b d m).visited = body.visited := by
  dsimp only [addMember]
  split <;> rfl

theorem visited_subset_addDeclaration (b : Builder) (fuel : Nat) (d : Declaration) (body : Body) :
    body.visited ⊆ (body.addDeclaration b fuel d).visited := by
  refine addDeclaration_keeps (P := fun body' => body.visited ⊆ body'.visited) ?_ ?_ ?_ ?_ fuel d
    (List.Subset.refl _)
  · intro body' h d m
    rwa [visited_addMember]
  · exact fun _ h => h
  · exact fun _ h _ _ => List.Subset.trans h (List.subset_cons_self ..)
  · exact fun _ h => h

theorem visited_subset_addSupertype (b : Builder) (fuel : Nat) (supertype : TypeExpr) :
    body.visited ⊆ (body.addSupertype b (addDeclaration b fuel) supertype).visited := by
  rcases addSupertype_cases b (addDeclaration b fuel) body supertype with
    heq | ⟨parent, -, -, heq⟩
  · rw [heq]
    exact List.Subset.refl _
  · rw [heq]
    have hentered := visited_subset_addDeclaration b fuel parent
      (body.enter (body.state.scope.resolveDeep supertype) parent)
    exact List.Subset.trans (List.subset_cons_self ..) hentered

/-- Only what happens to declarations that have not been entered matters. -/
theorem addSupertype_congr {f g : Declaration → Body → Body} {supertype : TypeExpr}
    (h : ∀ n parent r, b.index.lookup n = some parent → parent.name ∉ body.visited →
      f parent (body.enter r parent) = g parent (body.enter r parent)) :
    body.addSupertype b f supertype = body.addSupertype b g supertype := by
  dsimp only [addSupertype]
  split
  · rfl
  · rename_i parent hparent
    obtain ⟨n, -, hl⟩ := Option.bind_eq_some_iff.mp hparent
    split
    · rfl
    · rename_i hnew
      simp only [Bool.or_eq_true, List.contains_iff_mem, not_or] at hnew
      rw [h n parent _ hl hnew.2]

/-- Folds agree whose steps agree where the first one goes. -/
theorem foldl_congr {α β : Type} {f g : β → α → β} {P : β → Prop}
    (hfg : ∀ y, P y → ∀ x, f y x = g y x) (hf : ∀ y, P y → ∀ x, P (f y x)) (xs : List α) {y : β}
    (h : P y) : xs.foldl f y = xs.foldl g y := by
  induction xs generalizing y with
  | nil => rfl
  | cons x xs ih =>
    rw [List.foldl_cons, List.foldl_cons, ← hfg y h x]
    exact ih (hf y h x)

/-- More fuel than there are declarations to enter changes nothing. -/
theorem addDeclaration_of_le {fuel more : Nat} (hle : fuel ≤ more) (d : Declaration)
    (h : b.index.unvisited body.visited ≤ fuel) :
    body.addDeclaration b more d = body.addDeclaration b fuel d := by
  induction fuel generalizing more d body with
  | zero =>
    cases more with
    | zero => rfl
    | succ more =>
      -- Everything has been entered, so that no supertype brings anything.
      have hnone : ∀ supertype,
          body.addSupertype b (addDeclaration b more) supertype = body := by
        intro supertype
        rcases addSupertype_cases b (addDeclaration b more) body supertype with
          heq | ⟨parent, hparent, hnew, -⟩
        · exact heq
        · obtain ⟨n, -, hl⟩ := Option.bind_eq_some_iff.mp hparent
          have := Index.unvisited_cons_lt hl hnew
          omega
      have hfold : d.supertypes.foldl (addSupertype b (addDeclaration b more)) body = body :=
        List.foldlRecOn (motive := (· = body)) d.supertypes _ rfl
          (fun y hy supertype _ => hy ▸ hnone supertype)
      exact congrArg (addMembers b d) hfold
  | succ fuel ih =>
    obtain ⟨more, rfl⟩ := Nat.exists_eq_add_of_le' (Nat.lt_of_lt_of_le (Nat.succ_pos fuel) hle)
    refine congrArg (addMembers b d) (foldl_congr
      (P := fun y : Body => b.index.unvisited y.visited ≤ fuel + 1)
      (fun y hy supertype => ?_) (fun y hy supertype => ?_) d.supertypes h)
    · refine addSupertype_congr (fun n parent r hl hnew => ?_)
      have hlt := Index.unvisited_cons_lt hl hnew
      have hleft : b.index.unvisited (y.enter r parent).visited ≤ fuel :=
        Nat.le_of_lt_succ (Nat.lt_of_lt_of_le hlt hy)
      exact ih (Nat.le_of_succ_le_succ hle) parent hleft
    · exact Nat.le_trans
        (Index.unvisited_le_of_subset (visited_subset_addSupertype b more supertype)) hy

end Body
end SchemaGraph
