import SchemaGraph.Proofs.Links
import SchemaGraph.Proofs.Lockstep

/-! A limit on the number of definitions cuts their list off and changes nothing else. -/
namespace SchemaGraph

namespace BuildState

/-- Whether a build under a limit went apart from the one without: they have the first definitions in
common, as many as the limit allows, and the second one has more. -/
def Apart (n : Nat) (s t : BuildState) : Prop :=
  ∃ first, first.length = n ∧ first <+: s.registry.outline ∧ first <+: t.registry.outline ∧
    n < t.registry.size

/-- Whether two results are the same, or leave states that went apart. -/
def Agrees {α : Type} (n : Nat) (state : α → BuildState) (x y : α) : Prop :=
  x = y ∨ Apart n (state x) (state y)

variable {b : Builder} {v : Vocabulary} {s t s' t' : BuildState} {n : Nat}

/-- Builds that went apart do not come together again. -/
theorem Apart.mono (h : Apart n s t) (hs : s.registry.outline <+: s'.registry.outline)
    (ht : t.registry.outline <+: t'.registry.outline) : Apart n s' t' := by
  obtain ⟨first, hlen, hfs, hft, hlt⟩ := h
  have hsize := Registry.size_le_of_prefix ht
  exact ⟨first, hlen, hfs.trans hs, hft.trans ht, Nat.lt_of_lt_of_le hlt hsize⟩

theorem Agrees.eq_of_size_le {α : Type} {p : α → BuildState} {x y : α} (h : Agrees n p x y)
    (hle : (p y).registry.size ≤ n) : x = y := by
  rcases h with h | ⟨_, -, -, -, hlt⟩
  · exact h
  · omega

/-! Walking a type. -/

/-- The limit is the last thing that a registration looks at. -/
theorem refusal?_limited (ty r : TypeExpr) :
    s.refusal? (b.limited (some n)) ty r = s.refusal? (b.limited none) ty r ∨
      s.refusal? (b.limited (some n)) ty r = some (.tooMany n) ∧
        s.refusal? (b.limited none) ty r = none ∧ n ≤ s.registry.size := by
  have hnesting : ∀ l, (b.limited l).options.maxNesting = b.options.maxNesting := fun _ => rfl
  have hlimit : ∀ l, (b.limited l).options.maxDefinitions = l := fun _ => rfl
  unfold refusal?
  rw [hnesting, hnesting, hlimit, hlimit]
  split
  · exact .inl rfl
  · split
    · exact .inl rfl
    · dsimp only
      split
      · rename_i hle
        exact .inr ⟨rfl, rfl, hle⟩
      · exact .inl rfl

theorem agrees_register (ty : TypeExpr) (s : BuildState) :
    Agrees n Prod.snd (s.register (b.limited (some n)) ty)
      (s.register (b.limited none) ty) := by
  simp only [register, resolved_limited, Builder.limited_index]
  cases (s.resolved b ty).baseName?.bind b.index.lookup with
  | none => exact .inl rfl
  | some d =>
    cases hl : s.registry.lookup (s.resolved b ty).signature with
    | some id => exact .inl rfl
    | none =>
      rcases refusal?_limited (s := s) (b := b) (n := n) ty (s.resolved b ty) with
        h | ⟨hcut, hfree, hle⟩
      · simp only [h]
        exact .inl rfl
      · -- Only here the two builds do different things.
        simp only [hcut, hfree]
        refine .inr ⟨s.registry.outline.take n, ?_, List.take_prefix .., ?_, ?_⟩
        · rw [List.length_take, Registry.length_outline]
          omega
        · exact (List.take_prefix ..).trans (prefix_define hl)
        · rw [define_registry hl]
          simp only [Registry.size, List.length_append, List.length_singleton] at hle ⊢
          omega

/-- A build under a limit does what the one without does, until that limit. -/
theorem lockstep_limited (b : Builder) (n : Nat) :
    Lockstep (b.limited (some n)) (b.limited none) .full Eq (Apart n) where
  akin := ⟨none, rfl⟩
  index := Vocabulary.coversIndex_full _
  scope := by
    rintro s _ rfl
    exact ⟨rfl, Vocabulary.coversScope_full _⟩
  enter := by
    rintro s _ rfl scope -
    rfl
  record := by
    rintro s _ rfl code n m
    exact .inr rfl
  register := by
    rintro s _ rfl ty -
    rcases agrees_register (b := b) (n := n) ty s with h | h
    · exact .inr ⟨congrArg Prod.fst h, congrArg Prod.snd h⟩
    · exact .inl h
  grows h hg hg' := h.mono hg.outline hg'.outline

theorem agrees_walk (ty : TypeExpr) (node : Schema) (s : BuildState) :
    Agrees n Walked.state (s.walk (b.limited (some n)) ty node)
      (s.walk (b.limited none) ty node) := by
  rcases (lockstep_limited b n).walk rfl (Vocabulary.covers_full ty) node with h | h
  · exact .inr h
  · have heq : ∀ w w' : Walked, w.Same Eq w' → w = w' := by
      rintro ⟨_, _, _⟩ ⟨_, _, _⟩ ⟨rfl, rfl, rfl⟩
      rfl
    exact .inl (heq _ _ h)

theorem agrees_expand (item : WorkItem) (s : BuildState) :
    Agrees n Prod.snd (s.expand (b.limited (some n)) item)
      (s.expand (b.limited none) item) := by
  rcases (lockstep_limited b n).expand (s := s) rfl (i := item) rfl rfl
    (fun e _ => Vocabulary.covers_full e.2) with h | ⟨hbody, hstate⟩
  · exact .inr h
  · exact .inl (Prod.ext hbody hstate)

/-! Whole builds. -/

theorem agrees_step (s : BuildState) :
    Agrees n id (s.step (b.limited (some n))) (s.step (b.limited none)) := by
  cases hq : s.worklist.queue with
  | nil =>
    simp only [step, Worklist.pop?, hq]
    exact .inl rfl
  | cons item rest =>
    rw [step_of_cons hq, step_of_cons hq]
    rcases agrees_expand (b := b) (n := n) item (s.opened item rest) with h | h
    · rw [h]
      exact .inl rfl
    · exact .inr (h.mono (by simp [closed]) (by simp [closed]))

theorem agrees_drain (s : BuildState) :
    Agrees n id (s.drain (b.limited (some n))) (s.drain (b.limited none)) := by
  induction s using drain_induction (b := b.limited none) with
  | done s hd =>
    rw [drain_of_isDone hd, drain_of_isDone hd]
    exact .inl rfl
  | step s hd ih =>
    rw [← drain_step (b := b.limited (some n)) hd, ← drain_step (b := b.limited none) hd]
    rcases agrees_step (b := b) (n := n) s with h | h
    · rw [h]
      exact ih
    · exact .inr (h.mono (course_drain _ _).outline (course_drain _ _).outline)

theorem agrees_addRoot (root : TypeExpr) (s : BuildState) :
    Agrees n Prod.snd (s.addRoot (b.limited (some n)) root) (s.addRoot (b.limited none) root) := by
  dsimp only [addRoot]
  rcases agrees_walk (b := b) (n := n) root .empty s with h | h
  · rw [h]
    rcases agrees_drain (b := b) (n := n) (s.walk (b.limited none) root .empty).state with h | h
    · exact .inl (congrArg _ h)
    · exact .inr h
  · exact .inr (h.mono (course_drain _ _).outline (course_drain _ _).outline)

theorem agrees_addRoots (roots : List TypeExpr) (s : BuildState) :
    Agrees n Prod.snd (s.addRoots (b.limited (some n)) roots)
      (s.addRoots (b.limited none) roots) := by
  induction roots generalizing s with
  | nil => exact .inl rfl
  | cons root roots ih =>
    dsimp only [addRoots]
    rcases agrees_addRoot (b := b) (n := n) root s with h | h
    · rw [h]
      rcases ih (s.addRoot (b.limited none) root).2 with h | h
      · rw [h]
        exact .inl rfl
      · exact .inr h
    · exact .inr (h.mono (course_addRoots _ roots _).outline (course_addRoots _ roots _).outline)

end BuildState

namespace Builder

open BuildState

variable {b : Builder} {n : Nat}

theorem size_registry_le (hb : b.options.maxDefinitions = some n) (roots : List TypeExpr) :
    (b.registry roots).size ≤ n := by
  have hsound := sound_after b (rootCalls roots)
  rw [registry, addRoots_state]
  exact hsound.limit n hb

/-- Under a limit, the definitions of a build are the first ones of the build without, and a build that
stays within the limit gives the same document. -/
theorem registry_limited (b : Builder) (n : Nat) :
    (∀ roots, ((b.limited (some n)).registry roots).outline =
      ((b.limited none).registry roots).outline.take n) ∧
    (∀ roots, ((b.limited none).registry roots).size ≤ n →
      (b.limited (some n)).buildMany roots = (b.limited none).buildMany roots) ∧
    ∀ root, ((b.limited none).registry [root]).size ≤ n →
      (b.limited (some n)).build root = (b.limited none).build root := by
  refine ⟨fun roots => ?_, fun roots hle => ?_, fun root hle => ?_⟩
  · have hsize := size_registry_le (b := b.limited (some n)) rfl roots
    simp only [registry, init_limited] at hsize ⊢
    rcases agrees_addRoots (b := b) (n := n) roots (init b) with
      h | ⟨first, hlen, hcut, hfree, -⟩
    · rw [h] at hsize ⊢
      exact (List.take_of_length_le (by rwa [Registry.length_outline])).symm
    · have hall := hcut.eq_of_length_le (by rw [Registry.length_outline]; omega)
      rw [← hall, List.prefix_iff_eq_take.mp hfree, hlen]
  · have h := (agrees_addRoots (b := b) roots (init b)).eq_of_size_le hle
    simp only [buildMany, init_limited, h]
  · have h := (agrees_addRoot (b := b) root (init b)).eq_of_size_le hle
    simp only [build, finish, init_limited, h]

/-- Of two definitions a limit of one leaves the first, and a limit of two both. -/
theorem registry_limited_twoUsers :
    let b : Builder := { index := twoUsers }
    let roots : List TypeExpr := [.named "a::User" [], .array (.named "b::User" []) 1]
    ((b.limited (some 1)).registry roots).outline.map Entry.name = ["User"] ∧
      ((b.limited none).registry roots).size ≤ 2 ∧
      (b.limited (some 2)).buildMany roots = (b.limited none).buildMany roots ∧
      ((b.limited none).registry [.named "a::User" []]).size ≤ 1 ∧
      (b.limited (some 1)).build (.named "a::User" []) =
        (b.limited none).build (.named "a::User" []) := by
  intro b roots
  have hnames : ((b.limited none).registry roots).outline.map Entry.name = ["User", "User2"] :=
    eq_of_addRootsWithin? (f := fun r => r.2.registry.outline.map Entry.name) (n := 1)
      (by decide +kernel)
  have hsize : ((b.limited none).registry roots).size ≤ 2 := by
    rw [← Registry.length_outline, ← List.length_map (f := Entry.name), hnames]
    decide
  have hfirst : ((b.limited none).registry [.named "a::User" []]).size ≤ 1 :=
    Nat.le_of_eq (eq_of_addRootsWithin? (f := fun r => r.2.registry.size) (n := 1)
      (by decide +kernel))
  refine ⟨?_, hsize, (registry_limited b 2).2.1 roots hsize, hfirst,
    (registry_limited b 1).2.2 _ hfirst⟩
  rw [(registry_limited b 1).1, List.map_take, hnames]
  rfl

end Builder
end SchemaGraph
