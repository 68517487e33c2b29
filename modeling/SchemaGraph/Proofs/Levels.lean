import SchemaGraph.Proofs.Nesting

/-! Walks that end within their levels. More levels change nothing for them, the node that they are given
is only laid under what they infer, and wrappers are passed without a trace. -/
namespace SchemaGraph

namespace BuildState

/-- Whether a walk with so many levels left comes to its end before the limit stops it. -/
def Ends (b : Builder) (room : Nat) (t : TypeExpr) (s : BuildState) : Prop :=
  (descent b (room + 1) t s).length ≤ room

instance (b : Builder) (room : Nat) (t : TypeExpr) (s : BuildState) : Decidable (Ends b room t s) :=
  inferInstanceAs (Decidable (_ ≤ _))

variable {b : Builder} {room room' more : Nat} {t u stands : TypeExpr} {s s' : BuildState}
  {schema : Schema} {around : Schema → Schema} {f : TypeExpr → TypeExpr}

/-! One step of a walk, by what it does. -/

theorem not_ends_zero (b : Builder) (t : TypeExpr) (s : BuildState) : ¬Ends b 0 t s := by
  simp [Ends, descent]

theorem Ends.exists_succ (h : Ends b room t s) : ∃ below, room = below + 1 := by
  refine Nat.exists_eq_add_one_of_ne_zero (fun hzero => ?_)
  subst hzero
  exact not_ends_zero b t s h

theorem ends_answer (h : visit b t s = .answer stands schema s') (room : Nat) :
    Ends b (room + 1) t s := by
  simp [Ends, descent, h]

theorem ends_pass (h : visit b t s = .pass u) : Ends b (room + 1) t s ↔ Ends b room u s := by
  rw [Ends, descent, h, List.length_cons, Nat.succ_le_succ_iff, Ends]

theorem ends_wrap (h : visit b t s = .wrap u around f) :
    Ends b (room + 1) t s ↔ Ends b room u s := by
  rw [Ends, descent, h, List.length_cons, Nat.succ_le_succ_iff, Ends]

theorem walkWithin_answer (h : visit b t s = .answer stands schema s') (node : Schema) :
    walkWithin b (room + 1) t node s = ⟨stands, node.overlay schema, s'⟩ := by
  simp only [walkWithin, h, Visit.follow]

theorem walkWithin_pass (h : visit b t s = .pass u) (node : Schema) :
    walkWithin b (room + 1) t node s = walkWithin b room u node s := by
  simp only [walkWithin, h, Visit.follow]

theorem walkWithin_wrap (h : visit b t s = .wrap u around f) (node : Schema) :
    walkWithin b (room + 1) t node s =
      ⟨f (walkWithin b room u .empty s).type,
        node.overlay (around (walkWithin b room u .empty s).schema),
        (walkWithin b room u .empty s).state⟩ := by
  simp only [walkWithin, h, Visit.follow]

/-! Whole walks. -/

/-- A walk that ends gives the same with more levels, and ends with these too. -/
theorem Ends.walkWithin_eq (h : Ends b room t s) (hle : room ≤ more) (node : Schema) :
    Ends b more t s ∧ walkWithin b more t node s = walkWithin b room t node s := by
  induction room generalizing more t node with
  | zero => exact absurd h (not_ends_zero b t s)
  | succ room ih =>
    obtain ⟨more, rfl⟩ := Nat.exists_eq_add_of_le' (Nat.lt_of_lt_of_le (Nat.succ_pos room) hle)
    have hle' : room ≤ more := Nat.le_of_succ_le_succ hle
    cases hv : visit b t s with
    | answer stands schema s' =>
      exact ⟨ends_answer hv more, by rw [walkWithin_answer hv, walkWithin_answer hv]⟩
    | pass u =>
      obtain ⟨hends, heq⟩ := ih ((ends_pass hv).mp h) hle' node
      exact ⟨(ends_pass hv).mpr hends, by rw [walkWithin_pass hv, walkWithin_pass hv, heq]⟩
    | wrap u around f =>
      obtain ⟨hends, heq⟩ := ih ((ends_wrap hv).mp h) hle' .empty
      exact ⟨(ends_wrap hv).mpr hends, by rw [walkWithin_wrap hv, walkWithin_wrap hv, heq]⟩

theorem Ends.mono (h : Ends b room t s) (hle : room ≤ more) : Ends b more t s :=
  (h.walkWithin_eq hle .empty).1

/-- Walks of a type that end agree, whatever levels they had. -/
theorem Ends.walkWithin_congr (h : Ends b room t s) (h' : Ends b room' t s) (node : Schema) :
    walkWithin b room t node s = walkWithin b room' t node s := by
  rcases Nat.le_total room room' with hle | hle
  · exact (h.walkWithin_eq hle node).2.symm
  · exact (h'.walkWithin_eq hle node).2

/-- A walk lays what it infers over the node that it is given. -/
theorem walkWithin_node (b : Builder) (room : Nat) (t : TypeExpr) (node : Schema) (s : BuildState) :
    walkWithin b room t node s =
      ⟨(walkWithin b room t .empty s).type, node.overlay (walkWithin b room t .empty s).schema,
        (walkWithin b room t .empty s).state⟩ := by
  induction room generalizing t with
  | zero => simp only [walkWithin, Schema.empty_overlay]
  | succ room ih =>
    cases hv : visit b t s with
    | answer stands schema s' => simp only [walkWithin_answer hv, Schema.empty_overlay]
    | pass u => rw [walkWithin_pass hv, walkWithin_pass hv, ih u]
    | wrap u around f => simp only [walkWithin_wrap hv, Schema.empty_overlay]

end BuildState

/-! Steps without converters. -/

theorem Builder.convert?_of_nil {b : Builder} (hb : b.converters = []) (t : TypeExpr) :
    b.convert? t = none := by
  rw [convert?, hb, List.findSome?_nil]

namespace BuildState

variable {b : Builder} {s : BuildState}

theorem visit_named (hb : b.converters = []) (name : String) (args : List TypeExpr) :
    visit b (.named name args) s = visitNamed b name args s := by
  simp only [visit, Builder.convert?_of_nil hb]

theorem visit_array (hb : b.converters = []) (c : TypeExpr) (d : Nat) :
    visit b (.array c d) s = .wrap c (·.nest d) (·.arrayOf d) := by
  simp only [visit, Builder.convert?_of_nil hb]

theorem visit_var (hb : b.converters = []) (name : String) :
    visit b (.var name) s =
      if s.scope.meaning name = .any then
        .answer .any opaqueObject (s.record .unresolvedVariable (s.scopedName name)
          "no binding or bound in scope, emitted as an opaque object")
      else .pass (s.scope.meaning name) := by
  simp only [visit, Builder.convert?_of_nil hb, Scope.resolve]
  split
  · rename_i hany
    rw [if_pos hany]
  · rename_i hbound
    rw [if_neg hbound]

theorem visit_wildcard (hb : b.converters = []) (u : Option TypeExpr) :
    visit b (.wildcard u) s = .pass (s.scope.resolveDeep (.wildcard u)) := by
  simp only [visit, Builder.convert?_of_nil hb]
  rfl

theorem visit_any (hb : b.converters = []) : visit b .any s = .answer .any opaqueObject s := by
  simp only [visit, Builder.convert?_of_nil hb]

end BuildState

/-! Wrappers. -/

/-- Whether a name is that of a wrapper of one argument, which may be absent or has no schema of its
own. -/
structure Builder.Wraps (b : Builder) (name : String) : Prop where
  notTerminal : b.terminals.lookup name = none
  kind : b.index.isA name .optional = true ∨ b.index.isA name .transparent = true

/-- A type in wrappers, the outermost first, each with its arguments after the first. -/
def TypeExpr.wrapped (t : TypeExpr) (wrappers : List (String × List TypeExpr)) : TypeExpr :=
  wrappers.foldr (fun w inner => .named w.1 (inner :: w.2)) t

namespace BuildState

variable {b : Builder} {room : Nat} {t : TypeExpr} {s : BuildState}
  {wrappers : List (String × List TypeExpr)}

theorem visit_wrapper (hb : b.converters = []) {name : String} (hw : b.Wraps name) (t : TypeExpr)
    (more : List TypeExpr) (s : BuildState) : visit b (.named name (t :: more)) s = .pass t := by
  have hkind : (b.index.isA name .optional || b.index.isA name .transparent) = true :=
    Bool.or_eq_true_iff.mpr hw.kind
  simp only [visit_named hb, visitNamed, hw.notTerminal, hkind, if_true]

/-- Every wrapper takes a level, and nothing else happens. -/
theorem walkWithin_wrapped (hb : b.converters = []) (hw : ∀ w ∈ wrappers, b.Wraps w.1)
    (room : Nat) (t : TypeExpr) (node : Schema) (s : BuildState) :
    (Ends b (room + wrappers.length) (t.wrapped wrappers) s ↔ Ends b room t s) ∧
      walkWithin b (room + wrappers.length) (t.wrapped wrappers) node s =
        walkWithin b room t node s := by
  induction wrappers with
  | nil => exact ⟨Iff.rfl, rfl⟩
  | cons w wrappers ih =>
    rw [List.forall_mem_cons] at hw
    obtain ⟨hends, heq⟩ := ih hw.2
    have hv : visit b (t.wrapped (w :: wrappers)) s = .pass (t.wrapped wrappers) :=
      visit_wrapper hb hw.1 _ w.2 s
    rw [List.length_cons, ← Nat.add_assoc, ends_pass hv, walkWithin_pass hv]
    exact ⟨hends, heq⟩

/-- Wrappers are invisible. In every state and with any levels left, where the limit does not stop the
walk of a type in wrappers, it does not stop that of the type itself, and both give the same type, schema
and state; a build of the one is a build of the other. -/
theorem walk_wrapped (hb : b.converters = []) (hw : ∀ w ∈ wrappers, b.Wraps w.1) (t : TypeExpr) :
    (∀ (room : Nat) (node : Schema) (s : BuildState), Ends b room (t.wrapped wrappers) s →
      Ends b room t s ∧
        walkWithin b room (t.wrapped wrappers) node s = walkWithin b room t node s) ∧
    (Ends b b.options.maxNesting (t.wrapped wrappers) (init b) →
      b.build (t.wrapped wrappers) = b.build t) := by
  have hwalk : ∀ (room : Nat) (node : Schema) (s : BuildState),
      Ends b room (t.wrapped wrappers) s → Ends b room t s ∧
        walkWithin b room (t.wrapped wrappers) node s = walkWithin b room t node s := by
    intro room node s h
    have hmore := h.walkWithin_eq (Nat.le_add_right room wrappers.length) node
    obtain ⟨hends, heq⟩ := walkWithin_wrapped hb hw room t node s
    exact ⟨hends.mp hmore.1, hmore.2.symm.trans heq⟩
  refine ⟨hwalk, fun h => ?_⟩
  have hroot : (init b).walk b (t.wrapped wrappers) .empty = (init b).walk b t .empty :=
    (hwalk _ .empty _ h).2
  simp only [Builder.build, finish, addRoot, hroot]

/-- A list of users in an optional box, of which the walk of the list needs two levels less. -/
theorem walk_wrapped_users :
    let b : Builder := { index := twoUsers }
    let t : TypeExpr := .named "Vec" [.named "a::User" []]
    let wrappers : List (String × List TypeExpr) := [("Option", []), ("Box", [.var "A"])]
    b.converters = [] ∧ (∀ w ∈ wrappers, b.Wraps w.1) ∧
      ¬Ends b 3 (t.wrapped wrappers) (init b) ∧ Ends b 4 (t.wrapped wrappers) (init b) ∧
      walkWithin b 4 (t.wrapped wrappers) .empty (init b) = walkWithin b 4 t .empty (init b) ∧
      b.build (t.wrapped wrappers) = b.build t := by
  intro b t wrappers
  have hw : ∀ w ∈ wrappers, b.Wraps w.1 := by
    intro w hmem
    rcases List.mem_cons.mp hmem with rfl | hmem
    · exact ⟨by decide +kernel, .inl (by decide +kernel)⟩
    · obtain rfl := List.mem_singleton.mp hmem
      exact ⟨by decide +kernel, .inr (by decide +kernel)⟩
  have hends : Ends b 4 (t.wrapped wrappers) (init b) := by decide +kernel
  have h := walk_wrapped (b := b) rfl hw t
  exact ⟨rfl, hw, by decide +kernel, hends, (h.1 4 .empty (init b) hends).2,
    h.2 (hends.mono (by decide))⟩

end BuildState
end SchemaGraph
