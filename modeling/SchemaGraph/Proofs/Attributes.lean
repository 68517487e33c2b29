import SchemaGraph.Proofs.Levels

/-! The attributes of a node one by one. What a walk infers takes the place of those that it sets, whatever
they were, and all others stay. -/
namespace SchemaGraph

/-- An attribute of nodes: the type of its values, and what a node has of it. -/
structure Schema.Attribute where
  Value : Type
  get : Schema → Option Value

namespace Schema

variable {s t u : Schema}

/-- The attributes of nodes. -/
def attributes : List Attribute :=
  [⟨_, fun s => s.ref⟩, ⟨_, fun s => s.type⟩, ⟨_, fun s => s.format⟩, ⟨_, fun s => s.title⟩,
   ⟨_, fun s => s.description⟩, ⟨_, fun s => s.defaultValue⟩, ⟨_, fun s => s.example?⟩,
   ⟨_, fun s => s.minimum⟩, ⟨_, fun s => s.maximum⟩, ⟨_, fun s => s.exclusiveMinimum⟩,
   ⟨_, fun s => s.exclusiveMaximum⟩, ⟨_, fun s => s.multipleOf⟩, ⟨_, fun s => s.minLength⟩,
   ⟨_, fun s => s.maxLength⟩, ⟨_, fun s => s.pattern⟩, ⟨_, fun s => s.items⟩,
   ⟨_, fun s => s.minItems⟩, ⟨_, fun s => s.maxItems⟩, ⟨_, fun s => s.uniqueItems⟩,
   ⟨_, fun s => s.properties⟩, ⟨_, fun s => s.required⟩, ⟨_, fun s => s.additionalProperties⟩,
   ⟨_, fun s => s.enumValues⟩, ⟨_, fun s => s.nullable⟩, ⟨_, fun s => s.readOnly⟩,
   ⟨_, fun s => s.writeOnly⟩, ⟨_, fun s => s.deprecated⟩]

/-- A node has no other attributes. -/
theorem eq_of_attributes (h : ∀ a ∈ attributes, a.get s = a.get t) : s = t := by
  obtain ⟨⟨⟩, _, _, _⟩ := s
  obtain ⟨⟨⟩, _, _, _⟩ := t
  simp only [attributes, List.forall_mem_cons] at h
  simp [h]

theorem get_overlay (s t : Schema) :
    ∀ a ∈ attributes, a.get (s.overlay t) = (a.get t).or (a.get s) := by
  simp [attributes, overlay]

theorem get_empty : ∀ a ∈ attributes, a.get empty = none := by
  simp [attributes, empty]

/-- An overlay is the node which has every attribute that the upper one sets, and the lower one's where the
upper one sets none. -/
theorem eq_overlay_iff :
    u = s.overlay t ↔ ∀ a ∈ attributes, a.get u = (a.get t).or (a.get s) := by
  constructor
  · rintro rfl a ha
    exact get_overlay s t a ha
  · intro h
    refine eq_of_attributes (fun a ha => ?_)
    rw [h a ha, get_overlay s t a ha]

end Schema

namespace BuildState

variable {b : Builder} {s : BuildState} {t u v : TypeExpr} {n : Nat}

/-- Whether a walk comes from one type to another in so many steps that each hand on the node that they
are given: from a variable or wildcard to what it stands for, or from a wrapper to what is inside. -/
inductive HandsOn (b : Builder) (s : BuildState) : Nat → TypeExpr → TypeExpr → Prop
  | refl (t : TypeExpr) : HandsOn b s 0 t t
  | step {n : Nat} {t u v : TypeExpr} (hv : visit b t s = .pass u) (h : HandsOn b s n u v) :
    HandsOn b s (n + 1) t v

theorem HandsOn.walkWithin_eq (h : HandsOn b s n t u) (room : Nat) (node : Schema) :
    walkWithin b (room + n) t node s = walkWithin b room u node s := by
  induction h with
  | refl t => rfl
  | step hv _ ih => rw [← Nat.add_assoc, walkWithin_pass hv, ih]

/-- A walk infers, and then lays what it inferred over the node. In every state and with any levels left it
gives the type and the state that it gives for the empty node; every attribute of its node is the one that
it gives the empty node, or the one that the node had before where it gives none. So it is after any chain
of variables, wildcards and wrappers, and it does not matter in which order nodes are laid together. -/
theorem walkWithin_infers (b : Builder) (room : Nat) (t : TypeExpr) (node : Schema)
    (s : BuildState) :
    (let inferred := walkWithin b room t .empty s
     walkWithin b room t node s =
        ⟨inferred.type, node.overlay inferred.schema, inferred.state⟩ ∧
      ∀ filled, filled = node.overlay inferred.schema ↔
        ∀ a ∈ Schema.attributes, a.get filled = (a.get inferred.schema).or (a.get node)) ∧
    (∀ n u, HandsOn b s n u t →
      walkWithin b (room + n) u node s = walkWithin b room t node s) ∧
    ∀ lower upper : Schema,
      (node.overlay lower).overlay upper = node.overlay (lower.overlay upper) := by
  refine ⟨⟨walkWithin_node b room t node s, ?_⟩, ?_, ?_⟩
  · intro filled
    exact Schema.eq_overlay_iff
  · intro n u h
    exact h.walkWithin_eq room node
  · intro lower upper
    exact Schema.overlay_assoc node lower upper

/-- The walk of an optional byte behind a wildcard replaces the format of a node and keeps its
description. -/
theorem walkWithin_infers_byte :
    let b : Builder := { index := .standard }
    let node : Schema := { format := some "int32", description := some "kept" }
    let t : TypeExpr := .wildcard (some (.named "Option" [.named "u8" []]))
    let w := walkWithin b 3 t node (init b)
    HandsOn b (init b) 2 t (.named "u8" []) ∧ w.type = .named "u8" [] ∧
      w.schema.type = some .integer ∧ w.schema.format = some "uint8" ∧
      w.schema.description = some "kept" := by
  intro b node t w
  have hwraps : b.Wraps "Option" := ⟨by decide +kernel, .inl (by decide +kernel)⟩
  have hchain : HandsOn b (init b) 2 t (.named "u8" []) :=
    .step (visit_wildcard rfl _) (.step (visit_wrapper rfl hwraps _ [] _) (.refl _))
  obtain ⟨⟨hwalk, hfilled⟩, hends, -⟩ :=
    walkWithin_infers b 1 (.named "u8" []) node (init b)
  have hw : w = _ := (hends 2 t hchain).trans hwalk
  have hdescription := (hfilled _).mp rfl ⟨_, fun s => s.description⟩
    (List.mem_of_getElem? (i := 4) rfl)
  rw [hw]
  refine ⟨hchain, by decide +kernel, by decide +kernel, by decide +kernel, hdescription.trans ?_⟩
  decide +kernel

end BuildState
end SchemaGraph
