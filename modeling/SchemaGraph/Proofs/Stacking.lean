import Mathlib.Data.List.Induction
import SchemaGraph.Build.Expand
import SchemaGraph.Proofs.Attributes
import SchemaGraph.Source.Declared

/-! Layers of overrides, the upper ones over the lower. It does not matter whether they are merged before
they are written onto a node, or written one after the other. -/
namespace SchemaGraph

namespace Overrides

/-! Two layers. -/

theorem merge_assoc (a b c : Overrides) : (a.merge b).merge c = a.merge (b.merge c) := by
  simp only [merge, Option.or_assoc, Bool.or_assoc]

theorem merge_self (a : Overrides) : a.merge a = a := by
  simp only [merge, Option.or_self, Bool.or_self]

theorem empty_merge (a : Overrides) : merge {} a = a := by
  simp only [merge, Option.or_none, Bool.false_or]

theorem merge_empty (a : Overrides) : a.merge {} = a := by
  simp only [merge, Option.none_or, Bool.or_false]

/-- The attributes that a layer writes onto a node. -/
def node (o : Overrides) : Schema where
  type := o.type
  format := o.format
  title := o.title
  description := o.description
  pattern := o.pattern
  example? := o.example?
  defaultValue := o.defaultValue
  minimum := o.minimum
  maximum := o.maximum
  exclusiveMinimum := o.exclusiveMinimum
  exclusiveMaximum := o.exclusiveMaximum
  minLength := o.minLength
  maxLength := o.maxLength
  minItems := o.minItems
  maxItems := o.maxItems
  enumValues := o.allowableValues
  nullable := o.nullable
  readOnly := o.readOnly
  writeOnly := o.writeOnly
  deprecated := o.deprecated

/-- The node without its reference, if a type is written onto it. -/
def unlink (retyped : Bool) (s : Schema) : Schema := if retyped then { s with ref := none } else s

theorem apply_eq_overlay (o : Overrides) (s : Schema) :
    o.apply s = (unlink o.type.isSome s).overlay o.node := by
  cases h : o.type <;> simp [apply, unlink, node, Schema.overlay, h]

theorem node_merge (a b : Overrides) : (a.merge b).node = a.node.overlay b.node := by
  simp [node, merge, Schema.overlay]

theorem unlink_overlay_node (retyped : Bool) (s : Schema) (o : Overrides) :
    unlink retyped (s.overlay o.node) = (unlink retyped s).overlay o.node := by
  cases retyped <;> rfl

theorem unlink_unlink (retyped retyped' : Bool) (s : Schema) :
    unlink retyped' (unlink retyped s) = unlink (retyped || retyped') s := by
  cases retyped <;> cases retyped' <;> rfl

theorem isSome_type_merge (a b : Overrides) :
    (a.merge b).type.isSome = (a.type.isSome || b.type.isSome) := by
  rw [merge, Option.isSome_or, Bool.or_comm]

/-- A merged layer writes what its two layers write one after the other. The type of either takes away the
reference, before or after the other has been written. -/
theorem apply_merge (a b : Overrides) (s : Schema) : (a.merge b).apply s = b.apply (a.apply s) := by
  rw [apply_eq_overlay, apply_eq_overlay b, apply_eq_overlay a, unlink_overlay_node, unlink_unlink,
    Schema.overlay_assoc, isSome_type_merge, node_merge]

theorem apply_empty (s : Schema) : apply {} s = s :=
  (apply_eq_overlay {} s).trans (Schema.overlay_empty s)

/-! Any number of layers. -/

/-- Layers as one, the first of them lowest. -/
def stack (layers : List Overrides) : Overrides := layers.foldl merge {}

/-- The node after layers one by one, the first of them first. -/
def applyAll (layers : List Overrides) (s : Schema) : Schema := layers.foldl (fun s o => o.apply s) s

theorem stack_singleton (o : Overrides) : stack [o] = o := empty_merge o

theorem stack_concat (layers : List Overrides) (o : Overrides) :
    stack (layers ++ [o]) = (stack layers).merge o := by
  rw [stack, List.foldl_append]
  rfl

theorem stack_append (below above : List Overrides) :
    stack (below ++ above) = (stack below).merge (stack above) := by
  induction above using List.reverseRecOn with
  | nil => rw [List.append_nil, stack, stack, List.foldl_nil, merge_empty]
  | append_singleton above o ih =>
    rw [← List.append_assoc, stack_concat, stack_concat, ih, merge_assoc]

theorem apply_stack (layers : List Overrides) (s : Schema) :
    (stack layers).apply s = applyAll layers s := by
  induction layers using List.reverseRecOn with
  | nil => exact apply_empty s
  | append_singleton layers o ih =>
    rw [stack_concat, apply_merge, ih, applyAll, applyAll, List.foldl_append]
    rfl

/-- What is so of two layers as one if it is so of either, is so of layers if it is so of any. -/
theorem stack_any {f : Overrides → Bool} (hempty : f {} = false)
    (hmerge : ∀ a b, f (a.merge b) = (f a || f b)) (layers : List Overrides) :
    f (stack layers) = layers.any f := by
  induction layers using List.reverseRecOn with
  | nil => exact hempty
  | append_singleton layers o ih =>
    rw [stack_concat, hmerge, ih, List.any_append, List.any_cons, List.any_nil, Bool.or_false]

theorem hidden_stack (layers : List Overrides) :
    (stack layers).hidden = layers.any Overrides.hidden :=
  stack_any rfl (fun _ _ => rfl) layers

theorem isSome_type_stack (layers : List Overrides) :
    (stack layers).type.isSome = layers.any (·.type.isSome) :=
  stack_any (f := (·.type.isSome)) rfl isSome_type_merge layers

/-- What layers write of an attribute is what the highest one writes that sets it. -/
theorem get_node_stack {attr : Schema.Attribute} (ha : attr ∈ Schema.attributes)
    (layers : List Overrides) :
    attr.get (stack layers).node = layers.reverse.findSome? (fun o => attr.get o.node) := by
  induction layers using List.reverseRecOn with
  | nil => exact Schema.get_empty attr ha
  | append_singleton layers o ih =>
    rw [stack_concat, node_merge, Schema.get_overlay _ _ attr ha, ih, List.reverse_concat,
      List.findSome?_cons]
    cases attr.get o.node <;> rfl

theorem get_applyAll {attr : Schema.Attribute} (ha : attr ∈ Schema.attributes)
    (layers : List Overrides) (s : Schema) :
    attr.get (applyAll layers s) =
      (layers.reverse.findSome? (fun o => attr.get o.node)).or
        (attr.get (unlink (layers.any (·.type.isSome)) s)) := by
  rw [← apply_stack, apply_eq_overlay, Schema.get_overlay _ _ attr ha, get_node_stack ha,
    isSome_type_stack]

/-! The layers of types and members. -/

theorem mergeOption_eq_merge (o : Overrides) (side : Option Overrides) :
    o.mergeOption side = o.merge (stack side.toList) := by
  cases side with
  | none => exact (merge_empty o).symm
  | some top => rw [Option.toList_some, stack_singleton, mergeOption]

theorem merge_mergeOption (a b : Overrides) (side : Option Overrides) :
    (a.merge b).mergeOption side = stack ([a, b] ++ side.toList) := by
  have hpair : stack [a, b] = (stack [a]).merge b := stack_concat [a] b
  rw [mergeOption_eq_merge, stack_append, hpair, stack_singleton]

/-- Layers compose. Merging is associative and idempotent, and the empty layer is neutral. Layers may be
merged first, in any groups, or written onto a node one after the other: the highest one that sets an
attribute decides it, and the reference goes if any of them sets a type. So it is with the layers of a type
and of a member: the documentation, the attributes, and what the host says. -/
theorem layers_compose (a b c : Overrides) (layers : List Overrides) (s : Schema) :
    ((a.merge b).merge c = a.merge (b.merge c) ∧ a.merge a = a ∧ merge {} a = a ∧
      a.merge {} = a) ∧
    (a.merge b).apply s = b.apply (a.apply s) ∧
    ((stack layers).apply s = applyAll layers s ∧
      (stack layers).hidden = layers.any Overrides.hidden ∧
      (∀ n, stack layers = (stack (layers.take n)).merge (stack (layers.drop n))) ∧
      ∀ attr ∈ Schema.attributes, attr.get (applyAll layers s) =
        (layers.reverse.findSome? (fun o => attr.get o.node)).or
          (attr.get (unlink (layers.any (·.type.isSome)) s))) ∧
    (∀ attributes side, (Source.itemOverrides attributes).mergeOption side =
      stack ([{ description := Source.documentation? attributes }, ofAttributes attributes] ++
        side.toList)) ∧
    ∀ (host : Builder) (d : Declaration) (f : Source.Field) (params : List String)
      (rule : Option String), ∃ rename,
        Body.memberOverrides host d (f.member params rule) =
          stack ([{ rename, description := Source.documentation? f.attributes },
            ofAttributes f.attributes] ++
              (host.overrides.member? d.name (Source.bareName f.name)).toList) := by
  refine ⟨⟨merge_assoc a b c, merge_self a, empty_merge a, merge_empty a⟩, apply_merge a b s,
    ⟨apply_stack layers s, hidden_stack layers, ?_, ?_⟩, ?_, ?_⟩
  · intro n
    rw [← stack_append, List.take_append_drop]
  · intro attr hattr
    exact get_applyAll hattr layers s
  · intro attributes side
    exact merge_mergeOption ..
  · intro host d f params rule
    exact ⟨_, merge_mergeOption ..⟩

/-- A reference that one layer retypes and the layers around it describe. -/
theorem layers_compose_money :
    let s := Schema.reference "#/components/schemas/Money"
    let layers : List Overrides :=
      [{ description := some "Price" }, { type := some .string }, { format := some "decimal" }]
    let t := (stack layers).apply s
    t = applyAll layers s ∧ t.ref = none ∧ t.type = some .string ∧ t.format = some "decimal" ∧
      t.description = some "Price" := by
  intro s layers t
  obtain ⟨-, -, ⟨happly, -, -, hget⟩, -⟩ := layers_compose {} {} {} layers s
  rw [show t = applyAll layers s from happly]
  exact ⟨rfl, hget ⟨_, fun s => s.ref⟩ (List.mem_of_getElem? (i := 0) rfl),
    hget ⟨_, fun s => s.type⟩ (List.mem_of_getElem? (i := 1) rfl),
    hget ⟨_, fun s => s.format⟩ (List.mem_of_getElem? (i := 2) rfl),
    hget ⟨_, fun s => s.description⟩ (List.mem_of_getElem? (i := 4) rfl)⟩

end Overrides
end SchemaGraph
