import SchemaGraph.Overrides.Basic
import SchemaGraph.Terminal

/-! The pointers of references that stand in a node. -/
namespace SchemaGraph

namespace Schema

/-- Whether a pointer is that of a reference in a node: at its top, in its items, in one of its
properties or in the values that it allows besides. -/
inductive Refers (p : String) : Schema → Prop
  | top {s : Schema} (h : s.ref = some p) : Refers p s
  | items {s i : Schema} (hi : s.items = some i) (h : Refers p i) : Refers p s
  | property {s v : Schema} {name : String} {properties : List (String × Schema)}
    (hs : s.properties = some properties) (hv : (name, v) ∈ properties) (h : Refers p v) :
    Refers p s
  | additional {s v : Schema} (hv : s.additionalProperties = some v) (h : Refers p v) : Refers p s

variable {p q : String} {s t : Schema}

/-- Whether a node is no reference and holds no other nodes. -/
def isFlat (s : Schema) : Bool :=
  s.ref.isNone && s.items.isNone && s.properties.isNone && s.additionalProperties.isNone

theorem not_refers_of_isFlat (hs : s.isFlat = true) : ¬s.Refers p := by
  simp only [isFlat, Bool.and_eq_true, Option.isNone_iff_eq_none, and_assoc] at hs
  obtain ⟨href, hitems, hprops, hadd⟩ := hs
  intro h
  cases h with
  | top h => simp [href] at h
  | items hi _ => simp [hitems] at hi
  | property hs _ _ => simp [hprops] at hs
  | additional hv _ => simp [hadd] at hv

theorem refers_reference (h : (reference q).Refers p) : p = q := by
  cases h with
  | top h => exact (Option.some.inj h).symm
  | items hi _ => cases hi
  | property hs _ _ => cases hs
  | additional hv _ => cases hv

/-- Laying a node over another brings no pointers of its own. -/
theorem refers_overlay (h : (s.overlay t).Refers p) : s.Refers p ∨ t.Refers p := by
  cases h with
  | top h =>
    rcases Option.or_eq_some_iff.mp h with h | ⟨-, h⟩
    · exact .inr (.top h)
    · exact .inl (.top h)
  | items hi h =>
    rcases Option.or_eq_some_iff.mp hi with hi | ⟨-, hi⟩
    · exact .inr (.items hi h)
    · exact .inl (.items hi h)
  | property hs hv h =>
    rcases Option.or_eq_some_iff.mp hs with hs | ⟨-, hs⟩
    · exact .inr (.property hs hv h)
    · exact .inl (.property hs hv h)
  | additional hv h =>
    rcases Option.or_eq_some_iff.mp hv with hv | ⟨-, hv⟩
    · exact .inr (.additional hv h)
    · exact .inl (.additional hv h)

theorem refers_arrayOf {unique : Option Bool}
    (h : Refers p { arrayOf s with uniqueItems := unique }) : s.Refers p := by
  cases h with
  | top h => cases h
  | items hi h => exact Option.some.inj hi ▸ h
  | property hs _ _ => cases hs
  | additional hv _ => cases hv

theorem refers_nest {n : Nat} (h : (s.nest n).Refers p) : s.Refers p := by
  induction n with
  | zero => exact h
  | succ n ih => exact ih (refers_arrayOf h)

theorem refers_mapOf (h : (mapOf s).Refers p) : s.Refers p := by
  cases h with
  | top h => cases h
  | items hi _ => cases hi
  | property hs _ _ => cases hs
  | additional hv h => exact Option.some.inj hv ▸ h

theorem refers_object {properties : List (String × Schema)} {required : Option (List String)}
    (h : Refers p { object with properties := some properties, required }) :
    ∃ e ∈ properties, e.2.Refers p := by
  cases h with
  | top h => cases h
  | items hi _ => cases hi
  | property hs hv h => exact ⟨_, Option.some.inj hs ▸ hv, h⟩
  | additional hv _ => cases hv

end Schema

/-- Overrides can take the pointer of a node away, and bring none. -/
theorem Overrides.refers_apply {o : Overrides} {p : String} {s : Schema}
    (h : (o.apply s).Refers p) : s.Refers p := by
  cases h with
  | top h =>
    simp only [apply] at h
    split at h
    · cases h
    · exact .top h
  | items hi h => exact .items hi h
  | property hs hv h => exact .property hs hv h
  | additional hv h => exact .additional hv h

namespace Terminals

theorem isFlat_builtin : ∀ e ∈ builtin.table, e.2.isFlat = true := by
  have hgroups : ∀ g ∈ builtinGroups, g.2.isFlat = true := List.all_eq_true.mp rfl
  intro e he
  obtain ⟨g, hg, hmem⟩ := List.mem_flatMap.mp he
  obtain ⟨n, -, rfl⟩ := List.mem_map.mp hmem
  exact hgroups g hg

/-- The schemas of terminal types are flat, whatever a host declares. -/
theorem isFlat_withExtra {extra : List (String × TerminalSpec)} {name : String} {s : Schema}
    (h : (withExtra extra).lookup name = some s) : s.isFlat = true := by
  have htable : ∀ e ∈ (withExtra extra).table, e.2.isFlat = true := by
    refine List.foldlRecOn (motive := fun t : Terminals => ∀ e ∈ t.table, e.2.isFlat = true)
      extra _ isFlat_builtin (fun t ht e _ x hx => ?_)
    rcases Assoc.mem_put hx with hx | hx
    · exact hx ▸ rfl
    · exact ht x hx
  have hmem : ∃ n, (n, s) ∈ (withExtra extra).table := by
    rcases Option.or_eq_some_iff.mp h with h | ⟨-, h⟩
    · exact ⟨_, Assoc.mem_of_lookup h⟩
    · exact ⟨_, Assoc.mem_of_lookup h⟩
  obtain ⟨n, hn⟩ := hmem
  exact htable (n, s) hn

end Terminals
end SchemaGraph
