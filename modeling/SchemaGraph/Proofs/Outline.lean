import SchemaGraph.Proofs.WellFormed

/-! A registry is read by its outline: nothing that a build asks of its definitions depends on their
bodies. -/
namespace SchemaGraph

namespace Registry

/-- The registry with its definitions as they were before their bodies were walked. -/
def outlined (r : Registry) : Registry := { r with entries := r.outline }

@[simp] theorem size_outlined (r : Registry) : r.outlined.size = r.size := length_outline r

@[simp] theorem get?_outlined (r : Registry) (id : Nat) :
    r.outlined.get? id = (r.get? id).map Entry.outline := outline_getElem? r id

@[simp] theorem lookup_outlined (r : Registry) (signature : String) :
    r.outlined.lookup signature = r.lookup signature := by
  simp [lookup, outlined, outline, List.findIdx?_map, Function.comp_def, Entry.outline]

@[simp] theorem isTaken_outlined (r : Registry) (name : String) :
    r.outlined.isTaken name = r.isTaken name := by
  simp [isTaken, byName?, outlined, outline, List.find?_map, Function.comp_def, Entry.outline]

theorem freeSuffix_outlined (r : Registry) (base : String) (fuel k : Nat) :
    r.outlined.freeSuffix base fuel k = r.freeSuffix base fuel k := by
  induction fuel generalizing k with
  | zero => rfl
  | succ fuel ih => rw [freeSuffix, freeSuffix, isTaken_outlined, ih]

@[simp] theorem freeName_outlined (r : Registry) (base : String) :
    r.outlined.freeName base = r.freeName base := by
  rw [freeName, freeName, isTaken_outlined, size_outlined, freeSuffix_outlined]

theorem ancestorFrom_outlined (r : Registry) (t : TypeExpr) (fuel : Nat) (start : Option Nat) :
    r.outlined.ancestorFrom t fuel start = (r.ancestorFrom t fuel start).map Entry.outline := by
  induction fuel generalizing start with
  | zero => rfl
  | succ fuel ih =>
    cases start with
    | none => rfl
    | some id =>
      rw [ancestorFrom, ancestorFrom, get?_outlined]
      cases r.get? id with
      | none => rfl
      | some e =>
        have hshallower : shallower t e.outline = shallower t e := rfl
        have hparent : e.outline.parent = e.parent := rfl
        simp only [Option.map_some, hshallower, hparent, ih]
        split <;> rfl

@[simp] theorem growingAncestor_outlined (r : Registry) (start : Option Nat) (t : TypeExpr) :
    r.outlined.growingAncestor start t = r.growingAncestor start t := by
  rw [growingAncestor, growingAncestor, size_outlined, ancestorFrom_outlined, Option.map_map]
  rfl

@[simp] theorem reference_outlined (r : Registry) (id : Nat) :
    r.outlined.reference id = r.reference id := by
  rw [reference, reference, get?_outlined, Option.map_map]
  rfl

theorem outlined_add (r : Registry) (e : Entry) :
    { r with entries := r.entries ++ [e] }.outlined =
      { r.outlined with entries := r.outlined.entries ++ [e.outline] } := by
  simp [outlined, outline]

@[simp] theorem outlined_complete (r : Registry) (id : Nat) (body : Schema) :
    (r.complete id body).outlined = r.outlined := by
  rw [outlined, outline_complete, outlined]
  rfl

end Registry

namespace BuildState

variable {b : Builder} {s : BuildState} {t r : TypeExpr}

/-- The state with the outlines of its definitions. -/
def outlined (s : BuildState) : BuildState := { s with registry := s.registry.outlined }

@[simp] theorem outlined_scope (s : BuildState) : s.outlined.scope = s.scope := rfl

@[simp] theorem outlined_registry (s : BuildState) : s.outlined.registry = s.registry.outlined := rfl

theorem noteCollision_outlined (s : BuildState) (r : TypeExpr) (id : Nat) :
    s.outlined.noteCollision r id = (s.noteCollision r id).outlined := by
  rw [noteCollision, noteCollision, outlined_registry, Registry.get?_outlined]
  cases s.registry.get? id with
  | none => rfl
  | some e =>
    have hname : e.outline.name = e.name := rfl
    simp only [Option.map_some, hname]
    split <;> rfl

theorem define_outlined (h : s.registry.lookup r.signature = none) (d : Declaration) :
    s.outlined.define r d = ((s.define r d).1, (s.define r d).2.outlined) := by
  have hl : s.outlined.registry.lookup r.signature = none := by
    rw [outlined_registry, Registry.lookup_outlined, h]
  have hentry : s.outlined.newEntry r = (s.newEntry r).outline := by
    rw [newEntry, outlined_registry, Registry.freeName_outlined]
    rfl
  have hinsert : s.outlined.registry.insert r.signature r r.referenceName s.expanding =
      (s.registry.size, { s.registry with
        entries := s.registry.entries ++ [s.newEntry r] }.outlined) := by
    rw [Registry.insert_of_fresh hl, Registry.outlined_add, ← hentry, outlined_registry,
      Registry.size_outlined]
    rfl
  have hnote := noteCollision_outlined
    { s with registry := { s.registry with entries := s.registry.entries ++ [s.newEntry r] } } r
    s.registry.size
  have hexpanding : s.outlined.expanding = s.expanding := rfl
  rw [define, define, hexpanding, hinsert, Registry.insert_of_fresh h]
  refine Prod.ext (Registry.reference_outlined ..) ?_
  let item (u : BuildState) : WorkItem :=
    { owner := u.scope.owner?, frame := .ofType r d, type := r, target := s.registry.size }
  exact congrArg (fun u => { u with worklist := u.worklist.push (item u) }) hnote

theorem refusal?_outlined (b : Builder) (s : BuildState) (t r : TypeExpr) :
    s.outlined.refusal? b t r = s.refusal? b t r := by
  simp only [refusal?, outlined_registry, Registry.growingAncestor_outlined, Registry.size_outlined]
  rfl

/-- Registering a type reads no body. -/
theorem register_outlined (b : Builder) (t : TypeExpr) (s : BuildState) :
    s.outlined.register b t = ((s.register b t).1, (s.register b t).2.outlined) := by
  have hr : s.outlined.resolved b t = s.resolved b t := rfl
  dsimp only [register]
  rw [hr, outlined_registry, Registry.lookup_outlined, refusal?_outlined]
  cases (s.resolved b t).baseName?.bind b.index.lookup with
  | none => rfl
  | some d =>
    dsimp only
    cases hid : s.registry.lookup (s.resolved b t).signature with
    | some id => exact Prod.ext (Registry.reference_outlined ..) rfl
    | none =>
      dsimp only
      cases s.refusal? b t (s.resolved b t) with
      | some why => rfl
      | none => exact define_outlined hid d

end BuildState

end SchemaGraph
