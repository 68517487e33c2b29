import SchemaGraph.Proofs.Binding
import SchemaGraph.Proofs.CallStack
import SchemaGraph.Proofs.Spelling

/-! A walk does one thing to the state at most: it notes a diagnostic, or it registers one type. Which of
them is settled by the scope alone, so that the same walk, taken again, has nothing left to do. -/
namespace SchemaGraph

/-- What a walk does to the state in the end. -/
inductive Effect where
  | nothing
  /-- A variable has no binding. -/
  | unbound (name : String)
  /-- A type stands too deep for the walk to enter it. -/
  | tooDeep (type : TypeExpr)
  | register (type : TypeExpr)

namespace BuildState

variable {b : Builder} {s : BuildState} {r t : TypeExpr} {d : Declaration}

/-- The state after an effect, with the schema that a registration gives. -/
def undergo (b : Builder) (s : BuildState) : Effect → Schema × BuildState
  | .nothing => (.empty, s)
  | .unbound name =>
    (.empty, s.record .unresolvedVariable name
      "no binding or bound in scope, emitted as an opaque object")
  | .tooDeep t =>
    (.empty, s.record .nestingLimitReached t.signature (nestingMessage b.options.maxNesting))
  | .register t => s.register b t

/-- What a walk keeps of a state: the scope, the definition that is expanded, and in their places the
diagnostics, the definitions and the queue, which get one new definition together or none. -/
structure Extended (s t : BuildState) : Prop where
  scope : t.scope = s.scope
  expanding : t.expanding = s.expanding
  diagnostics : s.diagnostics <+: t.diagnostics
  added : (t.registry = s.registry ∧ t.worklist = s.worklist) ∨
    ∃ (e : Entry) (i : WorkItem),
      t.registry = { s.registry with entries := s.registry.entries ++ [e] } ∧
      t.worklist = s.worklist.push i ∧ i.target = s.registry.size ∧ i.type = e.type

theorem extended_refl (s : BuildState) : Extended s s := ⟨rfl, rfl, List.prefix_rfl, .inl ⟨rfl, rfl⟩⟩

theorem extended_record (s : BuildState) (code : DiagnosticCode) (name message : String) :
    Extended s (s.record code name message) :=
  ⟨rfl, rfl, Diagnostics.keeps_record .., .inl ⟨rfl, rfl⟩⟩

theorem extended_define (hnew : s.registry.lookup r.signature = none) :
    Extended s (s.define r d).2 where
  scope := define_scope
  expanding := define_expanding
  diagnostics := by
    obtain ⟨m, hm⟩ := define_diagnostics (d := d) hnew
    rw [hm]
    split
    · exact List.prefix_rfl
    · exact Diagnostics.keeps_record ..
  added := .inr ⟨s.newEntry r, s.newItem r d, define_registry hnew, define_worklist hnew, rfl, rfl⟩

theorem extended_undergo (b : Builder) (s : BuildState) (e : Effect) :
    Extended s (s.undergo b e).2 := by
  cases e with
  | nothing => exact extended_refl s
  | unbound name => exact extended_record s ..
  | tooDeep t => exact extended_record s ..
  | register t =>
    show Extended s (s.register b t).2
    generalize hr : s.register b t = out
    cases hr ▸ registered b t s with
    | refused r why => exact extended_record s ..
    | known id hid => exact extended_refl s
    | defined d hd => exact extended_define hd.fresh

theorem record_record (code : DiagnosticCode) (name message : String) :
    (s.record code name message).record code name message = s.record code name message := by
  obtain ⟨d, hd, hcode, hname, -⟩ := Diagnostics.mem_record s.diagnostics code name message
  have hsame := Diagnostics.record_of_mem hd message
  rw [hcode, hname] at hsame
  unfold BuildState.record
  rw [hsame]

/-- A registration that is not refused finds a definition or makes one. -/
theorem known_or_defines (h : s.refused? b t = none) :
    (∃ d id, (s.resolved b t).baseName?.bind b.index.lookup = some d ∧
      s.registry.lookup (s.resolved b t).signature = some id) ∨ ∃ d, Defines b s t d := by
  unfold refused? at h
  dsimp only at h
  split at h
  · cases h
  · rename_i d hd
    split at h
    · rename_i id hid
      exact .inl ⟨d, id, hd, hid⟩
    · rename_i hnew
      exact .inr ⟨d, hd, hnew, h⟩

/-- It answers with a reference to the definition of the type. -/
theorem found_of_refused? (h : s.refused? b t = none) :
    Found b (s.register b t).2 (s.resolved b t) (s.register b t).1 := by
  rcases known_or_defines h with ⟨d, id, hd, hid⟩ | ⟨d, hd⟩
  · rw [register_known hd hid]
    exact ⟨⟨d, hd⟩, id, hid, rfl⟩
  · rw [register_defines hd]
    exact ⟨⟨d, hd.declared⟩, s.registry.size, lookup_define hd.fresh d, (define_schema hd.fresh).symm⟩

/-- Registering a type again gives the same schema and does nothing. -/
theorem register_register (b : Builder) (t : TypeExpr) (s : BuildState) :
    (s.register b t).2.register b t = s.register b t := by
  cases hwhy : s.refused? b t with
  | some why =>
    have hagain : (s.refuse (s.resolved b t) why).2.refused? b t = some why := hwhy
    rw [register_of_refused? hwhy, register_of_refused? hagain]
    exact congrArg (Prod.mk opaqueObject) (record_record ..)
  | none =>
    have hsame : (s.register b t).2.resolved b t = s.resolved b t := by
      rw [resolved, register_scope, resolved]
    have hfound := found_of_refused? hwhy
    rw [← hsame] at hfound
    exact hfound.register

/-- An effect that has been undergone leaves nothing to do. -/
theorem undergo_undergo (b : Builder) (s : BuildState) (e : Effect) :
    (s.undergo b e).2.undergo b e = s.undergo b e := by
  cases e with
  | nothing => rfl
  | unbound name => exact congrArg (Prod.mk Schema.empty) (record_record ..)
  | tooDeep t => exact congrArg (Prod.mk Schema.empty) (record_record ..)
  | register t => exact register_register b t s

end BuildState

/-- What a step of a walk does in all states of one scope. -/
inductive Visit.Uniform (b : Builder) (scope : Scope) (v : BuildState → Visit) : Prop
  | answer (e : Effect) (stands : TypeExpr) (schema : Schema → Schema)
    (h : ∀ s, s.scope = scope → v s = .answer stands (schema (s.undergo b e).1) (s.undergo b e).2)
  | pass (t : TypeExpr) (h : ∀ s, s.scope = scope → v s = .pass t)
  | wrap (t : TypeExpr) (around : Schema → Schema) (stands : TypeExpr → TypeExpr)
    (h : ∀ s, s.scope = scope → v s = .wrap t around stands)

namespace BuildState

variable {b : Builder} {s : BuildState} {t : TypeExpr} {scope : Scope}

theorem uniform_answer (b : Builder) (scope : Scope) (stands : TypeExpr) (schema : Schema) :
    Visit.Uniform b scope (Visit.answer stands schema) :=
  .answer .nothing stands (fun _ => schema) (fun _ _ => rfl)

theorem uniform_visitEnum (name : String) : Visit.Uniform b scope (visitEnum b t name) := by
  unfold visitEnum
  cases b.index.lookup name with
  | none => exact uniform_answer ..
  | some d => exact .answer (.register t) _ (fun _ => _) (fun _ _ => rfl)

theorem uniform_visitNamed (name : String) (args : List TypeExpr) :
    Visit.Uniform b scope (visitNamed b name args) := by
  let stands := scope.resolveDeep (.named name args)
  unfold visitNamed
  cases b.terminals.lookup name with
  | some terminal => exact uniform_answer ..
  | none =>
    dsimp only
    by_cases hwrapper : (b.index.isA name .optional || b.index.isA name .transparent) = true
    · simp only [if_pos hwrapper]
      cases args with
      | nil => exact uniform_answer ..
      | cons a as => exact .pass a (fun _ _ => rfl)
    simp only [if_neg hwrapper]
    by_cases henum : b.index.isA name .enum = true
    · simp only [if_pos henum]
      exact uniform_visitEnum name
    simp only [if_neg henum]
    by_cases hcollection : (b.index.isA name .collection || b.index.isA name .iterable) = true
    · simp only [if_pos hcollection]
      cases args with
      | nil => exact uniform_answer ..
      | cons a as =>
        refine .wrap a (fun items => { Schema.arrayOf items with
          uniqueItems := if b.index.isA name .set then some true else none }) (fun _ => stands) ?_
        rintro s rfl
        rfl
    simp only [if_neg hcollection]
    by_cases hmap : b.index.isA name .map = true
    · simp only [if_pos hmap]
      cases args with
      | nil => exact uniform_answer ..
      | cons a as =>
        cases as with
        | nil =>
          refine .answer .nothing stands (fun _ => Schema.mapOf .empty) ?_
          rintro s rfl
          rfl
        | cons v as =>
          refine .wrap v Schema.mapOf (fun _ => stands) ?_
          rintro s rfl
          rfl
    · simp only [if_neg hmap]
      refine .answer (.register (.named name args))
        (if args.isEmpty then .named name args else stands) id ?_
      rintro s rfl
      rfl

/-- What a step does depends on the scope. -/
theorem uniform_visit (b : Builder) (t : TypeExpr) (scope : Scope) :
    Visit.Uniform b scope (visit b t) := by
  unfold visit
  cases b.convert? t with
  | some schema => exact uniform_answer ..
  | none =>
    cases t with
    | named name args => exact uniform_visitNamed name args
    | array c d => exact .wrap c _ _ (fun _ _ => rfl)
    | var name =>
      by_cases hany : scope.meaning name = .any
      · let fullName := scopedName { registry := { place := "" }, scope } name
        refine .answer (.unbound fullName) .any (fun _ => opaqueObject) ?_
        rintro s rfl
        simp only [Scope.resolve, hany]
        rfl
      · refine .pass (scope.meaning name) ?_
        rintro s rfl
        simp only [Scope.resolve]
    | wildcard u =>
      refine .pass (TypeExpr.substituteBound scope.meaning u) ?_
      rintro s rfl
      rfl
    | any => exact uniform_answer ..

/-- Within one scope, a walk is one effect on the state, and all else about it is the same for every
state. -/
theorem exists_effect (b : Builder) (room : Nat) (t : TypeExpr) (node : Schema) (scope : Scope) :
    ∃ (e : Effect) (stands : TypeExpr) (schema : Schema → Schema), ∀ s, s.scope = scope →
      walkWithin b room t node s = ⟨stands, schema (s.undergo b e).1, (s.undergo b e).2⟩ := by
  induction room generalizing t node with
  | zero =>
    exact ⟨.tooDeep t, .any, fun _ => node.overlay opaqueObject, fun _ _ => rfl⟩
  | succ room ih =>
    cases uniform_visit b t scope with
    | answer e stands schema h =>
      exact ⟨e, stands, fun inner => node.overlay (schema inner),
        fun s hs => walkWithin_answer (h s hs) node⟩
    | pass u h =>
      obtain ⟨e, stands, schema, hwalk⟩ := ih u node
      exact ⟨e, stands, schema, fun s hs => (walkWithin_pass (h s hs) node).trans (hwalk s hs)⟩
    | wrap u around f h =>
      obtain ⟨e, stands, schema, hwalk⟩ := ih u .empty
      refine ⟨e, f stands, fun inner => node.overlay (around (schema inner)), fun s hs => ?_⟩
      rw [walkWithin_wrap (h s hs), hwalk s hs]

/-- A walk is linear, framed and idempotent. At any depth of nesting and in any state it leaves the scope
and the definition that is expanded as they were, keeps what is registered, queued and noted in its place,
adds one definition and its work item together or neither, and returns at the depth at which it was called;
taken again into the same node, it gives the same type and schema and changes nothing. -/
theorem walk_repeats (b : Builder) (depth : Nat) (t : TypeExpr) (node : Schema) (s : BuildState) :
    let room := b.options.maxNesting - depth
    let w := walkWithin b room t node s
    Extended s w.state ∧ walkWithin b room t node w.state = w ∧
      ∀ waiting, Walking.Reaches b (.call t node s depth waiting) (.result w depth waiting) := by
  intro room w
  obtain ⟨e, stands, schema, hwalk⟩ := exists_effect b room t node s.scope
  have hw : w = ⟨stands, schema (s.undergo b e).1, (s.undergo b e).2⟩ := hwalk s rfl
  have hextended : Extended s w.state := by
    rw [hw]
    exact extended_undergo b s e
  refine ⟨hextended, ?_, fun waiting => ?_⟩
  · rw [hwalk w.state hextended.scope, hw]
    dsimp only
    rw [undergo_undergo]
  · by_cases hdepth : depth ≤ b.options.maxNesting
    · have hroom : room + depth = b.options.maxNesting := Nat.sub_add_cancel hdepth
      exact Walking.reaches_result hroom t node s waiting
    · -- Beyond the limit no level is left, and the call returns at once.
      have hroom : room = 0 := by omega
      have hle : b.options.maxNesting ≤ depth := by omega
      refine .single ?_
      show some _ = some _
      rw [if_pos hle]
      simp only [w, hroom]

end BuildState
end SchemaGraph
