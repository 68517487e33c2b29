import SchemaGraph.Proofs.Depth
import SchemaGraph.Proofs.Levels

/-! Walking a type under the bindings of a scope is walking the type with every variable replaced. The one
walk resolves variables where it comes to them and the other has none, so that the only difference is a note
of a variable that nothing binds, as long as the growth of an instantiation is not at issue. -/
namespace SchemaGraph

theorem Schema.nest_nest (s : Schema) (m n : Nat) : (s.nest m).nest n = s.nest (m + n) := by
  induction n with
  | zero => rfl
  | succ n ih => exact congrArg arrayOf ih

theorem TypeExpr.Plain.hasVar {t : TypeExpr} (h : t.Plain) : t.hasVar = false := by
  induction t using inductOn with
  | named n as ih =>
    rw [TypeExpr.hasVar, hasVarArgs_eq_any, List.any_eq_false]
    exact fun a ha => Bool.eq_false_iff.mp (ih a ha (plain_named.mp h a ha))
  | array c d ih => exact ih (plain_array.mp h).2.2
  | var n => exact absurd h (not_plain_var n)
  | wildcard u => exact absurd h (not_plain_wildcard u)
  | any => rfl

namespace Scope

theorem resolveDeep_of_plain (s : Scope) {t : TypeExpr} (h : t.Plain) : s.resolveDeep t = t :=
  TypeExpr.substitute_of_plain h

theorem resolveDeep_resolveDeep (s s' : Scope) (t : TypeExpr) :
    s'.resolveDeep (s.resolveDeep t) = s.resolveDeep t :=
  resolveDeep_of_plain s' (TypeExpr.plain_resolveDeep s t)

end Scope

namespace BuildState

variable {b : Builder} {s : BuildState} {t : TypeExpr}

/-! Registering. -/

/-- Why the registration of a type gives no definition; nothing where it gives one. -/
def refused? (b : Builder) (t : TypeExpr) (s : BuildState) : Option Refusal :=
  let r := s.resolved b t
  match r.baseName?.bind b.index.lookup with
  | none => some .unknown
  | some _ =>
    match s.registry.lookup r.signature with
    | some _ => none
    | none => s.refusal? b t r

theorem refused?_of_unknown (hd : (s.resolved b t).baseName?.bind b.index.lookup = none) :
    s.refused? b t = some .unknown := by
  simp only [refused?, hd]

theorem refused?_of_new {d : Declaration}
    (hd : (s.resolved b t).baseName?.bind b.index.lookup = some d)
    (hnew : s.registry.lookup (s.resolved b t).signature = none) :
    s.refused? b t = s.refusal? b t (s.resolved b t) := by
  simp only [refused?, hd, hnew]

theorem register_of_refused? {why : Refusal} (h : s.refused? b t = some why) :
    s.register b t = s.refuse (s.resolved b t) why := by
  unfold refused? at h
  dsimp only at h
  split at h
  · rename_i hd
    cases h
    exact register_unknown hd
  · rename_i d hd
    split at h
    · cases h
    · rename_i hl
      exact register_refused hd hl h

/-- Only the check of growth asks how a type was written. -/
theorem refusal?_congr {u r : TypeExpr} (hu : u.hasVar = false)
    (hg : (s.refusal? b t r).map Refusal.code ≠ some .growingInstantiation) :
    s.refusal? b u r = s.refusal? b t r := by
  unfold refusal? at hg ⊢
  rw [hu, if_neg Bool.false_ne_true]
  split
  · rfl
  · rename_i hdepth
    rw [if_neg hdepth] at hg
    cases hancestor : (if t.hasVar then s.registry.growingAncestor s.expanding r else none) with
    | none => rfl
    | some ancestor =>
      rw [hancestor] at hg
      exact absurd rfl hg

/-- A registration that is not refused for growth does not depend on how the type was written. -/
theorem register_resolveDeep
    (hg : (s.refused? b t).map Refusal.code ≠ some .growingInstantiation) :
    s.register b (s.scope.resolveDeep t) = s.register b t := by
  have hr : s.resolved b (s.scope.resolveDeep t) = s.resolved b t := by
    rw [resolved, Scope.resolveDeep_resolveDeep, resolved]
  unfold register
  dsimp only
  rw [hr]
  cases hd : (s.resolved b t).baseName?.bind b.index.lookup with
  | none => rfl
  | some d =>
    cases hl : s.registry.lookup (s.resolved b t).signature with
    | some id => rfl
    | none =>
      rw [refused?_of_new hd hl] at hg
      dsimp only
      rw [refusal?_congr (TypeExpr.plain_resolveDeep s.scope t).hasVar hg]

/-- Whether a step of a walk registers the type that it comes to: a declared enumeration, or a class of no
other kind. -/
def registers (b : Builder) : TypeExpr → Bool
  | .named name args =>
    let is := b.index.isA name
    (b.convert? (.named name args)).isNone && (b.terminals.lookup name).isNone &&
      !(is .optional || is .transparent) &&
      if is .enum then (b.index.lookup name).isSome
      else !(is .collection || is .iterable) && !is .map
  | _ => false

/-- Whether nothing that a walk registers is refused for its growth. -/
def Ungrown (b : Builder) (room : Nat) (t : TypeExpr) (s : BuildState) : Prop :=
  ∀ u ∈ descent b room t s, registers b u = true →
    (s.refused? b u).map Refusal.code ≠ some .growingInstantiation

instance (b : Builder) (room : Nat) (t : TypeExpr) (s : BuildState) :
    Decidable (Ungrown b room t s) :=
  inferInstanceAs (Decidable (∀ u ∈ descent b room t s, _ → _))

end BuildState

/-- What a step of a walk at a type does to the state: nothing, a note, or the registration of this type. -/
inductive Visit.Affects (b : Builder) (t : TypeExpr) (s : BuildState) : Visit → Prop
  | answer (h : BuildState.registers b t = false) (stands : TypeExpr) (schema : Schema) :
    Affects b t s (.answer stands schema s)
  | note (h : BuildState.registers b t = false) (stands : TypeExpr) (schema : Schema)
    (name message : String) :
    Affects b t s (.answer stands schema (s.record .unresolvedVariable name message))
  | register (h : BuildState.registers b t = true) (stands : TypeExpr) (schema : Schema) :
    Affects b t s (.answer stands schema (s.register b t).2)
  | pass (h : BuildState.registers b t = false) (u : TypeExpr) : Affects b t s (.pass u)
  | wrap (h : BuildState.registers b t = false) (u : TypeExpr) (around : Schema → Schema)
    (stands : TypeExpr → TypeExpr) : Affects b t s (.wrap u around stands)

/-- Whether two steps from one scope do the same, where the second one goes on with the meaning of the
argument that the first one goes on with. -/
inductive Visit.Resolves (scope : Scope) (args : List TypeExpr) : Visit → Visit → Prop
  | answer (stands stands' : TypeExpr) (schema : Schema) (s : BuildState) :
    Resolves scope args (.answer stands schema s) (.answer stands' schema s)
  | pass {a : TypeExpr} (ha : a ∈ args) :
    Resolves scope args (.pass a) (.pass (scope.resolveDeep a))
  | wrap {a : TypeExpr} (ha : a ∈ args) (around : Schema → Schema)
    (stands stands' : TypeExpr → TypeExpr) :
    Resolves scope args (.wrap a around stands) (.wrap (scope.resolveDeep a) around stands')

/-- Whether two walks write the same schema and leave the same state, but for the note of a variable that
nothing binds in the first. -/
structure Walked.Agrees (w w' : Walked) : Prop where
  schema : w.schema = w'.schema
  state : w.state = w'.state ∨
    ∃ name message, w.state = w'.state.record .unresolvedVariable name message

namespace BuildState

variable {b : Builder} {s : BuildState} {t : TypeExpr} {room room' : Nat}

/-! Steps. -/

theorem affects_visitNamed (name : String) (args : List TypeExpr)
    (hconvert : b.convert? (.named name args) = none) :
    (visitNamed b name args s).Affects b (.named name args) s := by
  have hr : registers b (.named name args) =
      ((b.terminals.lookup name).isNone &&
        !(b.index.isA name .optional || b.index.isA name .transparent) &&
        if b.index.isA name .enum then (b.index.lookup name).isSome
        else !(b.index.isA name .collection || b.index.isA name .iterable) &&
          !b.index.isA name .map) := by
    simp only [registers, hconvert, Option.isNone_none, Bool.true_and]
  dsimp only [visitNamed]
  cases hterminal : b.terminals.lookup name with
  | some terminal => exact .answer (by simp [hr, hterminal]) ..
  | none =>
    dsimp only
    split
    · rename_i hwrapper
      have hnot : registers b (.named name args) = false := by simp [hr, hwrapper]
      cases args with
      | nil => exact .answer hnot ..
      | cons a as => exact .pass hnot a
    · rename_i hwrapper
      split
      · rename_i henum
        unfold visitEnum
        cases hl : b.index.lookup name with
        | none => exact .answer (by simp [hr, henum, hl]) ..
        | some d => exact .register (by simp [hr, hterminal, hwrapper, henum, hl]) ..
      · rename_i henum
        split
        · rename_i hcollection
          have hnot : registers b (.named name args) = false := by simp [hr, henum, hcollection]
          cases args with
          | nil => exact .answer hnot ..
          | cons a as => exact .wrap hnot ..
        · rename_i hcollection
          split
          · rename_i hmap
            have hnot : registers b (.named name args) = false := by simp [hr, henum, hmap]
            unfold visitMap
            split
            · exact .wrap hnot ..
            · exact .answer hnot ..
          · rename_i hmap
            exact .register (by simp [hr, hterminal, hwrapper, henum, hcollection, hmap]) ..

theorem affects_visit (b : Builder) (t : TypeExpr) (s : BuildState) :
    (visit b t s).Affects b t s := by
  unfold visit
  split
  · rename_i schema hconvert
    refine .answer ?_ ..
    cases t with
    | named name args => simp [registers, hconvert]
    | _ => rfl
  · rename_i hconvert
    cases t with
    | named name args => exact affects_visitNamed name args hconvert
    | array c d => exact .wrap rfl ..
    | var name =>
      dsimp only
      split
      · exact .note rfl ..
      · exact .pass rfl _
    | wildcard u => exact .pass rfl _
    | any => exact .answer rfl ..

theorem resolves_visitCollection (name : String) (args : List TypeExpr) (stands stands' : TypeExpr) :
    Visit.Resolves s.scope args (visitCollection b name args stands s)
      (visitCollection b name (args.map s.scope.resolveDeep) stands' s) := by
  cases args with
  | nil => exact .answer ..
  | cons a as => exact .wrap (List.mem_cons_self ..) ..

theorem resolves_visitMap (args : List TypeExpr) (stands stands' : TypeExpr) :
    Visit.Resolves s.scope args (visitMap args stands s)
      (visitMap (args.map s.scope.resolveDeep) stands' s) := by
  cases args with
  | nil => exact .answer ..
  | cons a as =>
    cases as with
    | nil => exact .answer ..
    | cons v as => exact .wrap (by simp) ..

/-- The kind of a named type is that of its name, so that its arguments may be replaced. -/
theorem resolves_visitNamed (hb : b.converters = []) {name : String} {args : List TypeExpr}
    (hg : registers b (.named name args) = true →
      (s.refused? b (.named name args)).map Refusal.code ≠ some .growingInstantiation) :
    Visit.Resolves s.scope args (visitNamed b name args s)
      (visitNamed b name (args.map s.scope.resolveDeep) s) := by
  have hregister : registers b (.named name args) = true →
      s.register b (.named name (args.map s.scope.resolveDeep)) =
        s.register b (.named name args) := by
    intro h
    rw [← Scope.resolveDeep_named]
    exact register_resolveDeep (hg h)
  simp only [registers, Builder.convert?_of_nil hb, Option.isNone_none, Bool.true_and] at hregister
  dsimp only [visitNamed]
  cases hterminal : b.terminals.lookup name with
  | some terminal => exact .answer ..
  | none =>
    dsimp only
    split
    · cases args with
      | nil => exact .answer ..
      | cons a as => exact .pass (List.mem_cons_self ..)
    · rename_i hwrapper
      split
      · rename_i henum
        unfold visitEnum
        cases hl : b.index.lookup name with
        | none => exact .answer ..
        | some d =>
          dsimp only
          rw [hregister (by simp [hterminal, hwrapper, henum, hl])]
          exact .answer ..
      · rename_i henum
        split
        · exact resolves_visitCollection ..
        · rename_i hcollection
          split
          · exact resolves_visitMap ..
          · rename_i hmap
            unfold visitClass
            rw [hregister (by simp [hterminal, hwrapper, henum, hcollection, hmap])]
            exact .answer ..

/-! Walks. -/

/-- What a walk can do to the state, where `ts` are the types that it comes to. -/
inductive Changes (b : Builder) (ts : List TypeExpr) (s : BuildState) : BuildState → Prop
  | nothing : Changes b ts s s
  | note (name message : String) :
    Changes b ts s (s.record .unresolvedVariable name message)
  | register {u : TypeExpr} (hu : u ∈ ts) (hr : registers b u = true) :
    Changes b ts s (s.register b u).2

theorem Changes.mono {ts ts' : List TypeExpr} {s' : BuildState} (h : Changes b ts s s')
    (hts : ts ⊆ ts') : Changes b ts' s s' := by
  cases h with
  | nothing => exact .nothing
  | note name message => exact .note name message
  | register hu hr => exact .register (hts hu) hr

theorem Ungrown.head (h : Ungrown b (room + 1) t s) (hr : registers b t = true) :
    (s.refused? b t).map Refusal.code ≠ some .growingInstantiation :=
  h t (List.mem_cons_self ..) hr

theorem Ungrown.pass {u : TypeExpr} (h : Ungrown b (room + 1) t s) (hv : visit b t s = .pass u) :
    Ungrown b room u s :=
  fun v hmem => h v (by
    rw [descent, hv]
    exact List.mem_cons_of_mem t hmem)

theorem Ungrown.wrap {u : TypeExpr} {around : Schema → Schema} {f : TypeExpr → TypeExpr}
    (h : Ungrown b (room + 1) t s) (hv : visit b t s = .wrap u around f) : Ungrown b room u s :=
  fun v hmem => h v (by
    rw [descent, hv]
    exact List.mem_cons_of_mem t hmem)

/-- A walk that ends notes a variable, or registers one type that it comes to, or does nothing. -/
theorem Ends.changes (h : Ends b room t s) (node : Schema) :
    Changes b (descent b room t s) s (walkWithin b room t node s).state := by
  induction room generalizing t node with
  | zero => exact absurd h (not_ends_zero b t s)
  | succ room ih =>
    have hstep := affects_visit b t s
    generalize hv : visit b t s = step at hstep
    cases hstep with
    | answer hr stands schema =>
      rw [walkWithin_answer hv]
      exact .nothing
    | note hr stands schema name message =>
      rw [walkWithin_answer hv]
      exact .note name message
    | register hr stands schema =>
      rw [walkWithin_answer hv]
      exact .register (List.mem_cons_self ..) hr
    | pass hr u =>
      rw [walkWithin_pass hv, descent, hv]
      exact (ih ((ends_pass hv).mp h) node).mono (List.subset_cons_self ..)
    | wrap hr u around stands =>
      rw [walkWithin_wrap hv, descent, hv]
      exact (ih ((ends_wrap hv).mp h) .empty).mono (List.subset_cons_self ..)

/-- Walking an array, collapsed or without dimensions, is walking its component. -/
theorem walkWithin_arrayOf (hb : b.converters = []) {c : TypeExpr} {d : Nat}
    (h : Ends b room (c.arrayOf d) s) (node : Schema) :
    ∃ room', Ends b room' c s ∧
      (walkWithin b room (c.arrayOf d) node s).schema =
        node.overlay ((walkWithin b room' c .empty s).schema.nest d) ∧
      (walkWithin b room (c.arrayOf d) node s).state = (walkWithin b room' c .empty s).state := by
  by_cases hd : d = 0
  · subst hd
    have hnone : c.arrayOf 0 = c := rfl
    rw [hnone] at h ⊢
    rw [walkWithin_node b room c node s]
    exact ⟨room, h, rfl, rfl⟩
  · have hpos : 0 < d := Nat.pos_of_ne_zero hd
    obtain ⟨room, rfl⟩ := h.exists_succ
    cases hc : c.isArray with
    | false =>
      have hv := visit_array (s := s) hb c d
      rw [TypeExpr.arrayOf_of_isArray hc hpos] at h ⊢
      rw [walkWithin_wrap hv]
      exact ⟨room, (ends_wrap hv).mp h, rfl, rfl⟩
    | true =>
      cases c with
      | array inner n =>
        have hcollapse : (TypeExpr.array inner n).arrayOf d = .array inner (n + d) := by
          simp only [TypeExpr.arrayOf, if_neg hd]
        have hv := visit_array (s := s) hb inner (n + d)
        have hinner := visit_array (s := s) hb inner n
        rw [hcollapse] at h ⊢
        refine ⟨room + 1, (ends_wrap hinner).mpr ((ends_wrap hv).mp h), ?_, ?_⟩
        · rw [walkWithin_wrap hv, walkWithin_wrap hinner, Schema.empty_overlay, Schema.nest_nest]
        · rw [walkWithin_wrap hv, walkWithin_wrap hinner]
      | _ => cases hc

/-- The walk of a type under bindings agrees with that of the type that it means, also where the two have
different levels left. -/
theorem agrees_walkWithin (hb : b.converters = []) (node : Schema) (h : Ends b room t s)
    (h' : Ends b room' (s.scope.resolveDeep t) s) (hg : Ungrown b room t s) :
    (walkWithin b room t node s).Agrees (walkWithin b room' (s.scope.resolveDeep t) node s) := by
  induction t using TypeExpr.inductOn generalizing room room' node with
  | named name args ih =>
    obtain ⟨room, rfl⟩ := h.exists_succ
    obtain ⟨room', rfl⟩ := h'.exists_succ
    rw [Scope.resolveDeep_named] at h' ⊢
    have hstep := resolves_visitNamed hb hg.head
    rw [← visit_named hb, ← visit_named hb] at hstep
    generalize hv : visit b (.named name args) s = step at hstep
    generalize hv' : visit b (.named name (args.map s.scope.resolveDeep)) s = step' at hstep
    cases hstep with
    | answer stands stands' schema t =>
      rw [walkWithin_answer hv, walkWithin_answer hv']
      exact ⟨rfl, .inl rfl⟩
    | @pass a ha =>
      rw [walkWithin_pass hv, walkWithin_pass hv']
      exact ih a ha node ((ends_pass hv).mp h) ((ends_pass hv').mp h') (hg.pass hv)
    | @wrap a ha around stands stands' =>
      have hinner := ih a ha .empty ((ends_wrap hv).mp h) ((ends_wrap hv').mp h') (hg.wrap hv)
      rw [walkWithin_wrap hv, walkWithin_wrap hv']
      exact ⟨congrArg (fun inner => node.overlay (around inner)) hinner.schema, hinner.state⟩
  | array c d ih =>
    have hv := visit_array (s := s) hb c d
    obtain ⟨room, rfl⟩ := h.exists_succ
    rw [Scope.resolveDeep_array] at h' ⊢
    obtain ⟨below, hends, hschema, hstate⟩ := walkWithin_arrayOf hb h' node
    have hinner := ih .empty ((ends_wrap hv).mp h) hends (hg.wrap hv)
    rw [walkWithin_wrap hv]
    constructor
    · rw [hschema, hinner.schema]
    · rw [hstate]
      exact hinner.state
  | var name =>
    obtain ⟨room, rfl⟩ := h.exists_succ
    have hv := visit_var (s := s) hb name
    have hresolved : s.scope.resolveDeep (.var name) = s.scope.meaning name := rfl
    rw [hresolved] at h' ⊢
    by_cases hany : s.scope.meaning name = .any
    · -- Only here the two walks do different things.
      obtain ⟨room', rfl⟩ := h'.exists_succ
      rw [if_pos hany] at hv
      rw [hany, walkWithin_answer hv, walkWithin_answer (visit_any hb)]
      exact ⟨rfl, .inr ⟨_, _, rfl⟩⟩
    · rw [if_neg hany] at hv
      rw [walkWithin_pass hv, ((ends_pass hv).mp h).walkWithin_congr h' node]
      exact ⟨rfl, .inl rfl⟩
  | wildcard u =>
    obtain ⟨room, rfl⟩ := h.exists_succ
    have hv := visit_wildcard (s := s) hb u
    rw [walkWithin_pass hv, ((ends_pass hv).mp h).walkWithin_congr h' node]
    exact ⟨rfl, .inl rfl⟩
  | any =>
    have hresolved : s.scope.resolveDeep .any = .any := rfl
    rw [hresolved] at h' ⊢
    rw [h.walkWithin_congr h' node]
    exact ⟨rfl, .inl rfl⟩

/-- Walking under bindings is walking the type that they make. From one state, with any levels left and into
any node, the walks of a type and of the type with every variable and wildcard replaced write the same
schema and leave the same definitions and the same queue, where the limit stops neither and what the first
one registers is not refused for its growth. The diagnostics are the same too, but for a note of the
first that nothing binds a variable. -/
theorem walk_resolveDeep (hb : b.converters = []) (node : Schema) (h : Ends b room t s)
    (h' : Ends b room (s.scope.resolveDeep t) s) (hg : Ungrown b room t s) :
    let w := walkWithin b room t node s
    let w' := walkWithin b room (s.scope.resolveDeep t) node s
    w.schema = w'.schema ∧ w.state.registry = w'.state.registry ∧
      w.state.worklist = w'.state.worklist ∧
      (w.state.diagnostics = w'.state.diagnostics ∨
        ∃ name message, w.state.diagnostics =
          w'.state.diagnostics.record .unresolvedVariable name message) := by
  intro w w'
  obtain ⟨hschema, hsame | ⟨name, message, hnote⟩⟩ := agrees_walkWithin hb node h h' hg
  · have hstate : w.state = w'.state := hsame
    rw [hstate]
    exact ⟨hschema, rfl, rfl, .inl rfl⟩
  · have hstate : w.state = w'.state.record .unresolvedVariable name message := hnote
    rw [hstate]
    exact ⟨hschema, rfl, rfl, .inr ⟨name, message, rfl⟩⟩

/-- Pages of any items. -/
def pages : Index := Index.standard.insert { name := "Page", params := [{ name := "T" }] }

/-- A wildcard below arrays of arrays, whose bound is a page of what a variable means, and that is an
array itself. -/
theorem walk_resolveDeep_page :
    let b : Builder := { index := pages }
    let s : BuildState :=
      { init b with scope := [{ bindings := [("T", .array (.named "u8" []) 1)] }] }
    let node : Schema := { description := some "kept" }
    let page : TypeExpr := .wildcard (some (.named "Page" [.array (.var "T") 1]))
    let t : TypeExpr := .named "Option" [.array (.array (.array page 0) 1) 2]
    b.converters = [] ∧
      s.scope.resolveDeep t =
        .named "Option" [.array (.named "Page" [.array (.named "u8" []) 2]) 3] ∧
      Ends b 9 t s ∧ Ends b 9 (s.scope.resolveDeep t) s ∧ Ungrown b 9 t s ∧
      (walkWithin b 9 t node s).schema = (walkWithin b 9 (s.scope.resolveDeep t) node s).schema ∧
      (walkWithin b 9 t node s).state.registry.entries.map Entry.name = ["PageU8Array"] := by
  intro b s node page t
  have h : Ends b 9 t s := by decide +kernel
  have h' : Ends b 9 (s.scope.resolveDeep t) s := by decide +kernel
  have hg : Ungrown b 9 t s := by decide +kernel
  exact ⟨rfl, by decide +kernel, h, h', hg, (walk_resolveDeep rfl node h h' hg).1,
    by decide +kernel⟩

end BuildState
end SchemaGraph
