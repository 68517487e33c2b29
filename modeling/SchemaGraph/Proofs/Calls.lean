import Mathlib.Logic.Function.Iterate
import SchemaGraph.Document

/-! Sequences of calls on the state of a build, and what holds after all of them. -/
namespace SchemaGraph

/-- A call on the state of a build. -/
inductive Call where
  /-- Walks a type into a node. -/
  | process (type : TypeExpr) (node : Schema)
  /-- Asks for a reference to a type. -/
  | register (type : TypeExpr)
  /-- Expands what is queued. -/
  | drain

namespace BuildState

/-- The state after a call. -/
def perform (b : Builder) (s : BuildState) : Call → BuildState
  | .process t node => (s.walk b t node).state
  | .register t => (s.register b t).2
  | .drain => s.drain b

/-- The state after calls on a fresh one. -/
def after (b : Builder) (calls : List Call) : BuildState := calls.foldl (perform b) (init b)

variable {b : Builder} {s : BuildState}

/-! Draining, step by step. -/

theorem drain_of_isDone (h : s.isDone = true) : s.drain b = s := by
  rw [drain, dif_pos h]

theorem drain_step (h : s.isDone = false) : (s.step b).drain b = s.drain b := by
  rw [drain.eq_def b s, dif_neg (by simp [h])]

/-- A drain is any number of steps after which nothing is queued. -/
theorem drain_eq_iterate_of_isDone {n : Nat} (h : ((step b)^[n] s).isDone = true) :
    s.drain b = (step b)^[n] s := by
  induction n generalizing s with
  | zero => exact drain_of_isDone h
  | succ n ih =>
    rw [Function.iterate_succ_apply] at h ⊢
    cases hd : s.isDone with
    | false => rw [← drain_step hd, ih h]
    | true =>
      have hq : s.worklist.queue = [] := by simpa [isDone] using hd
      have hstep : s.step b = s := by simp [step, Worklist.pop?, hq]
      rw [hstep] at h ⊢
      exact ih h

/-- Induction along a drain, from its end. -/
@[elab_as_elim]
theorem drain_induction {motive : BuildState → Prop} (s : BuildState)
    (done : ∀ s, s.isDone = true → motive s)
    (step : ∀ s, s.isDone = false → motive (s.step b) → motive s) : motive s := by
  induction s using (wellFounded_follows b).induction with
  | _ s ih =>
    cases h : s.isDone with
    | true => exact done s h
    | false => exact step s h (ih _ ⟨h, rfl⟩)

theorem isDone_drain (b : Builder) (s : BuildState) : (s.drain b).isDone = true := by
  induction s using drain_induction (b := b) with
  | done s h => rwa [drain_of_isDone h]
  | step s h ih => rwa [drain_step h] at ih

/-- What every step keeps, a drain keeps. -/
theorem drain_keeps {P : BuildState → Prop}
    (hstep : ∀ s, s.isDone = false → P s → P (s.step b)) (h : P s) : P (s.drain b) := by
  induction s using drain_induction (b := b) with
  | done s hd => rwa [drain_of_isDone hd]
  | step s hd ih =>
    rw [← drain_step hd]
    exact ih (hstep s hd h)

/-- Walks roots as `addRoots` does, if `n` steps are enough for what each of them leads to. -/
def addRootsWithin? (b : Builder) (n : Nat) :
    List TypeExpr → BuildState → Option (List Schema × BuildState)
  | [], s => some ([], s)
  | root :: roots, s =>
    let w := s.walk b root .empty
    let t := (step b)^[n] w.state
    if t.isDone then (addRootsWithin? b n roots t).map (fun r => (w.schema :: r.1, r.2)) else none

/-- What is computed of roots with enough steps holds of them. -/
theorem eq_of_addRootsWithin? {α : Type} {f : List Schema × BuildState → α} {y : α} {n : Nat}
    {roots : List TypeExpr} (h : (s.addRootsWithin? b n roots).map f = some y) :
    f (s.addRoots b roots) = y := by
  induction roots generalizing s f with
  | nil => exact Option.some.inj h
  | cons root roots ih =>
    dsimp only [addRootsWithin?] at h
    split at h
    · rename_i hdone
      rw [Option.map_map] at h
      dsimp only [addRoots, addRoot]
      rw [drain_eq_iterate_of_isDone hdone]
      exact ih h
    · cases h

/-! Whole sequences. -/

theorem Asks.full {P : Scope → TypeExpr → Prop} {t : BuildState} (h : Asks b P s t) :
    Grows b .full s t := h.grows (fun _ _ _ => Vocabulary.covers_full _)

theorem grows_process (b : Builder) (t : TypeExpr) (node : Schema) (s : BuildState) :
    Grows b .full s (s.walk b t node).state :=
  grows_walk (Vocabulary.coversIndex_full _) (Vocabulary.coversScope_full _)
    (Vocabulary.covers_full _) node

theorem grows_register_full (b : Builder) (t : TypeExpr) (s : BuildState) :
    Grows b .full s (s.register b t).2 :=
  grows_register (Vocabulary.coversIndex_full _) (Vocabulary.coversScope_full _)
    (Vocabulary.covers_full _)

theorem grows_step_body (b : Builder) (s : BuildState) (item : WorkItem) (rest : List WorkItem) :
    Grows b .full (s.opened item rest) ((s.opened item rest).expand b item).2 :=
  grows_expand (Vocabulary.coversIndex_full _) (fun e _ => Vocabulary.covers_full e.2)

/-- A step of a drain walks the body of the definition that was queued first, and stores it. -/
theorem step_cases (b : Builder) (h : s.isDone = false) :
    ∃ item rest, s.worklist.queue = item :: rest ∧
      s.step b = s.closed item ((s.opened item rest).expand b item) ∧
      Grows b .full (s.opened item rest) ((s.opened item rest).expand b item).2 := by
  obtain ⟨item, rest, hq⟩ := exists_queue h
  exact ⟨item, rest, hq, step_of_cons hq, grows_step_body b s item rest⟩

/-- What walks and steps keep holds after all sequences of calls. -/
theorem after_induction {P : BuildState → Prop} (hinit : P (init b))
    (hgrows : ∀ s t, Grows b .full s t → P s → P t)
    (hstep : ∀ s, s.isDone = false → P s → P (s.step b)) (calls : List Call) :
    P (after b calls) := by
  have hcall : ∀ s c, P s → P (s.perform b c) := by
    intro s c h
    cases c with
    | process t node => exact hgrows s _ (grows_process b t node s) h
    | register t => exact hgrows s _ (grows_register_full b t s) h
    | drain => exact drain_keeps hstep h
  unfold after
  generalize init b = s at hinit
  induction calls generalizing s with
  | nil => exact hinit
  | cons c calls ih => exact ih _ (hcall s c hinit)

end BuildState

/-! Bodies. -/

namespace Body

open BuildState

theorem descends_true (b : Builder) : Descends b (fun _ _ => True) (fun _ _ _ => True) :=
  ⟨fun _ _ _ _ _ _ _ => trivial, fun _ _ _ _ _ _ _ _ => trivial⟩

theorem grows_addMember (b : Builder) (d : Declaration) (m : Member) (body : Body) :
    Grows b .full body.state (body.addMember b d m).state :=
  (asks_addMember inherited_true trivial).full

theorem grows_addDeclaration (b : Builder) (fuel : Nat) (d : Declaration) (body : Body) :
    Grows b .full body.state (body.addDeclaration b fuel d).state :=
  (asks_addDeclaration inherited_true (descends_true b) fuel trivial).1.full

theorem grows_addSupertype (b : Builder) (fuel : Nat) (supertype : TypeExpr) (body : Body) :
    Grows b .full body.state (body.addSupertype b (addDeclaration b fuel) supertype).state := by
  rcases addSupertype_cases b (addDeclaration b fuel) body supertype with
    heq | ⟨parent, -, -, heq⟩
  · rw [heq]
    exact .refl
  · rw [heq]
    have hdown := grows_addDeclaration b fuel parent
      (body.enter (body.state.scope.resolveDeep supertype) parent)
    exact ((Grows.refl.enter _).trans hdown).enter _

end Body
end SchemaGraph
