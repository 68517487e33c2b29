import SchemaGraph.Proofs.Chart
import SchemaGraph.Proofs.Clean
import SchemaGraph.Proofs.Lockstep

/-! Builds that meet no limit do alike. From two states of one scope an occurrence of a type gets the same
schema and needs the same definitions, whatever else is defined in either. -/
namespace SchemaGraph

open TypeExpr (telling)

namespace BuildState

/-- Whether two states have definitions of the same types beside those of two earlier states. -/
def Alike (s s' t t' : BuildState) : Prop := ∃ more, Adds more s t ∧ Adds more s' t'

/-- Whether what happens from two states can be compared. -/
structure Level (b : Builder) (s s' : BuildState) : Prop where
  left : Faithful b s
  right : Faithful b s'
  scope : s.scope = s'.scope
  covers : telling.CoversScope s.scope

variable {b : Builder} {s s' t t' u u' : BuildState} {ty : TypeExpr}

theorem Alike.refl (s s' : BuildState) : Alike s s' s s' := ⟨[], .refl s, .refl s'⟩

theorem Alike.trans (h : Alike s s' t t') (h' : Alike t t' u u') : Alike s s' u u' := by
  obtain ⟨m, hs, hs'⟩ := h
  obtain ⟨m', ht, ht'⟩ := h'
  exact ⟨m ++ m', hs.trans ht, hs'.trans ht'⟩

theorem Level.resolved (h : Level b s s') (ty : TypeExpr) : s.resolved b ty = s'.resolved b ty := by
  rw [BuildState.resolved, BuildState.resolved, h.scope]

theorem Level.enter (h : Level b s s') {scope : Scope} (hscope : telling.CoversScope scope) :
    Level b { s with scope } { s' with scope } where
  left := ⟨h.left.place, h.left.entries⟩
  right := ⟨h.right.place, h.right.entries⟩
  scope := rfl
  covers := hscope

theorem Level.record (h : Level b s s') (code : DiagnosticCode) (n m : String) :
    Level b (s.record code n m) (s'.record code n m) where
  left := ⟨h.left.place, h.left.entries⟩
  right := ⟨h.right.place, h.right.entries⟩
  scope := h.scope
  covers := h.covers

theorem Level.register (hi : telling.CoversIndex b.index) (h : Level b s s')
    (ht : telling.Covers ty) (hc : (s.register b ty).2.diagnostics.Clean)
    (hc' : (s'.register b ty).2.diagnostics.Clean) :
    (s.register b ty).1 = (s'.register b ty).1 ∧
      Level b (s.register b ty).2 (s'.register b ty).2 ∧
        Alike s s' (s.register b ty).2 (s'.register b ty).2 := by
  have hscope : telling.CoversScope s'.scope := h.scope ▸ h.covers
  have hr : telling.Covers (s.resolved b ty) :=
    Vocabulary.covers_canonicalize hi (Vocabulary.covers_resolveDeep h.covers ht)
  obtain ⟨hlink, hadds⟩ := register_of_clean h.left hr hc
  obtain ⟨hlink', hadds'⟩ := register_of_clean h.right (h.resolved ty ▸ hr) hc'
  rw [← h.resolved ty] at hlink' hadds'
  refine ⟨hlink.trans hlink'.symm, ?_, _, hadds, hadds'⟩
  constructor
  · exact h.left.grows (grows_register hi h.covers ht) hc
  · exact h.right.grows (grows_register hi hscope ht) hc'
  · rw [register_scope, register_scope, h.scope]
  · rw [register_scope]
    exact h.covers

/-- Two runs of one builder go in lockstep as long as no limit is met, and need the same. -/
theorem lockstep_clean (hi : telling.CoversIndex b.index) (s s' : BuildState) :
    Lockstep b b telling (fun t t' => Level b t t' ∧ Alike s s' t t')
      (fun t t' => ¬(t.diagnostics.Clean ∧ t'.diagnostics.Clean)) where
  akin := ⟨b.options.maxDefinitions, rfl⟩
  index := hi
  scope h := ⟨h.1.scope, h.1.covers⟩
  enter h scope hscope := ⟨h.1.enter hscope, h.2⟩
  record h code n m := .inr ⟨h.1.record code n m, h.2⟩
  register {t t'} h ty ht := by
    by_cases hc : (t.register b ty).2.diagnostics.Clean ∧ (t'.register b ty).2.diagnostics.Clean
    · obtain ⟨hschema, hlevel, halike⟩ := h.1.register hi ht hc.1 hc.2
      exact .inr ⟨hschema, hlevel, h.2.trans halike⟩
    · exact .inl hc
  grows hoff hg hg' hc := hoff ⟨hc.1.mono hg.diagnostics, hc.2.mono hg'.diagnostics⟩

/-- From two states of one scope, walks of a type that meet no limit do alike. -/
theorem alike_walk (hi : telling.CoversIndex b.index) (h : Level b s s') (ht : telling.Covers ty)
    (node : Schema) (hc : (s.walk b ty node).state.diagnostics.Clean)
    (hc' : (s'.walk b ty node).state.diagnostics.Clean) :
    (s.walk b ty node).schema = (s'.walk b ty node).schema ∧
      Alike s s' (s.walk b ty node).state (s'.walk b ty node).state := by
  rcases (lockstep_clean hi s s').walk ⟨h, .refl s s'⟩ ht node with hoff | hsame
  · exact absurd ⟨hc, hc'⟩ hoff
  · exact ⟨hsame.schema, hsame.state.2⟩

variable {i i' : WorkItem}

/-- The body of a definition depends on its type alone, and so do the definitions that it needs. -/
theorem alike_expand (hi : telling.CoversIndex b.index) (h : Level b s s') (hframed : i.Framed b)
    (hframed' : i'.Framed b) (htype : i.type = i'.type) (ht : telling.Covers i.type)
    (hc : (s.expand b i).2.diagnostics.Clean) (hc' : (s'.expand b i').2.diagnostics.Clean) :
    (s.expand b i).1 = (s'.expand b i').1 ∧ Alike s s' (s.expand b i).2 (s'.expand b i').2 := by
  rcases (lockstep_clean hi s s').expand ⟨h, .refl s s'⟩ htype
    (hframed.frame_eq hframed' htype) (hframed.covers hi ht) with hoff | ⟨hbody, -, halike⟩
  · exact absurd ⟨hc, hc'⟩ hoff
  · exact ⟨hbody, halike⟩

end BuildState
end SchemaGraph
