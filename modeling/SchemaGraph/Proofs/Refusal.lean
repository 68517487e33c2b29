import SchemaGraph.Proofs.Lineage
import SchemaGraph.Proofs.Reachable

/-! Registrations that give no definition. The reasons for it stand in an order, of which the first one that
applies is reported, and nothing else happens to the build. -/
namespace SchemaGraph

namespace Refusal

/-- The place of a reason in the order in which they are considered. -/
def rank : Refusal → Nat
  | unknown => 0
  | tooDeep _ => 1
  | growing _ => 2
  | tooMany _ => 3

/-- Whether there is this reason not to define a type, whatever else there is: its name is not declared, or
it has no definition yet and one of the three limits forbids one. -/
inductive Applies (b : Builder) (s : BuildState) (t : TypeExpr) : Refusal → Prop
  | unknown (h : (s.resolved b t).baseName?.bind b.index.lookup = none) : Applies b s t .unknown
  | tooDeep (hnew : s.registry.lookup (s.resolved b t).signature = none)
    (h : b.options.maxNesting < (s.resolved b t).depth) :
    Applies b s t (.tooDeep b.options.maxNesting)
  /-- The type is written with variables, and the nearest shallower instantiation of its class on the way
  from the definition that is expanded to its root is this one. -/
  | growing {l : List TypeExpr} {ancestor : TypeExpr}
    (hnew : s.registry.lookup (s.resolved b t).signature = none)
    (hvar : t.hasVar = true) (hparameterized : (s.resolved b t).isParameterized = true)
    (hl : s.registry.Lineage s.expanding l)
    (h : l.find? (s.resolved b t).isShallower = some ancestor) :
    Applies b s t (.growing ancestor)
  | tooMany {limit : Nat} (hnew : s.registry.lookup (s.resolved b t).signature = none)
    (hlimit : b.options.maxDefinitions = some limit) (h : limit ≤ s.registry.size) :
    Applies b s t (.tooMany limit)

/-- Whether a reason is the first that applies. -/
structure First (b : Builder) (s : BuildState) (t : TypeExpr) (why : Refusal) : Prop where
  applies : why.Applies b s t
  least : ∀ other : Refusal, other.Applies b s t → why.rank ≤ other.rank

end Refusal

namespace BuildState

variable {b : Builder} {s : BuildState} {t : TypeExpr} {why : Refusal} {d : Declaration}

/-- The definition that is expanded has its lineage. -/
theorem Sound.exists_lineage (h : Sound b s) : ∃ l, s.registry.Lineage s.expanding l := by
  cases hp : s.expanding with
  | none => exact ⟨[], .root⟩
  | some p =>
    have hsize : p < s.registry.entries.length := h.expanding p hp
    have hget : s.registry.get? p = some s.registry.entries[p] := List.getElem?_eq_getElem hsize
    obtain ⟨l, hl⟩ := Registry.exists_lineage h.parents hget
    exact ⟨_, .entry hget hl⟩

/-- The search for a shallower ancestor, as a search of the lineage. -/
theorem Sound.ancestor_eq_some_iff (h : Sound b s) {r ancestor : TypeExpr} :
    (if t.hasVar then s.registry.growingAncestor s.expanding r else none) = some ancestor ↔
      t.hasVar = true ∧ r.isParameterized = true ∧
        ∃ l, s.registry.Lineage s.expanding l ∧ l.find? r.isShallower = some ancestor := by
  obtain ⟨l, hl⟩ := h.exists_lineage
  have hfind := Registry.growingAncestor_eq_find? h.parents hl r
  have hunique : (∃ l', s.registry.Lineage s.expanding l' ∧
      l'.find? r.isShallower = some ancestor) ↔ l.find? r.isShallower = some ancestor := by
    refine ⟨?_, fun heq => ⟨l, hl, heq⟩⟩
    rintro ⟨l', hl', heq⟩
    rwa [hl.unique hl']
  rw [hunique, hfind]
  cases t.hasVar <;> cases r.isParameterized <;> simp

theorem first_of_unknown (hd : (s.resolved b t).baseName?.bind b.index.lookup = none) :
    Refusal.unknown.First b s t := ⟨.unknown hd, fun _ _ => Nat.zero_le _⟩

/-- The checks of a type without definition are made in the order of the reasons. -/
theorem first_of_refusal? (h : Sound b s)
    (hd : (s.resolved b t).baseName?.bind b.index.lookup = some d)
    (hnew : s.registry.lookup (s.resolved b t).signature = none)
    (hwhy : s.refusal? b t (s.resolved b t) = some why) : why.First b s t := by
  have hdeclared : ¬Refusal.unknown.Applies b s t := by
    intro happlies
    cases happlies with
    | unknown hnone =>
      rw [hd] at hnone
      cases hnone
  unfold refusal? at hwhy
  by_cases hdepth : b.options.maxNesting < (s.resolved b t).depth
  · rw [if_pos hdepth] at hwhy
    cases hwhy
    refine ⟨.tooDeep hnew hdepth, fun other hother => ?_⟩
    cases other with
    | unknown => exact absurd hother hdeclared
    | tooDeep | growing | tooMany => simp [Refusal.rank]
  rw [if_neg hdepth] at hwhy
  have hshallow : ∀ limit, ¬(Refusal.tooDeep limit).Applies b s t := by
    intro limit happlies
    cases happlies with
    | tooDeep _ hdeep => exact hdepth hdeep
  split at hwhy
  · rename_i ancestor hancestor
    cases hwhy
    obtain ⟨hvar, hparameterized, l, hl, hfind⟩ := h.ancestor_eq_some_iff.mp hancestor
    refine ⟨.growing hnew hvar hparameterized hl hfind, fun other hother => ?_⟩
    cases other with
    | unknown => exact absurd hother hdeclared
    | tooDeep limit => exact absurd hother (hshallow limit)
    | growing | tooMany => simp [Refusal.rank]
  · rename_i hsteady
    have hnone : ∀ ancestor, ¬(Refusal.growing ancestor).Applies b s t := by
      intro ancestor happlies
      cases happlies with
      | growing _ hvar hparameterized hl hfind =>
        have hsome := h.ancestor_eq_some_iff.mpr ⟨hvar, hparameterized, _, hl, hfind⟩
        rw [hsteady] at hsome
        cases hsome
    split at hwhy
    · rename_i limit hlimit
      split at hwhy
      · rename_i hfull
        cases hwhy
        refine ⟨.tooMany hnew hlimit hfull, fun other hother => ?_⟩
        cases other with
        | unknown => exact absurd hother hdeclared
        | tooDeep limit => exact absurd hother (hshallow limit)
        | growing ancestor => exact absurd hother (hnone ancestor)
        | tooMany => exact Nat.le_refl _
      · cases hwhy
    · cases hwhy

theorem first_of_refused? (h : Sound b s) (hwhy : s.refused? b t = some why) : why.First b s t := by
  unfold refused? at hwhy
  dsimp only at hwhy
  split at hwhy
  · rename_i hd
    cases hwhy
    exact first_of_unknown hd
  · rename_i d hd
    split at hwhy
    · cases hwhy
    · rename_i hnew
      exact first_of_refusal? h hd hnew hwhy

/-- Where a type is defined, no reason applies. -/
theorem not_applies_of_refused? (h : Sound b s) (hnone : s.refused? b t = none) :
    ¬why.Applies b s t := by
  intro happlies
  cases hd : (s.resolved b t).baseName?.bind b.index.lookup with
  | none =>
    rw [refused?_of_unknown hd] at hnone
    cases hnone
  | some d =>
    have hallowed : s.registry.lookup (s.resolved b t).signature = none →
        s.refusal? b t (s.resolved b t) = none := fun hnew => refused?_of_new hd hnew ▸ hnone
    cases happlies with
    | unknown hunknown =>
      rw [hd] at hunknown
      cases hunknown
    | tooDeep hnew hdeep =>
      have hdepth := (refusal?_eq_none_iff.mp (hallowed hnew)).1
      omega
    | growing hnew hvar hparameterized hl hfind =>
      have hsteady := (refusal?_eq_none_iff.mp (hallowed hnew)).2.1 hvar
      have hancestor := h.ancestor_eq_some_iff.mpr ⟨hvar, hparameterized, _, hl, hfind⟩
      rw [if_pos hvar, hsteady] at hancestor
      cases hancestor
    | tooMany hnew hlimit hfull =>
      have hsize := (refusal?_eq_none_iff.mp (hallowed hnew)).2.2 _ hlimit
      omega

/-- A registration that gives a definition: it answers with exactly the reference to the one definition
that has the signature of the resolved type. -/
structure Referred (b : Builder) (s : BuildState) (t : TypeExpr) (out : Schema × BuildState) : Prop where
  found : ∃ id e, out.2.registry.get? id = some e ∧
    e.signature = (s.resolved b t).signature ∧
    out.1 = .reference (Reference.below out.2.registry.place e.name).pointer
  unique : ∀ id id' e e', out.2.registry.get? id = some e → out.2.registry.get? id' = some e' →
    e.signature = (s.resolved b t).signature → e'.signature = (s.resolved b t).signature → id = id'

/-- A registration that is refused: it answers with an object of which nothing else is said, leaves all but
the diagnostics as it was, and the reason stands in the diagnostics under the text of the resolved type,
since then or from before. -/
structure Degraded (b : Builder) (s : BuildState) (t : TypeExpr) (why : Refusal)
    (out : Schema × BuildState) : Prop where
  schema : out.1 = { type := some .object }
  registry : out.2.registry = s.registry
  worklist : out.2.worklist = s.worklist
  scope : out.2.scope = s.scope
  expanding : out.2.expanding = s.expanding
  diagnostics : s.diagnostics <+: out.2.diagnostics
  noted : ∃ d ∈ out.2.diagnostics, d.code = why.code ∧ d.typeName = (s.resolved b t).signature ∧
    (d ∈ s.diagnostics ∨ d.message = why.message)

theorem degraded_refuse (b : Builder) (s : BuildState) (t : TypeExpr) (why : Refusal) :
    Degraded b s t why (s.refuse (s.resolved b t) why) where
  schema := rfl
  registry := rfl
  worklist := rfl
  scope := rfl
  expanding := rfl
  diagnostics := Diagnostics.keeps_record ..
  noted := Diagnostics.mem_record ..

theorem Found.referred {out : Schema × BuildState} (h : Found b out.2 (s.resolved b t) out.1)
    (hs : Sound b out.2) : Referred b s t out where
  found := by
    obtain ⟨id, hid, hschema⟩ := h.known
    obtain ⟨e, he, hsignature⟩ := Registry.exists_of_lookup hid
    refine ⟨id, e, he, hsignature, ?_⟩
    rw [← hschema, Registry.reference, he]
    rfl
  unique := by
    intro id id' e e' he he' hsame hsame'
    have hid := Registry.lookup_of_nodup hs.signatures he
    have hid' := Registry.lookup_of_nodup hs.signatures he'
    rw [hsame] at hid
    rw [hsame'] at hid'
    exact Option.some.inj (hid.symm.trans hid')

theorem Referred.not_degraded {out : Schema × BuildState} (h : Referred b s t out) :
    ¬Degraded b s t why out := by
  intro hdegraded
  obtain ⟨id, e, -, -, hschema⟩ := h.found
  have href := congrArg (fun schema : Schema => schema.ref) (hschema.symm.trans hdegraded.schema)
  cases href

/-- A registration refers to a definition when no reason against it applies, and is refused for the first one
that does. -/
theorem referred_or_degraded (h : Reachable b s) (t : TypeExpr) :
    (∀ why : Refusal, ¬why.Applies b s t) ∧ Referred b s t (s.register b t) ∨
      ∃ why : Refusal, why.First b s t ∧ Degraded b s t why (s.register b t) := by
  have hsound := h.sound
  cases hwhy : s.refused? b t with
  | none =>
    have hafter : Sound b (s.register b t).2 := hsound.grows (grows_register_full b t s)
    left
    exact ⟨fun _ => not_applies_of_refused? hsound hwhy, (found_of_refused? hwhy).referred hafter⟩
  | some why =>
    right
    refine ⟨why, first_of_refused? hsound hwhy, ?_⟩
    rw [register_of_refused? hwhy]
    exact degraded_refuse b s t why

/-- Degradation is atomic and never silent. In every state that a build comes to, a registration answers with
the reference to the definition of the resolved type, or, exactly where a reason against it applies, it is
refused for the first such reason. A declared type that has its definition is referred to whatever the limits,
and nothing changes. -/
theorem register_refers_or_degrades (h : Reachable b s) (t : TypeExpr) :
    (Referred b s t (s.register b t) ∨
      ∃ why : Refusal, why.First b s t ∧ Degraded b s t why (s.register b t)) ∧
    ((∃ why, Degraded b s t why (s.register b t)) ↔ ∃ why : Refusal, why.Applies b s t) ∧
    ∀ d id, (s.resolved b t).baseName?.bind b.index.lookup = some d →
      s.registry.lookup (s.resolved b t).signature = some id →
        Referred b s t (s.register b t) ∧ s.register b t = (s.registry.reference id, s) := by
  have hcases := referred_or_degraded h t
  refine ⟨hcases.imp_left And.right, ?_, ?_⟩
  · constructor
    · rintro ⟨why, hdegraded⟩
      rcases hcases with ⟨-, hreferred⟩ | ⟨first, hfirst, -⟩
      · exact absurd hdegraded hreferred.not_degraded
      · exact ⟨first, hfirst.applies⟩
    · rintro ⟨why, happlies⟩
      rcases hcases with ⟨hnone, -⟩ | ⟨first, -, hdegraded⟩
      · exact absurd happlies (hnone why)
      · exact ⟨first, hdegraded⟩
  · intro d id hd hid
    have hknown := register_known hd hid
    rw [hknown]
    have hfound : Found b s (s.resolved b t) (s.registry.reference id) := ⟨⟨d, hd⟩, id, hid, rfl⟩
    exact ⟨hfound.referred h.sound, rfl⟩

/-- With one definition allowed, the first user has it and the second is refused. -/
theorem register_refers_or_degrades_users :
    let b : Builder := { index := twoUsers, options := { maxDefinitions := some 1 } }
    let s := after b [.register (.named "a::User" [])]
    Reachable b s ∧ Referred b s (.named "a::User" []) (s.register b (.named "a::User" [])) ∧
      ∃ why, Degraded b s (.named "b::User" []) why (s.register b (.named "b::User" [])) := by
  intro b s
  have h : Reachable b s := reachable_after b _
  have hfull : (Refusal.tooMany 1).Applies b s (.named "b::User" []) :=
    .tooMany (by decide +kernel) rfl (by decide +kernel)
  have hd : (s.resolved b (.named "a::User" [])).baseName?.bind b.index.lookup =
      some { name := "a::User" } := by decide +kernel
  have hid : s.registry.lookup (s.resolved b (.named "a::User" [])).signature = some 0 := by
    decide +kernel
  exact ⟨h, ((register_refers_or_degrades h (.named "a::User" [])).2.2 _ 0 hd hid).1,
    (register_refers_or_degrades h (.named "b::User" [])).2.1.mpr ⟨.tooMany 1, hfull⟩⟩

/-- A class whose name is the text of the type of which nothing is known. -/
def anyClass : Index := Index.standard.insert { name := "any" }

/-- A registered signature alone does not lead to a reference. After the class, the type of which nothing is
known has a registered signature, and is refused because it has no name that could be declared. -/
theorem known_signature_degraded :
    let b : Builder := { index := anyClass }
    let s := after b [.register (.named "any" [])]
    Reachable b s ∧ s.registry.lookup (s.resolved b .any).signature = some 0 ∧
      Degraded b s .any .unknown (s.register b .any) ∧
      ¬Referred b s .any (s.register b .any) := by
  intro b s
  have hd : (s.resolved b .any).baseName?.bind b.index.lookup = none := by decide +kernel
  have hdegraded : Degraded b s .any .unknown (s.register b .any) := by
    rw [register_unknown hd]
    exact degraded_refuse b s .any .unknown
  exact ⟨reachable_after b _, by decide +kernel, hdegraded,
    fun hreferred => hreferred.not_degraded hdegraded⟩

end BuildState
end SchemaGraph
