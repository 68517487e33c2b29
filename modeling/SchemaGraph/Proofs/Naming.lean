import SchemaGraph.Proofs.Reachable

/-! The names of definitions. A name is settled when its definition is found, by the type and by the names of
the definitions found before, and a change of it is reported. -/
namespace SchemaGraph

/-- The name of a definition that asks for `base` after others have theirs: `base` itself, or where that is
taken, `base` with the least number from 2 on, in decimal digits, that makes a free name. -/
inductive Derives (taken : List String) (base : String) : String → Prop
  | plain (h : base ∉ taken) : Derives taken base base
  | numbered (k : Nat) (hbase : base ∈ taken) (hk : 2 ≤ k) (hfree : base ++ toString k ∉ taken)
    (hleast : ∀ j, 2 ≤ j → j < k → base ++ toString j ∈ taken) :
    Derives taken base (base ++ toString k)

namespace Registry

variable {r : Registry} {base : String}

/-- The search for a free number stops at the first. -/
theorem freeSuffix_spec {fuel k j : Nat} (hk : k ≤ j) (hj : j < k + fuel)
    (hfree : r.isTaken (base ++ toString j) = false) :
    ∃ m, r.freeSuffix base fuel k = base ++ toString m ∧ k ≤ m ∧
      r.isTaken (base ++ toString m) = false ∧
      ∀ i, k ≤ i → i < m → r.isTaken (base ++ toString i) = true := by
  induction fuel generalizing k with
  | zero => omega
  | succ fuel ih =>
    unfold freeSuffix
    by_cases hk' : r.isTaken (base ++ toString k) = true
    · have hne : k ≠ j := by
        rintro rfl
        rw [hfree] at hk'
        cases hk'
      obtain ⟨m, hm, hle, hfree', hleast⟩ := ih (k := k + 1) (by omega) (by omega)
      rw [if_pos hk']
      refine ⟨m, hm, by omega, hfree', fun i hi him => ?_⟩
      by_cases hik : i = k
      · rwa [hik]
      · exact hleast i (by omega) him
    · rw [if_neg hk']
      exact ⟨k, rfl, Nat.le_refl k, Bool.eq_false_iff.mpr hk', fun i hi him => by omega⟩

theorem derives_freeName (r : Registry) (base : String) :
    Derives (r.entries.map Entry.name) base (r.freeName base) := by
  unfold freeName
  by_cases hbase : r.isTaken base = true
  · obtain ⟨j, hj, hlt, hfree⟩ := exists_free hbase
    obtain ⟨k, hk, hle, hfree', hleast⟩ := freeSuffix_spec hj hlt hfree
    rw [if_pos hbase, hk]
    apply Derives.numbered k (isTaken_iff.mp hbase) hle
    · intro hmem
      rw [isTaken_iff.mpr hmem] at hfree'
      cases hfree'
    · exact fun i hi hik => isTaken_iff.mp (hleast i hi hik)
  · rw [if_neg hbase]
    exact .plain (fun hmem => hbase (isTaken_iff.mpr hmem))

end Registry

namespace Diagnostics

variable {ds : Diagnostics} {code : DiagnosticCode} {name signature message : String}

/-- Whether it is reported that the definition with a signature has another name than it asked for. -/
def ReportsRename (ds : Diagnostics) (signature : String) : Prop :=
  ∃ d ∈ ds, d.code = .referenceNameCollision ∧ d.typeName = signature

theorem reportsRename_record :
    (ds.record code name message).ReportsRename signature ↔
      ds.ReportsRename signature ∨ (code = .referenceNameCollision ∧ name = signature) := by
  constructor
  · rintro ⟨d, hd, hcode, hname⟩
    rcases mem_of_mem_record hd with hd | rfl
    · exact .inl ⟨d, hd, hcode, hname⟩
    · exact .inr ⟨hcode, hname⟩
  · rintro (⟨d, hd, hcode, hname⟩ | ⟨rfl, rfl⟩)
    · exact ⟨d, (keeps_record ds code name message).subset hd, hcode, hname⟩
    · obtain ⟨d, hd, hcode, hname, -⟩ := mem_record ds .referenceNameCollision name message
      exact ⟨d, hd, hcode, hname⟩

end Diagnostics

/-- Whether the names of definitions, which are given without their bodies, are derived in their order, and
just the changes of them reported. -/
structure Named (l : List Entry) (ds : Diagnostics) : Prop where
  derived : ∀ id e, l[id]? = some e →
    Derives ((l.take id).map Entry.name) e.type.referenceName e.name
  reported : ∀ e ∈ l, ds.ReportsRename e.signature ↔ e.name ≠ e.type.referenceName
  known : ∀ signature, ds.ReportsRename signature → ∃ e ∈ l, e.signature = signature

namespace Named

variable {l : List Entry} {ds : Diagnostics} {e : Entry}

theorem record (h : Named l ds) {code : DiagnosticCode} (hcode : code ≠ .referenceNameCollision)
    (name message : String) : Named l (ds.record code name message) := by
  have hsame : ∀ signature, (ds.record code name message).ReportsRename signature ↔
      ds.ReportsRename signature := by
    intro signature
    rw [Diagnostics.reportsRename_record]
    exact or_iff_left (fun hnew => hcode hnew.1)
  refine ⟨h.derived, fun e he => ?_, fun signature hreported => ?_⟩
  · rw [hsame]
    exact h.reported e he
  · exact h.known signature ((hsame signature).mp hreported)

theorem derived_append (h : Named l ds)
    (hname : Derives (l.map Entry.name) e.type.referenceName e.name) (id : Nat) (e' : Entry)
    (he' : (l ++ [e])[id]? = some e') :
    Derives (((l ++ [e]).take id).map Entry.name) e'.type.referenceName e'.name := by
  by_cases hid : id < l.length
  · rw [List.getElem?_append_left hid] at he'
    rw [List.take_append_of_le_length (Nat.le_of_lt hid)]
    exact h.derived id e' he'
  · have hlt : id < (l ++ [e]).length := (List.getElem?_eq_some_iff.mp he').1
    have hlast : id = l.length := by
      simp only [List.length_append, List.length_singleton] at hlt
      omega
    subst hlast
    rw [List.getElem?_concat_length] at he'
    obtain rfl := Option.some.inj he'
    rwa [List.take_left']
    rfl

/-- A new definition keeps its name to itself. -/
theorem append_plain (h : Named l ds) (hnew : ∀ e' ∈ l, e'.signature ≠ e.signature)
    (hname : Derives (l.map Entry.name) e.type.referenceName e.name)
    (hplain : e.name = e.type.referenceName) : Named (l ++ [e]) ds where
  derived := h.derived_append hname
  reported e' he' := by
    rcases List.mem_append.mp he' with he' | he'
    · exact h.reported e' he'
    · -- A report under its signature would be about a definition from before.
      obtain rfl := List.mem_singleton.mp he'
      refine iff_of_false (fun hreported => ?_) (not_not_intro hplain)
      obtain ⟨e'', he'', hsame⟩ := h.known _ hreported
      exact hnew e'' he'' hsame
  known signature hreported := by
    obtain ⟨e', he', hsame⟩ := h.known signature hreported
    exact ⟨e', List.mem_append_left _ he', hsame⟩

/-- A new definition that is renamed is reported. -/
theorem append_renamed (h : Named l ds) (hnew : ∀ e' ∈ l, e'.signature ≠ e.signature)
    (hname : Derives (l.map Entry.name) e.type.referenceName e.name)
    (hrenamed : e.name ≠ e.type.referenceName) (message : String) :
    Named (l ++ [e]) (ds.record .referenceNameCollision e.signature message) where
  derived := h.derived_append hname
  reported e' he' := by
    rw [Diagnostics.reportsRename_record]
    rcases List.mem_append.mp he' with he' | he'
    · rw [h.reported e' he']
      exact or_iff_left (fun hsame => hnew e' he' hsame.2.symm)
    · obtain rfl := List.mem_singleton.mp he'
      exact iff_of_true (.inr ⟨rfl, rfl⟩) hrenamed
  known signature hreported := by
    rcases Diagnostics.reportsRename_record.mp hreported with hold | ⟨-, hsame⟩
    · obtain ⟨e', he', hsame⟩ := h.known signature hold
      exact ⟨e', List.mem_append_left _ he', hsame⟩
    · exact ⟨e, by simp, hsame⟩

end Named

namespace BuildState

variable {b : Builder} {s t : BuildState} {ty : TypeExpr} {d : Declaration}

theorem code_ne_collision (why : Refusal) : why.code ≠ .referenceNameCollision := by
  cases why <;> simp [Refusal.code]

theorem named_define (h : Named s.registry.outline s.diagnostics) (hd : Defines b s ty d) :
    Named (s.define (s.resolved b ty) d).2.registry.outline
      (s.define (s.resolved b ty) d).2.diagnostics := by
  have hnew : ∀ e ∈ s.registry.outline, e.signature ≠ (s.newEntry (s.resolved b ty)).signature := by
    intro e he
    obtain ⟨e', he', rfl⟩ := List.mem_map.mp he
    exact Registry.lookup_eq_none_iff.mp hd.fresh e' he'
  have hname : Derives (s.registry.outline.map Entry.name)
      (s.newEntry (s.resolved b ty)).type.referenceName (s.newEntry (s.resolved b ty)).name := by
    have hnames : s.registry.outline.map Entry.name = s.registry.entries.map Entry.name := by
      rw [Registry.outline, List.map_map]
      rfl
    rw [hnames]
    exact Registry.derives_freeName ..
  obtain ⟨message, hdiagnostics⟩ := define_diagnostics (d := d) hd.fresh
  rw [outline_define hd.fresh, hdiagnostics]
  by_cases hplain : s.registry.freeName (s.resolved b ty).referenceName =
      (s.resolved b ty).referenceName
  · rw [if_pos hplain]
    exact h.append_plain hnew hname hplain
  · rw [if_neg hplain]
    exact h.append_renamed hnew hname hplain message

theorem named_undergo (h : Named s.registry.outline s.diagnostics) (e : Effect) :
    Named (s.undergo b e).2.registry.outline (s.undergo b e).2.diagnostics := by
  cases e with
  | nothing => exact h
  | unbound name => exact h.record (by decide) ..
  | tooDeep t => exact h.record (by decide) ..
  | register t =>
    show Named (s.register b t).2.registry.outline (s.register b t).2.diagnostics
    generalize hr : s.register b t = out
    cases hr ▸ registered b t s with
    | refused r why => exact h.record (code_ne_collision why) ..
    | known id hid => exact h
    | defined d hd => exact named_define h hd

/-- Names are derived and their changes reported in every state that a build comes to. -/
theorem Reachable.named (h : Reachable b s) : Named s.registry.outline s.diagnostics := by
  induction h with
  | init =>
    refine ⟨by simp [Registry.outline, BuildState.init],
      by simp [Registry.outline, BuildState.init], ?_⟩
    rintro signature ⟨d, hd, -⟩
    cases hd
  | move _ hm ih =>
    cases hm with
    | effect e => exact named_undergo ih e
    | enter scope => exact ih
  | opened _ _ ih => exact ih
  | closed _ _ _ _ body _ ih =>
    simp only [BuildState.closed, Registry.outline_complete]
    exact ih

/-- Later states have a definition under the name that it got. -/
theorem Course.name (h : Course b s t) {id : Nat} {e : Entry} (he : s.registry.get? id = some e) :
    ∃ e', t.registry.get? id = some e' ∧ e'.type = e.type ∧ e'.name = e.name := by
  obtain ⟨e', he', hsame⟩ := Registry.get?_of_prefix h.outline he
  have htype := congrArg Entry.type hsame
  have hname := congrArg Entry.name hsame
  exact ⟨e', he', htype, hname⟩

/-- Names are derived, stable and reported when altered. In every state that a build comes to, a definition
has the name of its type, or where an earlier definition owns that, the name with the least number that none
of them owns; it keeps this name from then on; and it is reported exactly when it is not the name of its
type. -/
theorem name_derived (h : Reachable b s) {id : Nat} {e : Entry}
    (he : s.registry.get? id = some e) :
    Derives ((s.registry.entries.take id).map Entry.name) e.type.referenceName e.name ∧
      (∀ t, Course b s t →
        ∃ e', t.registry.get? id = some e' ∧ e'.type = e.type ∧ e'.name = e.name) ∧
      ((∃ g ∈ s.diagnostics, g.code = .referenceNameCollision ∧ g.typeName = e.signature) ↔
        e.name ≠ e.type.referenceName) := by
  have hnamed := h.named
  have hget : s.registry.outline[id]? = some e.outline := by
    rw [Registry.outline_getElem?, he]
    rfl
  refine ⟨?_, fun t ht => ht.name he, ?_⟩
  · have hderived := hnamed.derived id e.outline hget
    rw [Registry.outline, ← List.map_take, List.map_map] at hderived
    exact hderived
  · exact hnamed.reported e.outline (List.mem_of_getElem? hget)

/-- A class whose own name is a numbered name of two others. -/
def numberedUsers : Index := twoUsers.insert { name := "User2" }

/-- The second user is not the second, because a class has that name. -/
theorem name_derived_numbered :
    let b : Builder := { index := numberedUsers }
    let s := after b [.register (.named "User2" []), .register (.named "a::User" []),
      .register (.named "b::User" [])]
    Reachable b s ∧ ∃ e, s.registry.get? 2 = some e ∧
      s.registry.entries.map Entry.name = ["User2", "User", "User3"] ∧
      Derives ["User2", "User"] "User" "User3" ∧
      ∃ g ∈ s.diagnostics, g.code = .referenceNameCollision ∧ g.typeName = "b::User" := by
  intro b s
  have h : Reachable b s := reachable_after b _
  have hnames : s.registry.entries.map Entry.name = ["User2", "User", "User3"] := by decide +kernel
  have hget : (s.registry.get? 2).map (fun e => (e.name, e.type, e.signature)) =
      some ("User3", .named "b::User" [], "b::User") := by decide +kernel
  obtain ⟨e, he, hfields⟩ := Option.map_eq_some_iff.mp hget
  obtain ⟨hname, htype, hsignature⟩ : e.name = "User3" ∧ e.type = .named "b::User" [] ∧
      e.signature = "b::User" := by simpa using hfields
  have hbase : e.type.referenceName = "User" := by
    rw [htype]
    decide +kernel
  obtain ⟨hderived, -, hreported⟩ := name_derived h he
  rw [hbase, hname] at hderived hreported
  rw [List.map_take, hnames] at hderived
  rw [hsignature] at hreported
  exact ⟨h, e, he, hnames, hderived, hreported.mpr (by decide)⟩

end BuildState
end SchemaGraph
