import Mathlib.Data.List.Forall2
import Mathlib.Data.List.Nodup
import SchemaGraph.Proofs.Shadow

/-! A build of several roots is the union of the builds of the single roots, unless one of them meets a
limit or renames a definition. -/
namespace SchemaGraph

open TypeExpr (telling)

namespace Builder

/-- Whether roots can be built together and each on its own without a limit or a renamed definition. -/
structure Unhindered (b : Builder) (roots : List TypeExpr) : Prop where
  together : (b.buildMany roots).diagnostics.Clean
  alone : ∀ root ∈ roots, (b.build root).diagnostics.Clean

/-- What the build of several roots has to do with the builds of the single ones. -/
structure IsUnion (b : Builder) (roots : List TypeExpr) : Prop where
  /-- Every root has the schema that its own build gives it. -/
  schemas : (b.buildMany roots).roots = roots.map (fun root => (b.build root).root)
  /-- The definitions are those of the builds of the roots, -/
  definitions : ∀ definition, definition ∈ (b.buildMany roots).definitions ↔
    ∃ root ∈ roots, definition ∈ (b.build root).definitions
  /-- which agree on the names that they share. -/
  agree : ∀ root ∈ roots, ∀ root' ∈ roots, ∀ name body body',
    (b.build root).definitions.lookup name = some body →
      (b.build root').definitions.lookup name = some body' → body = body'
  /-- The order of the roots does not matter. -/
  order : ∀ roots', roots'.Perm roots →
    (b.buildMany roots').definitions = (b.buildMany roots).definitions

end Builder

namespace BuildState

variable {b : Builder} {s : BuildState} {roots : List TypeExpr}

/-- The definitions of a settled build are those of its types, each with the body that expanding the type
gives. -/
theorem Settled.mem_definitions (hi : telling.CoversIndex b.index) (h : Settled b s)
    (hd : s.isDone = true) (name : String) (body : Schema) :
    (name, body) ∈ s.registry.definitions ↔
      ∃ ty ∈ s.registry.types, ty.referenceName = name ∧ ∃ P, Expands b P ty body := by
  have hkeys : ((s.registry.entries.map (fun e => (e.name, e.body))).map Prod.fst).Nodup := by
    rw [List.map_map]
    exact h.sound.names
  obtain ⟨items, ho⟩ := h.order
  have hdone := ho.all_completed (queue_eq_nil_of_isDone hd)
  rw [Registry.definitions, (Assoc.perm_sorted hkeys).mem_iff, List.mem_map]
  constructor
  · rintro ⟨e, he, heq⟩
    cases heq
    exact ⟨e.type, List.mem_map_of_mem he, (h.faithful.entries e he).name.symm, _,
      h.expanded e he (hdone e he)⟩
  · rintro ⟨ty, hty, rfl, P, hbody⟩
    obtain ⟨e, he, rfl⟩ := List.mem_map.mp hty
    have hf := h.faithful.entries e he
    have hsame := (h.expanded e he (hdone e he)).unique hi hf.telling hbody
    exact ⟨e, he, by rw [hf.name, hsame]⟩

/-- The types of a settled build fit together. -/
theorem Settled.fits (h : Settled b s) : Fits b s.registry.types where
  names ty hty u hu hname := by
    obtain ⟨e, he, rfl⟩ := List.mem_map.mp hty
    obtain ⟨e', he', rfl⟩ := List.mem_map.mp hu
    rw [← (h.faithful.entries e he).name, ← (h.faithful.entries e' he').name] at hname
    rw [List.inj_on_of_nodup_map h.sound.names he he' hname]
  limit limit hlimit := by
    rw [Registry.types, List.length_map]
    exact h.sound.limit limit hlimit

end BuildState

namespace Builder

open BuildState

variable {b : Builder} {roots : List TypeExpr}

theorem settled_addRoots (hi : telling.CoversIndex b.index)
    (hr : ∀ root ∈ roots, telling.Covers root) (hc : (b.buildMany roots).diagnostics.Clean) :
    Settled b ((init b).addRoots b roots).2 ∧
      List.Forall₂ (Starts b (· ∈ (b.registry roots).types)) roots (b.buildMany roots).roots :=
  (settled_init b).addRoots hi hr hc

theorem mem_definitions_iff (hi : telling.CoversIndex b.index)
    (hr : ∀ root ∈ roots, telling.Covers root) (hc : (b.buildMany roots).diagnostics.Clean)
    (name : String) (body : Schema) :
    (name, body) ∈ (b.buildMany roots).definitions ↔
      ∃ ty ∈ (b.registry roots).types, ty.referenceName = name ∧ ∃ P, Expands b P ty body :=
  (settled_addRoots hi hr hc).1.mem_definitions hi (isDone_addRoots roots rfl) name body

theorem exists_expands (hi : telling.CoversIndex b.index) (hr : ∀ root ∈ roots, telling.Covers root)
    (hc : (b.buildMany roots).diagnostics.Clean) :
    ∀ ty ∈ (b.registry roots).types, ∃ body, Expands b (· ∈ (b.registry roots).types) ty body :=
  (settled_addRoots hi hr hc).1.closed (isDone_addRoots roots rfl)

theorem exists_starts (hi : telling.CoversIndex b.index) (hr : ∀ root ∈ roots, telling.Covers root)
    (hc : (b.buildMany roots).diagnostics.Clean) :
    ∀ root ∈ roots, ∃ schema, Starts b (· ∈ (b.registry roots).types) root schema := by
  have hstarts := (settled_addRoots hi hr hc).2.imp (fun root schema h =>
    And.intro (Exists.intro schema h) h)
  exact ((List.forall₂_and_left _ _).mp hstarts).1

/-- Builds stay within what is closed under references and has the roots' references. -/
theorem types_subset {P : TypeExpr → Prop} (hi : telling.CoversIndex b.index)
    (hr : ∀ root ∈ roots, telling.Covers root) (hc : (b.buildMany roots).diagnostics.Clean)
    (hP : ∀ ty, P ty → ∃ body, Expands b P ty body)
    (hstarts : ∀ root ∈ roots, ∃ schema, Starts b P root schema) :
    ∀ ty ∈ (b.registry roots).types, P ty :=
  (settled_init b).within_addRoots hi hr hP hstarts (by simp [Within, init, Registry.types]) hc

/-- Together, roots lead to the types that they lead to on their own. -/
theorem mem_types_iff (hi : telling.CoversIndex b.index) (hr : ∀ root ∈ roots, telling.Covers root)
    (h : b.Unhindered roots) (ty : TypeExpr) :
    ty ∈ (b.registry roots).types ↔ ∃ root ∈ roots, ty ∈ (b.registry [root]).types := by
  have hr' : ∀ root ∈ roots, ∀ u ∈ [root], telling.Covers u := fun root hroot =>
    List.forall_mem_singleton.mpr (hr root hroot)
  constructor
  · revert ty
    refine types_subset hi hr h.together ?_ ?_
    · rintro ty ⟨root, hroot, hty⟩
      obtain ⟨body, hbody⟩ := exists_expands hi (hr' root hroot) (h.alone root hroot) ty hty
      exact ⟨body, hbody.mono (fun _ hu => ⟨root, hroot, hu⟩)⟩
    · intro root hroot
      obtain ⟨schema, hschema⟩ := exists_starts hi (hr' root hroot) (h.alone root hroot) root
        (List.mem_singleton_self root)
      exact ⟨schema, hschema.mono (fun _ hu => ⟨root, hroot, hu⟩)⟩
  · rintro ⟨root, hroot, hty⟩
    refine types_subset hi (hr' root hroot) (h.alone root hroot) (exists_expands hi hr h.together)
      (fun u hu => ?_) ty hty
    exact exists_starts hi hr h.together u (List.mem_singleton.mp hu ▸ hroot)

theorem schemas_eq (hi : telling.CoversIndex b.index) (hr : ∀ root ∈ roots, telling.Covers root)
    (h : b.Unhindered roots) :
    (b.buildMany roots).roots = roots.map (fun root => (b.build root).root) := by
  have halone : ∀ root ∈ roots, ∃ P, Starts b P root (b.build root).root := by
    intro root hroot
    have hr' : ∀ u ∈ [root], telling.Covers u := List.forall_mem_singleton.mpr (hr root hroot)
    obtain ⟨-, hstarts⟩ := settled_addRoots hi hr' (h.alone root hroot)
    exact ⟨_, (List.forall₂_cons.mp hstarts).1⟩
  have hstarts := (List.forall₂_and_left _ _).mpr ⟨halone, (settled_addRoots hi hr h.together).2⟩
  have hsame := (List.forall₂_and_left _ _).mpr ⟨hr, hstarts⟩
  have heq : List.Forall₂ (fun root schema => (b.build root).root = schema) roots
      (b.buildMany roots).roots :=
    hsame.imp (fun root schema ⟨hcovers, ⟨P, hP⟩, hQ⟩ => hP.unique hi hcovers hQ)
  rw [← List.forall₂_map_left_iff, List.forall₂_eq_eq_eq] at heq
  exact heq.symm

theorem mem_definitions_iff_exists (hi : telling.CoversIndex b.index)
    (hr : ∀ root ∈ roots, telling.Covers root) (h : b.Unhindered roots)
    (definition : String × Schema) :
    definition ∈ (b.buildMany roots).definitions ↔
      ∃ root ∈ roots, definition ∈ (b.build root).definitions := by
  obtain ⟨name, body⟩ := definition
  have halone : ∀ root ∈ roots, (name, body) ∈ (b.build root).definitions ↔
      ∃ ty ∈ (b.registry [root]).types, ty.referenceName = name ∧ ∃ P, Expands b P ty body := by
    intro root hroot
    have hr' : ∀ u ∈ [root], telling.Covers u := List.forall_mem_singleton.mpr (hr root hroot)
    exact mem_definitions_iff hi hr' (h.alone root hroot) name body
  rw [mem_definitions_iff hi hr h.together]
  constructor
  · rintro ⟨ty, hty, hbody⟩
    obtain ⟨root, hroot, hty⟩ := (mem_types_iff hi hr h ty).mp hty
    exact ⟨root, hroot, (halone root hroot).mpr ⟨ty, hty, hbody⟩⟩
  · rintro ⟨root, hroot, hmem⟩
    obtain ⟨ty, hty, hbody⟩ := (halone root hroot).mp hmem
    exact ⟨ty, (mem_types_iff hi hr h ty).mpr ⟨root, hroot, hty⟩, hbody⟩

/-- Roots that can be built together and on their own can be built in every order. -/
theorem Unhindered.perm (hi : telling.CoversIndex b.index)
    (hr : ∀ root ∈ roots, telling.Covers root) (h : b.Unhindered roots) {roots' : List TypeExpr}
    (hp : roots'.Perm roots) : b.Unhindered roots' where
  together := by
    have hfits := (settled_addRoots hi hr h.together).1.fits
    have hclean := clean_addRoots hfits hi (fun root hroot => hr root (hp.subset hroot))
      (fun root hroot => h.alone root (hp.subset hroot))
      (fun root hroot ty hty => (mem_types_iff hi hr h ty).mpr ⟨root, hp.subset hroot, hty⟩)
    exact hclean.1
  alone root hroot := h.alone root (hp.subset hroot)

/-- Without a limit or a renamed definition the build of several roots is the union of the builds of the
single ones, where names can be told apart. -/
theorem isUnion_buildMany (b : Builder) (roots : List TypeExpr)
    (hnames : ∀ n ∈ b.index.usedNames roots, PathName.Telling n) (h : b.Unhindered roots) :
    b.IsUnion roots := by
  have hi := Index.coversIndex_telling hnames
  have hr := Index.covers_telling hnames
  have hfits := (settled_addRoots hi hr h.together).1.fits
  have hdefinitions := mem_definitions_iff_exists hi hr h
  constructor
  · exact schemas_eq hi hr h
  · exact hdefinitions
  · intro root hroot root' hroot' name body body' hbody hbody'
    have hmem := (hdefinitions _).mpr ⟨root, hroot, Assoc.mem_of_lookup hbody⟩
    have hmem' := (hdefinitions _).mpr ⟨root', hroot', Assoc.mem_of_lookup hbody'⟩
    rw [mem_definitions_iff hi hr h.together] at hmem hmem'
    obtain ⟨ty, hty, hname, P, hP⟩ := hmem
    obtain ⟨ty', hty', hname', Q, hQ⟩ := hmem'
    obtain rfl := hfits.names ty hty ty' hty' (hname.trans hname'.symm)
    obtain ⟨e, he, rfl⟩ := List.mem_map.mp hty
    have hf := (settled_addRoots hi hr h.together).1.faithful.entries e he
    exact hP.unique hi hf.telling hQ
  · intro roots' hp
    have h' := h.perm hi hr hp
    have hr' : ∀ root ∈ roots', telling.Covers root := fun root hroot => hr root (hp.subset hroot)
    have hmem : ∀ definition, definition ∈ (b.buildMany roots').definitions ↔
        definition ∈ (b.buildMany roots).definitions := by
      intro definition
      rw [mem_definitions_iff_exists hi hr' h', hdefinitions]
      simp only [hp.mem_iff]
    exact (Assoc.increasing_sorted _).eq_of_mem_iff (Assoc.increasing_sorted _) hmem

/-- Pages with notes that go on, and a generic note. -/
def notes : Index :=
  (Index.standard.insert
    { name := "Note", params := [{ name := "T" }],
      members := [⟨"text", .var "T", {}⟩,
        ⟨"next", .named "Option" [.named "Note" [.var "T"]], {}⟩] }).insert
    { name := "Page",
      members := [⟨"notes", .named "Vec" [.named "Note" [.named "String" []]], {}⟩,
        ⟨"count", .named "Note" [.named "i32" []], {}⟩] }

theorem isUnion_notes :
    let b : Builder := { index := notes }
    let roots : List TypeExpr := [.named "Page" [], .named "Note" [.named "String" []]]
    (∀ n ∈ b.index.usedNames roots, PathName.Telling n) ∧ b.Unhindered roots ∧ b.IsUnion roots ∧
      (b.registry roots).entries.map Entry.name = ["Page", "NoteString", "NoteI32"] := by
  intro b roots
  have hnames : ∀ n ∈ b.index.usedNames roots, PathName.Telling n := by decide +kernel
  have hclean : ∀ roots', ((init b).addRoots b roots').2.diagnostics = [] →
      (b.buildMany roots').diagnostics.Clean := by
    intro roots' h d hd
    change d ∈ ((init b).addRoots b roots').2.diagnostics at hd
    rw [h] at hd
    cases hd
  have h : b.Unhindered roots := by
    constructor
    · exact hclean _ (eq_of_addRootsWithin? (f := fun r => r.2.diagnostics) (n := 3)
        (by decide +kernel))
    · intro root hroot
      rcases List.mem_pair.mp hroot with rfl | rfl
      · exact hclean [_] (eq_of_addRootsWithin? (f := fun r => r.2.diagnostics) (n := 3)
          (by decide +kernel))
      · exact hclean [_] (eq_of_addRootsWithin? (f := fun r => r.2.diagnostics) (n := 3)
          (by decide +kernel))
  exact ⟨hnames, h, isUnion_buildMany b roots hnames h,
    eq_of_addRootsWithin? (f := fun r => r.2.registry.entries.map Entry.name) (n := 3)
      (by decide +kernel)⟩

end Builder
end SchemaGraph
