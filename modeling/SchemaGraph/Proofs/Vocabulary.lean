import SchemaGraph.Proofs.TypeExpr

/-! The names that a build can meet, with their numbers of arguments, and the settled types over
finitely many of them. -/
namespace SchemaGraph

/-- Which names may be used with how many arguments. -/
abbrev Vocabulary := String → Nat → Prop

namespace Vocabulary

/-- Whether a type uses its names as a vocabulary allows. -/
def Covers (v : Vocabulary) (t : TypeExpr) : Prop :=
  ∀ n as, .named n as ∈ t.parts → v n as.length

/-- The vocabulary without limits. -/
def full : Vocabulary := fun _ _ => True

variable {v : Vocabulary} {n : String} {as : List TypeExpr} {c t : TypeExpr} {d : Nat}

theorem covers_full (t : TypeExpr) : full.Covers t := fun _ _ _ => trivial

theorem covers_named : v.Covers (.named n as) ↔ v n as.length ∧ ∀ a ∈ as, v.Covers a := by
  simp only [Covers, TypeExpr.parts, TypeExpr.partsArgs_eq_flatMap, List.mem_cons,
    List.mem_flatMap, TypeExpr.named.injEq]
  constructor
  · exact fun h => ⟨h n as (.inl ⟨rfl, rfl⟩), fun a ha m bs hb => h m bs (.inr ⟨a, ha, hb⟩)⟩
  · rintro ⟨h, has⟩ m bs (⟨rfl, rfl⟩ | ⟨a, ha, hb⟩)
    · exact h
    · exact has a ha m bs hb

theorem covers_array : v.Covers (.array c d) ↔ v.Covers c := by
  simp [Covers, TypeExpr.parts]

theorem covers_wildcard {u : Option TypeExpr} :
    v.Covers (.wildcard u) ↔ ∀ t ∈ u, v.Covers t := by
  cases u <;> simp [Covers, TypeExpr.parts, TypeExpr.partsBound]

theorem covers_any : v.Covers .any := by
  simp [Covers, TypeExpr.parts]

theorem covers_args (h : v.Covers t) : ∀ a ∈ t.args, v.Covers a := by
  cases t with
  | named n as => exact (covers_named.mp h).2
  | _ => simp [TypeExpr.args]

theorem covers_arrayOf (h : v.Covers c) (d : Nat) : v.Covers (c.arrayOf d) := by
  unfold TypeExpr.arrayOf
  split
  · exact h
  · split
    · exact covers_array.mpr (covers_array.mp h)
    · exact covers_array.mpr h

theorem covers_substitute {σ : String → TypeExpr} (hσ : ∀ m, v.Covers (σ m)) (h : v.Covers t) :
    v.Covers (t.substitute σ) := by
  induction t using TypeExpr.inductOn with
  | named n as ih =>
    obtain ⟨hn, has⟩ := covers_named.mp h
    simp only [TypeExpr.substitute, TypeExpr.substituteArgs_eq_map, covers_named, List.length_map,
      List.forall_mem_map]
    exact ⟨hn, fun a ha => ih a ha (has a ha)⟩
  | array c d ih => exact covers_arrayOf (ih (covers_array.mp h)) d
  | var m => exact hσ m
  | wildcard u ih =>
    cases u with
    | none => exact covers_any
    | some u => exact ih u rfl (covers_wildcard.mp h u rfl)
  | any => exact covers_any

theorem Covers.mono {w : Vocabulary} (h : v.Covers t)
    (hvw : ∀ n k, v n k → w n k) : w.Covers t :=
  fun n as hmem => hvw n _ (h n as hmem)

/-- Whether all types in a frame are covered. -/
def CoversFrame (v : Vocabulary) (f : Frame) : Prop := ∀ e ∈ f.bindings, v.Covers e.2

/-- Whether all types in a scope are covered. -/
def CoversScope (v : Vocabulary) (s : Scope) : Prop := ∀ f ∈ s, v.CoversFrame f

/-- Whether all types in a declaration are covered. -/
structure CoversDeclaration (v : Vocabulary) (d : Declaration) : Prop where
  member : ∀ m ∈ d.members, v.Covers m.type
  supertype : ∀ t ∈ d.supertypes, v.Covers t
  bound : ∀ p ∈ d.params, ∀ t ∈ p.bound, v.Covers t

/-- Whether all declarations are covered, also under their declared names. -/
structure CoversIndex (v : Vocabulary) (i : Index) : Prop where
  declaration : ∀ n d, i.lookup n = some d → v.CoversDeclaration d
  rename : ∀ n d k, i.lookup n = some d → v n k → v d.name k

theorem coversScope_full (s : Scope) : full.CoversScope s := fun _ _ e _ => covers_full e.2

theorem coversDeclaration_full (d : Declaration) : full.CoversDeclaration d :=
  ⟨fun m _ => covers_full m.type, fun t _ => covers_full t, fun _ _ t _ => covers_full t⟩

theorem coversIndex_full (i : Index) : full.CoversIndex i where
  declaration _ d _ := coversDeclaration_full d
  rename _ _ _ _ _ := trivial

theorem covers_canonicalize {i : Index} (hi : v.CoversIndex i) (h : v.Covers t) :
    v.Covers (t.canonicalize i) := by
  induction t using TypeExpr.inductOn with
  | named n as ih =>
    obtain ⟨hn, has⟩ := covers_named.mp h
    simp only [TypeExpr.canonicalize, TypeExpr.canonicalizeArgs_eq_map, covers_named,
      List.length_map, List.forall_mem_map]
    refine ⟨?_, fun a ha => ih a ha (has a ha)⟩
    cases hl : i.lookup n with
    | none => exact hn
    | some d => exact hi.rename n d _ hl hn
  | array c d ih => exact covers_arrayOf (ih (covers_array.mp h)) d
  | _ => exact h

theorem covers_meaning {s : Scope} (hs : v.CoversScope s) (m : String) : v.Covers (s.meaning m) := by
  induction s generalizing m with
  | nil => exact covers_any
  | cons f outer ih =>
    have houter : v.CoversScope outer := fun g hg => hs g (List.mem_cons_of_mem _ hg)
    unfold Scope.meaning
    split
    · rename_i bound hb
      exact covers_substitute (ih houter) (hs f (List.mem_cons_self ..) _ (Assoc.mem_of_lookup hb))
    · exact ih houter m

theorem covers_resolveDeep {s : Scope} (hs : v.CoversScope s) (h : v.Covers t) :
    v.Covers (s.resolveDeep t) := covers_substitute (covers_meaning hs) h

theorem coversScope_setMember {s : Scope} (hs : v.CoversScope s) (m : Option String) :
    v.CoversScope (s.setMember m) := by
  cases s with
  | nil => exact hs
  | cons f outer =>
    intro g hg
    rcases List.mem_cons.mp hg with rfl | hg
    · exact fun e he => hs f (List.mem_cons_self ..) e he
    · exact hs g (List.mem_cons_of_mem _ hg)

theorem coversFrame_ofType {o : TypeExpr} {d : Declaration} (ho : v.Covers o)
    (hd : v.CoversDeclaration d) : v.CoversFrame (.ofType o d) :=
  Frame.forall_bindings covers_any (covers_args ho) hd.bound

end Vocabulary

/-! Finitely many names, and finitely many types over them. -/

namespace TypeExpr

/-- The names in a type. -/
def names (t : TypeExpr) : List String := t.parts.filterMap baseName?

/-- The numbers of arguments in a type. -/
def arities (t : TypeExpr) : List Nat := t.parts.map (·.args.length)

/-- The lists of `k` elements. -/
def tuples (ts : List TypeExpr) : Nat → List (List TypeExpr)
  | 0 => [[]]
  | k + 1 => ts.flatMap (fun t => (tuples ts k).map (t :: ·))

/-- The settled types over names and numbers of arguments, up to a depth. -/
def instances (names : List String) (arities : List Nat) : Nat → List TypeExpr
  | 0 => any :: names.map (named · [])
  | n + 1 =>
    let below := instances names arities n
    any :: names.flatMap (fun m => (arities.flatMap (tuples below)).map (named m)) ++
      below.flatMap (fun c => (List.range (n + 2)).map (array c))

theorem mem_tuples {ts as : List TypeExpr} (h : ∀ a ∈ as, a ∈ ts) : as ∈ tuples ts as.length := by
  induction as with
  | nil => simp [tuples]
  | cons a as ih =>
    rw [List.forall_mem_cons] at h
    simp only [List.length_cons, tuples, List.mem_flatMap, List.mem_map]
    exact ⟨a, h.1, as, ih h.2, rfl⟩

end TypeExpr

namespace Vocabulary

/-- The vocabulary of listed names and numbers of arguments. -/
def listed (names : List String) (arities : List Nat) : Vocabulary :=
  fun n k => n ∈ names ∧ k ∈ arities

theorem mem_instances {names : List String} {arities : List Nat} {n : Nat} {t : TypeExpr}
    (hv : (listed names arities).Covers t) (hp : t.Plain) (hd : t.depth ≤ n) :
    t ∈ TypeExpr.instances names arities n := by
  induction n generalizing t with
  | zero =>
    cases t with
    | named m as =>
      obtain ⟨⟨hm, -⟩, -⟩ := covers_named.mp hv
      cases as with
      | nil => simp [TypeExpr.instances, hm]
      | cons a as =>
        have := TypeExpr.depth_lt_of_mem_args (n := m) (List.mem_cons_self (a := a) (l := as))
        omega
    | array c d =>
      have := (TypeExpr.plain_array.mp hp).1
      simp only [TypeExpr.depth] at hd
      omega
    | var m => exact absurd hp (TypeExpr.not_plain_var m)
    | wildcard u => exact absurd hp (TypeExpr.not_plain_wildcard u)
    | any => simp [TypeExpr.instances]
  | succ n ih =>
    cases t with
    | named m as =>
      obtain ⟨⟨hm, hk⟩, has⟩ := covers_named.mp hv
      have hargs : ∀ a ∈ as, a ∈ TypeExpr.instances names arities n := by
        intro a ha
        have := TypeExpr.depth_lt_of_mem_args (n := m) ha
        exact ih (has a ha) (TypeExpr.plain_named.mp hp a ha) (by omega)
      simp only [TypeExpr.instances, List.mem_cons, List.mem_append, List.mem_flatMap,
        List.mem_map]
      exact .inl (.inr ⟨m, hm, as, ⟨as.length, hk, TypeExpr.mem_tuples hargs⟩, rfl⟩)
    | array c d =>
      obtain ⟨hd', -, hc⟩ := TypeExpr.plain_array.mp hp
      simp only [TypeExpr.depth] at hd
      have hmem := ih (covers_array.mp hv) hc (by omega)
      simp only [TypeExpr.instances, List.mem_cons, List.mem_append, List.mem_flatMap,
        List.mem_map, List.mem_range]
      exact .inr ⟨c, hmem, d, by omega, rfl⟩
    | var m => exact absurd hp (TypeExpr.not_plain_var m)
    | wildcard u => exact absurd hp (TypeExpr.not_plain_wildcard u)
    | any => simp [TypeExpr.instances]

end Vocabulary

/-! The vocabulary of an index together with some types. -/

/-- The types that a declaration is written with. -/
def Declaration.types (d : Declaration) : List TypeExpr :=
  d.members.map Member.type ++ d.supertypes ++ d.params.filterMap TypeParam.bound

namespace Index

/-- The types of all declarations. -/
def types (i : Index) : List TypeExpr := i.declarations.flatMap (fun (_, d) => d.types)

def usedNames (i : Index) (ts : List TypeExpr) : List String :=
  i.declarations.map (fun (_, d) => d.name) ++ (i.types ++ ts).flatMap TypeExpr.names

def usedArities (i : Index) (ts : List TypeExpr) : List Nat :=
  (i.types ++ ts).flatMap TypeExpr.arities

/-- What an index and some types use. -/
def vocabulary (i : Index) (ts : List TypeExpr) : Vocabulary :=
  .listed (i.usedNames ts) (i.usedArities ts)

theorem mem_of_declared? {i : Index} {n : String} {d : Declaration} (h : i.declared? n = some d) :
    (n, d) ∈ i.declarations := Assoc.mem_of_lookup h

theorem declared?_of_lookup {i : Index} {n : String} {d : Declaration} (h : i.lookup n = some d) :
    ∃ k, i.declared? k = some d := by
  unfold lookup at h
  split at h
  · rename_i hd
    cases h
    exact ⟨n, hd⟩
  · split at h
    · exact ⟨_, h⟩
    · cases h

theorem mem_of_lookup {i : Index} {n : String} {d : Declaration} (h : i.lookup n = some d) :
    ∃ k, (k, d) ∈ i.declarations := (declared?_of_lookup h).imp (fun _ => mem_of_declared?)

variable {i : Index} {ts : List TypeExpr}

theorem covers_of_mem_types {t : TypeExpr} (h : t ∈ i.types ++ ts) : (i.vocabulary ts).Covers t := by
  intro n as hmem
  constructor
  · exact List.mem_append_right _
      (List.mem_flatMap.mpr ⟨t, h, List.mem_filterMap.mpr ⟨_, hmem, rfl⟩⟩)
  · exact List.mem_flatMap.mpr ⟨t, h, List.mem_map.mpr ⟨_, hmem, rfl⟩⟩

theorem coversIndex_vocabulary (i : Index) (ts : List TypeExpr) :
    (i.vocabulary ts).CoversIndex i where
  declaration n d h := by
    obtain ⟨k, hk⟩ := mem_of_lookup h
    have hty : ∀ t ∈ d.types, (i.vocabulary ts).Covers t := fun t ht =>
      covers_of_mem_types (List.mem_append_left _ (List.mem_flatMap.mpr ⟨(k, d), hk, ht⟩))
    simp only [Declaration.types, List.mem_append, or_imp, forall_and] at hty
    refine ⟨?_, hty.1.2, ?_⟩
    · exact fun m hm => hty.1.1 _ (List.mem_map.mpr ⟨m, hm, rfl⟩)
    · exact fun p hp t ht => hty.2 t (List.mem_filterMap.mpr ⟨p, hp, ht⟩)
  rename n d k h hv := by
    obtain ⟨key, hk⟩ := mem_of_lookup h
    exact ⟨List.mem_append_left _ (List.mem_map_of_mem hk), hv.2⟩

end Index
end SchemaGraph
