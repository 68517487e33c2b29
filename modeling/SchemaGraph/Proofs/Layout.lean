import SchemaGraph.Proofs.Roster

/-! The layout of a body: the members that are in it, each with the scope in which its type is read. It is
settled by the declarations, and expanding a definition is walking its layout. -/
namespace SchemaGraph

/-- The members of a body so far: their types as they are written, in order and in their scopes. -/
structure Layout where
  /-- The declarations whose members are in it. -/
  visited : List String
  members : List (Scope × TypeExpr) := []

namespace Layout

/-- Adds a member, unless it is left out or hidden. -/
def addMember (b : Builder) (d : Declaration) (scope : Scope) (l : Layout) (m : Member) : Layout :=
  if !b.allows d m || (Body.memberOverrides b d m).hidden then l
  else { l with members := l.members ++ [(scope.setMember (some m.name), m.type)] }

def addMembers (b : Builder) (d : Declaration) (scope : Scope) (l : Layout) : Layout :=
  d.members.foldl (addMember b d scope) l

/-- Adds what a supertype brings with `descend`, unless it has been entered before. -/
def addSupertype (b : Builder) (descend : Declaration → Scope → Layout → Layout) (scope : Scope)
    (l : Layout) (supertype : TypeExpr) : Layout :=
  let r := scope.resolveDeep supertype
  match r.baseName?.bind b.index.lookup with
  | none => l
  | some parent =>
    if parent.isEnum || l.visited.contains parent.name then l
    else descend parent (.ofType r parent :: scope) { l with visited := parent.name :: l.visited }

/-- Adds the members that a declaration inherits, supertype by supertype, and then its own. -/
def addDeclaration (b : Builder) : Nat → Declaration → Scope → Layout → Layout
  | 0 => addMembers b
  | fuel + 1 => fun d scope l =>
    addMembers b d scope (d.supertypes.foldl (addSupertype b (addDeclaration b fuel) scope) l)

end Layout

/-- The members of the body of a type under declared names; an enumeration has none. -/
def Builder.layout (b : Builder) (t : TypeExpr) : List (Scope × TypeExpr) :=
  match t.baseName?.bind b.index.lookup with
  | none => []
  | some d =>
    match d.values? with
    | some _ => []
    | none => (Layout.addDeclaration b b.index.size d [.ofType t d] { visited := [d.name] }).members

/-! A layout lists the roster of a type. -/

/-- The type of a member as it is written, in its scope. -/
def Place.occurrence (p : Place) : Scope × TypeExpr := (p.scope, p.member.type)

/-- Whether a layout lists the members along a tour. -/
structure Layout.Along (b : Builder) (tour : Tour) (l : Layout) : Prop where
  visited : l.visited = tour.visited
  members : l.members = (tour.stops.flatMap b.places).map Place.occurrence

namespace Layout.Along

variable {b : Builder} {tour : Tour} {l : Layout} {scope : Scope} {d : Declaration}

theorem addMembers (h : Along b tour l) :
    Along b (tour.add scope d) (l.addMembers b d scope) := by
  have hfold : ∀ (ms : List Member) (l : Layout),
      (ms.foldl (Layout.addMember b d scope) l).visited = l.visited ∧
        (ms.foldl (Layout.addMember b d scope) l).members = l.members ++
          ((ms.filter (b.shows d)).map (Place.within scope d)).map Place.occurrence := by
    intro ms
    induction ms with
    | nil => exact fun l => ⟨rfl, (List.append_nil _).symm⟩
    | cons m ms ih =>
      intro l
      obtain ⟨hvisited, hmembers⟩ := ih (Layout.addMember b d scope l m)
      rw [List.foldl_cons, hvisited, hmembers]
      unfold Layout.addMember
      rw [Builder.not_shows]
      cases hm : b.shows d m with
      | false => exact ⟨rfl, by rw [List.filter_cons_of_neg (by simp [hm])]; rfl⟩
      | true =>
        rw [List.filter_cons_of_pos hm]
        exact ⟨rfl, List.append_assoc ..⟩
  obtain ⟨hvisited, hmembers⟩ := hfold d.members l
  refine ⟨hvisited.trans h.visited, hmembers.trans ?_⟩
  rw [h.members, Tour.add, List.flatMap_append, List.flatMap_singleton, List.map_append]
  rfl

theorem addSupertype {lay : Declaration → Scope → Layout → Layout}
    {go : Declaration → Scope → Tour → Tour}
    (hdescend : ∀ (parent : Declaration) (scope : Scope) {tour : Tour} {l : Layout},
      Along b tour l → Along b (go parent scope tour) (lay parent scope l))
    (h : Along b tour l) (supertype : TypeExpr) :
    Along b (tour.addSupertype b.index go scope supertype)
      (l.addSupertype b lay scope supertype) := by
  unfold Layout.addSupertype Tour.addSupertype
  dsimp only
  rw [h.visited]
  cases (scope.resolveDeep supertype).baseName?.bind b.index.lookup with
  | none => exact h
  | some parent =>
    dsimp only
    split
    · exact h
    · exact hdescend parent _ ⟨rfl, h.members⟩

theorem addDeclaration (fuel : Nat) (h : Along b tour l) :
    Along b (Tour.addDeclaration b.index fuel d scope tour)
      (Layout.addDeclaration b fuel d scope l) := by
  induction fuel generalizing d scope tour l with
  | zero => exact h.addMembers
  | succ fuel ih =>
    have hdescend : ∀ (parent : Declaration) (scope : Scope) (tour : Tour) (l : Layout), Along b tour l →
        Along b (Tour.addDeclaration b.index fuel parent scope tour)
          (Layout.addDeclaration b fuel parent scope l) :=
      fun _ _ _ _ h => ih h
    have hinherited : Along b
        (d.supertypes.foldl (Tour.addSupertype b.index (Tour.addDeclaration b.index fuel) scope) tour)
        (d.supertypes.foldl (Layout.addSupertype b (Layout.addDeclaration b fuel) scope) l) :=
      List.foldl_rel h (fun t _ _ _ h => h.addSupertype hdescend t)
    exact hinherited.addMembers

end Layout.Along

theorem Builder.layout_eq_roster (b : Builder) (t : TypeExpr) :
    b.layout t = (b.roster t).map Place.occurrence := by
  unfold layout roster Index.stops Declaration.isEnum
  cases t.baseName?.bind b.index.lookup with
  | none => rfl
  | some d =>
    dsimp only
    cases d.values? with
    | some vs => rfl
    | none =>
      have hstart : Layout.Along b { visited := [d.name] } { visited := [d.name] } := ⟨rfl, rfl⟩
      exact (hstart.addDeclaration b.index.size).members

namespace BuildState

/-- Walks the type of a member in its scope. -/
def walkMember (b : Builder) (s : BuildState) (m : Scope × TypeExpr) : BuildState :=
  ({ s with scope := m.1 }.walk b m.2 .empty).state

def walkMembers (b : Builder) (s : BuildState) (ms : List (Scope × TypeExpr)) : BuildState :=
  ms.foldl (walkMember b) s

variable {b : Builder}

/-- Walking members writes nothing but their schemas. -/
theorem walkMembers_draft (s : BuildState) (ps : List Place) :
    walkMembers b s (ps.map Place.occurrence) = (s.draft b ps).state := by
  induction ps using List.reverseRecOn with
  | nil => rfl
  | append_singleton ps p ih =>
    rw [walkMembers] at ih ⊢
    rw [List.map_append, List.foldl_append, ih, Draft.draft_concat]
    rfl

/-- Expanding a definition is walking the members of its layout. -/
theorem expand_state {item : WorkItem} (h : item.Framed b) (s : BuildState) :
    (s.expand b item).2 = { walkMembers b s (b.layout item.type) with scope := s.scope } := by
  rw [Builder.layout_eq_roster, walkMembers_draft]
  exact (expand_drafts h s).2

end BuildState
end SchemaGraph
