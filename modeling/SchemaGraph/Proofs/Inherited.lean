import SchemaGraph.Proofs.Roster

/-! The properties of a class: those of the classes that it inherits from, in the order in which these are
walked, and its own. -/
namespace SchemaGraph

open Relation (ReflTransGen)

/-- The properties that the visible members of a declaration become, in their order. -/
def Builder.propertiesOf (b : Builder) (d : Declaration) : List String :=
  (b.visible d).map (Body.property b d)

/-- How the body of a class lists members, when `ancestors` are walked before the class. -/
structure Schema.Lists (b : Builder) (t : TypeExpr) (d : Declaration) (s : BuildState)
    (ancestors : List (Scope × Declaration)) (schema : Schema) : Prop where
  /-- It is what is written of the visible members of the ancestors, and last of the class itself, -/
  holds : schema.Holds b
    (s.draft b (ancestors.flatMap b.places ++ b.places ([.ofType t d], d)))
  /-- each of which is walked once, -/
  once : (ancestors.map Prod.snd ++ [d]).Nodup
  /-- and these are the classes that it inherits from, and itself. -/
  inherited : ∀ c, c ∈ ancestors.map Prod.snd ++ [d] ↔ ReflTransGen b.index.Extends d c
  /-- The properties are what the visible members of these classes become, and no others. -/
  keys : ∀ k, k ∈ (schema.properties.getD []).map Prod.fst ↔
    ∃ c, ReflTransGen b.index.Extends d c ∧
      ∃ m ∈ c.members, b.shows c m = true ∧ Body.property b c m = k
  /-- Those of ancestors come first; those that only the class declares follow in its order. -/
  order : (schema.properties.getD []).map Prod.fst =
    ((ancestors.map Prod.snd).flatMap b.propertiesOf).eraseDups ++
      ((b.propertiesOf d).removeAll ((ancestors.map Prod.snd).flatMap b.propertiesOf)).eraseDups
  /-- What the class itself declares has the schema of its last member of this property. -/
  own : ∀ k ∈ b.propertiesOf d, ∃ front m rest, b.visible d = front ++ m :: rest ∧
    Body.property b d m = k ∧ k ∉ rest.map (Body.property b d) ∧
      (schema.properties.getD []).lookup k =
        some ((Place.within [.ofType t d] d m).walk b
          (s.draft b (ancestors.flatMap b.places ++
            front.map (Place.within [.ofType t d] d))).state).1

theorem exists_last_of_mem_map {α β : Type} {f : α → β} {l : List α} {k : β} (h : k ∈ l.map f) :
    ∃ front a rest, l = front ++ a :: rest ∧ f a = k ∧ k ∉ rest.map f := by
  induction l with
  | nil => cases h
  | cons a l ih =>
    by_cases hl : k ∈ l.map f
    · obtain ⟨front, c, rest, rfl, hc, hrest⟩ := ih hl
      exact ⟨a :: front, c, rest, rfl, hc, hrest⟩
    · rw [List.map_cons, List.mem_cons, or_iff_left hl] at h
      exact ⟨[], a, l, rfl, h.symm, hl⟩

namespace Builder

variable {b : Builder} {d : Declaration} {t : TypeExpr} {schema : Schema} {s : BuildState}

theorem map_property_places (b : Builder) (stop : Scope × Declaration) :
    (b.places stop).map (Place.property b) = b.propertiesOf stop.2 := by
  rw [places, List.map_map]
  rfl

theorem map_property_flatMap (b : Builder) (stops : List (Scope × Declaration)) :
    (stops.flatMap b.places).map (Place.property b) =
      (stops.map Prod.snd).flatMap b.propertiesOf := by
  rw [List.map_flatMap, List.flatMap_map]
  simp only [map_property_places]

theorem mem_propertiesOf {c : Declaration} {k : String} :
    k ∈ b.propertiesOf c ↔ ∃ m ∈ c.members, b.shows c m = true ∧ Body.property b c m = k := by
  simp [propertiesOf, visible, and_assoc]

/-- The body of a class lists its members and those that it inherits. -/
theorem lists_of_holds (hi : b.index.Coherent) (ht : t.baseName?.bind b.index.lookup = some d)
    (hd : d.isEnum = false) (hc : b.index.Classed d) (h : schema.Holds b (s.draft b (b.roster t))) :
    ∃ ancestors, schema.Lists b t d s ancestors := by
  obtain ⟨ancestors, hstops, honce, hinherited⟩ := Index.stops_of_class hi ht hd hc
  have hroster : b.roster t = ancestors.flatMap b.places ++ b.places ([.ofType t d], d) := by
    rw [roster, hstops, List.flatMap_append, List.flatMap_singleton]
  rw [hstops, List.map_append, List.map_singleton] at honce hinherited
  rw [hroster] at h
  have horder : (schema.properties.getD []).map Prod.fst =
      ((ancestors.map Prod.snd).flatMap b.propertiesOf).eraseDups ++
        ((b.propertiesOf d).removeAll
          ((ancestors.map Prod.snd).flatMap b.propertiesOf)).eraseDups := by
    rw [h.properties, Draft.keys_draft, List.map_append, map_property_flatMap,
      map_property_places, List.eraseDups_append]
  refine ⟨ancestors, h, honce, hinherited, fun k => ?_, horder, fun k hk => ?_⟩
  · have hclasses : k ∈ (schema.properties.getD []).map Prod.fst ↔
        ∃ c ∈ ancestors.map Prod.snd ++ [d], k ∈ b.propertiesOf c := by
      rw [h.properties, Draft.keys_draft, List.mem_eraseDups, List.map_append,
        map_property_flatMap, map_property_places, ← List.mem_flatMap, List.flatMap_append,
        List.flatMap_singleton]
    rw [hclasses]
    exact exists_congr (fun c => and_congr (hinherited c) mem_propertiesOf)
  · obtain ⟨front, m, rest, hvisible, hm, hlast⟩ := exists_last_of_mem_map hk
    refine ⟨front, m, rest, hvisible, hm, hlast, ?_⟩
    have hplaces : ancestors.flatMap b.places ++ b.places ([.ofType t d], d) =
        (ancestors.flatMap b.places ++ front.map (Place.within [.ofType t d] d)) ++
          Place.within [.ofType t d] d m :: rest.map (Place.within [.ofType t d] d) := by
      rw [places, hvisible, List.map_append, List.map_cons, List.append_assoc]
    rw [h.properties, hplaces, ← hm]
    refine Draft.lookup_draft s _ (Place.within [.ofType t d] d m) ?_
    rw [List.map_map]
    change Body.property b d m ∉ rest.map (Body.property b d)
    rwa [hm]

/-- Every definition of a class in a build lists the visible members of the class and of all that it
inherits from, and is found under its name. -/
theorem lists_registry (hb : b.index.Built) (roots : List TypeExpr) {e : Entry}
    (he : e ∈ (b.registry roots).entries) (hd : e.type.baseName?.bind b.index.lookup = some d)
    (hclass : d.isEnum = false) (hc : b.index.Classed d) :
    (b.buildMany roots).definitions.lookup e.name = some e.body ∧
      ∃ s ancestors, BuildState.Course b s ((BuildState.init b).addRoots b roots).2 ∧
        e.body.Lists b e.type d s ancestors := by
  obtain ⟨hlookup, s, hs, hholds⟩ := holds_registry he
  obtain ⟨ancestors, hlists⟩ := lists_of_holds hb.coherent hd hclass hc hholds
  exact ⟨hlookup, s, ancestors, hs, hlists⟩

/-- A class that inherits on two ways from a generic one, which extends it again. -/
def diamond : Index :=
  [{ name := "Base", params := [{ name := "T" }], supertypes := [.named "Leaf" []],
     members := [{ name := "id", type := .var "T" }, { name := "tag", type := .named "String" [] }] },
   { name := "Left", supertypes := [.named "Base" [.named "u64" []]],
     members := [{ name := "left", type := .named "bool" [] }] },
   { name := "Right", supertypes := [.named "Base" [.named "i32" []]],
     members := [{ name := "right", type := .named "bool" [] }] },
   { name := "Leaf", supertypes := [.named "Left" [], .named "Right" []],
     members := [{ name := "leaf", type := .named "u8" [] },
       { name := "id", type := .named "String" [] }] : Declaration }].foldl Index.insert Index.standard

/-- The generic class is walked once, and the member that is declared again stays in its place. -/
theorem lists_registry_diamond :
    let b : Builder := { index := diamond }
    ∃ e ∈ (b.registry [.named "Leaf" []]).entries, ∃ d,
      b.index.Built ∧ e.type.baseName?.bind b.index.lookup = some d ∧ d.isEnum = false ∧
      b.index.Classed d ∧
      (e.body.properties.getD []).map Prod.fst = ["id", "tag", "left", "right", "leaf"] ∧
      ∃ s ancestors, e.body.Lists b e.type d s ancestors := by
  intro b
  have hb : b.index.Built := Index.Built.standard.insertAll _
  have hentries : (b.registry [.named "Leaf" []]).entries.map (fun e =>
      (e.type.baseName?, (e.body.properties.getD []).map Prod.fst)) =
        [(some "Leaf", ["id", "tag", "left", "right", "leaf"])] :=
    BuildState.eq_of_addRootsWithin? (n := 1) (s := BuildState.init b)
      (f := fun r => r.2.registry.entries.map (fun e =>
        (e.type.baseName?, (e.body.properties.getD []).map Prod.fst))) (by decide +kernel)
  have hmem : (some "Leaf", ["id", "tag", "left", "right", "leaf"]) ∈
      (b.registry [.named "Leaf" []]).entries.map (fun e =>
        (e.type.baseName?, (e.body.properties.getD []).map Prod.fst)) := by
    rw [hentries]
    exact List.mem_singleton_self _
  obtain ⟨e, he, heq⟩ := List.mem_map.mp hmem
  obtain ⟨hname, hkeys⟩ := Prod.mk.inj heq
  have hleaf : (b.index.lookup "Leaf").any (fun d => !d.isEnum) = true := by decide +kernel
  obtain ⟨d, hl, hclass⟩ := (Option.any_eq_true _ _).mp hleaf
  have hd : e.type.baseName?.bind b.index.lookup = some d := by
    rw [hname]
    exact hl
  have hc : b.index.Classed d :=
    Index.classed_of_declarations (by decide +kernel) hl
  obtain ⟨-, s, ancestors, -, hlists⟩ :=
    lists_registry hb [.named "Leaf" []] he hd (by simpa using hclass) hc
  exact ⟨e, he, d, hb, hd, by simpa using hclass, hc, hkeys, s, ancestors, hlists⟩

/-- A class among the supertypes of an enumeration, which a class extends. -/
def behindEnum : Index :=
  [{ name := "Base", members := [{ name := "id", type := .named "u64" [] }] },
   { name := "Level", kind := .enumeration ["LOW", "HIGH"], supertypes := [.named "Base" []] },
   { name := "User", supertypes := [.named "Level" []],
     members := [{ name := "name", type := .named "String" [] }] : Declaration }].foldl
    Index.insert Index.standard

/-- What an enumeration inherits is not listed. -/
theorem keys_behindEnum :
    let b : Builder := { index := behindEnum }
    ∃ user level base, b.index.lookup "User" = some user ∧ b.index.lookup "Level" = some level ∧
      b.index.lookup "Base" = some base ∧
      user.supertypes = [.named "Level" []] ∧ level.supertypes = [.named "Base" []] ∧
      base.isEnum = false ∧ b.propertiesOf base = ["id"] ∧
      (b.registry [.named "User" []]).entries.map (fun e =>
        (e.type, (e.body.properties.getD []).map Prod.fst)) =
          [(.named "User" [], ["name"])] := by
  intro b
  have hrun : ((BuildState.init b).addRootsWithin? b 1 [.named "User" []]).map (fun r =>
      r.2.registry.entries.map (fun e => (e.type, (e.body.properties.getD []).map Prod.fst))) =
        some [(.named "User" [], ["name"])] := by
    decide +kernel
  exact ⟨_, _, _, rfl, rfl, rfl, rfl, rfl, rfl, by decide +kernel,
    BuildState.eq_of_addRootsWithin? hrun⟩

end Builder
end SchemaGraph
