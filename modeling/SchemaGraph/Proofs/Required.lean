import SchemaGraph.Proofs.Roster

/-! Which properties of a body are listed as required: those that one of the members requires which become the
property, also when it is not the one whose schema the property has in the end. -/
namespace SchemaGraph

/-- Whether the property of every member that requires it is required by the first member that becomes it. -/
def Place.FirstRequires (b : Builder) (places : List Place) : Prop :=
  ∀ p ∈ places, p.requires b = true →
    ∃ q, places.find? (fun q => q.property b = p.property b) = some q ∧ q.requires b = true

/-- The first member that becomes a property is among some members when any of these becomes it. -/
theorem Place.FirstRequires.exists_of_concat {b : Builder} {places : List Place} {p q r : Place}
    (h : FirstRequires b (places ++ [p])) (hq : q ∈ places ++ [p]) (hrequires : q.requires b = true)
    (hr : r ∈ places) (heq : r.property b = q.property b) :
    ∃ f, places.find? (fun f => f.property b = q.property b) = some f ∧ f.requires b = true := by
  obtain ⟨f, hf, hfirst⟩ := h q hq hrequires
  obtain ⟨f', hf'⟩ : ∃ f', places.find? (fun f => f.property b = q.property b) = some f' :=
    Option.isSome_iff_exists.mp (List.find?_isSome.mpr ⟨r, hr, by simpa using heq⟩)
  rw [List.find?_append, hf', Option.some_or] at hf
  exact ⟨f', hf', Option.some.inj hf ▸ hfirst⟩

/-- Properties are required in their order when the first members that become them require them. -/
theorem Place.FirstRequires.sublist {b : Builder} {places : List Place}
    (h : FirstRequires b places) :
    ((places.filter (requires b)).map (property b)).eraseDups.Sublist
      (places.map (property b)).eraseDups := by
  induction places using List.reverseRecOn with
  | nil => exact .refl _
  | append_singleton places p ih =>
    have hfront := ih (fun q hq hrequires =>
      h.exists_of_concat (List.mem_append_left _ hq) hrequires hq rfl)
    have hkeys : (places.map (property b)).eraseDups.Sublist
        ((places ++ [p]).map (property b)).eraseDups := by
      rw [List.map_append, List.eraseDups_append]
      exact List.sublist_append_left ..
    cases hp : p.requires b with
    | false =>
      rw [List.filter_append, List.filter_cons_of_neg (by simp [hp]), List.filter_nil,
        List.append_nil]
      exact hfront.trans hkeys
    | true =>
      rw [List.filter_append, List.filter_cons_of_pos hp, List.filter_nil, List.map_append,
        List.map_singleton, eraseDups_concat]
      split
      · exact hfront.trans hkeys
      · -- A new required property is a new property: its first member would require it before.
        rename_i hnew
        have hfresh : p.property b ∉ places.map (property b) := by
          intro hold
          obtain ⟨r, hr, heq⟩ := List.mem_map.mp hold
          obtain ⟨f, hf, hfirst⟩ := h.exists_of_concat (by simp) hp hr heq
          have hsame : f.property b = p.property b := by simpa using List.find?_some hf
          exact hnew (hsame ▸ List.mem_map_of_mem
            (List.mem_filter.mpr ⟨List.mem_of_find?_eq_some hf, hfirst⟩))
        rw [List.map_append, List.map_singleton, eraseDups_concat, if_neg hfresh]
        exact hfront.append_right _

/-- How a body that is written of members lists the properties that are required. -/
structure Schema.Requires (b : Builder) (s : BuildState) (places : List Place) (schema : Schema) :
    Prop where
  /-- It is what is written of these members. -/
  holds : schema.Holds b (s.draft b places)
  /-- No property is listed twice, -/
  nodup : (schema.required.getD []).Nodup
  /-- and nothing but properties is listed, -/
  subset : schema.required.getD [] ⊆ (schema.properties.getD []).map Prod.fst
  /-- those which a member requires that becomes them. -/
  mem : ∀ k, k ∈ schema.required.getD [] ↔ ∃ p ∈ places, p.requires b = true ∧ p.property b = k
  /-- There is no list exactly when no member requires its property. -/
  absent : schema.required = none ↔ ∀ p ∈ places, p.requires b = false
  /-- There is no list without an entry. -/
  nonempty : schema.required ≠ some []
  /-- The list follows the order of the properties if these are required from their first members on. -/
  sublist : Place.FirstRequires b places →
    (schema.required.getD []).Sublist ((schema.properties.getD []).map Prod.fst)
  /-- The last member that becomes a property gives its schema. The property is listed just if this member
  requires it, exactly when no member before it requires the property in vain. -/
  carried : ∀ front p rest, places = front ++ p :: rest →
    p.property b ∉ rest.map (Place.property b) →
      (schema.properties.getD []).lookup (p.property b) =
        some (p.walk b (s.draft b front).state).1 ∧
      ((p.property b ∈ schema.required.getD [] ↔ p.requires b = true) ↔
        ∀ q ∈ front, q.property b = p.property b → q.requires b = true → p.requires b = true)

section

variable {b : Builder} {s : BuildState} {places : List Place} {schema : Schema}

theorem Schema.Holds.required_getD (h : schema.Holds b (s.draft b places)) :
    schema.required.getD [] = ((places.filter (Place.requires b)).map (Place.property b)).eraseDups := by
  rw [← Draft.required_draft s, h.required]
  split
  · rename_i hnil
    rw [hnil, Option.getD_none]
  · rw [Option.getD_some]

theorem Schema.Holds.map_fst_properties (h : schema.Holds b (s.draft b places)) :
    (schema.properties.getD []).map Prod.fst = (places.map (Place.property b)).eraseDups := by
  rw [h.properties, Draft.keys_draft]

theorem Schema.Holds.mem_required_iff (h : schema.Holds b (s.draft b places)) (k : String) :
    k ∈ schema.required.getD [] ↔ ∃ p ∈ places, p.requires b = true ∧ p.property b = k := by
  rw [h.required_getD, List.mem_eraseDups]
  simp [and_assoc]

theorem Schema.Holds.required_eq_none_iff (h : schema.Holds b (s.draft b places)) :
    schema.required = none ↔ ∀ p ∈ places, p.requires b = false := by
  have hnil : schema.required = none ↔ schema.required.getD [] = [] := by
    rw [h.required]
    split
    · simp
    · rename_i hne
      simpa using hne
  rw [hnil, List.eq_nil_iff_forall_not_mem]
  constructor
  · intro hnone p hp
    exact Bool.eq_false_iff.mpr
      (fun hrequires => hnone _ ((h.mem_required_iff _).mpr ⟨p, hp, hrequires, rfl⟩))
  · intro hnone k hk
    obtain ⟨p, hp, hrequires, -⟩ := (h.mem_required_iff k).mp hk
    rw [hnone p hp] at hrequires
    cases hrequires

/-- A property is listed if the last member that becomes it requires it, or one before. -/
theorem Schema.Holds.mem_required_last {front rest : List Place} {p : Place}
    (h : schema.Holds b (s.draft b (front ++ p :: rest)))
    (hlast : p.property b ∉ rest.map (Place.property b)) :
    p.property b ∈ schema.required.getD [] ↔
      (∃ q ∈ front, q.property b = p.property b ∧ q.requires b = true) ∨ p.requires b = true := by
  rw [h.mem_required_iff]
  constructor
  · rintro ⟨q, hq, hrequires, heq⟩
    rcases List.mem_append.mp hq with hq | hq
    · exact .inl ⟨q, hq, heq, hrequires⟩
    · rcases List.mem_cons.mp hq with rfl | hq
      · exact .inr hrequires
      · exact absurd (heq ▸ List.mem_map_of_mem hq) hlast
  · rintro (⟨q, hq, heq, hrequires⟩ | hrequires)
    · exact ⟨q, List.mem_append_left _ hq, hrequires, heq⟩
    · exact ⟨p, by simp, hrequires, rfl⟩

theorem Schema.Holds.requires (h : schema.Holds b (s.draft b places)) :
    schema.Requires b s places := by
  constructor
  · exact h
  · rw [h.required_getD]
    exact nodup_eraseDups _
  · intro k hk
    obtain ⟨p, hp, -, rfl⟩ := (h.mem_required_iff k).mp hk
    rw [h.map_fst_properties, List.mem_eraseDups]
    exact List.mem_map_of_mem hp
  · exact h.mem_required_iff
  · exact h.required_eq_none_iff
  · rw [h.required]
    split
    · simp
    · rename_i hne
      exact fun heq => hne (Option.some.inj heq)
  · intro hfirst
    rw [h.required_getD, h.map_fst_properties]
    exact hfirst.sublist
  · rintro front p rest rfl hlast
    refine ⟨h.properties ▸ Draft.lookup_draft s front p hlast, ?_⟩
    rw [h.mem_required_last hlast]
    constructor
    · exact fun hjust q hq heq hrequires => hjust.mp (.inl ⟨q, hq, heq, hrequires⟩)
    · refine fun hkept => ⟨?_, .inr⟩
      rintro (⟨q, hq, heq, hrequires⟩ | hrequires)
      · exact hkept q hq heq hrequires
      · exact hrequires

end

namespace Builder

open BuildState (Course init)

variable {b : Builder}

/-- How the definitions of a build list what they require. -/
theorem requires_definitions {roots : List TypeExpr} {name : String} {body : Schema}
    (h : (name, body) ∈ (b.buildMany roots).definitions) :
    ∃ e ∈ (b.registry roots).entries, e.name = name ∧ e.body = body ∧
      ∃ s, Course b s ((init b).addRoots b roots).2 ∧ body.Requires b s (b.roster e.type) := by
  obtain ⟨e, he, hname, rfl⟩ := exists_entry h
  obtain ⟨-, s, hs, hholds⟩ := holds_registry he
  exact ⟨e, he, hname, rfl, s, hs, hholds.requires⟩

/-- A text member, required or not. -/
def textMember (name : String) (required : Bool) : Member where
  name := name
  type := .named "String" []
  overrides := { required := if required then some true else none }

/-- A class and one that extends it. -/
def users (base own : List Member) : Index :=
  (Index.standard.insert { name := "Base", members := base }).insert
    { name := "User", supertypes := [.named "Base" []], members := own }

/-- The properties of the definitions of a build, and which of them are required. -/
def listings (definitions : List (String × Schema)) :
    List (String × List String × Option (List String)) :=
  definitions.map (fun e => (e.1, (e.2.properties.getD []).map Prod.fst, e.2.required))

theorem listings_eq_of_addRootsWithin? {roots : List TypeExpr} {n : Nat}
    {y : List (String × List String × Option (List String))}
    (h : ((init b).addRootsWithin? b n roots).map (fun r => listings r.2.registry.definitions) = some y) :
    listings (b.buildMany roots).definitions = y :=
  BuildState.eq_of_addRootsWithin? (s := init b) h

/-- A required member that is declared again as required. -/
theorem requires_definitions_users :
    let b : Builder :=
      { index := users [textMember "id" true, textMember "name" false]
          [textMember "email" true, textMember "id" true] }
    ∃ body, ("User", body) ∈ (b.buildMany [.named "User" []]).definitions ∧
      (body.properties.getD []).map Prod.fst = ["id", "name", "email"] ∧
      body.required = some ["id", "email"] ∧
      ∃ e ∈ (b.registry [.named "User" []]).entries, ∃ s,
        body.Requires b s (b.roster e.type) := by
  intro b
  have hlistings : listings (b.buildMany [.named "User" []]).definitions =
      [("User", ["id", "name", "email"], some ["id", "email"])] :=
    listings_eq_of_addRootsWithin? (n := 1) (by decide +kernel)
  have hlisted : ("User", ["id", "name", "email"], some ["id", "email"]) ∈
      listings (b.buildMany [.named "User" []]).definitions := by
    rw [hlistings]
    exact List.mem_singleton_self _
  obtain ⟨⟨name, body⟩, hmem, heq⟩ := List.mem_map.mp hlisted
  obtain ⟨rfl, hkeys, hrequired⟩ := by simpa only [Prod.mk.injEq] using heq
  obtain ⟨e, he, -, -, s, -, hrequires⟩ := requires_definitions hmem
  exact ⟨body, hmem, hkeys, hrequired, e, he, s, hrequires⟩

/-- A requirement outlives the member that makes it, and takes a property out of its order. -/
theorem requires_redeclared :
    let b : Builder := { index := users [textMember "id" true] [textMember "id" false] }
    let c : Builder :=
      { index := users [textMember "id" false, textMember "name" true] [textMember "id" true] }
    (b.roster (.named "User" [])).map (fun p => (p.property b, p.requires b)) =
        [("id", true), ("id", false)] ∧
      listings (b.buildMany [.named "User" []]).definitions = [("User", ["id"], some ["id"])] ∧
      listings (c.buildMany [.named "User" []]).definitions =
        [("User", ["id", "name"], some ["name", "id"])] := by
  intro b c
  exact ⟨by decide +kernel, listings_eq_of_addRootsWithin? (n := 1) (by decide +kernel),
    listings_eq_of_addRootsWithin? (n := 1) (by decide +kernel)⟩

end Builder
end SchemaGraph
