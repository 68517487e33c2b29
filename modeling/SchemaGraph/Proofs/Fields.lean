import SchemaGraph.Proofs.Kinds
import SchemaGraph.Proofs.Modules
import SchemaGraph.Proofs.Shared

/-! The fields of a struct among the properties of its definition. -/
namespace SchemaGraph

namespace Index

variable {i : Index} {m : Marker} {name : String} {d : Declaration}

theorem markersOf_insertAll (ds : List Declaration) (i : Index) (name : String) :
    (ds.foldl insert i).markersOf name = i.markersOf name := by
  induction ds generalizing i with
  | nil => rfl
  | cons d ds ih => exact ih (i.insert d)

theorem hasMarker_of_record (hname : i.markersOf name = []) (hl : i.lookup name = some d)
    (hm : d.markers = []) (hk : d.values? = none) : i.hasMarker m name = false := by
  simp [hasMarker, hname, hl, hm, Declaration.isEnum, hk]

/-- A struct with named fields is a class without markers, whose members are the fields that are neither
skipped nor flattened. -/
theorem exists_declared?_of_struct {sources : List (String × String)} {module : String}
    {items : List Source.Item} {s : Source.StructItem} {fields : List Source.Field}
    (h : ofSources? sources = some i) (hmodule : (module, items) ∈ Source.modules sources)
    (hs : .struct s ∈ items) (hfields : s.fields = .named fields)
    (hc : ((Source.entries sources).map Prod.fst).count
      (PathName.join module (Source.bareName s.name)) = 1) :
    ∃ d, i.declared? (PathName.join module (Source.bareName s.name)) = some d ∧
      d.name = PathName.join module (Source.bareName s.name) ∧ d.values? = none ∧ d.markers = [] ∧
      ∀ f ∈ fields, (Source.Serialization.ofAttributes f.attributes).skip = false →
        (Source.Serialization.ofAttributes f.attributes).flatten = false →
        ∃ params t, { f.member params (Source.Serialization.ofAttributes s.attributes).renameAll with
          type := t } ∈ d.members := by
  obtain ⟨d, hd, hkind, hnone, hmembers⟩ := Source.StructItem.exists_declaration hfields
  have hdeclared := declared?_of_item h hmodule hs rfl hc
  rw [Source.Item.declaration?, hd] at hdeclared
  refine ⟨_, hdeclared, (ofSources?_coherent h) _ _ hdeclared, ?_, hnone, ?_⟩
  · simp only [Declaration.values?, Source.placed, hkind]
  · intro f hf hkept hown
    have hmember := hmembers f hf hkept
    rw [if_neg (by simp [hown])] at hmember
    exact ⟨_, _, List.mem_map_of_mem hmember⟩

end Index

namespace Body

variable {b : Builder} {d : Declaration} {body : Body} {m : Member}

/-- The name of the property that a member becomes. -/
def property (b : Builder) (d : Declaration) (m : Member) : String :=
  (memberOverrides b d m).rename.getD m.name

/-- Adding a member keeps the properties that are there. -/
theorem properties_subset_addMember (b : Builder) (d : Declaration) (m : Member) (body : Body) :
    body.properties.map Prod.fst ⊆ (body.addMember b d m).properties.map Prod.fst := by
  dsimp only [addMember]
  split
  · exact List.Subset.refl _
  · rw [Assoc.map_fst_put]
    split
    · exact List.Subset.refl _
    · exact List.subset_append_left ..

theorem property_mem_addMember (hallows : b.allows d m = true)
    (hhidden : (memberOverrides b d m).hidden = false) :
    property b d m ∈ (body.addMember b d m).properties.map Prod.fst := by
  simp only [addMember, hallows, hhidden, Bool.not_true, Bool.or_false, Bool.false_eq_true, if_false]
  rw [Assoc.map_fst_put, property]
  split
  · assumption
  · exact List.mem_append_right _ (List.mem_singleton.mpr rfl)

/-- Every member that is allowed and not hidden becomes a property. -/
theorem property_mem_addMembers (hm : m ∈ d.members) (hallows : b.allows d m = true)
    (hhidden : (memberOverrides b d m).hidden = false) :
    property b d m ∈ (body.addMembers b d).properties.map Prod.fst := by
  obtain ⟨before, after, hsplit⟩ := List.append_of_mem hm
  change property b d m ∈ (d.members.foldl (addMember b d) body).properties.map Prod.fst
  rw [hsplit, List.foldl_append, List.foldl_cons]
  refine List.foldlRecOn
    (motive := fun body' : Body => property b d m ∈ body'.properties.map Prod.fst) after _
    (property_mem_addMember hallows hhidden) (fun body' h m' _ => ?_)
  exact properties_subset_addMember b d m' body' h

/-- The members of a declaration are added last. -/
theorem exists_addMembers (b : Builder) (fuel : Nat) (d : Declaration) (body : Body) :
    ∃ body' : Body, body.addDeclaration b fuel d = body'.addMembers b d := by
  cases fuel with
  | zero => exact ⟨_, rfl⟩
  | succ fuel => exact ⟨_, rfl⟩

end Body

/-- The name under which a field is serialized: its own, or the one that the rule of its struct gives. -/
def Source.Field.property (f : Field) (rule : Option String) : String :=
  (Serialization.ofAttributes f.attributes).rename.getD (Text.renameField (bareName f.name) rule)

/-- Whether a layer leaves a member in its owner, under the name that it has without the layer. -/
def Overrides.KeepsMember (o : Overrides) : Prop := o.hidden = false ∧ o.rename = none

/-- A field that no layer hides or renames becomes the property under which it is serialized. -/
theorem Body.property_member {b : Builder} {d : Declaration} {f : Source.Field}
    (hown : (Overrides.ofAttributes f.attributes).KeepsMember)
    (hhost : ∀ o ∈ b.overrides.member? d.name (Source.bareName f.name), o.KeepsMember)
    (params : List String) (rule : Option String) (t : TypeExpr) :
    (memberOverrides b d { f.member params rule with type := t }).hidden = false ∧
      property b d { f.member params rule with type := t } = f.property rule := by
  have hrename : ∀ name property : String,
      (if property = name then none else some property).getD name = property := by
    intro name property
    split
    · symm
      assumption
    · rfl
  have hbase : (f.member params rule).overrides.hidden = false ∧
      (f.member params rule).overrides.rename.getD (Source.bareName f.name) = f.property rule := by
    simp only [Source.Field.member, Overrides.merge, hown.1, hown.2, Option.none_or, Bool.or_self]
    exact ⟨trivial, hrename ..⟩
  rw [property]
  simp only [memberOverrides, Source.Field.member] at hbase ⊢
  cases hlayer : b.overrides.member? d.name (Source.bareName f.name) with
  | none => exact hbase
  | some o =>
    obtain ⟨hhidden, hname⟩ := hhost o hlayer
    simp only [Overrides.mergeOption, Overrides.merge, hhidden, hname, Bool.or_false,
      Option.none_or] at hbase ⊢
    exact hbase

/-- Whether a node has a property for every member of a declaration that is allowed and not hidden. -/
def Schema.HasMembers (b : Builder) (d : Declaration) (s : Schema) : Prop :=
  ∃ ps, s.properties = some ps ∧ ∀ m ∈ d.members, b.allows d m = true →
    (Body.memberOverrides b d m).hidden = false → Body.property b d m ∈ ps.map Prod.fst

namespace BuildState

variable {b : Builder} {s : BuildState} {name : String} {args : List TypeExpr} {d : Declaration}

theorem hasMembers_expand {item : WorkItem}
    (hd : item.type.baseName?.bind b.index.lookup = some d) (hv : d.values? = none) :
    (s.expand b item).1.HasMembers b d := by
  let start : Body := { visited := [d.name], state := { s with scope := [item.frame] } }
  obtain ⟨body, hbody⟩ := Body.exists_addMembers b b.index.size d start
  refine ⟨(body.addMembers b d).properties, ?_, ?_⟩
  · rw [← hbody]
    simp only [expand, hd, expandDeclaration, hv]
    rfl
  · exact fun m hm => Body.property_mem_addMembers hm

/-- A name that is a class's and no other kind's is walked as a reference to its definition. -/
theorem walk_class (s : BuildState) (args : List TypeExpr) (hconvert : b.converters = [])
    (hterminal : b.terminals.lookup name = none)
    (hkind : ∀ m, b.index.isA name m = false) (hroom : 0 < b.options.maxNesting) :
    (s.walk b (.named name args) .empty).schema = (s.register b (.named name args)).1 ∧
      (s.walk b (.named name args) .empty).state = (s.register b (.named name args)).2 := by
  obtain ⟨room, hroom⟩ := Nat.exists_eq_add_of_le' hroom
  have hvisit : ∃ stands, visit b (.named name args) s =
      .answer stands (s.register b (.named name args)).1 (s.register b (.named name args)).2 := by
    simp [visit, Builder.convert?, hconvert, visitNamed, hterminal, hkind, visitClass]
  obtain ⟨stands, hvisit⟩ := hvisit
  simp only [walk, hroom, walkWithin, hvisit, Visit.follow, Schema.empty_overlay, and_self]

/-- Outside of any body a definition is refused because of a limit only. -/
theorem code_of_refusal? {t r : TypeExpr} {why : Refusal} (hs : s.expanding = none)
    (h : s.refusal? b t r = some why) :
    why.code = .nestingLimitReached ∨ why.code = .definitionLimitReached := by
  have hgrowing : s.registry.growingAncestor s.expanding r = none := by
    rw [hs, Registry.growingAncestor]
    split <;> rfl
  simp only [refusal?, hgrowing, ite_self] at h
  split at h
  · cases h
    exact .inl rfl
  · split at h
    · split at h
      · cases h
        exact .inr rfl
      · cases h
    · cases h

/-- A step leaves the definitions that were taken before as they are. -/
theorem get?_step {items : List WorkItem} {id : Nat} {e : Entry} (h : InOrder items.length items s)
    (hd : s.isDone = false) (hid : id < items.length) (he : s.registry.get? id = some e) :
    (s.step b).registry.get? id = some e := by
  obtain ⟨item, rest, hq⟩ := exists_queue hd
  have hne : item.target ≠ id := by
    rw [h.target_eq hq]
    omega
  rw [step_of_cons hq, closed, Registry.get?_complete, (grows_step_body b s item rest).get? he,
    Option.map_some, if_neg hne]

theorem get?_drain {items : List WorkItem} {id : Nat} {e : Entry} (h : InOrder items.length items s)
    (hid : id < items.length) (he : s.registry.get? id = some e) :
    (s.drain b).registry.get? id = some e := by
  induction s using drain_induction (b := b) generalizing items with
  | done s hd => rwa [drain_of_isDone hd]
  | step s hd ih =>
    obtain ⟨item, rest, hq⟩ := exists_queue hd
    rw [← drain_step hd]
    refine ih (h.step hq) ?_ (get?_step h hd hid he)
    rw [List.length_append]
    exact Nat.lt_add_right _ hid

/-- The definition that is queued first has at the end of a drain the body that its expansion gives. -/
theorem get?_drain_of_cons {items : List WorkItem} (h : InOrder items.length items s)
    {item : WorkItem} {rest : List WorkItem} (hq : s.worklist.queue = item :: rest) {e : Entry}
    (he : s.registry.get? item.target = some e) :
    (s.drain b).registry.get? item.target =
      some { e with body := ((s.opened item rest).expand b item).1, completed := true } := by
  have hstep : (s.step b).registry.get? item.target =
      some { e with body := ((s.opened item rest).expand b item).1, completed := true } := by
    rw [step_of_cons hq, closed, Registry.get?_complete, (grows_step_body b s item rest).get? he,
      Option.map_some, if_pos rfl]
  have htaken : item.target < (items ++ [item]).length := by
    rw [h.target_eq hq, List.length_append]
    exact Nat.lt_succ_self _
  rw [← drain_step (by simp [isDone, hq])]
  exact get?_drain (h.step hq) htaken hstep

/-- The type of a reference has the name under which its name is declared. -/
theorem baseName?_resolved (hl : b.index.lookup name = some d) :
    (s.resolved b (.named name args)).baseName? = some d.name := by
  rw [resolved, Scope.resolveDeep, TypeExpr.substitute, TypeExpr.canonicalize_named,
    Index.declaredName_of_lookup hl]
  rfl

/-- Outside of any body a declared name gets a definition, unless a limit is noted. -/
theorem defines_of_limits (hd : b.index.declared? d.name = some d) (hs : s.expanding = none)
    (hfresh : s.registry.lookup (s.resolved b (.named d.name args)).signature = none)
    (hlimit : ∀ g ∈ (s.register b (.named d.name args)).2.diagnostics,
      g.code ≠ .nestingLimitReached ∧ g.code ≠ .definitionLimitReached) :
    Defines b s (.named d.name args) d := by
  have hlookup := Index.lookup_of_declared? hd
  have hdeclared : (s.resolved b (.named d.name args)).baseName?.bind b.index.lookup = some d := by
    rw [baseName?_resolved hlookup]
    exact hlookup
  refine ⟨hdeclared, hfresh, ?_⟩
  cases hrefusal : s.refusal? b (.named d.name args) (s.resolved b (.named d.name args)) with
  | none => rfl
  | some why =>
    rw [register_refused hdeclared hfresh hrefusal] at hlimit
    obtain ⟨g, hg, hcode⟩ := Diagnostics.exists_record s.diagnostics why.code
      (s.resolved b (.named d.name args)).signature why.message
    have hno := hlimit g hg
    rw [hcode] at hno
    rcases code_of_refusal? hs hrefusal with h | h
    · exact absurd h hno.1
    · exact absurd h hno.2

/-- The first definition of a build has at its end the members of its declaration. -/
theorem hasMembers_drain {ty : TypeExpr} (h : Defines b (init b) ty d) (hv : d.values? = none) :
    ∃ body, (((init b).define ((init b).resolved b ty) d).2.drain b).registry.definitions.lookup
        ((init b).newEntry ((init b).resolved b ty)).name = some body ∧ body.HasMembers b d := by
  have hget := get?_define (d := d) h.fresh
  have hq : ((init b).define ((init b).resolved b ty) d).2.worklist.queue =
      [(init b).newItem ((init b).resolved b ty) d] := by
    rw [define_worklist h.fresh]
    rfl
  have horder : InOrder ([] : List WorkItem).length []
      ((init b).define ((init b).resolved b ty) d).2 :=
    (inOrder_init b).grows (.define .refl (Vocabulary.covers_full _) h)
  have hnames := (drain_keeps (fun _ hd hs => hs.step hd) ((sound_init b).define h)).names
  have hdrained := get?_drain_of_cons (b := b) horder hq hget
  have hbody := Registry.lookup_definitions hnames (Registry.mem_of_get? hdrained)
  exact ⟨_, hbody, hasMembers_expand h.declared hv⟩

end BuildState

namespace Builder

open BuildState

variable {b : Builder} {d : Declaration}

/-- Unless a limit is met, the root of a class is a reference to a definition with all its members. -/
theorem build_class (hconvert : b.converters = []) (hd : b.index.declared? d.name = some d)
    (hv : d.values? = none) (hterminal : b.terminals.lookup d.name = none)
    (hkind : ∀ m, b.index.isA d.name m = false) {args : List TypeExpr}
    (hlimit : ∀ g ∈ (b.build (.named d.name args)).diagnostics,
      g.code ≠ .nestingLimitReached ∧ g.code ≠ .definitionLimitReached) :
    ∃ name body, (b.build (.named d.name args)).root = .reference (b.options.place ++ name) ∧
      (b.build (.named d.name args)).definitions.lookup name = some body ∧
      body.HasMembers b d := by
  have hwalked : ∀ g ∈ ((init b).walk b (.named d.name args) .empty).state.diagnostics,
      g.code ≠ .nestingLimitReached ∧ g.code ≠ .definitionLimitReached :=
    fun g hg => hlimit g ((course_drain b _).diagnostics.subset hg)
  have hroom : 0 < b.options.maxNesting := by
    refine Nat.pos_of_ne_zero (fun hzero => ?_)
    obtain ⟨g, hg, hcode⟩ := Diagnostics.exists_record [] .nestingLimitReached
      (TypeExpr.named d.name args).signature (nestingMessage b.options.maxNesting)
    refine (hwalked g ?_).1 hcode
    rw [walk, hzero, walkWithin]
    exact hg
  obtain ⟨hschema, hstate⟩ := walk_class (init b) args hconvert hterminal hkind hroom
  have hdefines := defines_of_limits (s := init b) hd rfl rfl (hstate ▸ hwalked)
  rw [register_defines hdefines] at hschema hstate
  obtain ⟨body, hbody, hmembers⟩ := hasMembers_drain hdefines hv
  refine ⟨((init b).newEntry ((init b).resolved b (.named d.name args))).name, body, ?_, ?_,
    hmembers⟩
  · change ((init b).walk b _ .empty).schema = _
    rw [hschema, define_schema hdefines.fresh,
      Registry.reference_of_get? (get?_define hdefines.fresh), define_registry hdefines.fresh]
    rfl
  · change (((init b).walk b _ .empty).state.drain b).registry.definitions.lookup _ = _
    rw [hstate]
    exact hbody

open Source

/-- Where neither a limit is met nor a flattened field leads to a name of another kind than a class's,
the root of a struct is a reference to a definition in which every other field that is not skipped
is a property under the name under which it is serialized. -/
theorem build_struct {sources : List (String × String)} {i : Index}
    (hi : Index.ofSources? sources = some i) {module : String} {items : List Item}
    (hmodule : (module, items) ∈ modules sources) {s : StructItem} (hs : .struct s ∈ items)
    {fields : List Field} (hfields : s.fields = .named fields)
    (overrides : OverrideMap) (o : Options) (args : List TypeExpr) :
    let full := PathName.join module (bareName s.name)
    let b := ofHost i overrides [] o
    ((entries sources).map Prod.fst).count full = 1 → b.terminals.lookup full = none →
    Index.standard.markersOf full = [] →
    (∀ name, i.Inherits full name → ∀ m, i.hasMarker m name = false) →
    (∀ g ∈ (b.build (.named full args)).diagnostics,
      g.code ≠ .nestingLimitReached ∧ g.code ≠ .definitionLimitReached) →
    ∃ name body ps, (b.build (.named full args)).root = .reference (o.place ++ name) ∧
      (b.build (.named full args)).definitions.lookup name = some body ∧
      body.properties = some ps ∧
      ∀ f ∈ fields, (Serialization.ofAttributes f.attributes).skip = false →
        (Serialization.ofAttributes f.attributes).flatten = false →
        (Overrides.ofAttributes f.attributes).KeepsMember →
        (∀ layer ∈ overrides.member? full (bareName f.name), layer.KeepsMember) →
        f.property (Serialization.ofAttributes s.attributes).renameAll ∈ ps.map Prod.fst := by
  intro full b hcount hterminal hmarkers hflat hlimit
  obtain ⟨d, hdeclared, hname, hv, hnone, hmembers⟩ :=
    Index.exists_declared?_of_struct hi hmodule hs hfields hcount
  have hclass : ∀ m, i.isA full m = false := by
    refine fun m => Index.isA_eq_false ?_ (fun name hinherits => hflat name hinherits m)
    refine Index.hasMarker_of_record ?_ (Index.lookup_of_declared? hdeclared) hnone hv
    rw [Index.ofSources?_eq hi, Index.markersOf_insertAll]
    exact hmarkers
  have hfull : full = d.name := hname.symm
  rw [hfull] at hterminal hclass hlimit ⊢
  have hd : i.declared? d.name = some d := hname ▸ hdeclared
  obtain ⟨name, body, hroot, hbody, ps, hps, hproperties⟩ :=
    build_class (b := b) rfl hd hv hterminal hclass hlimit
  refine ⟨name, body, ps, hroot, hbody, hps, ?_⟩
  intro f hf hkept hown hkeeps hhost
  obtain ⟨params, t, hmember⟩ := hmembers f hf hkept hown
  obtain ⟨hhidden, hproperty⟩ := Body.property_member (b := b) (d := d) hkeeps hhost params
    (Serialization.ofAttributes s.attributes).renameAll t
  rw [← hproperty]
  exact hproperties _ hmember rfl hhidden

/-- A struct with a flattened struct in it has its own field. -/
theorem build_struct_user :
    let sources :=
      [("", "struct Base { id: u32 } struct User { name: String, #[serde(flatten)] base: Base }")]
    ((entries sources).map Prod.fst).count "User" = 1 ∧
      ∃ i, Index.ofSources? sources = some i ∧ i.Inherits "User" "Base" ∧
        ((ofHost i {} [] {}).build (.named "User" [])).diagnostics = [] ∧
        ∃ name body ps,
          ((ofHost i {} [] {}).build (.named "User" [])).root =
            .reference ("#/components/schemas/" ++ name) ∧
          ((ofHost i {} [] {}).build (.named "User" [])).definitions.lookup name = some body ∧
          body.properties = some ps ∧ "name" ∈ ps.map Prod.fst := by
  intro sources
  obtain ⟨hcount, hindex, hfield⟩ : ((entries sources).map Prod.fst).count "User" = 1 ∧
      (Index.ofSources? sources).map (fun i =>
        (i.parents "User", i.parents "Base", Marker.all.any (i.hasMarker · "Base"),
          ((init (ofHost i {} [] {})).addRootsWithin? (ofHost i {} [] {}) 1 [.named "User" []]).map
            (fun r => r.2.diagnostics))) = some (["Base"], [], false, some []) ∧
      (modules sources).any (fun e => e.1 = "" && e.2.any (fun item => item.struct?.any (fun s =>
        bareName s.name = "User" && s.fields.named?.any (fun fields => fields.any (fun f =>
          !(Serialization.ofAttributes f.attributes).skip &&
          !(Serialization.ofAttributes f.attributes).flatten &&
          Overrides.ofAttributes f.attributes = {} &&
          f.property (Serialization.ofAttributes s.attributes).renameAll = "name"))))) = true := by
    decide +kernel
  simp only [List.any_eq_true, Option.any_eq_true, Bool.and_eq_true, Bool.not_eq_true',
    decide_eq_true_eq] at hfield
  obtain ⟨i, hi, heq⟩ := Option.map_eq_some_iff.mp hindex
  obtain ⟨huser, hbase, hmarkers, hdiagnostics⟩ := by simpa only [Prod.mk.injEq] using heq
  have hclean : ((ofHost i {} [] {}).build (.named "User" [])).diagnostics = [] :=
    eq_of_addRootsWithin? hdiagnostics
  have hterminal : (Terminals.withExtra []).lookup "User" = none := by decide +kernel
  have hname : Index.standard.markersOf "User" = [] := by decide +kernel
  have hflat : ∀ name, i.Inherits "User" name → ∀ m, i.hasMarker m name = false := by
    have hparent : ∀ name, i.Inherits "User" name → name = "Base" := by
      intro name h
      induction h with
      | single h => simpa [huser] using h
      | tail _ h ih =>
        rw [ih, hbase] at h
        cases h
    intro name h m
    have hall : m ∈ Marker.all := by cases m <;> decide
    rw [hparent name h]
    exact Bool.eq_false_iff.mpr (List.any_eq_false.mp hmarkers m hall)
  refine ⟨hcount, i, hi, .single (by simp [huser]), hclean, ?_⟩
  obtain ⟨⟨m, items⟩, hmodule, rfl, item, hitem, s, hs, hstruct, fields, hfields, f, hf,
    ⟨⟨hkept, hown⟩, hnone⟩, hproperty⟩ := hfield
  obtain rfl := Item.eq_of_struct? hs
  have hfull : PathName.join "" (bareName s.name) = "User" := by
    rw [hstruct]
    rfl
  have hbuild := build_struct hi hmodule hitem (Fields.eq_of_named? hfields) {} {} []
  rw [hfull] at hbuild
  obtain ⟨name, body, ps, hroot, hbody, hps, hmembers⟩ :=
    hbuild hcount hterminal hname hflat (by simp [hclean])
  refine ⟨name, body, ps, hroot, hbody, hps, ?_⟩
  rw [← hproperty]
  refine hmembers f hf hkept hown ?_ ?_
  · rw [hnone]
    exact ⟨rfl, rfl⟩
  · exact fun _ h => by cases h

/-- A flattened map makes a map of a struct, whose own field is lost. -/
theorem build_struct_map :
    ∃ i, Index.ofSources? [("",
        "struct User { name: String, #[serde(flatten)] extra: HashMap<String, String> }")] = some i ∧
      (i.declared? "User").map (fun d => d.members.map Member.name) = some ["name"] ∧
      ((ofHost i {} [] {}).build (.named "User" [])).root.ref = none ∧
      ((ofHost i {} [] {}).build (.named "User" [])).root.properties.isNone = true ∧
      ((ofHost i {} [] {}).build (.named "User" [])).definitions = [] ∧
      ((ofHost i {} [] {}).build (.named "User" [])).diagnostics = [] := by
  have hindex : (Index.ofSources? [("",
      "struct User { name: String, #[serde(flatten)] extra: HashMap<String, String> }")]).map (fun i =>
        let w := (init (ofHost i {} [] {})).walk (ofHost i {} [] {}) (.named "User" []) .empty
        ((i.declared? "User").map (fun d => d.members.map Member.name), w.schema.ref,
          w.schema.properties.isNone && w.state.isDone && w.state.registry.definitions.isEmpty,
          w.state.diagnostics)) = some (some ["name"], none, true, []) := by
    decide +kernel
  obtain ⟨i, hi, heq⟩ := Option.map_eq_some_iff.mp hindex
  obtain ⟨hmembers, href, hw, hdiagnostics⟩ := by simpa only [Prod.mk.injEq] using heq
  simp only [Bool.and_eq_true, List.isEmpty_iff] at hw
  refine ⟨i, hi, hmembers, href, hw.1.1, ?_⟩
  dsimp only [build, finish, addRoot]
  rw [drain_of_isDone hw.1.2]
  exact ⟨hw.2, hdiagnostics⟩

end Builder
end SchemaGraph
