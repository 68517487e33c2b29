import SchemaGraph.Proofs.Index

/-! The items of sources under their paths, and the declarations that an index has of them. -/
namespace SchemaGraph

namespace Source

/-- The names of types that items of one module declare. -/
def typeNames (items : List Item) : List String := items.filterMap Item.declaredName?

/-- An item as a struct. -/
def Item.struct? : Item → Option StructItem
  | .struct s => some s
  | .enum _ | .module .. | .other => none

/-- The fields of a struct when they have names. -/
def Fields.named? : Fields → Option (List Field)
  | .named fields => some fields
  | .unnamed | .unit => none

/-- The declaration that an item of a module is by itself, if it is one. -/
def Item.declaration? (module : String) (siblings : List String) : Item → Option Declaration
  | .struct s => s.declaration?.map (placed module siblings)
  | .enum e => e.declaration?.map (placed module siblings)
  | .module .. | .other => none

/-- A struct or enumeration under its path, with its declaration if it has one. -/
def Item.entry? (module : String) (siblings : List String) (item : Item) :
    Option (String × Option Declaration) :=
  item.declaredName?.map (fun name =>
    (PathName.join module name, item.declaration? module siblings))

mutual
/-- The structs and enumerations in an item of a module. -/
def Item.entries (module : String) (siblings : List String) :
    Item → List (String × Option Declaration)
  | .module name (some items) =>
    entriesOf (PathName.join module (bareName name)) (items.filterMap Item.declaredName?) items
  | item => (item.entry? module siblings).toList

def entriesOf (module : String) (siblings : List String) :
    List Item → List (String × Option Declaration)
  | [] => []
  | item :: items => item.entries module siblings ++ entriesOf module siblings items
end

mutual
/-- The modules in an item of a module, each under its path and with its items. -/
def Item.modules (module : String) : Item → List (String × List Item)
  | .module name (some items) =>
    (PathName.join module (bareName name), items) ::
      modulesIn (PathName.join module (bareName name)) items
  | .module _ none | .struct _ | .enum _ | .other => []

def modulesIn (module : String) : List Item → List (String × List Item)
  | [] => []
  | item :: items => item.modules module ++ modulesIn module items
end

/-- The structs and enumerations of sources, each source the text of a module. -/
def entries (sources : List (String × String)) : List (String × Option Declaration) :=
  sources.flatMap (fun (module, text) =>
    (itemsOfText? text).toList.flatMap (fun items => entriesOf module (typeNames items) items))

/-- The modules of sources. -/
def modules (sources : List (String × String)) : List (String × List Item) :=
  sources.flatMap (fun (module, text) =>
    (itemsOfText? text).toList.flatMap (fun items => (module, items) :: modulesIn module items))

variable {m module path name : String} {siblings : List String} {d : Declaration}
  {item : Item} {items : List Item}

theorem Item.eq_of_struct? {s : StructItem} (h : item.struct? = some s) : item = .struct s := by
  cases item with
  | struct s' => rw [Option.some.inj h]
  | enum e => cases h
  | module name content => cases h
  | other => cases h

theorem Fields.eq_of_named? {fs : Fields} {fields : List Field} (h : fs.named? = some fields) :
    fs = .named fields := by
  cases fs with
  | named fields' => rw [Option.some.inj h]
  | unnamed => cases h
  | unit => cases h

/-- The declaration of an item has its path as its name. -/
theorem Item.exists_of_declaration? (h : item.declaration? module siblings = some d) :
    ∃ name, item.declaredName? = some name ∧ d.name = PathName.join module name := by
  cases item with
  | struct s =>
    obtain ⟨e, he, rfl⟩ := Option.map_eq_some_iff.mp h
    refine ⟨bareName s.name, rfl, ?_⟩
    unfold StructItem.declaration? at he
    split at he
    · cases he
      rfl
    · cases he
    · cases he
  | enum e =>
    obtain ⟨f, hf, rfl⟩ := Option.map_eq_some_iff.mp h
    refine ⟨bareName e.name, rfl, ?_⟩
    simp only [EnumItem.declaration?] at hf
    split at hf
    · cases hf
    · cases hf
      rfl
  | module name content => cases h
  | other => cases h

/-- A struct with named fields is a class without markers: a flattened field is one of its supertypes, any
other that is not skipped one of its members. -/
theorem StructItem.exists_declaration {s : StructItem} {fields : List Field}
    (hs : s.fields = .named fields) :
    ∃ d, s.declaration? = some d ∧ d.kind = .record ∧ d.markers = [] ∧
      ∀ f ∈ fields, (Serialization.ofAttributes f.attributes).skip = false →
        if (Serialization.ofAttributes f.attributes).flatten then
          f.type.toTypeExpr (s.params.map GenericParam.name) ∈ d.supertypes
        else
          f.member (s.params.map GenericParam.name)
            (Serialization.ofAttributes s.attributes).renameAll ∈ d.members := by
  simp only [StructItem.declaration?, hs, List.partition_eq_filter_filter]
  refine ⟨_, rfl, rfl, rfl, fun f hf hkept => ?_⟩
  have hmem : f ∈ fields.filter (fun f => !(Serialization.ofAttributes f.attributes).skip) :=
    List.mem_filter.mpr ⟨hf, by rw [hkept]; rfl⟩
  split
  · rename_i hflat
    exact List.mem_map_of_mem (List.mem_filter.mpr ⟨hmem, hflat⟩)
  · rename_i hflat
    exact List.mem_map_of_mem (List.mem_filter.mpr ⟨hmem, by simpa using hflat⟩)

mutual
/-- A declaration stands under its name. -/
theorem Item.name_of_mem_entries (module : String) (siblings : List String) (item : Item)
    (h : (path, some d) ∈ item.entries module siblings) : d.name = path := by
  have hentry : ∀ item : Item, (path, some d) ∈ (item.entry? module siblings).toList →
      d.name = path := by
    intro item h
    rw [Option.mem_toList, Item.entry?, Option.map_eq_some_iff] at h
    obtain ⟨name, hname, heq⟩ := h
    obtain ⟨rfl, hd⟩ := Prod.mk.inj heq
    obtain ⟨name', hname', hd'⟩ := Item.exists_of_declaration? hd
    rw [hname, Option.some.injEq] at hname'
    rw [hd', hname']
  cases item with
  | struct s => exact hentry (.struct s) h
  | enum e => exact hentry (.enum e) h
  | module name content =>
    cases content with
    | none => cases h
    | some items => exact name_of_mem_entriesOf _ _ items h
  | other => cases h

theorem name_of_mem_entriesOf (module : String) (siblings : List String) (items : List Item)
    (h : (path, some d) ∈ entriesOf module siblings items) : d.name = path := by
  cases items with
  | nil => cases h
  | cons item items =>
    rcases List.mem_append.mp h with h | h
    · exact Item.name_of_mem_entries module siblings item h
    · exact name_of_mem_entriesOf module siblings items h
end

mutual
/-- What an index has of an item is what the item's entries declare. -/
theorem Item.declarations_eq (module : String) (siblings : List String) (item : Item) :
    item.declarations module siblings = (item.entries module siblings).filterMap Prod.snd := by
  cases item with
  | struct s => cases h : s.declaration? <;> 
    simp [Item.declarations, Item.entries, Item.entry?, Item.declaredName?, Item.declaration?, h]
  | enum e => cases h : e.declaration? <;> 
    simp [Item.declarations, Item.entries, Item.entry?, Item.declaredName?, Item.declaration?, h]
  | module name content =>
    cases content with
    | none => rfl
    | some items => exact declarationsOf_eq _ _ items
  | other => rfl

theorem declarationsOf_eq (module : String) (siblings : List String) (items : List Item) :
    declarationsOf module siblings items =
      (entriesOf module siblings items).filterMap Prod.snd := by
  cases items with
  | nil => rfl
  | cons item items =>
    rw [declarationsOf, entriesOf, List.filterMap_append, Item.declarations_eq module siblings item,
      declarationsOf_eq module siblings items]
end

theorem entry_mem_entriesOf {e : String × Option Declaration} (hi : item ∈ items)
    (h : item.entry? module siblings = some e) : e ∈ entriesOf module siblings items := by
  induction items with
  | nil => cases hi
  | cons item' items ih =>
    rw [entriesOf, List.mem_append]
    rcases List.mem_cons.mp hi with rfl | hi
    · left
      cases item with
      | module name content => cases h
      | _ => exact Option.mem_toList.mpr h
    · exact .inr (ih hi)

mutual
/-- The items of a module stand among the entries of every module around it. -/
theorem Item.entriesOf_subset (module : String) (siblings : List String) (item : Item)
    (h : (m, items) ∈ item.modules module) :
    entriesOf m (typeNames items) items ⊆ item.entries module siblings := by
  cases item with
  | module name content =>
    cases content with
    | none => cases h
    | some inner =>
      rcases List.mem_cons.mp h with heq | h
      · cases heq
        exact List.Subset.refl _
      · exact entriesOf_subset _ _ inner h
  | struct s => cases h
  | enum e => cases h
  | other => cases h

theorem entriesOf_subset (module : String) (siblings : List String) (all : List Item)
    (h : (m, items) ∈ modulesIn module all) :
    entriesOf m (typeNames items) items ⊆ entriesOf module siblings all := by
  cases all with
  | nil => cases h
  | cons item all =>
    rw [entriesOf]
    rcases List.mem_append.mp h with h | h
    · exact List.subset_append_of_subset_left _ (Item.entriesOf_subset module siblings item h)
    · exact List.subset_append_of_subset_right _ (entriesOf_subset module siblings all h)
end

/-- An item of a module of sources is among their entries. -/
theorem mem_entries_of_item {sources : List (String × String)} (hm : (m, items) ∈ modules sources)
    (hi : item ∈ items) (hname : item.declaredName? = some name) :
    (PathName.join m name, item.declaration? m (typeNames items)) ∈ entries sources := by
  have hentry : item.entry? m (typeNames items) =
      some (PathName.join m name, item.declaration? m (typeNames items)) := by
    rw [Item.entry?, hname, Option.map_some]
  have he := entry_mem_entriesOf hi hentry
  obtain ⟨⟨module, text⟩, hsource, hm⟩ := List.mem_flatMap.mp hm
  obtain ⟨all, hall, hm⟩ := List.mem_flatMap.mp hm
  refine List.mem_flatMap.mpr ⟨(module, text), hsource, List.mem_flatMap.mpr ⟨all, hall, ?_⟩⟩
  rcases List.mem_cons.mp hm with heq | hm
  · cases heq
    exact he
  · exact entriesOf_subset module (typeNames all) all hm he

theorem name_of_mem_entries {sources : List (String × String)}
    (h : (path, some d) ∈ entries sources) : d.name = path := by
  obtain ⟨source, -, h⟩ := List.mem_flatMap.mp h
  obtain ⟨all, -, h⟩ := List.mem_flatMap.mp h
  exact name_of_mem_entriesOf _ _ all h

end Source

namespace Index

variable {i : Index} {d : Declaration} {n : String} {ds : List Declaration}

/-- The index of sources, each added as the text of a module. -/
def ofSources? (sources : List (String × String)) : Option Index :=
  sources.foldlM (fun i (module, text) => (i.addSource? module text).map Prod.fst) standard

theorem declared?_insertAll_of_forall_ne (h : ∀ d ∈ ds, d.name ≠ n) :
    (ds.foldl insert i).declared? n = i.declared? n := by
  induction ds generalizing i with
  | nil => rfl
  | cons d ds ih =>
    rw [List.forall_mem_cons] at h
    rw [List.foldl_cons, ih h.2]
    exact Assoc.lookup_put_of_ne h.1.symm d i.declarations

/-- Of declarations that are inserted, one is found when it is the only one of its name. -/
theorem declared?_insertAll_of_mem (hd : d ∈ ds) (h : ∀ e ∈ ds, e.name = d.name → e = d) :
    (ds.foldl insert i).declared? d.name = some d := by
  induction ds generalizing i with
  | nil => cases hd
  | cons e ds ih =>
    rw [List.forall_mem_cons] at h
    rw [List.foldl_cons]
    by_cases hmem : d ∈ ds
    · exact ih hmem h.2
    · obtain rfl := (List.mem_cons.mp hd).resolve_right hmem
      have hne : ∀ e ∈ ds, e.name ≠ d.name := by
        intro e he hname
        exact hmem (h.2 e he hname ▸ he)
      rw [declared?_insertAll_of_forall_ne hne]
      exact Assoc.lookup_put_self d.name d i.declarations

/-- The index of sources has all their declarations, inserted in order. -/
theorem ofSources?_eq {sources : List (String × String)} (h : ofSources? sources = some i) :
    i = ((Source.entries sources).filterMap Prod.snd).foldl insert standard := by
  have hfold : ∀ (sources : List (String × String)) (j : Index),
      sources.foldlM (fun i (module, text) => (i.addSource? module text).map Prod.fst) j = some i →
        i = ((Source.entries sources).filterMap Prod.snd).foldl insert j := by
    intro sources
    induction sources with
    | nil => exact fun j h => (Option.some.inj h).symm
    | cons source sources ih =>
      intro j h
      rw [List.foldlM_cons, Option.bind_eq_bind, Option.bind_eq_some_iff] at h
      obtain ⟨k, hk, hrest⟩ := h
      simp only [addSource?, Source.declarations?, Option.bind_eq_bind, Option.map_eq_some_iff,
        Option.bind_eq_some_iff] at hk
      obtain ⟨r, ⟨ds, ⟨items, hitems, hds⟩, hr⟩, rfl⟩ := hk
      cases hds
      cases hr
      have hentries : Source.entries (source :: sources) =
          Source.entriesOf source.1 (Source.typeNames items) items ++ Source.entries sources := by
        simp [Source.entries, hitems]
      rw [ih _ hrest, hentries, List.filterMap_append, List.foldl_append,
        ← Source.declarationsOf_eq]
      rfl
  exact hfold sources standard h

theorem ofSources?_coherent {sources : List (String × String)} {i : Index}
    (h : ofSources? sources = some i) : i.Coherent := by
  rw [ofSources?_eq h]
  exact (Built.standard.insertAll _).coherent

theorem eq_of_count_eq_one {α : Type} {l : List (String × α)} {a a' : α}
    (hc : (l.map Prod.fst).count n = 1) (ha : (n, a) ∈ l) (ha' : (n, a') ∈ l) : a = a' := by
  obtain ⟨l₁, l₂, rfl⟩ := List.append_of_mem ha
  rw [List.map_append, List.map_cons, List.count_append, List.count_cons_self] at hc
  have hfirst : n ∉ l₁.map Prod.fst := List.count_eq_zero.mp (by omega)
  have hlast : n ∉ l₂.map Prod.fst := List.count_eq_zero.mp (by omega)
  rcases List.mem_append.mp ha' with hmem | hmem
  · exact absurd (List.mem_map_of_mem hmem) hfirst
  · rcases List.mem_cons.mp hmem with heq | hmem
    · exact (Prod.mk.inj heq).2.symm
    · exact absurd (List.mem_map_of_mem hmem) hlast

/-- Under a path that is declared once stands what is declared there. -/
theorem declared?_of_mem_entries {sources : List (String × String)} {path : String}
    {o : Option Declaration} (h : ofSources? sources = some i)
    (hc : ((Source.entries sources).map Prod.fst).count path = 1)
    (hmem : (path, o) ∈ Source.entries sources) : i.declared? path = o := by
  have hname : ∀ e ∈ (Source.entries sources).filterMap Prod.snd, e.name = path → o = some e := by
    intro e he hpath
    obtain ⟨⟨path', o'⟩, he', rfl⟩ := List.mem_filterMap.mp he
    obtain rfl := Source.name_of_mem_entries he'
    rw [hpath] at he'
    exact eq_of_count_eq_one hc hmem he'
  rw [ofSources?_eq h]
  cases o with
  | none =>
    rw [declared?_insertAll_of_forall_ne]
    · rfl
    · intro e he hpath
      cases hname e he hpath
  | some d =>
    obtain rfl := Source.name_of_mem_entries hmem
    have hd : d ∈ (Source.entries sources).filterMap Prod.snd :=
      List.mem_filterMap.mpr ⟨_, hmem, rfl⟩
    exact declared?_insertAll_of_mem hd (fun e he hpath => (Option.some.inj (hname e he hpath)).symm)

/-- The declaration of an item whose path is declared once. -/
theorem declared?_of_item {sources : List (String × String)} {module : String}
    {items : List Source.Item} {item : Source.Item} (h : ofSources? sources = some i)
    (hm : (module, items) ∈ Source.modules sources) (hitem : item ∈ items)
    (hname : item.declaredName? = some n)
    (hc : ((Source.entries sources).map Prod.fst).count (PathName.join module n) = 1) :
    i.declared? (PathName.join module n) = item.declaration? module (Source.typeNames items) :=
  declared?_of_mem_entries h hc (Source.mem_entries_of_item hm hitem hname)

end Index
end SchemaGraph
