import Mathlib.Data.List.Nodup
import SchemaGraph.Proofs.Modules

/-! Names of types in sources that are those of items beside them. -/
namespace SchemaGraph

theorem PathName.segmentsFrom_of_notMem {cs : List Char} (h : ':' ∉ cs) (current : List Char) :
    segmentsFrom current cs = [current ++ cs] := by
  induction cs generalizing current with
  | nil => rw [segmentsFrom, List.append_nil]
  | cons c cs ih =>
    obtain ⟨hc, hcs⟩ := not_or.mp (mt List.mem_cons.mpr h)
    rw [segmentsFrom]
    · rw [ih hcs, List.append_assoc, List.singleton_append]
    · rintro cs' rfl
      exact absurd rfl hc

theorem PathName.segments_of_notMem {name : String} (h : ':' ∉ name.toList) :
    segments name = [name] := by
  rw [segments, segmentsFrom_of_notMem h, List.nil_append, List.map_singleton,
    String.ofList_toList]

namespace TypeExpr

variable {t : TypeExpr}

theorem names_named (n : String) (as : List TypeExpr) :
    (named n as).names = n :: as.flatMap names := by
  rw [names, parts, List.filterMap_cons_some (f := baseName?) rfl, partsArgs_eq_flatMap, List.filterMap_flatMap]
  rfl

theorem names_array (c : TypeExpr) (d : Nat) : (array c d).names = c.names := by
  rw [names, parts, List.filterMap_cons_none rfl, names]

theorem names_arrayOf (c : TypeExpr) (d : Nat) : (c.arrayOf d).names = c.names := by
  unfold arrayOf
  split
  · rfl
  · split
    · rw [names_array, names_array]
    · rw [names_array]

theorem names_wildcard (u : Option TypeExpr) : (wildcard u).names = u.toList.flatMap names := by
  rw [names, parts, List.filterMap_cons_none rfl]
  cases u with
  | none => rfl
  | some u => exact (List.flatMap_singleton names u).symm

end TypeExpr

namespace Source

variable {module name : String} {siblings : List String}

/-- A name without colons is one of an item beside it, or stays as it is written. -/
theorem qualifiedName_of_notMem (h : ':' ∉ name.toList) :
    qualifiedName module siblings name =
      if siblings.contains name then PathName.join module name else name := by
  rw [qualifiedName, PathName.segments_of_notMem h]
  split
  · rename_i heq
    cases (List.cons.inj heq).2
  · rename_i heq
    cases (List.cons.inj heq).2
  · rename_i heq
    cases (List.cons.inj heq).2
  · rfl

theorem qualifiedArgs_eq_map (module : String) (siblings : List String) (as : List TypeExpr) :
    qualifiedArgs module siblings as = as.map (qualified module siblings) := by
  induction as with
  | nil => rfl
  | cons a as ih => rw [qualifiedArgs, ih, List.map_cons]

/-- Under the modules that declare them, the names of a type stand at their places. -/
theorem names_qualified (module : String) (siblings : List String) (t : TypeExpr) :
    (qualified module siblings t).names = t.names.map (qualifiedName module siblings) := by
  induction t using TypeExpr.inductOn with
  | named n as ih =>
    rw [qualified, qualifiedArgs_eq_map, TypeExpr.names_named, TypeExpr.names_named, List.map_cons,
      List.flatMap_map, List.map_flatMap]
    congr 1
    exact List.flatMap_congr ih
  | array c d ih => rw [qualified, TypeExpr.names_arrayOf, TypeExpr.names_array, ih]
  | var n => rfl
  | wildcard u ih =>
    cases u with
    | none => rfl
    | some u =>
      rw [qualified, qualifiedBound, TypeExpr.names_wildcard, TypeExpr.names_wildcard,
        Option.toList_some, List.flatMap_singleton, Option.toList_some, List.flatMap_singleton]
      exact ih u rfl
  | any => rfl

/-- Whether a type stands in a declaration for a field: as a supertype when the field is flattened, else
as the type of the member of its name. -/
def Field.Stores (f : Field) (d : Declaration) (t : TypeExpr) : Prop :=
  if (Serialization.ofAttributes f.attributes).flatten then t ∈ d.supertypes
  else ∃ o, ⟨bareName f.name, t, o⟩ ∈ d.members

theorem Field.stores_placed {s : StructItem} {d : Declaration} {fields : List Field} {f : Field}
    (hd : s.declaration? = some d) (hs : s.fields = .named fields) (hf : f ∈ fields)
    (hkept : (Serialization.ofAttributes f.attributes).skip = false) :
    f.Stores (placed module siblings d)
      (qualified module siblings (f.type.toTypeExpr (s.params.map GenericParam.name))) := by
  obtain ⟨d', hd', -, -, hfield⟩ := StructItem.exists_declaration hs
  obtain rfl := Option.some.inj (hd'.symm.trans hd)
  have hplace := hfield f hf hkept
  rw [Field.Stores]
  split at hplace
  · rename_i hflat
    rw [if_pos hflat]
    exact List.mem_map_of_mem hplace
  · rename_i hflat
    rw [if_neg hflat]
    exact ⟨_, List.mem_map_of_mem hplace⟩

end Source

namespace Index

open Source

theorem lookup_eq_some_iff_of_declared?_eq_none {i : Index} {n : String} (hc : i.Coherent)
    (h : i.declared? n = none) (d : Declaration) :
    i.lookup n = some d ↔ i.candidates n = [d.name] ∧ i.declared? d.name = some d := by
  rw [lookup, h]
  constructor
  · intro hd
    dsimp only at hd
    split at hd
    · rename_i full hfull
      obtain rfl := hc full d hd
      exact ⟨hfull, hd⟩
    · cases hd
  · rintro ⟨hcandidates, hd⟩
    simp only [hcandidates, hd]

/-- Where no path is declared twice, a field of a struct is stored with the names in its type under
their modules: the name of an item beside the struct becomes that item's path, and a name of no such
item stays as it is written. What is looked up under the path is the declaration of that item. When the
item has none, it is the only declaration, if there is one, that agrees with the path on all segments
which both have. -/
theorem lookup_sibling {sources : List (String × String)} {i : Index}
    (hi : ofSources? sources = some i) (hn : ((entries sources).map Prod.fst).Nodup)
    {m : String} {items : List Item} (hm : (m, items) ∈ modules sources) {s : StructItem}
    (hs : .struct s ∈ items) {fields : List Field} (hfields : s.fields = .named fields) {f : Field}
    (hf : f ∈ fields) (hkept : (Serialization.ofAttributes f.attributes).skip = false) :
    ∃ d t, i.lookup (PathName.join m (bareName s.name)) = some d ∧ f.Stores d t ∧
      ∀ (k : Nat) (name : String),
        (f.type.toTypeExpr (s.params.map GenericParam.name)).names[k]? = some name →
          ':' ∉ name.toList →
            (name ∉ typeNames items → t.names[k]? = some name) ∧
            ∀ item ∈ items, item.declaredName? = some name →
              t.names[k]? = some (PathName.join m name) ∧
                match item.declaration? m (typeNames items) with
                | some e => i.lookup (PathName.join m name) = some e
                | none => ∀ e, i.lookup (PathName.join m name) = some e ↔
                    i.candidates (PathName.join m name) = [e.name] ∧ i.declared? e.name = some e := by
  have hdeclared : ∀ item ∈ items, ∀ name, item.declaredName? = some name →
      i.declared? (PathName.join m name) = item.declaration? m (typeNames items) := by
    intro item hitem name hname
    have hmem := mem_entries_of_item hm hitem hname
    exact declared?_of_item hi hm hitem hname
      (List.count_eq_one_of_mem hn (List.mem_map_of_mem hmem))
  obtain ⟨d, hd, -⟩ := StructItem.exists_declaration hfields
  have hstruct : i.declared? (PathName.join m (bareName s.name)) =
      some (placed m (typeNames items) d) := by
    rw [hdeclared _ hs _ rfl, Item.declaration?, hd, Option.map_some]
  refine ⟨_, _, lookup_of_declared? hstruct, Field.stores_placed hd hfields hf hkept, ?_⟩
  intro k name hname hcolon
  rw [names_qualified, List.getElem?_map, hname, Option.map_some, qualifiedName_of_notMem hcolon]
  constructor
  · intro hnot
    rw [if_neg (by simpa using hnot)]
  · intro item hitem hdeclares
    have hsibling : name ∈ typeNames items := List.mem_filterMap.mpr ⟨item, hitem, hdeclares⟩
    rw [if_pos (by simpa using hsibling)]
    refine ⟨rfl, ?_⟩
    have hlookup := hdeclared item hitem name hdeclares
    cases hitem' : item.declaration? m (typeNames items) with
    | some e => exact lookup_of_declared? (hlookup.trans hitem')
    | none =>
      exact lookup_eq_some_iff_of_declared?_eq_none (ofSources?_coherent hi) (hlookup.trans hitem')

/-- A field of a module finds an enumeration beside its struct, below two other types. -/
theorem lookup_sibling_mode :
    let sources := [("", "struct Mode { value: u32 }"),
      ("a", "enum Mode { On, Off } struct User { modes: Vec<[Mode; 2]> }")]
    ((entries sources).map Prod.fst).Nodup ∧
      ∃ i d e t o, ofSources? sources = some i ∧ i.lookup "a::User" = some d ∧
        ⟨"modes", t, o⟩ ∈ d.members ∧ t.names[1]? = some "a::Mode" ∧
          i.lookup "a::Mode" = some e ∧ e.isEnum = true := by
  intro sources
  obtain ⟨hn, hsome, hfield⟩ : ((entries sources).map Prod.fst).Nodup ∧
      (ofSources? sources).isSome = true ∧
      (modules sources).any (fun e => e.1 = "a" && e.2.any (fun item => item.struct?.any (fun s =>
        bareName s.name = "User" && s.fields.named?.any (fun fields => fields.any (fun f =>
          bareName f.name = "modes" && !(Serialization.ofAttributes f.attributes).skip &&
          !(Serialization.ofAttributes f.attributes).flatten &&
          (f.type.toTypeExpr (s.params.map GenericParam.name)).names[1]? = some "Mode")))) &&
        e.2.any (fun item => item.declaredName? = some "Mode" &&
          (item.declaration? "a" (typeNames e.2)).any Declaration.isEnum)) = true := by
    decide +kernel
  simp only [List.any_eq_true, Option.any_eq_true, Bool.and_eq_true, Bool.not_eq_true',
    decide_eq_true_eq] at hfield
  obtain ⟨i, hi⟩ := Option.isSome_iff_exists.mp hsome
  obtain ⟨⟨m, items⟩, hmodule, ⟨rfl, item, hitem, s, hs, huser, fields, hfields, f, hf,
    ⟨⟨hmodes, hkept⟩, hflat⟩, hname⟩, mode, hmode, hmodeName, e, he, henum⟩ := hfield
  obtain rfl := Item.eq_of_struct? hs
  obtain ⟨d, t, hd, ht, hlook⟩ :=
    lookup_sibling hi hn hmodule hitem (Fields.eq_of_named? hfields) hf hkept
  obtain ⟨htype, hsibling⟩ := (hlook 1 "Mode" hname (by decide)).2 mode hmode hmodeName
  rw [Field.Stores, if_neg (by simp [hflat]), hmodes] at ht
  obtain ⟨o, ho⟩ := ht
  rw [huser] at hd
  simp only [he] at hsibling
  exact ⟨hn, i, d, e, t, o, hi, hd, ho, htype, hsibling, henum⟩

/-- A field with the raw name of the struct beside it does not find it, and one with the name of a tuple
beside it finds a struct of another module. -/
theorem lookup_sibling_astray :
    ((ofSources? [("", "struct r#type \x7b value: u32 \x7d struct User \x7b id: r#type \x7d")]).map
        (fun i => ((i.lookup "User").map (fun d => d.members.map Member.type),
          (i.lookup "type").map Declaration.name, (i.lookup "r#type").map Declaration.name)) =
      some (some [.named "r#type" []], some "type", none)) ∧
    ((ofSources? [("", "struct Id { value: u32 } mod a { struct Id(u32); struct User { id: Id } }")]).map
        (fun i => ((i.lookup "a::User").map (fun d => d.members.map Member.type),
          (i.declared? "a::Id").map Declaration.name, (i.lookup "a::Id").map Declaration.name)) =
      some (some [.named "a::Id" []], none, some "Id")) := by
  constructor <;> decide +kernel

end Index
end SchemaGraph
