import SchemaGraph.Proofs.Binary64
import SchemaGraph.Proofs.JsonValue

/-! The text of a schema is read back as the schema. -/
namespace SchemaGraph

/-- A whole number that is written as an integer. -/
structure Binary64.Whole (x : Binary64) : Prop where
  proper : x.Proper
  signed : x ≠ negativeZero
  whole : ∃ n, x.toInt? = some n ∧ n.natAbs < Json.wholeBelow

/-- Keywords that can stand in a text: bounds are whole, counts have 64 bits, and a default and an
example are not null. -/
structure Keywords.Plain (k : Keywords) : Prop where
  bounds : ∀ o ∈ [k.minimum, k.maximum, k.multipleOf], ∀ x ∈ o, x.Whole
  counts : ∀ o ∈ [k.minLength, k.maxLength, k.minItems, k.maxItems], ∀ n ∈ o, n < 2 ^ 64
  values : ∀ o ∈ [k.defaultValue, k.example?], ∀ j ∈ o, j ≠ .null ∧ j.Plain
  enumValues : ∀ js ∈ k.enumValues, ∀ j ∈ js, j.Plain

namespace Schema

/-- A schema with such keywords at every level, and with properties of different names. -/
inductive Plain : Schema → Prop
  | node {s : Schema} (keywords : s.toKeywords.Plain)
    (names : ∀ ps, s.properties = some ps → (ps.map Prod.fst).Nodup)
    (items : ∀ i, s.items = some i → Plain i)
    (property : ∀ ps, s.properties = some ps → ∀ e ∈ ps, Plain e.2)
    (additional : ∀ v, s.additionalProperties = some v → Plain v) : Plain s

variable {s : Schema} {room : Nat}

/-- The keywords in order, with the values of those that are set. -/
def slots (s : Schema) : List (String × Option Json) :=
  [("$ref", s.ref.map .str), ("type", s.type.map SchemaType.toJson), ("format", s.format.map .str),
   ("title", s.title.map .str), ("description", s.description.map .str),
   ("default", s.defaultValue.map id), ("example", s.example?.map id),
   ("minimum", s.minimum.map Json.ofBound), ("maximum", s.maximum.map Json.ofBound),
   ("exclusiveMinimum", s.exclusiveMinimum.map .bool),
   ("exclusiveMaximum", s.exclusiveMaximum.map .bool),
   ("multipleOf", s.multipleOf.map Json.ofBound), ("minLength", s.minLength.map Json.ofNat),
   ("maxLength", s.maxLength.map Json.ofNat), ("pattern", s.pattern.map .str),
   ("items", s.items.map toJson), ("minItems", s.minItems.map Json.ofNat),
   ("maxItems", s.maxItems.map Json.ofNat), ("uniqueItems", s.uniqueItems.map .bool),
   ("properties", s.properties.map (fun ps => .obj (propertyFields ps))),
   ("required", s.required.map Json.ofStrings),
   ("additionalProperties", s.additionalProperties.map toJson),
   ("enum", s.enumValues.map .arr), ("nullable", s.nullable.map .bool),
   ("readOnly", s.readOnly.map .bool), ("writeOnly", s.writeOnly.map .bool),
   ("deprecated", s.deprecated.map .bool)]

theorem childField_eq (key : String) (o : Option Schema) :
    childField key o = Json.field key toJson o := by
  cases o <;> rfl

theorem propertiesField_eq (o : Option (List (String × Schema))) :
    propertiesField o = Json.field "properties" (fun ps => .obj (propertyFields ps)) o := by
  cases o <;> rfl

theorem propertyFields_eq_map (ps : List (String × Schema)) :
    propertyFields ps = ps.map (fun e => (e.1, e.2.toJson)) := by
  induction ps with
  | nil => rfl
  | cons e ps ih => rw [propertyFields, ih, List.map_cons]

theorem toJson_eq (s : Schema) : s.toJson = .obj (Json.fieldsOf s.slots) := by
  obtain ⟨k, items, properties, additional⟩ := s
  simp only [toJson, slots, Json.fieldsOf_cons, Json.field_map, childField_eq, propertiesField_eq,
    Keywords.scalarFields, Keywords.arrayFields, Keywords.flagFields, List.append_assoc]
  simp [Json.fieldsOf]

theorem nodup_slots (s : Schema) : (s.slots.map Prod.fst).Nodup := by
  have hkeys : shape.keys.Nodup := by decide
  exact hkeys

theorem exists_ofBound {x : Binary64} (h : x.Whole) :
    ∃ n : Int, Json.ofBound x = .int n ∧ n.natAbs < Json.wholeBelow ∧ Binary64.ofInt n = x := by
  obtain ⟨n, hn, hsmall⟩ := h.whole
  have hread := Binary64.ofInt_of_toInt? h.proper h.signed hn (Nat.lt_trans hsmall (by decide))
  exact ⟨n, by rw [Json.ofBound, hn]; exact if_pos hsmall, hsmall, hread⟩

theorem optional_bound {slots : List (String × Option Json)} {key : String} {o : Option Binary64}
    (hn : (slots.map Prod.fst).Nodup) (h : (key, o.map Json.ofBound) ∈ slots)
    (ho : ∀ x ∈ o, x.Whole) :
    Json.Fields.optional ⟨room, Json.fieldsOf slots⟩ key .number = some o := by
  refine Json.Fields.optional_fieldsOf hn h (fun x hx => ?_)
  obtain ⟨n, hwritten, -, hread⟩ := exists_ofBound (ho x hx)
  rw [hwritten]
  exact ⟨Json.noConfusion, congrArg some hread⟩

theorem depth_slots_le (hd : s.toJson.depth ≤ room + 1) :
    ∀ e ∈ Json.fieldsOf s.slots, e.2.depth ≤ room := by
  rwa [← Json.depth_obj_le, ← toJson_eq]

/-- The keywords without nodes are read from the fields that they were written to. -/
theorem decodeKeywords_slots (hk : s.toKeywords.Plain) (hd : s.toJson.depth ≤ room + 1) :
    decodeKeywords ⟨room, Json.fieldsOf s.slots⟩ = some s.toKeywords := by
  have hn := nodup_slots s
  have hdepth := depth_slots_le hd
  have htype : Json.Fields.optional ⟨room, Json.fieldsOf s.slots⟩ "type" SchemaType.decode =
      some s.type :=
    Json.Fields.optional_fieldsOf hn (List.mem_of_getElem? (i := 1) rfl)
      (fun t _ => ⟨Json.noConfusion, SchemaType.lookup_word t⟩)
  simp only [decodeKeywords, htype,
    Json.Fields.optional_string hn (o := s.ref) (List.mem_of_getElem? (i := 0) rfl),
    Json.Fields.optional_string hn (o := s.format) (List.mem_of_getElem? (i := 2) rfl),
    Json.Fields.optional_string hn (o := s.title) (List.mem_of_getElem? (i := 3) rfl),
    Json.Fields.optional_string hn (o := s.description) (List.mem_of_getElem? (i := 4) rfl),
    Json.Fields.optional_value hn hdepth (o := s.defaultValue) (List.mem_of_getElem? (i := 5) rfl)
      (hk.values _ (by simp)),
    Json.Fields.optional_value hn hdepth (o := s.example?) (List.mem_of_getElem? (i := 6) rfl)
      (hk.values _ (by simp)),
    optional_bound hn (o := s.minimum) (List.mem_of_getElem? (i := 7) rfl) (hk.bounds _ (by simp)),
    optional_bound hn (o := s.maximum) (List.mem_of_getElem? (i := 8) rfl) (hk.bounds _ (by simp)),
    Json.Fields.optional_bool hn (o := s.exclusiveMinimum) (List.mem_of_getElem? (i := 9) rfl),
    Json.Fields.optional_bool hn (o := s.exclusiveMaximum) (List.mem_of_getElem? (i := 10) rfl),
    optional_bound hn (o := s.multipleOf) (List.mem_of_getElem? (i := 11) rfl)
      (hk.bounds _ (by simp)),
    Json.Fields.optional_count hn (o := s.minLength) (List.mem_of_getElem? (i := 12) rfl)
      (hk.counts _ (by simp)),
    Json.Fields.optional_count hn (o := s.maxLength) (List.mem_of_getElem? (i := 13) rfl)
      (hk.counts _ (by simp)),
    Json.Fields.optional_string hn (o := s.pattern) (List.mem_of_getElem? (i := 14) rfl),
    Json.Fields.optional_count hn (o := s.minItems) (List.mem_of_getElem? (i := 16) rfl)
      (hk.counts _ (by simp)),
    Json.Fields.optional_count hn (o := s.maxItems) (List.mem_of_getElem? (i := 17) rfl)
      (hk.counts _ (by simp)),
    Json.Fields.optional_bool hn (o := s.uniqueItems) (List.mem_of_getElem? (i := 18) rfl),
    Json.Fields.optional_strings hn hdepth (o := s.required) (List.mem_of_getElem? (i := 20) rfl),
    Json.Fields.optional_values hn hdepth (o := s.enumValues) (List.mem_of_getElem? (i := 22) rfl)
      hk.enumValues,
    Json.Fields.optional_bool hn (o := s.nullable) (List.mem_of_getElem? (i := 23) rfl),
    Json.Fields.optional_bool hn (o := s.readOnly) (List.mem_of_getElem? (i := 24) rfl),
    Json.Fields.optional_bool hn (o := s.writeOnly) (List.mem_of_getElem? (i := 25) rfl),
    Json.Fields.optional_bool hn (o := s.deprecated) (List.mem_of_getElem? (i := 26) rfl)]
  rfl

/-- A node of a field, when the field is set. -/
def decodeChild (room : Nat) : Option Json → Option (Option Schema)
  | none | some .null => some none
  | some c => (decode room c).map some

/-- The properties of a field, when the field is set. -/
def decodeProperties (room : Nat) : Option Json → Option (Option (List (String × Schema)))
  | none | some .null => some none
  | some (.obj fields) =>
    match room with
    | 0 => none
    | inner + 1 => do
      let entries ← fields.mapM (fun (k, c) => return (k, ← decode inner c))
      return some (entries.foldl (fun m (k, v) => Assoc.put k v m) [])
  | some _ => none

theorem decode_succ (room : Nat) (j : Json) :
    decode (room + 1) j = do
      let f ← shape.fields (room + 1) j
      let k ← decodeKeywords f
      let properties ← decodeProperties room (f.entries.lookup "properties")
      let items ← decodeChild room (f.entries.lookup "items")
      let additional ← decodeChild room (f.entries.lookup "additionalProperties")
      return ⟨k, items, properties, additional⟩ := by
  rw [decode]
  refine congrArg _ (funext fun f => congrArg _ (funext fun k => ?_))
  split
  · rename_i heq
    rw [heq]
    rfl
  · rename_i heq
    rw [heq]
    rfl
  · rename_i heq
    rw [heq]
    cases room with
    | zero => rfl
    | succ room =>
      simp only [decodeProperties, Option.bind_eq_bind, Option.bind_assoc]
      rfl
  · rename_i j hnull hobj heq
    rw [heq]
    cases j with
    | null => exact absurd rfl hnull
    | obj fields => exact absurd rfl (hobj fields)
    | _ => rfl

theorem decodeProperties_propertyFields {ps : List (String × Schema)}
    (hn : (ps.map Prod.fst).Nodup) (h : ∀ e ∈ ps, decode room e.2.toJson = some e.2) :
    decodeProperties (room + 1) (some (.obj (propertyFields ps))) = some (some ps) := by
  have hread : (propertyFields ps).mapM (fun e => (decode room e.2).bind (fun v => pure (e.1, v))) =
      some ps := by
    rw [propertyFields_eq_map]
    exact Json.mapM_map (fun e he => by rw [h e he]; rfl)
  simp only [decodeProperties, Option.bind_eq_bind, hread, Option.bind_some, Assoc.foldl_put (m := []) hn]
  rfl

theorem decodeChild_slots {key : String} {o : Option Schema} (h : (key, o.map toJson) ∈ s.slots)
    (ho : ∀ c, o = some c → decode room c.toJson = some c) :
    decodeChild room ((Json.fieldsOf s.slots).lookup key) = some o := by
  rw [Json.lookup_fieldsOf (nodup_slots s) h]
  cases o with
  | none => rfl
  | some c =>
    have hc := ho c rfl
    rw [toJson_eq] at hc
    simp [toJson_eq, decodeChild, hc]

/-- A schema is read from the value that it is written as, with room for its objects and arrays. -/
theorem decode_toJson (hs : s.Plain) (hd : s.toJson.depth ≤ room) :
    decode room s.toJson = some s := by
  induction hs generalizing room with
  | @node s keywords names items property additional hitems hproperty hadditional =>
    cases room with
    | zero =>
      rw [toJson_eq] at hd
      cases hd
    | succ room =>
      have hdepth := depth_slots_le hd
      have hfields : shape.fields (room + 1) s.toJson = some ⟨room, Json.fieldsOf s.slots⟩ := by
        rw [toJson_eq]
        exact Json.RecordShape.fields_fieldsOf rfl (nodup_slots s) rfl room
      have child : ∀ {key : String} {o : Option Schema}, (key, o.map toJson) ∈ s.slots →
          (∀ c, o = some c → ∀ {room : Nat}, c.toJson.depth ≤ room → decode room c.toJson = some c) →
          decodeChild room ((Json.fieldsOf s.slots).lookup key) = some o := by
        intro key o h ih
        refine decodeChild_slots h (fun c hc => ih c hc ?_)
        obtain rfl := hc
        exact hdepth (key, c.toJson) (Json.mem_fieldsOf.mpr h)
      have hproperties : decodeProperties room ((Json.fieldsOf s.slots).lookup "properties") =
          some s.properties := by
        have h : ("properties", s.properties.map (fun ps => .obj (propertyFields ps))) ∈ s.slots :=
          List.mem_of_getElem? (i := 19) rfl
        rw [Json.lookup_fieldsOf (nodup_slots s) h]
        cases hps : s.properties with
        | none => rfl
        | some ps =>
          rw [hps] at h
          obtain ⟨inner, rfl, hinner⟩ :=
            Json.exists_room_of_obj (hdepth ("properties", _) (Json.mem_fieldsOf.mpr h))
          rw [propertyFields_eq_map, List.forall_mem_map] at hinner
          exact decodeProperties_propertyFields (names ps hps)
            (fun e he => hproperty ps hps e he (hinner e he))
      rw [decode_succ, hfields]
      simp only [Option.bind_eq_bind, Option.bind_some, decodeKeywords_slots keywords hd, hproperties,
        child (o := s.items) (List.mem_of_getElem? (i := 15) rfl) hitems,
        child (o := s.additionalProperties) (List.mem_of_getElem? (i := 21) rfl) hadditional]
      cases s
      rfl

theorem exact_leaf {j : Json} (hparts : j.parts = [j]) (hj : j.isExact = true) : j.Exact := by
  intro p hp
  rw [hparts, List.mem_singleton] at hp
  exact hp ▸ hj

theorem exact_ofNat {n : Nat} (h : n < 2 ^ 64) : (Json.ofNat n).Exact := by
  have hlow : -Int.pow 2 63 ≤ (n : Int) := Int.le_trans (by decide) (Int.natCast_nonneg n)
  have hhigh := Int.lt_of_lt_of_le (Int.ofNat_lt.mpr h) (show _ ≤ Int.pow 2 64 by decide)
  refine exact_leaf rfl ?_
  rw [Json.ofNat, Json.isExact, Bool.and_eq_true, decide_eq_true_eq, decide_eq_true_eq]
  exact ⟨hlow, hhigh⟩

theorem exact_ofBound {x : Binary64} (h : x.Whole) : (Json.ofBound x).Exact := by
  obtain ⟨n, hwritten, hsmall, -⟩ := exists_ofBound h
  have hlow : -Int.pow 2 63 ≤ -(Json.wholeBelow : Int) := by decide
  have hhigh : (Json.wholeBelow : Int) ≤ Int.pow 2 64 := by decide
  rw [hwritten]
  refine exact_leaf rfl ?_
  rw [Json.isExact, Bool.and_eq_true, decide_eq_true_eq, decide_eq_true_eq]
  omega

theorem exact_toJson (hs : s.Plain) : s.toJson.Exact := by
  induction hs with
  | @node s hk names items property additional hitems hproperty hadditional =>
    have map : ∀ {α : Type} {write : α → Json} {o : Option α}, (∀ x ∈ o, (write x).Exact) →
        ∀ j ∈ o.map write, j.Exact := by
      intro α write o h j hj
      obtain ⟨x, hx, rfl⟩ := Option.map_eq_some_iff.mp hj
      exact h x hx
    have string : ∀ {o : Option String}, ∀ j ∈ o.map Json.str, j.Exact :=
      map (fun _ _ => exact_leaf rfl rfl)
    have bool : ∀ {o : Option Bool}, ∀ j ∈ o.map Json.bool, j.Exact :=
      map (fun _ _ => exact_leaf rfl rfl)
    have count : ∀ {o}, o ∈ [s.minLength, s.maxLength, s.minItems, s.maxItems] →
        ∀ j ∈ o.map Json.ofNat, j.Exact :=
      fun ho => map (fun n hn => exact_ofNat (hk.counts _ ho n hn))
    have number : ∀ {o}, o ∈ [s.minimum, s.maximum, s.multipleOf] →
        ∀ j ∈ o.map Json.ofBound, j.Exact :=
      fun ho => map (fun x hx => exact_ofBound (hk.bounds _ ho x hx))
    have value : ∀ {o}, o ∈ [s.defaultValue, s.example?] → ∀ j ∈ o.map id, j.Exact :=
      fun ho => map (fun j hj => (hk.values _ ho j hj).2.exact)
    have hproperties : ∀ j ∈ s.properties.map (fun ps => Json.obj (propertyFields ps)), j.Exact := by
      refine map (fun ps hps => ?_)
      rw [Json.exact_obj, propertyFields_eq_map, List.forall_mem_map]
      exact hproperty ps hps
    have hrequired : ∀ j ∈ s.required.map Json.ofStrings, j.Exact := by
      refine map (fun ss _ => ?_)
      rw [Json.ofStrings, Json.exact_arr, List.forall_mem_map]
      exact fun _ _ => exact_leaf rfl rfl
    have hslots : ∀ e ∈ s.slots, ∀ j ∈ e.2, j.Exact := by
      simp only [slots, List.forall_mem_cons]
      exact ⟨string, map (fun _ _ => exact_leaf rfl rfl), string, string, string,
        value (by simp), value (by simp), number (by simp), number (by simp), bool, bool,
        number (by simp), count (by simp), count (by simp), string, map hitems, count (by simp),
        count (by simp), bool, hproperties, hrequired, map hadditional,
        map (fun js hjs => Json.exact_arr.mpr (fun j hj => (hk.enumValues js hjs j hj).exact)),
        bool, bool, bool, bool, by simp⟩
    rw [toJson_eq, Json.exact_obj]
    exact fun e he => hslots _ (Json.mem_fieldsOf.mp he) e.2 rfl

/-- The text of a schema is read back as the schema, with the order of all properties. -/
theorem decode_parse?_compact (hs : s.Plain) (hd : s.toJson.depth ≤ Json.maxDepth) :
    (Json.parse? (Json.compact s.toJson)).bind (decode Json.maxDepth) = some s := by
  rw [Json.parse?_compact (exact_toJson hs), Option.bind_some, decode_toJson hs hd]

/-- Two properties that are not in the order of their names, an object without any, a bound, a default
with fields, and characters that have to be escaped. -/
theorem decode_parse?_compact_object :
    let text : Schema := { ofType .string with pattern := some "\"\\\n\u0001é" }
    let count : Schema :=
      { ofType .integer with
        minimum := some (.finite true 6755399441055744 (-51))
        defaultValue := some (.obj [("a", .arr [.int 1, .null]), ("b", .str "")]) }
    let s : Schema :=
      { object with
        properties := some [("zeta", text), ("alpha", count), ("none", object)]
        required := some ["zeta"] }
    s.Plain ∧ s.toJson.depth ≤ Json.maxDepth ∧
      (Json.parse? (Json.compact s.toJson)).bind (decode Json.maxDepth) = some s := by
  intro text count s
  have hminimum : (Binary64.finite true 6755399441055744 (-51)).Whole := by
    refine ⟨⟨?_, ?_, ?_, ?_⟩, ?_, -3, ?_, ?_⟩ <;> decide
  have hdefault : (Json.obj [("a", .arr [.int 1, .null]), ("b", .str "")]).Plain := by
    constructor
    · rw [Json.Exact]
      decide
    · intro fields hfields
      simp only [Json.parts, Json.partsFields, Json.partsItems, List.mem_cons, Json.obj.injEq,
        reduceCtorEq, List.append_nil, List.cons_append, List.nil_append, List.not_mem_nil,
        or_false] at hfields
      subst hfields
      have hkeys : compare "a" "b" = .lt := by decide
      simp [Assoc.Increasing, hkeys]
  have htext : text.Plain := by
    refine .node ⟨?_, ?_, ?_, ?_⟩ ?_ ?_ ?_ ?_ <;> simp [text, ofType]
  have hcount : count.Plain := by
    refine .node ⟨?_, ?_, ?_, ?_⟩ ?_ ?_ ?_ ?_ <;> simp [count, ofType, hminimum, hdefault]
  have hobject : object.Plain := by
    refine .node ⟨?_, ?_, ?_, ?_⟩ ?_ ?_ ?_ ?_ <;> simp [object]
  have hs : s.Plain := by
    have hproperties : ∀ e ∈ [("zeta", text), ("alpha", count), ("none", object)], e.2.Plain :=
      List.forall_mem_cons.mpr ⟨htext, List.forall_mem_cons.mpr ⟨hcount, by simpa using hobject⟩⟩
    refine .node ⟨?_, ?_, ?_, ?_⟩ ?_ ?_ (fun ps hps => ?_) ?_
    case refine_7 => exact Option.some.inj hps ▸ hproperties
    all_goals simp [s, object]
  have hdepth : s.toJson.depth ≤ Json.maxDepth := by decide +kernel
  exact ⟨hs, hdepth, decode_parse?_compact hs hdepth⟩

end Schema
end SchemaGraph
