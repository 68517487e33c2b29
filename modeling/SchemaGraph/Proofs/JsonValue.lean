import Mathlib.Algebra.Ring.Nat
import SchemaGraph.Json.Decode
import SchemaGraph.Proofs.JsonText
import SchemaGraph.Schema.Text

/-! JSON values in canonical form, and records of which some fields are unset. -/
namespace SchemaGraph.Json

mutual
/-- How many objects and arrays nest in a value. -/
def depth : Json → Nat
  | arr items => depthItems items + 1
  | obj fields => depthFields fields + 1
  | _ => 0

def depthItems : List Json → Nat
  | [] => 0
  | j :: js => max (depth j) (depthItems js)

def depthFields : List (String × Json) → Nat
  | [] => 0
  | (_, j) :: js => max (depth j) (depthFields js)
end

/-- Whether the keys of every object are sorted. -/
def Sorted (j : Json) : Prop := ∀ fields, obj fields ∈ j.parts → Assoc.Increasing fields

variable {j : Json} {items : List Json} {fields : List (String × Json)} {room : Nat}

theorem depth_arr_le : (arr items).depth ≤ room + 1 ↔ ∀ j ∈ items, j.depth ≤ room := by
  have hitems : depthItems items ≤ room ↔ ∀ j ∈ items, j.depth ≤ room := by
    induction items with
    | nil => simp [depthItems]
    | cons j js ih => rw [depthItems, Nat.max_le, ih, List.forall_mem_cons]
  rw [depth, Nat.add_le_add_iff_right, hitems]

theorem depth_obj_le : (obj fields).depth ≤ room + 1 ↔ ∀ e ∈ fields, e.2.depth ≤ room := by
  have hfields : depthFields fields ≤ room ↔ ∀ e ∈ fields, e.2.depth ≤ room := by
    induction fields with
    | nil => simp [depthFields]
    | cons e es ih => rw [depthFields, Nat.max_le, ih, List.forall_mem_cons]
  rw [depth, Nat.add_le_add_iff_right, hfields]

theorem exists_room_of_arr (h : (arr items).depth ≤ room) :
    ∃ inner, room = inner + 1 ∧ ∀ j ∈ items, j.depth ≤ inner := by
  cases room with
  | zero => cases h
  | succ inner => exact ⟨inner, rfl, depth_arr_le.mp h⟩

theorem exists_room_of_obj (h : (obj fields).depth ≤ room) :
    ∃ inner, room = inner + 1 ∧ ∀ e ∈ fields, e.2.depth ≤ inner := by
  cases room with
  | zero => cases h
  | succ inner => exact ⟨inner, rfl, depth_obj_le.mp h⟩

theorem sorted_arr : (arr items).Sorted ↔ ∀ j ∈ items, j.Sorted := by
  simp only [Sorted, parts, partsItems_eq_flatMap, List.mem_cons, List.mem_flatMap, reduceCtorEq,
    false_or]
  constructor
  · exact fun h j hj fields hf => h fields ⟨j, hj, hf⟩
  · rintro h fields ⟨j, hj, hf⟩
    exact h j hj fields hf

theorem sorted_obj :
    (obj fields).Sorted ↔ Assoc.Increasing fields ∧ ∀ e ∈ fields, e.2.Sorted := by
  simp only [Sorted, parts, partsFields_eq_flatMap, List.mem_cons, List.mem_flatMap, obj.injEq]
  constructor
  · exact fun h => ⟨h fields (.inl rfl), fun e he fs hf => h fs (.inr ⟨e, he, hf⟩)⟩
  · rintro ⟨htop, hbelow⟩ fs (rfl | ⟨e, he, hf⟩)
    · exact htop
    · exact hbelow e he fs hf

theorem canonicalItems_of_forall (h : ∀ j ∈ items, j.canonical room = some j) :
    canonicalItems room items = some items := by
  induction items with
  | nil => rfl
  | cons j js ih =>
    rw [List.forall_mem_cons] at h
    simp [canonicalItems, h.1, ih h.2]

theorem canonicalFields_of_forall (h : ∀ e ∈ fields, e.2.canonical room = some e.2) :
    canonicalFields room fields = some fields := by
  induction fields with
  | nil => rfl
  | cons e es ih =>
    rw [List.forall_mem_cons] at h
    simp [canonicalFields, h.1, ih h.2]

/-- A value with sorted keys is in canonical form. -/
theorem canonical_of_sorted (hx : j.Exact) (hs : j.Sorted) (hd : j.depth ≤ room) :
    j.canonical room = some j := by
  induction j using inductOn generalizing room with
  | leaf j harr hobj =>
    have hj := hx.isExact
    cases j with
    | arr items => exact absurd rfl (harr items)
    | obj fields => exact absurd rfl (hobj fields)
    | float x => cases hj
    | unreadable => cases hj
    | _ => rfl
  | arr items ih =>
    rw [exact_arr] at hx
    rw [sorted_arr] at hs
    obtain ⟨inner, rfl, hle⟩ := exists_room_of_arr hd
    have hitems := canonicalItems_of_forall (fun i hi => ih i hi (hx i hi) (hs i hi) (hle i hi))
    have hguard : canonical (inner + 1) (arr items) = (canonicalItems inner items).map arr := by
      rw [Option.map_eq_bind]
      rfl
    rw [hguard, hitems, Option.map_some]
  | obj fields ih =>
    rw [exact_obj] at hx
    rw [sorted_obj] at hs
    obtain ⟨inner, rfl, hle⟩ := exists_room_of_obj hd
    have hfields := canonicalFields_of_forall (fun e he => ih e he (hx e he) (hs.2 e he) (hle e he))
    have hguard : canonical (inner + 1) (obj fields) =
        (canonicalFields inner fields).map (fun fs => obj (Assoc.sorted fs)) := by
      rw [Option.map_eq_bind]
      rfl
    rw [hguard, hfields, Option.map_some, Assoc.sorted_of_increasing hs.1]

/-- A value without floats, as a map with sorted keys holds it. -/
structure Plain (j : Json) : Prop where
  exact : j.Exact
  sorted : j.Sorted

theorem Plain.canonical (h : j.Plain) (hd : j.depth ≤ room) : j.canonical room = some j :=
  canonical_of_sorted h.exact h.sorted hd

/-- What was mapped is read back item by item. -/
theorem mapM_map {α β : Type} {read : α → Option β} {write : β → α} {ys : List β}
    (h : ∀ y ∈ ys, read (write y) = some y) : (ys.map write).mapM read = some ys := by
  induction ys with
  | nil => rfl
  | cons y ys ih =>
    rw [List.forall_mem_cons] at h
    simp [h.1, ih h.2]

/-! Records, of which some fields may be unset. -/

/-- The fields that are set. -/
def fieldsOf (slots : List (String × Option Json)) : List (String × Json) :=
  slots.filterMap (fun (k, o) => o.map (k, ·))

variable {slots : List (String × Option Json)} {key : String}

theorem field_map {α : Type} (key : String) (write : α → Json) (o : Option α) :
    field key id (o.map write) = field key write o := by
  cases o <;> rfl

theorem fieldsOf_cons (key : String) (o : Option Json) :
    fieldsOf ((key, o) :: slots) = field key id o ++ fieldsOf slots := by
  cases o <;> rfl

theorem mem_fieldsOf {e : String × Json} : e ∈ fieldsOf slots ↔ (e.1, some e.2) ∈ slots := by
  induction slots with
  | nil => simp [fieldsOf]
  | cons slot slots ih =>
    obtain ⟨k, o⟩ := slot
    rw [fieldsOf_cons, List.mem_append, ih, List.mem_cons]
    cases o with
    | none => simp [field]
    | some j => simp [field, Prod.ext_iff]

theorem map_fst_fieldsOf : ((fieldsOf slots).map Prod.fst).Sublist (slots.map Prod.fst) := by
  induction slots with
  | nil => exact .slnil
  | cons slot slots ih =>
    obtain ⟨k, o⟩ := slot
    cases o with
    | none => exact ih.cons k
    | some j => exact ih.cons_cons k

theorem lookup_fieldsOf {o : Option Json} (hn : (slots.map Prod.fst).Nodup)
    (h : (key, o) ∈ slots) : (fieldsOf slots).lookup key = o := by
  cases o with
  | some j => exact Assoc.lookup_of_mem (hn.sublist map_fst_fieldsOf) (mem_fieldsOf.mpr h)
  | none =>
    rw [List.lookup_eq_none_iff]
    rintro ⟨k, j⟩ he
    rw [bne_iff_ne]
    rintro rfl
    have hboth := (Assoc.lookup_of_mem hn h).symm.trans (Assoc.lookup_of_mem hn (mem_fieldsOf.mp he))
    cases hboth

/-- All fields of a record are known to it, each once. -/
theorem RecordShape.fields_fieldsOf {shape : RecordShape} (hkeys : slots.map Prod.fst = shape.keys)
    (hn : shape.keys.Nodup) (hopen : shape.closed = false) (room : Nat) :
    shape.fields (room + 1) (obj (fieldsOf slots)) = some ⟨room, fieldsOf slots⟩ := by
  have hsub : ((fieldsOf slots).map Prod.fst).Sublist shape.keys := hkeys ▸ map_fst_fieldsOf
  have hknown : (fieldsOf slots).filter (fun e => shape.keys.contains e.1) = fieldsOf slots := by
    refine List.filter_eq_self.mpr (fun e he => ?_)
    exact List.contains_iff_mem.mpr (hsub.subset (List.mem_map_of_mem he))
  simp only [fields, hknown]
  simp [hopen, hn.sublist hsub]

theorem Fields.optional_fieldsOf {α : Type} {d : Decoder α} {write : α → Json} {o : Option α}
    (hn : (slots.map Prod.fst).Nodup) (h : (key, o.map write) ∈ slots)
    (hread : ∀ x ∈ o, write x ≠ null ∧ d room (write x) = some x) :
    (Fields.mk room (fieldsOf slots)).optional key d = some o := by
  rw [optional, getOr, lookup_fieldsOf hn h]
  cases o with
  | none => rfl
  | some x =>
    obtain ⟨hne, hx⟩ := hread x rfl
    simp [Decoder.nullable, hx]

/-! The fields of a record by the kind of their values. -/

section

variable (hn : (slots.map Prod.fst).Nodup)

include hn

theorem Fields.optional_string {o : Option String} (h : (key, o.map str) ∈ slots) :
    (Fields.mk room (fieldsOf slots)).optional key .string = some o :=
  optional_fieldsOf hn h (fun _ _ => ⟨Json.noConfusion, rfl⟩)

theorem Fields.optional_bool {o : Option Bool} (h : (key, o.map bool) ∈ slots) :
    (Fields.mk room (fieldsOf slots)).optional key .bool = some o :=
  optional_fieldsOf hn h (fun _ _ => ⟨Json.noConfusion, rfl⟩)

theorem Fields.optional_count {o : Option Nat} (h : (key, o.map ofNat) ∈ slots)
    (ho : ∀ n ∈ o, n < 2 ^ 64) : (Fields.mk room (fieldsOf slots)).optional key .count = some o := by
  refine optional_fieldsOf hn h (fun n hn => ⟨Json.noConfusion, ?_⟩)
  have hlt := Int.lt_of_lt_of_le (Int.ofNat_lt.mpr (ho n hn)) (show _ ≤ Int.pow 2 64 by decide)
  rw [ofNat, Decoder.count, if_pos ⟨Int.natCast_nonneg n, hlt⟩, Int.toNat_natCast]

variable (hd : ∀ e ∈ fieldsOf slots, e.2.depth ≤ room)

include hd

theorem Fields.optional_value {o : Option Json} (h : (key, o.map id) ∈ slots)
    (ho : ∀ j ∈ o, j ≠ null ∧ j.Plain) :
    (Fields.mk room (fieldsOf slots)).optional key .value = some o := by
  refine optional_fieldsOf hn h (fun j hj => ⟨(ho j hj).1, ?_⟩)
  obtain rfl := hj
  exact (ho j rfl).2.canonical (hd (key, j) (mem_fieldsOf.mpr h))

theorem Fields.optional_strings {o : Option (List String)} (h : (key, o.map ofStrings) ∈ slots) :
    (Fields.mk room (fieldsOf slots)).optional key (.list .string) = some o := by
  refine optional_fieldsOf hn h (fun ss hss => ⟨Json.noConfusion, ?_⟩)
  obtain rfl := hss
  obtain ⟨inner, rfl, -⟩ := exists_room_of_arr (hd (key, ofStrings ss) (mem_fieldsOf.mpr h))
  exact mapM_map (fun x _ => rfl)

theorem Fields.optional_values {o : Option (List Json)} (h : (key, o.map arr) ∈ slots)
    (ho : ∀ js ∈ o, ∀ j ∈ js, j.Plain) :
    (Fields.mk room (fieldsOf slots)).optional key (.list .value) = some o := by
  refine optional_fieldsOf hn h (fun js hjs => ⟨Json.noConfusion, ?_⟩)
  obtain rfl := hjs
  obtain ⟨inner, rfl, hitems⟩ := exists_room_of_arr (hd (key, arr js) (mem_fieldsOf.mpr h))
  have hread : ∀ j ∈ js, (id j).canonical inner = some j :=
    fun j hj => (ho js rfl j hj).canonical (hitems j hj)
  have hall := mapM_map hread
  rwa [List.map_id] at hall

end

end SchemaGraph.Json
