import SchemaGraph.Registry

/-! Definitions: adding one, completing one, and the names and signatures that tell them apart. -/
namespace SchemaGraph.Registry

variable {r : Registry} {e : Entry} {id : Nat}

theorem insert_of_fresh {signature : String} (h : r.lookup signature = none) (type : TypeExpr)
    (base : String) (parent : Option Nat) :
    r.insert signature type base parent =
      (r.size, { r with
        entries := r.entries ++ [{ signature, type, name := r.freeName base, parent }] }) := by
  simp [insert, h]

theorem lookup_eq_none_iff {signature : String} :
    r.lookup signature = none ↔ ∀ e ∈ r.entries, e.signature ≠ signature := by
  simp [lookup, List.findIdx?_eq_none_iff]

theorem lt_size_of_get? (h : r.get? id = some e) : id < r.size :=
  (List.getElem?_eq_some_iff.mp h).choose

theorem mem_of_get? (h : r.get? id = some e) : e ∈ r.entries := List.mem_of_getElem? h

theorem exists_of_lookup {signature : String} (h : r.lookup signature = some id) :
    ∃ e, r.get? id = some e ∧ e.signature = signature := by
  obtain ⟨hid, hsame, -⟩ := List.findIdx?_eq_some_iff_getElem.mp h
  exact ⟨_, List.getElem?_eq_getElem hid, beq_iff_eq.mp hsame⟩

/-! Completing. -/

theorem get?_complete (id : Nat) (body : Schema) (j : Nat) :
    (r.complete id body).get? j =
      (r.get? j).map (fun e => if id = j then { e with body, completed := true } else e) := by
  simp [get?, complete, List.getElem?_modify]

/-- A definition after completing one is that one with its body, or was there before. -/
theorem mem_complete {body : Schema} (h : e ∈ (r.complete id body).entries) :
    e ∈ r.entries ∨ ∃ e' ∈ r.entries, e = { e' with body, completed := true } := by
  obtain ⟨j, hj⟩ := List.getElem?_of_mem h
  have hget : (r.complete id body).get? j = some e := hj
  rw [get?_complete, Option.map_eq_some_iff] at hget
  obtain ⟨e', he', rfl⟩ := hget
  have hmem := mem_of_get? he'
  split
  · exact .inr ⟨e', hmem, rfl⟩
  · exact .inl hmem

/-- A body changes nothing else about the definitions. -/
theorem map_complete {α : Type} {f : Entry → α}
    (hf : ∀ e body, f { e with body, completed := true } = f e) (id : Nat) (body : Schema) :
    (r.complete id body).entries.map f = r.entries.map f := by
  refine List.ext_getElem? (fun j => ?_)
  simp only [complete, List.getElem?_map, List.getElem?_modify]
  cases r.entries[j]? with
  | none => rfl
  | some e => by_cases h : id = j <;> simp [h, hf]

@[simp] theorem size_complete (id : Nat) (body : Schema) :
    (r.complete id body).size = r.size := by
  simp [size, complete]

@[simp] theorem lookup_complete (id : Nat) (body : Schema) (signature : String) :
    (r.complete id body).lookup signature = r.lookup signature := by
  have hl : ∀ q : Registry,
      q.lookup signature = (q.entries.map Entry.signature).findIdx? (· == signature) := by
    intro q
    simp [lookup, List.findIdx?_map, Function.comp_def]
  rw [hl, hl, map_complete (fun _ _ => rfl)]

/-! Names and signatures. -/

/-- Where no signature occurs twice, that of a definition leads to it. -/
theorem lookup_of_nodup (hn : (r.entries.map Entry.signature).Nodup) (h : r.get? id = some e) :
    r.lookup e.signature = some id := by
  obtain ⟨hid, he⟩ := List.getElem?_eq_some_iff.mp h
  refine List.findIdx?_eq_some_iff_getElem.mpr ⟨hid, by simp [he], fun j hj hsame => ?_⟩
  have heq : (r.entries.map Entry.signature)[j]? = (r.entries.map Entry.signature)[id]? := by
    have hlt : j < r.entries.length := by omega
    simp only [List.getElem?_map, List.getElem?_eq_getElem hlt, List.getElem?_eq_getElem hid,
      Option.map_some, he]
    simpa using hsame
  have := (List.getElem?_inj (by simpa using by omega) hn).mp heq
  omega

/-- Where no name occurs twice, that of a definition leads to it. -/
theorem byName?_of_nodup (hn : (r.entries.map Entry.name).Nodup) (h : e ∈ r.entries) :
    r.byName? e.name = some e := by
  obtain ⟨l₁, l₂, hl⟩ := List.append_of_mem h
  rw [hl, List.map_append, List.map_cons] at hn
  have hne : ∀ x ∈ l₁, ¬(x.name == e.name) = true := by
    intro x hx hxe
    have hx' := List.mem_map_of_mem (f := Entry.name) hx
    exact (List.nodup_append.mp hn).2.2 _ hx' _ (List.mem_cons_self ..) (by simpa using hxe)
  rw [byName?, hl, List.find?_append, List.find?_eq_none.mpr hne]
  simp

theorem isTaken_iff {name : String} : r.isTaken name = true ↔ name ∈ r.entries.map Entry.name := by
  simp [isTaken, byName?]

theorem repr_injective {m n : Nat} (h : toString m = toString n) : m = n := by
  have hd := String.ofList_injective h
  rw [← Nat.ofDigitChars_toDigits (b := 10) (n := m) (by decide) (by decide), hd,
    Nat.ofDigitChars_toDigits (by decide) (by decide)]

/-- Of enough suffixes one is found when one is free. -/
theorem isTaken_freeSuffix {base : String} {fuel k j : Nat} (hk : k ≤ j) (hj : j < k + fuel)
    (h : r.isTaken (base ++ toString j) = false) :
    r.isTaken (r.freeSuffix base fuel k) = false := by
  induction fuel generalizing k with
  | zero => omega
  | succ fuel ih =>
    unfold freeSuffix
    split
    · rename_i hk'
      have hne : k ≠ j := by
        rintro rfl
        rw [h] at hk'
        cases hk'
      exact ih (by omega) (by omega)
    · rename_i hk'
      exact Bool.eq_false_iff.mpr hk'

/-- Beside a taken name, one of as many suffixes as there are definitions is free. -/
theorem exists_free {base : String} (hbase : r.isTaken base = true) :
    ∃ j, 2 ≤ j ∧ j < 2 + r.size ∧ r.isTaken (base ++ toString j) = false := by
  refine Classical.byContradiction (fun hno => ?_)
  have htaken : ∀ j, 2 ≤ j → j < 2 + r.size → r.isTaken (base ++ toString j) = true :=
    fun j h₁ h₂ => Classical.byContradiction
      (fun h => hno ⟨j, h₁, h₂, Bool.eq_false_iff.mpr h⟩)
  -- One name more than there are definitions cannot all be names of definitions.
  let names := base :: (List.range' 2 r.size).map (fun j => base ++ toString j)
  have hsub : names ⊆ r.entries.map Entry.name := by
    intro n hn
    rcases List.mem_cons.mp hn with rfl | hn
    · exact isTaken_iff.mp hbase
    · obtain ⟨j, hj, rfl⟩ := List.mem_map.mp hn
      have := List.mem_range'_1.mp hj
      exact isTaken_iff.mp (htaken j this.1 this.2)
  have hnodup : names.Nodup := by
    refine List.nodup_cons.mpr ⟨?_, ?_⟩
    · intro hmem
      obtain ⟨j, -, hj⟩ := List.mem_map.mp hmem
      have := (String.append_right_inj base).mp (hj.trans (String.append_empty (s := base)).symm)
      simp at this
    · refine List.Pairwise.map _ (fun i j hne heq => hne ?_) List.nodup_range'
      exact repr_injective ((String.append_right_inj base).mp heq)
  have := List.Nodup.length_le_of_subset hnodup hsub
  simp only [names, List.length_cons, List.length_map, List.length_range', size] at this
  omega

theorem isTaken_freeName (r : Registry) (base : String) : r.isTaken (r.freeName base) = false := by
  unfold freeName
  split
  · rename_i h
    obtain ⟨j, h₁, h₂, hj⟩ := exists_free h
    exact isTaken_freeSuffix h₁ h₂ hj
  · rename_i h
    exact Bool.eq_false_iff.mpr h

/-- Whether the definitions have signatures and names of their own. -/
structure Distinct (r : Registry) : Prop where
  signatures : (r.entries.map Entry.signature).Nodup
  names : (r.entries.map Entry.name).Nodup

theorem Distinct.add (h : r.Distinct) (hsignature : r.lookup e.signature = none)
    (hname : r.isTaken e.name = false) : Distinct { r with entries := r.entries ++ [e] } where
  signatures := by
    rw [List.map_append, List.nodup_append]
    refine ⟨h.signatures, by simp, ?_⟩
    simp only [List.forall_mem_map, List.map_cons, List.map_nil, List.mem_singleton, forall_eq]
    exact lookup_eq_none_iff.mp hsignature
  names := by
    rw [List.map_append, List.nodup_append]
    refine ⟨h.names, by simp, ?_⟩
    simp only [List.map_cons, List.map_nil, List.mem_singleton, forall_eq]
    rintro name hmem rfl
    rw [isTaken_iff.mpr hmem] at hname
    cases hname

theorem Distinct.complete (h : r.Distinct) (id : Nat) (body : Schema) :
    (r.complete id body).Distinct where
  signatures := by
    rw [map_complete (fun _ _ => rfl)]
    exact h.signatures
  names := by
    rw [map_complete (fun _ _ => rfl)]
    exact h.names

/-! Chains of parents. -/

/-- Where parents come first, a chain of parents is searched to its end. -/
theorem ancestorFrom_of_lt
    (hr : ∀ id e p, r.get? id = some e → e.parent = some p → p < id) (t : TypeExpr)
    {fuel more : Nat} (h : id < fuel) (hle : fuel ≤ more) :
    r.ancestorFrom t more (some id) = r.ancestorFrom t fuel (some id) := by
  induction fuel generalizing id more with
  | zero => omega
  | succ fuel ih =>
    obtain ⟨more, rfl⟩ := Nat.exists_eq_add_of_le' (Nat.lt_of_lt_of_le (Nat.succ_pos fuel) hle)
    unfold ancestorFrom
    cases he : r.get? id with
    | none => rfl
    | some e =>
      dsimp only
      split
      · rfl
      · cases hp : e.parent with
        | none => cases more <;> cases fuel <;> rfl
        | some p =>
          have hlt := hr id e p he hp
          exact ih (by omega) (by omega)

/-- The search among the parents of a definition ends by itself. -/
theorem ancestorFrom_of_le
    (hr : ∀ id e p, r.get? id = some e → e.parent = some p → p < id) (t : TypeExpr)
    (start : Option Nat) {fuel : Nat} (h : r.size < fuel) :
    r.ancestorFrom t fuel start = r.ancestorFrom t (r.size + 1) start := by
  obtain ⟨fuel, rfl⟩ := Nat.exists_eq_add_of_le' (Nat.lt_of_le_of_lt (Nat.zero_le _) h)
  cases start with
  | none => rfl
  | some id =>
    by_cases hid : id < r.size
    · exact ancestorFrom_of_lt hr t (by omega) (by omega)
    · have hnone : r.get? id = none := List.getElem?_eq_none (by simpa [size] using hid)
      simp [ancestorFrom, hnone]

end SchemaGraph.Registry
