/-! Association lists with one entry per key: kept in insertion order by `put`, sorted by `insert`. -/
namespace SchemaGraph.Assoc

variable {α : Type u} {β : Type v}

/-- Writes `v` at `k`: in place when the key is already there, else as the last entry. -/
def put [BEq α] (k : α) (v : β) : List (α × β) → List (α × β)
  | [] => [(k, v)]
  | (k', v') :: m => if k == k' then (k', v) :: m else (k', v') :: put k v m

/-- Writes `v` at `k` in a map sorted by key. -/
def insert [Ord α] (k : α) (v : β) : List (α × β) → List (α × β)
  | [] => [(k, v)]
  | (k', v') :: m =>
    match compare k k' with
    | .lt => (k, v) :: (k', v') :: m
    | .eq => (k, v) :: m
    | .gt => (k', v') :: insert k v m

/-- The sorted map of a list of entries; the last entry of a key wins. -/
def sorted [Ord α] (entries : List (α × β)) : List (α × β) :=
  entries.foldl (fun m (k, v) => insert k v m) []

theorem lookup_put_self [BEq α] [LawfulBEq α] (k : α) (v : β) (m : List (α × β)) :
    (put k v m).lookup k = some v := by
  induction m with
  | nil => simp [put]
  | cons e m ih =>
    obtain ⟨k', v'⟩ := e
    by_cases h : k = k'
    · simp [put, h]
    · have hb : (k == k') = false := by simpa using h
      simp [put, List.lookup_cons, hb, ih]

theorem lookup_put_of_ne [BEq α] [LawfulBEq α] {k k' : α} (h : k' ≠ k) (v : β)
    (m : List (α × β)) : (put k v m).lookup k' = m.lookup k' := by
  have hb : (k' == k) = false := by simpa using h
  induction m with
  | nil => simp [put, List.lookup_cons, hb]
  | cons e m ih =>
    obtain ⟨a, b⟩ := e
    by_cases ha : k = a
    · subst ha
      simp [put, List.lookup_cons, hb]
    · have hba : (k == a) = false := by simpa using ha
      simp [put, List.lookup_cons, hba, ih]

/-- Writing keeps the keys, but for a new one at the end. -/
theorem map_fst_put [BEq α] [LawfulBEq α] (k : α) (v : β) (m : List (α × β)) :
    (put k v m).map Prod.fst =
      if k ∈ m.map Prod.fst then m.map Prod.fst else m.map Prod.fst ++ [k] := by
  induction m with
  | nil => simp [put]
  | cons e m ih =>
    obtain ⟨a, b⟩ := e
    by_cases h : k = a
    · simp [put, h]
    · have hb : (k == a) = false := by simpa using h
      by_cases hm : k ∈ m.map Prod.fst <;> simp_all [put]

theorem put_of_notMem [BEq α] [LawfulBEq α] {k : α} {m : List (α × β)} (h : k ∉ m.map Prod.fst)
    (v : β) : put k v m = m ++ [(k, v)] := by
  induction m with
  | nil => rfl
  | cons e m ih =>
    obtain ⟨hne, hm⟩ := not_or.mp (mt List.mem_cons.mpr h)
    rw [put, if_neg (by simpa using hne), ih hm, List.cons_append]

/-- Entries with different keys are kept in order. -/
theorem foldl_put [BEq α] [LawfulBEq α] {entries m : List (α × β)}
    (h : ((m ++ entries).map Prod.fst).Nodup) :
    entries.foldl (fun m e => put e.1 e.2 m) m = m ++ entries := by
  induction entries generalizing m with
  | nil => exact (List.append_nil m).symm
  | cons e entries ih =>
    have hnew : e.1 ∉ m.map Prod.fst := by
      rw [List.map_append, List.nodup_append] at h
      exact fun hmem => h.2.2 e.1 hmem e.1 (by simp) rfl
    rw [List.append_cons] at h ⊢
    rw [List.foldl_cons, put_of_notMem hnew, ih h]

theorem lookup_foldl_put_of_notMem [BEq α] [LawfulBEq α] {k : α} {entries : List (α × β)}
    (h : k ∉ entries.map Prod.fst) (m : List (α × β)) :
    (entries.foldl (fun m e => put e.1 e.2 m) m).lookup k = m.lookup k := by
  induction entries generalizing m with
  | nil => rfl
  | cons e entries ih =>
    obtain ⟨hne, hentries⟩ := not_or.mp (mt List.mem_cons.mpr h)
    rw [List.foldl_cons, ih hentries, lookup_put_of_ne hne]

/-- The last entry of a key is the one that stays. -/
theorem lookup_foldl_put [BEq α] [LawfulBEq α] {k : α} {v : β} {entries : List (α × β)} {i : Nat}
    (hi : entries[i]? = some (k, v)) (hlast : k ∉ (entries.drop (i + 1)).map Prod.fst)
    (m : List (α × β)) : (entries.foldl (fun m e => put e.1 e.2 m) m).lookup k = some v := by
  have hsplit : entries = entries.take i ++ (k, v) :: entries.drop (i + 1) := by
    obtain ⟨hlt, heq⟩ := List.getElem?_eq_some_iff.mp hi
    rw [← heq, ← List.drop_eq_getElem_cons hlt, List.take_append_drop]
  rw [hsplit, List.foldl_append, List.foldl_cons, lookup_foldl_put_of_notMem hlast,
    lookup_put_self]

theorem mem_put [BEq α] {k : α} {v : β} {m : List (α × β)} {e : α × β} (h : e ∈ put k v m) :
    e.2 = v ∨ e ∈ m := by
  induction m with
  | nil =>
    rw [put, List.mem_singleton] at h
    exact .inl (congrArg Prod.snd h)
  | cons e' m ih =>
    obtain ⟨k', v'⟩ := e'
    rw [put] at h
    split at h
    · rcases List.mem_cons.mp h with rfl | h
      · exact .inl rfl
      · exact .inr (List.mem_cons_of_mem _ h)
    · rcases List.mem_cons.mp h with rfl | h
      · exact .inr (List.mem_cons_self ..)
      · exact (ih h).imp_right (List.mem_cons_of_mem _)

/-- Of a new key, `insert` adds an entry. -/
theorem perm_insert [Ord α] [Std.LawfulEqOrd α] {k : α} {m : List (α × β)}
    (h : k ∉ m.map Prod.fst) (v : β) : (insert k v m).Perm ((k, v) :: m) := by
  induction m with
  | nil => exact .refl _
  | cons e m ih =>
    obtain ⟨k', v'⟩ := e
    obtain ⟨hne, hm⟩ := not_or.mp (mt List.mem_cons.mpr h)
    rw [insert]
    split
    · exact .refl _
    · rename_i heq
      exact absurd (Std.LawfulEqOrd.eq_of_compare heq) hne
    · exact ((ih hm).cons _).trans (.swap ..)

/-- Of entries with different keys, `sorted` loses none. -/
theorem perm_sorted [Ord α] [Std.LawfulEqOrd α] {entries : List (α × β)}
    (h : (entries.map Prod.fst).Nodup) : (sorted entries).Perm entries := by
  have hfold : ∀ (entries m : List (α × β)), ((entries ++ m).map Prod.fst).Nodup →
      (entries.foldl (fun m (k, v) => insert k v m) m).Perm (entries ++ m) := by
    intro entries
    induction entries with
    | nil => exact fun m _ => .refl m
    | cons e entries ih =>
      intro m hn
      obtain ⟨k, v⟩ := e
      rw [List.cons_append, List.map_cons, List.nodup_cons, List.map_append, List.mem_append] at hn
      have hp : (entries ++ insert k v m).Perm ((k, v) :: (entries ++ m)) :=
        ((perm_insert (fun hk => hn.1 (.inr hk)) v).append_left entries).trans
          List.perm_middle
      refine (ih _ ?_).trans hp
      rw [(hp.map Prod.fst).nodup_iff, List.map_cons, List.nodup_cons, List.map_append,
        List.mem_append]
      exact hn
  have := hfold entries [] (by rwa [List.append_nil])
  rwa [List.append_nil] at this

theorem mem_insert [Ord α] {k : α} {v : β} {m : List (α × β)} {e : α × β} (h : e ∈ insert k v m) :
    e = (k, v) ∨ e ∈ m := by
  induction m with
  | nil => exact .inl (List.mem_singleton.mp h)
  | cons e' m ih =>
    obtain ⟨k', v'⟩ := e'
    rw [insert] at h
    split at h
    · exact List.mem_cons.mp h
    · exact (List.mem_cons.mp h).imp_right (List.mem_cons_of_mem _)
    · rcases List.mem_cons.mp h with rfl | h
      · exact .inr (List.mem_cons_self ..)
      · exact (ih h).imp_right (List.mem_cons_of_mem _)

/-- Whether keys stand in strictly increasing order. -/
def Increasing [Ord α] (m : List (α × β)) : Prop := m.Pairwise (fun e e' => compare e.1 e'.1 = .lt)

theorem Increasing.insert [Ord α] [Std.TransOrd α] [Std.LawfulEqOrd α] {m : List (α × β)}
    (h : Increasing m) (k : α) (v : β) : Increasing (insert k v m) := by
  induction m with
  | nil => exact List.pairwise_singleton ..
  | cons e m ih =>
    obtain ⟨k', v'⟩ := e
    obtain ⟨hlt, hm⟩ := List.pairwise_cons.mp h
    rw [Assoc.insert]
    split
    · rename_i hk
      refine List.pairwise_cons.mpr ⟨fun e he => ?_, h⟩
      rcases List.mem_cons.mp he with rfl | he
      · exact hk
      · exact Std.TransCmp.lt_trans hk (hlt e he)
    · rename_i hk
      obtain rfl := Std.LawfulEqOrd.eq_of_compare hk
      exact List.pairwise_cons.mpr ⟨hlt, hm⟩
    · rename_i hk
      refine List.pairwise_cons.mpr ⟨fun e he => ?_, ih hm⟩
      rcases mem_insert he with rfl | he
      · exact Std.OrientedCmp.gt_iff_lt.mp hk
      · exact hlt e he

theorem increasing_sorted [Ord α] [Std.TransOrd α] [Std.LawfulEqOrd α] (entries : List (α × β)) :
    Increasing (sorted entries) :=
  List.foldlRecOn entries _ List.Pairwise.nil (fun _ hm e _ => Increasing.insert hm e.1 e.2)

theorem insert_of_lt [Ord α] [Std.OrientedOrd α] {k : α} {m : List (α × β)}
    (h : ∀ e ∈ m, compare e.1 k = .lt) (v : β) : insert k v m = m ++ [(k, v)] := by
  induction m with
  | nil => rfl
  | cons e m ih =>
    rw [List.forall_mem_cons] at h
    simp [insert, Std.OrientedCmp.gt_iff_lt.mpr h.1, ih h.2]

/-- What is sorted already stays as it is. -/
theorem sorted_of_increasing [Ord α] [Std.OrientedOrd α] {entries : List (α × β)}
    (h : Increasing entries) : sorted entries = entries := by
  have hfold : ∀ (entries m : List (α × β)), Increasing (m ++ entries) →
      entries.foldl (fun m (k, v) => insert k v m) m = m ++ entries := by
    intro entries
    induction entries with
    | nil => exact fun m _ => (List.append_nil m).symm
    | cons e entries ih =>
      intro m hm
      obtain ⟨k, v⟩ := e
      have hlast := (List.pairwise_append.mp hm).2.2
      have hnew : ∀ e ∈ m, compare e.1 k = .lt := fun e he => hlast e he (k, v) (by simp)
      rw [List.append_cons] at hm ⊢
      simp only [List.foldl_cons, insert_of_lt hnew, ih _ hm]
  exact hfold entries [] h

/-- Sorted maps with the same entries are the same. -/
theorem Increasing.eq_of_mem_iff [Ord α] [Std.TransOrd α] {m m' : List (α × β)}
    (h : Increasing m) (h' : Increasing m') (heq : ∀ e, e ∈ m ↔ e ∈ m') : m = m' := by
  have hirrefl : ∀ e e' : α × β, compare e.1 e'.1 = .lt → e ≠ e' := by
    rintro e _ hlt rfl
    have hself : compare e.1 e.1 = .eq := Std.ReflCmp.compare_self
    rw [hself] at hlt
    cases hlt
  have hperm : m.Perm m' :=
    (List.perm_ext_iff_of_nodup (h.imp (hirrefl _ _)) (h'.imp (hirrefl _ _))).mpr heq
  refine hperm.eq_of_pairwise (fun e e' _ _ hlt hgt => ?_) h h'
  rw [← Std.OrientedCmp.gt_iff_lt, hlt] at hgt
  cases hgt

theorem mem_of_lookup [BEq α] [LawfulBEq α] {k : α} {v : β} {m : List (α × β)}
    (h : m.lookup k = some v) : (k, v) ∈ m := by
  obtain ⟨l₁, l₂, rfl, -⟩ := List.lookup_eq_some_iff.mp h
  simp

/-- Where no key occurs twice, that of an entry leads to its value. -/
theorem lookup_of_mem [BEq α] [LawfulBEq α] {k : α} {v : β} {m : List (α × β)}
    (hn : (m.map Prod.fst).Nodup) (h : (k, v) ∈ m) : m.lookup k = some v := by
  obtain ⟨l₁, l₂, rfl⟩ := List.append_of_mem h
  refine List.lookup_eq_some_iff.mpr ⟨l₁, l₂, rfl, fun e he => bne_iff_ne.mpr ?_⟩
  rintro rfl
  rw [List.map_append, List.nodup_append] at hn
  exact hn.2.2 e.1 (List.mem_map_of_mem he) e.1 (by simp) rfl

end SchemaGraph.Assoc
