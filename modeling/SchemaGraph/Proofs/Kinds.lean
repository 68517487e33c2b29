import Mathlib.Logic.Relation
import SchemaGraph.Index.Kind
import SchemaGraph.Proofs.Termination

/-! Kinds of names. The search for a marker ends, and finds it exactly when the name or one that it inherits
from has it. -/
namespace SchemaGraph.Index

/-- Whether the second name is that of a supertype of the first, of a supertype of that, and so on. -/
def Inherits (i : Index) : String → String → Prop :=
  Relation.TransGen (fun name parent => parent ∈ i.parents name)

/-- Whether the second name is the first one, or one that it inherits from. -/
def Leads (i : Index) : String → String → Prop :=
  Relation.ReflTransGen (fun name parent => parent ∈ i.parents name)

variable {i : Index} {m : Marker} {name last : String} {fuel : Nat} {seen pending : List String}

theorem mem_parents_iff {p : String} :
    p ∈ i.parents name ↔
      ∃ d, i.lookup name = some d ∧ ∃ t ∈ d.supertypes, t.baseName? = some p := by
  unfold parents
  split
  · rename_i d hd
    simp [hd]
  · rename_i hd
    simp [hd]

theorem hasMarker_iff :
    i.hasMarker m name = true ↔ m ∈ i.markersOf name ∨
      ∃ d, i.lookup name = some d ∧ (m ∈ d.markers ∨ m = .enum ∧ d.isEnum = true) := by
  simp [hasMarker, Option.any_eq_true]

/-! What a search answers. -/

/-- What a search finds is one of the pending names, or one that they lead to. -/
theorem exists_of_search? (h : i.search? m fuel seen pending = some true) :
    ∃ n ∈ pending, ∃ last, i.Leads n last ∧ i.hasMarker m last = true := by
  induction fuel generalizing seen pending with
  | zero => cases h
  | succ fuel ih =>
    cases pending with
    | nil => cases h
    | cons name pending =>
      rw [search?] at h
      split at h
      · obtain ⟨n, hn, hfound⟩ := ih h
        exact ⟨n, List.mem_cons_of_mem _ hn, hfound⟩
      · split at h
        · rename_i hmarked
          exact ⟨name, List.mem_cons_self .., name, .refl, hmarked⟩
        · obtain ⟨n, hn, last, hlast, hmarked⟩ := ih h
          rcases List.mem_append.mp hn with hn | hn
          · have hparent : n ∈ i.parents name := List.mem_reverse.mp hn
            exact ⟨name, List.mem_cons_self .., last, .head hparent hlast, hmarked⟩
          · exact ⟨n, List.mem_cons_of_mem _ hn, last, hlast, hmarked⟩

/-! A search knows the names that it has seen and those that are pending, and forgets none of them. -/

theorem known_subset_skip (h : name ∈ seen) : seen ++ name :: pending ⊆ seen ++ pending := by
  refine List.append_subset.mpr ⟨List.subset_append_left .., List.cons_subset.mpr ⟨?_, ?_⟩⟩
  · exact List.mem_append_left _ h
  · exact List.subset_append_right ..

theorem known_subset_enter (more : List String) :
    seen ++ name :: pending ⊆ name :: seen ++ (more ++ pending) := by
  refine List.append_subset.mpr ⟨?_, List.cons_subset.mpr ⟨List.mem_cons_self .., ?_⟩⟩
  · exact List.Subset.trans (List.subset_cons_self ..) (List.subset_append_left ..)
  · exact List.Subset.trans (List.subset_append_right ..) (List.subset_append_right ..)

/-- Whether the names that a search has seen are of no use to it any more: they have no marker, and it knows
all their parents. -/
def Cleared (i : Index) (m : Marker) (seen pending : List String) : Prop :=
  ∀ n ∈ seen, i.hasMarker m n = false ∧ i.parents n ⊆ seen ++ pending

theorem cleared_nil (i : Index) (m : Marker) (pending : List String) : i.Cleared m [] pending :=
  fun _ hn => absurd hn List.not_mem_nil

/-- A name that has been seen need not be searched again. -/
theorem Cleared.skip (h : i.Cleared m seen (name :: pending)) (hname : name ∈ seen) :
    i.Cleared m seen pending :=
  fun n hn => ⟨(h n hn).1, List.Subset.trans (h n hn).2 (known_subset_skip hname)⟩

/-- A name without the marker is seen when its parents are pending. -/
theorem Cleared.enter (h : i.Cleared m seen (name :: pending)) (hname : i.hasMarker m name = false) :
    i.Cleared m (name :: seen) ((i.parents name).reverse ++ pending) := by
  refine List.forall_mem_cons.mpr ⟨⟨hname, fun p hp => ?_⟩, fun n hn => ⟨(h n hn).1, ?_⟩⟩
  · exact List.mem_append_right _ (List.mem_append_left _ (List.mem_reverse.mpr hp))
  · exact List.Subset.trans (h n hn).2 (known_subset_enter _)

/-- Where a search finds nothing, no name that it has seen, and none of the pending ones, leads to the
marker. -/
theorem not_hasMarker_of_search? (h : i.search? m fuel seen pending = some false)
    (hc : i.Cleared m seen pending) :
    ∀ n ∈ seen ++ pending, ∀ last, i.Leads n last → i.hasMarker m last = false := by
  induction fuel generalizing seen pending with
  | zero => cases h
  | succ fuel ih =>
    cases pending with
    | nil =>
      -- The names that have been seen have all their parents among them.
      rw [List.append_nil]
      intro n hn last hlast
      have hmem : last ∈ seen := by
        induction hlast with
        | refl => exact hn
        | tail _ hp hmem =>
          have hparents := (hc _ hmem).2
          rw [List.append_nil] at hparents
          exact hparents hp
      exact (hc last hmem).1
    | cons name pending =>
      rw [search?] at h
      split at h
      · rename_i hseen
        have hname : name ∈ seen := List.contains_iff_mem.mp hseen
        exact fun n hn => ih h (hc.skip hname) n (known_subset_skip hname hn)
      · split at h
        · cases h
        · rename_i hmarked
          have hcleared := hc.enter (Bool.eq_false_iff.mpr hmarked)
          exact fun n hn => ih h hcleared n (known_subset_enter _ hn)

/-- An answer says whether the name leads to the marker, however many steps there were. -/
theorem search?_eq_some_iff {answer : Bool} (h : i.search? m fuel [] [name] = some answer) :
    answer = true ↔ ∃ last, i.Leads name last ∧ i.hasMarker m last = true := by
  constructor
  · rintro rfl
    obtain ⟨n, hn, hfound⟩ := exists_of_search? h
    obtain rfl := List.mem_singleton.mp hn
    exact hfound
  · rintro ⟨last, hlast, hmarked⟩
    cases answer with
    | true => rfl
    | false =>
      have hnone := not_hasMarker_of_search? h (cleared_nil i m _) name (List.mem_singleton_self name)
      rw [hnone last hlast] at hmarked
      cases hmarked

/-! The steps of a search. -/

/-- The names of the class-typed supertypes of all declarations. -/
def supertypeNames (i : Index) : List String :=
  i.declarations.flatMap (fun e => e.2.supertypes.filterMap TypeExpr.baseName?)

/-- The parents of a name are the supertypes of one of the declarations. -/
theorem parents_eq (i : Index) (name : String) :
    i.parents name = [] ∨
      ∃ e ∈ i.declarations, i.parents name = e.2.supertypes.filterMap TypeExpr.baseName? := by
  unfold parents
  split
  · rename_i d hd
    obtain ⟨k, hk⟩ := mem_of_lookup hd
    exact .inr ⟨(k, d), hk, rfl⟩
  · exact .inl rfl

theorem parents_subset (i : Index) (name : String) : i.parents name ⊆ i.supertypeNames := by
  rcases parents_eq i name with hnone | ⟨e, he, hparents⟩
  · simp [hnone]
  · exact fun p hp => List.mem_flatMap.mpr ⟨e, he, hparents ▸ hp⟩

theorem length_parents_le (i : Index) (name : String) :
    (i.parents name).length ≤ i.supertypeNames.length := by
  rcases parents_eq i name with hnone | ⟨e, he, hparents⟩
  · simp [hnone]
  · have hmem := List.mem_map_of_mem
      (f := fun e : String × Declaration => e.2.supertypes.filterMap TypeExpr.baseName?) he
    rw [hparents, supertypeNames, List.flatMap_def]
    exact (List.sublist_flatten_of_mem hmem).length_le

theorem length_supertypeNames_le (i : Index) :
    i.supertypeNames.length ≤ i.declarations.foldl (fun n e => n + e.2.supertypes.length) 0 := by
  have hfold : ∀ (es : List (String × Declaration)) (k : Nat),
      k + (es.flatMap (fun e => e.2.supertypes.filterMap TypeExpr.baseName?)).length ≤
        es.foldl (fun n e => n + e.2.supertypes.length) k := by
    intro es
    induction es with
    | nil => exact fun k => Nat.le_refl k
    | cons e es ih =>
      intro k
      have hlength := List.length_filterMap_le TypeExpr.baseName? e.2.supertypes
      have hrest := ih (k + e.2.supertypes.length)
      rw [List.flatMap_cons, List.length_append, List.foldl_cons]
      omega
  rw [← Nat.zero_add i.supertypeNames.length]
  exact hfold i.declarations 0

/-- A bound on the steps that are left of a search among some names: the pending ones, and the parents of
each that has not been seen. -/
def stepsLeft (i : Index) (names seen pending : List String) : Nat :=
  pending.length + i.supertypeNames.length * names.countP (fun n => !seen.contains n)

/-- Entering a name costs a step, even if all its parents are pending then. -/
theorem stepsLeft_enter_lt (i : Index) (pending : List String) {names : List String}
    (hname : name ∈ names) (hnew : name ∉ seen) :
    i.stepsLeft names (name :: seen) ((i.parents name).reverse ++ pending) <
      i.stepsLeft names seen (name :: pending) := by
  have hcount : names.countP (fun n => !(name :: seen).contains n) <
      names.countP (fun n => !seen.contains n) := Registry.countP_unseen_lt hname hnew
  have hparents := length_parents_le i name
  have hmul := Nat.mul_le_mul_left i.supertypeNames.length (Nat.succ_le_of_lt hcount)
  rw [Nat.mul_succ] at hmul
  simp only [stepsLeft, List.length_append, List.length_reverse, List.length_cons]
  omega

/-- A search has an answer when it may take more steps than are left. -/
theorem exists_search? {names : List String} (hnames : i.supertypeNames ⊆ names)
    (hpending : pending ⊆ names) (hfuel : i.stepsLeft names seen pending < fuel) :
    ∃ answer, i.search? m fuel seen pending = some answer := by
  induction fuel generalizing seen pending with
  | zero => cases hfuel
  | succ fuel ih =>
    cases pending with
    | nil => exact ⟨false, rfl⟩
    | cons name pending =>
      obtain ⟨hname, hrest⟩ := List.cons_subset.mp hpending
      rw [search?]
      split
      · refine ih hrest ?_
        simp only [stepsLeft, List.length_cons] at hfuel ⊢
        omega
      · rename_i hseen
        split
        · exact ⟨true, rfl⟩
        · have hnew : name ∉ seen := fun hmem => hseen (List.contains_iff_mem.mpr hmem)
          have hlt := stepsLeft_enter_lt i pending hname hnew
          refine ih ?_ (by omega)
          exact List.append_subset.mpr
            ⟨fun p hp => hnames (parents_subset i name (List.mem_reverse.mp hp)), hrest⟩

/-- The bound on the steps of a search suffices. -/
theorem exists_search?_of_bound (i : Index) (m : Marker) (name : String)
    (hfuel : i.searchBound ≤ fuel) :
    ∃ answer, i.search? m fuel [] [name] = some answer := by
  refine exists_search? (List.subset_cons_self name i.supertypeNames) (by simp) ?_
  have hcount : (name :: i.supertypeNames).countP (fun n => !([] : List String).contains n) ≤
      i.supertypeNames.length + 1 := List.countP_le_length
  have hsteps := Nat.mul_le_mul_left i.supertypeNames.length hcount
  have hlength := length_supertypeNames_le i
  have hmul := Nat.mul_le_mul hlength (Nat.add_le_add_right hlength 1)
  generalize hk : i.declarations.foldl (fun n e => n + e.2.supertypes.length) 0 = k at hlength hmul
  have hbound : i.searchBound = k * (k + 1) + (3 * k + 4) := by
    change (List.foldl (fun n (e : String × Declaration) => n + e.2.supertypes.length) 0 _ + 2) *
      (List.foldl (fun n (e : String × Declaration) => n + e.2.supertypes.length) 0 _ + 2) = _
    rw [hk, Nat.add_mul, Nat.mul_add, Nat.mul_add, Nat.mul_add k k 1]
    omega
  rw [stepsLeft, List.length_singleton]
  omega

/-- A name is of a kind when it or a name that it inherits from has the marker. -/
theorem isA_iff : i.isA name m = true ↔ ∃ last, i.Leads name last ∧ i.hasMarker m last = true := by
  obtain ⟨answer, hanswer⟩ := exists_search?_of_bound i m name (Nat.le_refl _)
  rw [isA, hanswer, Option.getD_some]
  exact search?_eq_some_iff hanswer

/-- A name is of no kind that neither itself nor a name that it inherits from has. -/
theorem isA_eq_false (h : i.hasMarker m name = false)
    (hp : ∀ p, i.Inherits name p → i.hasMarker m p = false) : i.isA name m = false := by
  rw [Bool.eq_false_iff, Ne, isA_iff]
  rintro ⟨last, hlast, hmarked⟩
  rcases Relation.reflTransGen_iff_eq_or_transGen.mp hlast with rfl | hlast
  · rw [h] at hmarked
    cases hmarked
  · rw [hp last hlast] at hmarked
    cases hmarked

/-- The search for a marker ends within its bound, with one answer. It finds the marker exactly when a chain
of names leads from the given name to one that has it: every further name is that of a supertype of the
declaration to which the one before is looked up, and the last has the marker by itself, or its declaration
carries it or is an enumeration where enumerations are searched. -/
theorem isA_iff_reaches (i : Index) (name : String) (m : Marker) :
    (∀ fuel, i.searchBound ≤ fuel → i.search? m fuel [] [name] = some (i.isA name m)) ∧
      (i.isA name m = true ↔ ∃ last,
        Relation.ReflTransGen (fun n p => ∃ d, i.lookup n = some d ∧
          ∃ t ∈ d.supertypes, t.baseName? = some p) name last ∧
        (m ∈ i.markersOf last ∨ ∃ d, i.lookup last = some d ∧
          (m ∈ d.markers ∨ m = .enum ∧ d.isEnum = true))) := by
  constructor
  · intro fuel hfuel
    obtain ⟨answer, hanswer⟩ := exists_search?_of_bound i m name hfuel
    have hsame : answer = i.isA name m :=
      Bool.eq_iff_iff.mpr ((search?_eq_some_iff hanswer).trans isA_iff.symm)
    rw [hanswer, hsame]
  · rw [isA_iff]
    simp only [Leads, mem_parents_iff, hasMarker_iff]

/-- A cycle of supertypes that are spelled in two ways: the search enters each spelling once. -/
example :
    let i := ([{ name := "a::A", supertypes := [.named "crate::B" []] },
      { name := "b::B", supertypes := [.named "A" [], .named "Vec" [.var "T"]] }] :
        List Declaration).foldl insert standard
    i.isA "A" .collection = true ∧ i.isA "A" .map = false := by
  decide +kernel

end SchemaGraph.Index
