import Mathlib.Data.List.Induction
import SchemaGraph.Proofs.Siblings

/-! Looking up paths. After any insertions a path finds the declaration of exactly its name, else the only
one whose name it agrees with, and it does not matter in which order different names were inserted. -/
namespace SchemaGraph

/-! Paths, and the segments on which they agree. -/

namespace PathName

variable {a b n : String}

/-- Whether a name is a path to an item: its last segment names one, and starts right after the double
colon before it. -/
def IsPath (n : String) : Prop :=
  ∀ s ∈ (segments n).getLast?, s ∉ anchors ∧ s.toList.head? ≠ some ':'

instance (n : String) : Decidable (IsPath n) :=
  inferInstanceAs (Decidable (∀ s ∈ (segments n).getLast?, _))

/-- Whether one of two names ends in the other, as far as their segments name modules or items. -/
def Agree (a b : String) : Prop := named a <:+ named b ∨ named b <:+ named a

theorem tailsMatch_iff : tailsMatch a b = true ↔ Agree a b := by
  simp only [tailsMatch, Agree]
  split
  · rename_i hle
    rw [List.isSuffixOf_iff_suffix]
    refine ⟨.inl, fun h => h.elim id (fun h => ?_)⟩
    have heq : named b = named a := h.eq_of_length (Nat.le_antisymm h.length_le hle)
    exact heq ▸ List.suffix_rfl
  · rename_i hlt
    rw [List.isSuffixOf_iff_suffix]
    exact ⟨.inr, fun h => h.elim (fun h => absurd h.length_le hlt) id⟩

instance (a b : String) : Decidable (Agree a b) := decidable_of_iff _ tailsMatch_iff

theorem segmentsFrom_ne_nil (current cs : List Char) : segmentsFrom current cs ≠ [] := by
  fun_induction segmentsFrom current cs with
  | case1 => exact List.cons_ne_nil _ _
  | case2 _ _ _ _ ih => exact ih
  | case3 => exact List.cons_ne_nil _ _

/-- The last segment from the left is what follows the last double colon, unless it starts with a third
colon: a text has one segment and no double colon, or the last one is found whatever was best before. -/
theorem lastFrom_of_getLast? {current cs last : List Char}
    (h : (segmentsFrom current cs).getLast? = some last) (hlast : last.head? ≠ some ':') :
    (last = current ++ cs ∧ ∀ best, lastFrom best cs = best) ∨
      ∀ best, lastFrom best cs = last := by
  fun_induction segmentsFrom current cs with
  | case1 current cs ih =>
    have hrest : (segmentsFrom [] cs).getLast? = some last := by
      rwa [← List.singleton_append,
        List.getLast?_append_of_ne_nil _ (segmentsFrom_ne_nil [] cs)] at h
    refine .inr (fun best => ?_)
    rw [lastFrom, List.head?_cons, if_pos ⟨rfl, rfl⟩, List.tail_cons, lastFrom]
    rcases ih hrest with ⟨heq, hbest⟩ | hbest
    · rw [List.nil_append] at heq
      rw [if_neg (fun hcolon => hlast (heq ▸ hcolon.2)), hbest, heq]
    · split <;> exact hbest _
  | case2 current c cs hc ih =>
    have hcolons : ¬(c = ':' ∧ cs.head? = some ':') := by
      rintro ⟨rfl, hhead⟩
      obtain ⟨cs', rfl⟩ := List.head?_eq_some_iff.mp hhead
      exact hc cs' rfl rfl
    have hstep : ∀ best, lastFrom best (c :: cs) = lastFrom best cs := by
      intro best
      rw [lastFrom, if_neg hcolons]
    rcases ih h with ⟨heq, hbest⟩ | hbest
    · refine .inl ⟨?_, fun best => (hstep best).trans (hbest best)⟩
      rw [heq, List.append_assoc, List.singleton_append]
    · exact .inr (fun best => (hstep best).trans (hbest best))
  | case3 current => exact .inl ⟨by simpa using h.symm, fun best => rfl⟩

/-- The last of the segments of a path that name something is its short name. -/
theorem IsPath.getLast?_named (h : IsPath n) : (named n).getLast? = some (short n) := by
  obtain ⟨last, hlast⟩ : ∃ last, (segmentsFrom [] n.toList).getLast? = some last :=
    Option.isSome_iff_exists.mp (List.getLast?_isSome.mpr (segmentsFrom_ne_nil _ _))
  have hsegment : (segments n).getLast? = some (String.ofList last) := by
    rw [segments, List.getLast?_map, hlast, Option.map_some]
  obtain ⟨hanchor, hcolon⟩ := h _ hsegment
  rw [String.toList_ofList] at hcolon
  have hshort : short n = String.ofList last := by
    rw [short]
    rcases lastFrom_of_getLast? hlast hcolon with ⟨heq, hbest⟩ | hbest
    · rw [hbest, heq, List.nil_append]
    · rw [hbest]
  obtain ⟨before, hbefore⟩ := List.getLast?_eq_some_iff.mp hsegment
  have hkept : [String.ofList last].filter (!anchors.contains ·) = [String.ofList last] := by
    simp [hanchor]
  rw [named, hbefore, List.filter_append, hkept, List.getLast?_concat, hshort]

/-- Paths that agree have one short name. -/
theorem Agree.short_eq (h : Agree a b) (ha : IsPath a) (hb : IsPath b) : short a = short b := by
  have hlast : ∀ {n m : String}, IsPath n → IsPath m → named n <:+ named m → short n = short m := by
    rintro n m hn hm ⟨before, hbefore⟩
    have hne : named n ≠ [] := List.getLast?_isSome.mp (by rw [hn.getLast?_named]; rfl)
    have hsame := hm.getLast?_named
    rw [← hbefore, List.getLast?_append_of_ne_nil _ hne, hn.getLast?_named] at hsame
    exact Option.some.inj hsame
  exact h.elim (hlast ha hb) (fun h => (hlast hb ha h).symm)

end PathName

namespace Index

variable {i : Index} {d : Declaration} {n q : String} {ds : List Declaration}
  {ms : List (String × List Marker)}

/-! The buckets of an index. -/

/-- Whether every declared name stands once in the bucket of its last segment, and nothing else does. -/
structure Shelved (i : Index) : Prop where
  nodup : i.names.Nodup
  bucket : ∀ short, i.bucket short = i.names.filter (PathName.short · == short)

theorem shelved_empty (ms : List (String × List Marker)) : Shelved { markers := ms } where
  nodup := List.nodup_nil
  bucket _ := rfl

theorem names_insert (i : Index) (d : Declaration) :
    (i.insert d).names = if d.name ∈ i.names then i.names else i.names ++ [d.name] :=
  Assoc.map_fst_put d.name d i.declarations

theorem bucket_insert (i : Index) (d : Declaration) (short : String) :
    (i.insert d).bucket short =
      if PathName.short d.name = short ∧ d.name ∉ i.bucket short then i.bucket short ++ [d.name]
      else i.bucket short := by
  by_cases hshort : PathName.short d.name = short
  · subst hshort
    rw [bucket, insert, Assoc.lookup_put_self, Option.getD_some]
    by_cases hmem : d.name ∈ i.bucket (PathName.short d.name) <;> simp [hmem]
  · rw [if_neg (fun h => hshort h.1), bucket, insert, Assoc.lookup_put_of_ne (Ne.symm hshort)]
    rfl

/-- An insertion puts a new name in its bucket, and leaves the buckets as they are when the name is there. -/
theorem Shelved.insert (h : i.Shelved) (d : Declaration) : (i.insert d).Shelved := by
  have hbucket : d.name ∈ i.bucket (PathName.short d.name) ↔ d.name ∈ i.names := by
    rw [h.bucket]
    simp
  constructor
  · rw [names_insert]
    split
    · exact h.nodup
    · rename_i hnew
      rw [← List.concat_eq_append]
      exact h.nodup.concat hnew
  · intro short
    rw [names_insert, bucket_insert]
    by_cases hshort : PathName.short d.name = short
    · subst hshort
      by_cases hmem : d.name ∈ i.names
      · rw [if_pos hmem, if_neg (fun hnew => hnew.2 (hbucket.mpr hmem)), h.bucket]
      · rw [if_neg hmem, if_pos ⟨rfl, mt hbucket.mp hmem⟩, h.bucket, List.filter_append,
          List.filter_cons_of_pos (by simp), List.filter_nil]
    · rw [if_neg (fun hnew => hshort hnew.1), h.bucket]
      split
      · rfl
      · rw [List.filter_append, List.filter_cons_of_neg (by simpa using hshort), List.filter_nil,
          List.append_nil]

theorem shelved_insertAll (ms : List (String × List Marker)) (ds : List Declaration) :
    (ds.foldl Index.insert { markers := ms }).Shelved :=
  List.foldlRecOn ds _ (shelved_empty ms) (fun _ h d _ => h.insert d)

theorem filter_eq_singleton_iff {α : Type} {l : List α} {p : α → Bool} {a : α} (hn : l.Nodup) :
    l.filter p = [a] ↔ ∀ x, x ∈ l ∧ p x = true ↔ x = a := by
  simp only [← List.mem_filter, ← List.mem_singleton (b := a)]
  rw [← List.perm_ext_iff_of_nodup (hn.filter p) (List.nodup_singleton a), List.perm_singleton]

/-- A name is the only candidate when it is the only declared one with the same last segment that agrees
with the query. -/
theorem Shelved.candidates_eq_singleton_iff (h : i.Shelved) :
    i.candidates q = [n] ↔ n ∈ i.names ∧
      ∀ m ∈ i.names, PathName.short m = PathName.short q ∧ PathName.Agree m q ↔ m = n := by
  rw [candidates, h.bucket, List.filter_filter, filter_eq_singleton_iff h.nodup]
  simp only [Bool.and_eq_true, PathName.tailsMatch_iff, beq_iff_eq]
  constructor
  · refine fun hall => ⟨((hall n).mpr rfl).1, fun m hm => ?_⟩
    exact ⟨fun hmatch => (hall m).mp ⟨hm, hmatch.symm⟩, fun heq => ((hall m).mpr heq).2.symm⟩
  · rintro ⟨hn, hall⟩ m
    refine ⟨fun hm => (hall m hm.1).mp hm.2.symm, ?_⟩
    rintro rfl
    exact ⟨hn, ((hall m hn).mpr rfl).symm⟩

/-! Sequences of insertions. -/

/-- Whether a declaration is the last of its name in a sequence. -/
def Latest (ds : List Declaration) (d : Declaration) : Prop :=
  (ds.filter (·.name == d.name)).getLast? = some d

instance (ds : List Declaration) (d : Declaration) : Decidable (Latest ds d) :=
  inferInstanceAs (Decidable (_ = _))

theorem Latest.mem (h : Latest ds d) : d ∈ ds :=
  List.mem_of_mem_filter (List.mem_of_getLast? h)

theorem latest_concat (ds : List Declaration) (e d : Declaration) :
    Latest (ds ++ [e]) d ↔ if e.name = d.name then e = d else Latest ds d := by
  rw [Latest, List.filter_append]
  split
  · rename_i heq
    rw [List.filter_cons_of_pos (by simpa using heq), List.filter_nil, List.getLast?_concat,
      Option.some_inj]
  · rename_i hne
    rw [List.filter_cons_of_neg (by simpa using hne), List.filter_nil, List.append_nil, Latest]

/-- The declaration of exactly a name is the last one inserted under it. -/
theorem declared?_insertAll_iff :
    (ds.foldl insert { markers := ms }).declared? n = some d ↔ Latest ds d ∧ d.name = n := by
  induction ds using List.reverseRecOn with
  | nil => simp [declared?, Latest]
  | append_singleton ds e ih =>
    rw [List.foldl_concat, declared?, insert, latest_concat]
    by_cases hn : n = e.name
    · subst hn
      rw [Assoc.lookup_put_self, Option.some_inj]
      constructor
      · rintro rfl
        exact ⟨by rw [if_pos rfl], rfl⟩
      · rintro ⟨hlatest, hname⟩
        rwa [if_pos hname.symm] at hlatest
    · rw [Assoc.lookup_put_of_ne hn]
      refine ih.trans ⟨?_, ?_⟩
      · rintro ⟨hlatest, rfl⟩
        exact ⟨by rwa [if_neg (Ne.symm hn)], rfl⟩
      · rintro ⟨hlatest, rfl⟩
        exact ⟨by rwa [if_neg (Ne.symm hn)] at hlatest, rfl⟩

theorem mem_names_insertAll :
    n ∈ (ds.foldl insert { markers := ms }).names ↔ ∃ e ∈ ds, e.name = n := by
  induction ds using List.reverseRecOn with
  | nil => simp [names]
  | append_singleton ds e ih =>
    rw [List.foldl_concat, names_insert]
    simp only [List.mem_append, List.mem_singleton, or_and_right, exists_or, exists_eq_left, ← ih]
    split
    · rename_i hmem
      refine ⟨.inl, ?_⟩
      rintro (hn | rfl)
      · exact hn
      · exact hmem
    · rw [List.mem_append, List.mem_singleton, eq_comm (a := n)]

theorem declared?_eq_none_iff : i.declared? n = none ↔ n ∉ i.names := by
  simp only [declared?, names, List.lookup_eq_none_iff, bne_iff_ne, List.mem_map, not_exists, not_and]
  exact forall₂_congr (fun e _ => ne_comm)

/-- After some insertions, what a name is looked up to is the last declaration of its name, and this is the
name looked up, or the only one beside it with the same last segment that agrees with it. -/
theorem lookup_insertAll_iff :
    (ds.foldl insert { markers := ms }).lookup q = some d ↔ Latest ds d ∧ (d.name = q ∨
      (∀ e ∈ ds, e.name ≠ q) ∧ ∀ e ∈ ds,
        PathName.short e.name = PathName.short q ∧ PathName.Agree e.name q ↔ e.name = d.name) := by
  have hshelved := shelved_insertAll ms ds
  have hcoherent : (ds.foldl insert { markers := ms }).Coherent :=
    fun n d hd => (declared?_insertAll_iff.mp hd).2
  cases hq : (ds.foldl insert { markers := ms }).declared? q with
  | some e =>
    obtain ⟨hlatest, hname⟩ := declared?_insertAll_iff.mp hq
    rw [lookup_of_declared? hq, Option.some_inj]
    constructor
    · rintro rfl
      exact ⟨hlatest, .inl hname⟩
    · rintro ⟨hd, hcases⟩
      have hdq := hcases.resolve_right (fun h => h.1 e hlatest.mem hname)
      exact Option.some.inj (hq.symm.trans (declared?_insertAll_iff.mpr ⟨hd, hdq⟩))
  | none =>
    have hnone : ∀ e ∈ ds, e.name ≠ q := fun e he hname =>
      declared?_eq_none_iff.mp hq (mem_names_insertAll.mpr ⟨e, he, hname⟩)
    rw [lookup_eq_some_iff_of_declared?_eq_none hcoherent hq, hshelved.candidates_eq_singleton_iff,
      declared?_insertAll_iff]
    simp only [mem_names_insertAll, forall_exists_index, and_imp, forall_apply_eq_imp_iff₂, and_true]
    constructor
    · rintro ⟨⟨-, hall⟩, hlatest⟩
      exact ⟨hlatest, .inr ⟨hnone, hall⟩⟩
    · rintro ⟨hlatest, hname | ⟨-, hall⟩⟩
      · exact absurd hname (hnone d hlatest.mem)
      · exact ⟨⟨⟨d, hlatest.mem, rfl⟩, hall⟩, hlatest⟩

/-- After any insertions, a path is looked up to the last declaration of exactly its name, else to the last
one of the only name that agrees with it, else to nothing. Sequences that insert the same under each name
look it up alike. -/
theorem lookup_insertAll (ms : List (String × List Marker)) (hq : PathName.IsPath q)
    (hds : ∀ e ∈ ds, PathName.IsPath e.name) :
    (∀ d, (ds.foldl insert { markers := ms }).lookup q = some d ↔ Latest ds d ∧ (d.name = q ∨
      (∀ e ∈ ds, e.name ≠ q) ∧ ∀ e ∈ ds, PathName.Agree e.name q ↔ e.name = d.name)) ∧
    ∀ ds' : List Declaration, (∀ n, ds'.filter (·.name == n) = ds.filter (·.name == n)) →
      ∀ n, (ds'.foldl insert { markers := ms }).lookup n =
        (ds.foldl insert { markers := ms }).lookup n := by
  constructor
  · intro d
    have hshort : ∀ e ∈ ds, (PathName.short e.name = PathName.short q ∧ PathName.Agree e.name q ↔
        PathName.Agree e.name q) :=
      fun e he => and_iff_right_of_imp (fun hagree => hagree.short_eq (hds e he) hq)
    rw [lookup_insertAll_iff]
    refine and_congr_right (fun _ => or_congr_right (and_congr_right (fun _ => ?_)))
    exact forall₂_congr (fun e he => by rw [hshort e he])
  · intro ds' hsame
    have hlatest : ∀ d, Latest ds' d ↔ Latest ds d := by
      intro d
      rw [Latest, hsame, Latest]
    have hmem : ∀ e, e ∈ ds' ↔ e ∈ ds := by
      intro e
      have hfilter := congrArg (e ∈ ·) (hsame e.name)
      simpa using hfilter
    refine fun n => Option.ext (fun d => ?_)
    simp only [lookup_insertAll_iff, hlatest, hmem]

/-- A user is declared in two modules, and replaced in one of them: only a path that names the module finds
it, whichever was declared first. -/
theorem lookup_insertAll_users :
    let old : Declaration := { name := "a::User" }
    let new : Declaration := { name := "a::User", members := [{ name := "id", type := .named "u64" [] }] }
    let other : Declaration := { name := "b::User" }
    PathName.IsPath "crate::a::User" ∧ (∀ e ∈ [old, other, new], PathName.IsPath e.name) ∧
      ([old, other, new].foldl insert {}).lookup "crate::a::User" = some new ∧
      ([old, other, new].foldl insert {}).lookup "User" = none ∧
      ([other, old, new].foldl insert {}).lookup "User" = none := by
  intro old new other
  have hq : PathName.IsPath "crate::a::User" := by decide
  have hds : ∀ e ∈ [old, other, new], PathName.IsPath e.name := by decide
  obtain ⟨hfound, horder⟩ := lookup_insertAll [] hq hds
  have hnone : ([old, other, new].foldl insert {}).lookup "User" = none := by decide +kernel
  have hsame : ∀ n, [other, old, new].filter (·.name == n) = [old, other, new].filter (·.name == n) := by
    intro n
    by_cases hn : "b::User" = n
    · subst hn
      rfl
    · have hother : (other.name == n) = false := beq_eq_false_iff_ne.mpr hn
      simp only [List.filter_cons, hother, Bool.false_eq_true, if_false]
  refine ⟨hq, hds, (hfound new).mpr ?_, hnone, (horder _ hsame "User").trans hnone⟩
  decide

end Index
end SchemaGraph
