import SchemaGraph.Proofs.Vocabulary
import SchemaGraph.Source.Files

/-! Indices that are put together declaration by declaration, and declared names in them. -/
namespace SchemaGraph

namespace Index

/-- An index that its operations put together. -/
inductive Built : Index → Prop
  | empty : Built {}
  | insert {i : Index} (h : Built i) (d : Declaration) : Built (i.insert d)
  | addMarker {i : Index} (h : Built i) (name : String) (m : Marker) : Built (i.addMarker name m)

/-- Whether every declaration is found under its own name. -/
def Coherent (i : Index) : Prop := ∀ n d, i.declared? n = some d → d.name = n

variable {i : Index} {n : String} {d : Declaration}

theorem Built.standard : Built standard :=
  List.foldlRecOn (motive := Built) standardMarkers _ .empty (fun _ hi g _ =>
    List.foldlRecOn (motive := Built) g.2 _ hi (fun _ hj n _ => hj.addMarker n g.1))

theorem Built.insertAll (h : i.Built) (ds : List Declaration) : (ds.foldl Index.insert i).Built := by
  induction ds generalizing i with
  | nil => exact h
  | cons d ds ih => exact ih (h.insert d)

theorem Built.addSource? {module text : String} {count : Nat} {j : Index} (h : i.Built)
    (hj : i.addSource? module text = some (j, count)) : j.Built := by
  simp only [Index.addSource?, Option.bind_eq_bind, Option.bind_eq_some_iff] at hj
  obtain ⟨ds, -, heq⟩ := hj
  cases heq
  exact h.insertAll ds

theorem Built.addFile {files : Files} {module path : String} {count : Nat} {j : Index}
    (h : i.Built) (hj : i.addFile files module path = .ok (j, count)) : j.Built := by
  unfold Index.addFile addText at hj
  split at hj
  · split at hj
    · rename_i r hr
      cases hj
      exact h.addSource? hr
    · cases hj
  · cases hj

/-- Reading files keeps an index built, also when it ends before the last of them. -/
theorem Built.addFiles {files : Files} {directory : String} (paths : List (List String))
    (h : i.Built) (count : Nat) : (addFiles files directory i count paths).1.Built := by
  induction paths generalizing i count with
  | nil => exact h
  | cons path paths ih =>
    dsimp only [Index.addFiles]
    split
    · rename_i hfile
      exact ih (h.addFile hfile) _
    · exact h

theorem Built.addDirectory (h : i.Built) (files : Files) (directory : String) :
    (i.addDirectory files directory).1.Built := by
  unfold Index.addDirectory
  split
  · exact h.addFiles _ 0
  · exact h

theorem Built.coherent (h : i.Built) : i.Coherent := by
  induction h with
  | empty => exact fun n d h => by cases h
  | insert _ e ih =>
    intro n d h
    unfold declared? Index.insert at h
    by_cases hn : n = e.name
    · subst hn
      rw [Assoc.lookup_put_self] at h
      cases h
      rfl
    · rw [Assoc.lookup_put_of_ne hn] at h
      exact ih n d h
  | addMarker _ _ _ ih => exact ih

/-- What a name is looked up to is declared under its own name. -/
theorem Coherent.declared?_name (hc : i.Coherent) (h : i.lookup n = some d) :
    i.declared? d.name = some d := by
  obtain ⟨k, hk⟩ := declared?_of_lookup h
  rwa [hc k d hk]

theorem lookup_of_declared? (h : i.declared? n = some d) : i.lookup n = some d := by
  simp [lookup, h]

theorem Coherent.lookup_name (hc : i.Coherent) (h : i.lookup n = some d) :
    i.lookup d.name = some d := lookup_of_declared? (hc.declared?_name h)

/-- The name under which a name is declared, or the name itself. -/
def declaredName (i : Index) (n : String) : String := ((i.lookup n).map Declaration.name).getD n

theorem declaredName_of_lookup (h : i.lookup n = some d) : i.declaredName n = d.name := by
  simp [declaredName, h]

theorem Coherent.declaredName_idem (hc : i.Coherent) (n : String) :
    i.declaredName (i.declaredName n) = i.declaredName n := by
  cases h : i.lookup n with
  | none => simp [declaredName, h]
  | some d => rw [declaredName_of_lookup h, declaredName_of_lookup (hc.lookup_name h)]

end Index

namespace TypeExpr

variable {i : Index} {t : TypeExpr}

theorem canonicalize_named (n : String) (as : List TypeExpr) :
    (named n as).canonicalize i = named (i.declaredName n) (as.map (canonicalize i)) := by
  rw [canonicalize, canonicalizeArgs_eq_map, Index.declaredName]

theorem canonicalize_idem (hc : i.Coherent) (ht : t.Plain) :
    (t.canonicalize i).canonicalize i = t.canonicalize i := by
  induction t using inductOn with
  | named n as ih =>
    rw [canonicalize_named, canonicalize_named, hc.declaredName_idem, List.map_map]
    congr 1
    exact List.map_congr_left (fun a ha => ih a ha (plain_named.mp ht a ha))
  | array c d ih =>
    obtain ⟨hd, hca, hp⟩ := plain_array.mp ht
    have hcan : (array (c.canonicalize i) d).Plain :=
      plain_array.mpr ⟨hd, by rw [isArray_canonicalize hp, hca], plain_canonicalize hp⟩
    rw [canonicalize_array ht, canonicalize_array hcan, ih hp]
  | var n => exact absurd ht (not_plain_var n)
  | wildcard u => exact absurd ht (not_plain_wildcard u)
  | any => rfl

/-- Under declared names, a type whose name is looked up has the name of the declaration. -/
theorem baseName?_canonicalize (hc : i.Coherent) (ht : t.Plain) {d : Declaration}
    (h : (t.canonicalize i).baseName?.bind i.lookup = some d) :
    (t.canonicalize i).baseName? = some d.name := by
  obtain ⟨n, hn, hl⟩ := Option.bind_eq_some_iff.mp h
  have hname : ∃ m, n = i.declaredName m := by
    cases t with
    | named m as =>
      rw [canonicalize_named] at hn
      exact ⟨m, (Option.some.inj hn).symm⟩
    | array c k =>
      rw [canonicalize_array ht] at hn
      cases hn
    | _ => cases hn
  obtain ⟨m, rfl⟩ := hname
  rw [hn, ← Index.declaredName_of_lookup hl, hc.declaredName_idem]

end TypeExpr
end SchemaGraph
