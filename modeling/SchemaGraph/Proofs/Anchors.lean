import SchemaGraph.Proofs.Siblings

/-! Paths that say where they start: at the root, in the module where they are written, or in one around
it. -/
namespace SchemaGraph

namespace PathName

variable {s : String} {ss ts : List String}

/-- Whether a segment names a module or an item. -/
def Ordinary (s : String) : Prop := s ∉ anchors ∧ ':' ∉ s.toList

instance (s : String) : Decidable (Ordinary s) := inferInstanceAs (Decidable (_ ∧ _))

/-- The path of some segments. -/
def path (ss : List String) : String := "::".intercalate ss

theorem segmentsFrom_append {cs : List Char} (h : ':' ∉ cs) (current rest : List Char) :
    segmentsFrom current (cs ++ ':' :: ':' :: rest) = (current ++ cs) :: segmentsFrom [] rest := by
  induction cs generalizing current with
  | nil => rw [List.nil_append, segmentsFrom, List.append_nil]
  | cons c cs ih =>
    obtain ⟨hc, hcs⟩ := not_or.mp (mt List.mem_cons.mpr h)
    rw [List.cons_append, segmentsFrom]
    · rw [ih hcs, List.append_assoc, List.singleton_append]
    · rintro cs' rfl
      exact absurd rfl hc

/-- A path has the segments that it is made of. -/
theorem segments_path (hne : ss ≠ []) (h : ∀ s ∈ ss, ':' ∉ s.toList) : segments (path ss) = ss := by
  have hchars : segmentsFrom [] (path ss).toList = ss.map String.toList := by
    rw [path, String.toList_intercalate]
    induction ss with
    | nil => exact absurd rfl hne
    | cons s ss ih =>
      rw [List.forall_mem_cons] at h
      cases ss with
      | nil =>
        rw [List.map_singleton, List.intercalate_singleton, segmentsFrom_of_notMem h.1,
          List.nil_append]
      | cons t ss =>
        rw [List.map_cons, List.map_cons, List.intercalate_cons_cons, List.append_assoc]
        rw [show "::".toList = [':', ':'] from rfl, List.cons_append, List.singleton_append,
          segmentsFrom_append h.1, List.nil_append, ← List.map_cons]
        exact congrArg _ (ih (List.cons_ne_nil t ss) h.2)
  rw [segments, hchars, List.map_map]
  exact List.map_id'' (fun s => String.ofList_toList) ss

theorem filter_segments_path (h : ∀ s ∈ ss, Ordinary s) :
    (segments (path ss)).filter (!·.isEmpty) = ss := by
  cases ss with
  | nil => rfl
  | cons s ss =>
    rw [segments_path (List.cons_ne_nil s ss) (fun s hs => (h s hs).2), List.filter_eq_self]
    intro t ht
    rw [Bool.not_eq_true', Bool.eq_false_iff, ne_eq, String.isEmpty_iff]
    rintro rfl
    exact (h _ ht).1 (List.mem_cons_self ..)

/-- The items of a module stand under its path. -/
theorem join_path (h : ∀ s ∈ ss, Ordinary s) (ht : ts ≠ []) :
    join (path ss) (path ts) = path (ss ++ ts) := by
  by_cases hs : ss = []
  · subst hs
    rfl
  · have hne : ¬(path ss).isEmpty = true := by
      rw [String.isEmpty_iff]
      intro hempty
      have hnone := filter_segments_path h
      rw [hempty] at hnone
      exact hs hnone.symm
    rw [join, if_neg hne, path, path, path, String.intercalate_append_of_ne_nil hs ht]

theorem not_mem_anchors_segments_path (hne : ss ≠ []) (h : ∀ s ∈ ss, Ordinary s) :
    ∀ s ∈ segments (path ss), s ∉ anchors := by
  rw [segments_path hne (fun s hs => (h s hs).2)]
  exact fun s hs => (h s hs).1

end PathName

namespace Source

open PathName (Ordinary path anchors segments segments_path join_path)

/-- Where a path says that it starts: at the root, or in the module where it is written, which it may say
first, and so many modules out from there. -/
inductive Start where
  | root
  | inside (here : Bool) (out : Nat)
deriving DecidableEq, Repr

namespace Start

/-- How the start is written. -/
def segments : Start → List String
  | root => ["crate"]
  | inside here out => (if here then ["self"] else []) ++ List.replicate out "super"

/-- The module where the path starts that is written in a module below `around`. -/
def base (around : List String) : Start → List String
  | root => []
  | inside _ out => around.take (around.length - out)

/-- Whether a start is written at all, and does not lead out of the root. -/
def Within (around : List String) : Start → Prop
  | root => True
  | inside here out => (here = true ∨ 0 < out) ∧ out ≤ around.length

/-- Whether it is said first that a path which leads out starts here. -/
def isMixed : Start → Bool
  | root => false
  | inside here out => here && out ≠ 0

end Start

variable {around rest siblings ps : List String} {start : Start} {out : Nat}
  {module name p : String}

theorem outward_replicate (hne : rest ≠ []) (hrest : ∀ s ∈ rest, Ordinary s)
    (hout : out ≤ around.length) :
    outward around (List.replicate out "super" ++ rest) =
      (around.take (around.length - out), rest) := by
  obtain ⟨r, rs, rfl⟩ := List.exists_cons_of_ne_nil hne
  have hr : r ≠ "super" := by
    rintro rfl
    exact (hrest _ (List.mem_cons_self ..)).1 (by decide)
  induction out generalizing around with
  | zero =>
    rw [List.replicate_zero, List.nil_append, Nat.sub_zero, List.take_length, outward]
    rintro p ps heq
    exact absurd (List.cons.inj heq).1 hr
  | succ out ih =>
    obtain ⟨p, ps, hp⟩ := List.exists_cons_of_ne_nil
      (List.append_ne_nil_of_right_ne_nil (List.replicate out "super") (List.cons_ne_nil r rs))
    have hlength : out ≤ around.dropLast.length := by
      rw [List.length_dropLast]
      omega
    rw [List.replicate_succ, List.cons_append, hp, outward, ← hp, ih hlength,
      List.length_dropLast, List.dropLast_eq_take, List.take_take]
    congr 2
    omega

theorem Start.mem_anchors {s : String} (hs : s ∈ start.segments) : s ∈ anchors := by
  cases start with
  | root => exact List.mem_singleton.mp hs ▸ by decide
  | inside here out =>
    rcases List.mem_append.mp hs with hs | hs
    · cases here with
      | false => cases hs
      | true => exact List.mem_singleton.mp hs ▸ by decide
    · exact List.eq_of_mem_replicate hs ▸ by decide

theorem Start.notMem_colon {s : String} (hs : s ∈ start.segments) : ':' ∉ s.toList := by
  have hanchors : ∀ s ∈ anchors, ':' ∉ s.toList := by decide
  exact hanchors s (Start.mem_anchors hs)

theorem Start.super_mem_tail (h : start.isMixed = true) : "super" ∈ start.segments.tail := by
  match start, h with
  | .inside true (out + 1), _ => exact List.mem_cons_self ..

theorem Start.ordinary_base (haround : ∀ s ∈ around, Ordinary s) :
    ∀ s ∈ start.base around, Ordinary s := by
  cases start with
  | root => exact fun s hs => absurd hs List.not_mem_nil
  | inside here out => exact fun s hs => haround s (List.mem_of_mem_take hs)

/-! Names, by their first segment. -/

theorem qualifiedName_crate (h : segments name = "crate" :: p :: ps) :
    qualifiedName module siblings name = path (p :: ps) := by
  rw [qualifiedName, h]
  rfl

theorem qualifiedName_self (h : segments name = "self" :: p :: ps) :
    qualifiedName module siblings name = PathName.join module (path (p :: ps)) := by
  rw [qualifiedName, h]
  rfl

theorem qualifiedName_super (h : segments name = "super" :: p :: ps) :
    qualifiedName module siblings name =
      PathName.join
        (path (outward ((segments module).filter (!·.isEmpty)) ("super" :: p :: ps)).1)
        (path (outward ((segments module).filter (!·.isEmpty)) ("super" :: p :: ps)).2) := by
  rw [qualifiedName, h]
  rfl

/-- A path that says where it starts becomes the path from there. Only if it says first that it starts here
and then leads out, it stays as it is below the module where it is written. -/
theorem qualifiedName_start (haround : ∀ s ∈ around, Ordinary s) (hne : rest ≠ [])
    (hrest : ∀ s ∈ rest, Ordinary s) (hstart : start.Within around) :
    qualifiedName (path around) siblings (path (start.segments ++ rest)) =
      if start.isMixed then path (around ++ (start.segments.tail ++ rest))
      else path (start.base around ++ rest) := by
  have hsegments : segments (path (start.segments ++ rest)) = start.segments ++ rest := by
    refine segments_path (List.append_ne_nil_of_right_ne_nil _ hne) (fun s hs => ?_)
    exact (List.mem_append.mp hs).elim Start.notMem_colon (fun hs => (hrest s hs).2)
  -- After its first segment the path goes on, so that this one is no name by itself.
  have hmore : ∀ n, ∃ p ps, List.replicate n "super" ++ rest = p :: ps := fun n =>
    List.exists_cons_of_ne_nil (List.append_ne_nil_of_right_ne_nil _ hne)
  match start, hstart with
  | .root, _ =>
    obtain ⟨r, rs, rfl⟩ := List.exists_cons_of_ne_nil hne
    rw [qualifiedName_crate hsegments]
    rfl
  | .inside true out, _ =>
    obtain ⟨p, ps, hp⟩ := hmore out
    have hself : (Start.inside true out).segments ++ rest = "self" :: p :: ps := by
      rw [← hp, Start.segments, if_pos rfl, List.append_assoc, List.singleton_append]
    rw [qualifiedName_self (hsegments.trans hself), join_path haround (List.cons_ne_nil p ps), ← hp]
    cases out with
    | zero => simp [Start.isMixed, Start.base]
    | succ out => simp [Start.isMixed, Start.segments]
  | .inside false (out + 1), h =>
    obtain ⟨p, ps, hp⟩ := hmore out
    have hsuper : (Start.inside false (out + 1)).segments ++ rest = "super" :: p :: ps := by
      rw [← hp, Start.segments, if_neg Bool.false_ne_true, List.nil_append, List.replicate_succ,
        List.cons_append]
    have houtward : outward around ("super" :: p :: ps) =
        (around.take (around.length - (out + 1)), rest) := by
      rw [← hp, ← List.cons_append, ← List.replicate_succ, outward_replicate hne hrest h.2]
    rw [qualifiedName_super (hsegments.trans hsuper), PathName.filter_segments_path haround,
      houtward]
    exact join_path (fun s hs => haround s (List.mem_of_mem_take hs)) hne

/-- A path that says first that it starts here and then leads out still does so below the module where it is
written. -/
theorem super_mem_segments_astray (haround : ∀ s ∈ around, Ordinary s) (hne : rest ≠ [])
    (hrest : ∀ s ∈ rest, Ordinary s) (hmixed : start.isMixed = true) :
    "super" ∈ segments (path (around ++ (start.segments.tail ++ rest))) := by
  have hsegments : segments (path (around ++ (start.segments.tail ++ rest))) =
      around ++ (start.segments.tail ++ rest) := by
    apply segments_path
    · simp [hne]
    · intro s hs
      rw [List.mem_append, List.mem_append] at hs
      rcases hs with hs | hs | hs
      · exact (haround s hs).2
      · exact Start.notMem_colon (List.mem_of_mem_tail hs)
      · exact (hrest s hs).2
  rw [hsegments]
  exact List.mem_append_right _ (List.mem_append_left _ (Start.super_mem_tail hmixed))

/-- Relative paths are resolved. A path that says where it starts, by the root or by so many modules out from
the one where it is written, becomes the path from there, which names modules and items only; unless it says
first that it starts here and then leads out, when it does not. So does the name at every place of a type
that is written in the module. -/
theorem qualified_relative (haround : ∀ s ∈ around, Ordinary s) (hne : rest ≠ [])
    (hrest : ∀ s ∈ rest, Ordinary s) (hstart : start.Within around) :
    let written := path (start.segments ++ rest)
    let meant := path (start.base around ++ rest)
    let name := qualifiedName (path around) siblings written
    (name = meant ↔ start.isMixed = false) ∧ (∀ s ∈ segments meant, s ∉ anchors) ∧
      ∀ (t : TypeExpr) (k : Nat), t.names[k]? = some written →
        (qualified (path around) siblings t).names[k]? = some name := by
  intro written meant name
  have hbase : ∀ s ∈ start.base around ++ rest, Ordinary s :=
    List.forall_mem_append.mpr ⟨Start.ordinary_base haround, hrest⟩
  have hnamed : ∀ s ∈ segments meant, s ∉ anchors :=
    PathName.not_mem_anchors_segments_path (List.append_ne_nil_of_right_ne_nil _ hne) hbase
  have hname : name = _ := qualifiedName_start haround hne hrest hstart
  refine ⟨?_, hnamed, ?_⟩
  · cases hmixed : start.isMixed with
    | false =>
      rw [hmixed, if_neg Bool.false_ne_true] at hname
      exact iff_of_true hname rfl
    | true =>
      rw [hmixed, if_pos rfl] at hname
      refine iff_of_false (fun heq => ?_) (by decide)
      -- The name still has a segment that leads out, and what is meant has none.
      have hsuper : "super" ∈ segments meant := by
        rw [← heq, hname]
        exact super_mem_segments_astray haround hne hrest hmixed
      exact hnamed _ hsuper (by decide)
  · intro t k hk
    rw [names_qualified, List.getElem?_map, hk, Option.map_some]

/-- A path that leads two modules out, inside the type of a list of arrays behind a wildcard. -/
theorem qualified_relative_item :
    let t : TypeExpr := .named "Vec" [.array (.wildcard (some (.named "super::super::Item" []))) 2]
    let around := ["a", "b", "c"]
    (∀ s ∈ around, Ordinary s) ∧ (Start.inside false 2).Within around ∧
      path ((Start.inside false 2).segments ++ ["Item"]) = "super::super::Item" ∧
      (qualified "a::b::c" [] t).names[1]? = some "a::Item" := by
  intro t around
  have haround : ∀ s ∈ around, Ordinary s := by decide
  have hstart : (Start.inside false 2).Within around := ⟨.inr (by decide), by decide⟩
  obtain ⟨hname, -, hplace⟩ := @qualified_relative around ["Item"] [] (.inside false 2) haround
    (by decide) (by decide) hstart
  have hwritten : t.names[1]? = some (path ((Start.inside false 2).segments ++ ["Item"])) := by
    decide +kernel
  have hmeant := hplace t 1 hwritten
  rw [hname.mpr rfl] at hmeant
  exact ⟨haround, hstart, by decide +kernel, hmeant⟩

/-- A path that says that it starts here and then leads out one module is left to do so where it is stored,
and finds nothing, though the item is declared there. -/
theorem qualified_here_astray :
    qualifiedName (path ["a", "b"]) ["User"] (path ((Start.inside true 1).segments ++ ["Item"])) =
      "a::b::super::Item" ∧
    (Index.ofSources? [("a", "struct Item { value: u32 }"),
        ("a::b", "struct User { item: self::super::Item }")]).map
        (fun i => ((i.lookup "a::b::User").map (fun d => d.members.map Member.type),
          (i.lookup "a::Item").map Declaration.name,
          (i.lookup "a::b::super::Item").map Declaration.name)) =
      some (some [.named "a::b::super::Item" []], some "a::Item", none) := by
  constructor <;> decide +kernel

end Source
end SchemaGraph
