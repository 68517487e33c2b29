import Mathlib.Logic.Relation
import SchemaGraph.Proofs.Binding

/-! Resolution as substitution. What a scope makes of a type is the normal form of the type in which the
bindings of one frame after the other, from the innermost, have taken the places of their variables. -/
namespace SchemaGraph

namespace TypeExpr

/-! Variables in their places. -/

mutual
/-- Replaces every variable that has a replacement, once; all else stays as it is written. -/
def replace (β : String → Option TypeExpr) : TypeExpr → TypeExpr
  | named n as => named n (replaceArgs β as)
  | array c d => array (replace β c) d
  | var n => (β n).getD (var n)
  | wildcard u => wildcard (replaceBound β u)
  | any => any

def replaceArgs (β : String → Option TypeExpr) : List TypeExpr → List TypeExpr
  | [] => []
  | a :: as => replace β a :: replaceArgs β as

def replaceBound (β : String → Option TypeExpr) : Option TypeExpr → Option TypeExpr
  | none => none
  | some u => some (replace β u)
end

variable {t u c c' : TypeExpr} {as bs : List TypeExpr} {β : String → Option TypeExpr}
  {σ τ : String → TypeExpr}

theorem replaceArgs_eq_map (β : String → Option TypeExpr) (as : List TypeExpr) :
    replaceArgs β as = as.map (replace β) := by
  induction as with
  | nil => rfl
  | cons a as ih => rw [replaceArgs, ih, List.map_cons]

/-- Variables that are replaced have the meanings of their replacements, and the others keep theirs. -/
theorem substitute_replace (h : ∀ n, σ n = ((β n).map (substitute τ)).getD (τ n)) (t : TypeExpr) :
    (t.replace β).substitute τ = t.substitute σ := by
  induction t using inductOn with
  | named n as ih =>
    rw [replace, substitute, substitute, replaceArgs_eq_map, substituteArgs_eq_map,
      substituteArgs_eq_map, List.map_map]
    exact congrArg _ (List.map_congr_left ih)
  | array c d ih => rw [replace, substitute, substitute, ih]
  | var n =>
    rw [replace, substitute, h]
    cases β n <;> rfl
  | wildcard u ih =>
    cases u with
    | none => rfl
    | some u => exact ih u rfl
  | any => rfl

theorem hasVar_named (n : String) (as : List TypeExpr) : (named n as).hasVar = as.any hasVar := by
  rw [hasVar, hasVarArgs_eq_any]

/-- No variable is left when each is replaced by a type without variables. -/
theorem hasVar_replace (h : ∀ n, ∃ u, β n = some u ∧ u.hasVar = false) (t : TypeExpr) :
    (t.replace β).hasVar = false := by
  induction t using inductOn with
  | named n as ih =>
    rw [replace, hasVar_named, replaceArgs_eq_map, List.any_eq_false]
    exact List.forall_mem_map.mpr (fun a ha => Bool.eq_false_iff.mp (ih a ha))
  | array c d ih => exact ih
  | var n =>
    obtain ⟨u, hu, hvar⟩ := h n
    rw [replace, hu, Option.getD_some, hvar]
  | wildcard u ih =>
    cases u with
    | none => rfl
    | some u => exact ih u rfl
  | any => rfl

/-! Normal forms. -/

/-- One step at any place of a type: a wildcard becomes its bound, or nothing known; an array without
dimensions becomes its component, and an array of arrays one array. -/
inductive Reduces : TypeExpr → TypeExpr → Prop
  | unbounded : Reduces (wildcard none) any
  | bounded (u : TypeExpr) : Reduces (wildcard (some u)) u
  | flat (c : TypeExpr) : Reduces (array c 0) c
  | collapse (c : TypeExpr) (m n : Nat) : Reduces (array (array c m) n) (array c (m + n))
  | argument {a a' : TypeExpr} (n : String) (as bs : List TypeExpr) (h : Reduces a a') :
    Reduces (named n (as ++ a :: bs)) (named n (as ++ a' :: bs))
  | component {c c' : TypeExpr} (d : Nat) (h : Reduces c c') : Reduces (array c d) (array c' d)
  | bound {u u' : TypeExpr} (h : Reduces u u') : Reduces (wildcard (some u)) (wildcard (some u'))

/-- Any number of steps. -/
abbrev Steps : TypeExpr → TypeExpr → Prop := Relation.ReflTransGen Reduces

/-- Whether a type allows no step. -/
def Normal (t : TypeExpr) : Prop := ∀ u, ¬t.Reduces u

/-- A step changes nothing for a substitution. -/
theorem Reduces.substitute_eq (h : Reduces t u) (σ : String → TypeExpr) :
    t.substitute σ = u.substitute σ := by
  induction h with
  | unbounded => rfl
  | bounded u => rfl
  | flat c => rfl
  | collapse c m n => exact arrayOf_arrayOf (c.substitute σ) m n
  | argument n as bs _ ih =>
    simp only [substitute, substituteArgs_eq_map, List.map_append, List.map_cons, ih]
  | component d _ ih => rw [substitute, substitute, ih]
  | bound _ ih => exact ih

theorem Reduces.hasVar_eq (h : Reduces t u) : t.hasVar = u.hasVar := by
  induction h with
  | unbounded => rfl
  | bounded u => rfl
  | flat c => rfl
  | collapse c m n => rfl
  | argument n as bs _ ih => simp only [hasVar_named, List.any_append, List.any_cons, ih]
  | component d _ ih => exact ih
  | bound _ ih => exact ih

/-- What no step changes is the same at both ends. -/
theorem Steps.congr {α : Type} {f : TypeExpr → α} (hf : ∀ {t u}, Reduces t u → f t = f u)
    (h : Steps t u) : f t = f u := by
  induction h with
  | refl => rfl
  | tail _ hstep ih => exact ih.trans (hf hstep)

theorem Plain.normal (h : t.Plain) : t.Normal := by
  intro u hstep
  induction hstep with
  | unbounded => exact not_plain_wildcard _ h
  | bounded u => exact not_plain_wildcard _ h
  | flat c => exact absurd (plain_array.mp h).1 (Nat.lt_irrefl 0)
  | collapse c m n => cases (plain_array.mp h).2.1
  | argument n as bs _ ih => exact ih (plain_named.mp h _ (by simp))
  | component d _ ih => exact ih (plain_array.mp h).2.2
  | bound _ _ => exact not_plain_wildcard _ h

/-- The settled types are those without variables that allow no step. -/
theorem plain_iff : t.Plain ↔ t.hasVar = false ∧ t.Normal := by
  refine ⟨fun h => ⟨h.hasVar, h.normal⟩, fun h => ?_⟩
  induction t using inductOn with
  | named n as ih =>
    obtain ⟨hvar, hnormal⟩ := h
    rw [hasVar_named, List.any_eq_false] at hvar
    refine plain_named.mpr (fun a ha => ih a ha ⟨Bool.eq_false_iff.mpr (hvar a ha), ?_⟩)
    obtain ⟨before, after, rfl⟩ := List.append_of_mem ha
    exact fun u hu => hnormal _ (.argument n before after hu)
  | array c d ih =>
    obtain ⟨hvar, hnormal⟩ := h
    have hc : c.Plain := ih ⟨hvar, fun u hu => hnormal _ (.component d hu)⟩
    have hd : d ≠ 0 := by
      rintro rfl
      exact hnormal _ (.flat c)
    have harray : c.isArray = false := by
      cases c with
      | array inner m => exact absurd (.collapse inner m d) (hnormal _)
      | _ => rfl
    exact plain_array.mpr ⟨Nat.pos_of_ne_zero hd, harray, hc⟩
  | var n => cases h.1
  | wildcard u _ =>
    cases u with
    | none => exact absurd .unbounded (h.2 _)
    | some u => exact absurd (.bounded u) (h.2 _)
  | any => exact plain_any

theorem steps_named (n : String) {f : TypeExpr → TypeExpr} (h : ∀ a ∈ as, Steps a (f a)) :
    Steps (named n as) (named n (as.map f)) := by
  have hfrom : ∀ before, Steps (named n (before ++ as)) (named n (before ++ as.map f)) := by
    induction as with
    | nil => exact fun before => .refl
    | cons a as ih =>
      intro before
      rw [List.forall_mem_cons] at h
      have hfirst : Steps (named n (before ++ a :: as)) (named n (before ++ f a :: as)) :=
        h.1.lift (fun a => named n (before ++ a :: as)) (fun _ _ hstep => .argument n before as hstep)
      have hrest := ih h.2 (before ++ [f a])
      rw [List.append_assoc, List.append_assoc] at hrest
      exact hfirst.trans hrest
  exact hfrom []

theorem steps_array (h : Steps c c') (d : Nat) : Steps (array c d) (c'.arrayOf d) := by
  refine (h.lift (fun c => array c d) (fun _ _ => .component d)).trans ?_
  unfold arrayOf
  split
  · rename_i hd
    exact .single (hd ▸ .flat c')
  · split
    · exact .single (.collapse _ _ _)
    · exact .refl

/-- A type without variables reaches a settled type. -/
theorem steps_ground (h : t.hasVar = false) : Steps t t.ground := by
  induction t using inductOn with
  | named n as ih =>
    rw [hasVar_named, List.any_eq_false] at h
    rw [ground, substitute, substituteArgs_eq_map]
    exact steps_named n (fun a ha => ih a ha (Bool.eq_false_iff.mpr (h a ha)))
  | array c d ih => exact steps_array (ih h) d
  | var n => cases h
  | wildcard u ih =>
    cases u with
    | none => exact .single .unbounded
    | some u => exact .head (.bounded u) (ih u rfl h)
  | any => exact .refl

/-- The one normal form of a type without variables. -/
theorem steps_normal_iff (h : t.hasVar = false) : Steps t u ∧ u.Normal ↔ u = t.ground := by
  constructor
  · rintro ⟨hsteps, hnormal⟩
    have hvar : u.hasVar = false := (hsteps.congr Reduces.hasVar_eq).symm.trans h
    have hplain : u.Plain := plain_iff.mpr ⟨hvar, hnormal⟩
    have hground : t.ground = u.ground := hsteps.congr (fun hstep => hstep.substitute_eq _)
    rw [hground, ground, substitute_of_plain hplain]
  · rintro rfl
    exact ⟨steps_ground h, (plain_ground t).normal⟩

end TypeExpr

namespace Scope

/-- The type with the bindings of each frame in the places of their variables, one frame after the other,
and nothing known in the places of the variables that are left. -/
def written (s : Scope) (t : TypeExpr) : TypeExpr :=
  (s.foldl (fun t f => t.replace f.binding?) t).replace (fun _ => some .any)

theorem meaning_cons (f : Frame) (s : Scope) (n : String) :
    meaning (f :: s) n = ((f.binding? n).map s.resolveDeep).getD (s.meaning n) := by
  rw [meaning]
  cases f.binding? n <;> rfl

theorem resolveDeep_cons (f : Frame) (s : Scope) (t : TypeExpr) :
    resolveDeep (f :: s) t = s.resolveDeep (t.replace f.binding?) :=
  (TypeExpr.substitute_replace (meaning_cons f s) t).symm

theorem resolveDeep_replace_any (s : Scope) (t : TypeExpr) :
    s.resolveDeep (t.replace (fun _ => some .any)) = t.ground :=
  TypeExpr.substitute_replace (fun _ => rfl) t

theorem ground_written (s : Scope) (t : TypeExpr) : (s.written t).ground = s.resolveDeep t := by
  have hfold : ∀ t, (s.foldl (fun t f => t.replace f.binding?) t).ground = s.resolveDeep t := by
    induction s with
    | nil => exact fun t => rfl
    | cons f s ih =>
      intro t
      rw [List.foldl_cons, ih, resolveDeep_cons]
  rw [← hfold]
  exact resolveDeep_replace_any [] _

/-- Resolution takes the bindings of the innermost frame first, and leaves the rest to the frames outside
it; outside of all frames nothing is known of a variable. What it gives is settled, means the same in every
scope, and is the only normal form of the type with all bindings written into it. -/
theorem resolveDeep_normalizes (f : Frame) (s : Scope) (t : TypeExpr) :
    resolveDeep (f :: s) t = s.resolveDeep (t.replace f.binding?) ∧
      (∀ s' : Scope, resolveDeep [] t = s'.resolveDeep (t.replace (fun _ => some .any))) ∧
      (s.resolveDeep t).Plain ∧
      (∀ s' : Scope, s'.resolveDeep (s.resolveDeep t) = s.resolveDeep t) ∧
      ∀ u, (s.written t).Steps u ∧ u.Normal ↔ u = s.resolveDeep t := by
  refine ⟨resolveDeep_cons f s t, fun s' => (resolveDeep_replace_any s' t).symm,
    TypeExpr.plain_resolveDeep s t, fun s' => resolveDeep_resolveDeep s s' t, fun u => ?_⟩
  have hvar : (s.written t).hasVar = false :=
    TypeExpr.hasVar_replace (fun _ => ⟨.any, rfl, rfl⟩) _
  rw [TypeExpr.steps_normal_iff hvar, ground_written]

/-- A binding of a variable to itself ends outside its frame. -/
example : resolveDeep [{ bindings := [("T", .array (.wildcard (some (.var "T"))) 2)] }]
    (.array (.array (.var "T") 0) 1) = .array .any 3 := by
  decide

end Scope
end SchemaGraph
