import Mathlib.Data.List.Basic
import SchemaGraph.Proofs.Substitution
import SchemaGraph.Resolution.Wrapping

/-! Resolution with counts in words gives the type that exact resolution gives, each count of dimensions
cut to a word. The two agree where all counts are words; where a count is cut to zero, what is given is no
normal form. -/
namespace SchemaGraph

namespace TypeExpr

mutual
/-- The type with every count of dimensions cut to a word. -/
def wrap : TypeExpr → TypeExpr
  | named n as => named n (wrapArgs as)
  | array c d => array (wrap c) (d % UInt64.size)
  | var n => var n
  | wildcard u => wildcard (wrapBound u)
  | any => any

def wrapArgs : List TypeExpr → List TypeExpr
  | [] => []
  | a :: as => wrap a :: wrapArgs as

def wrapBound : Option TypeExpr → Option TypeExpr
  | none => none
  | some u => some (wrap u)
end

/-- Whether all counts of dimensions in a type are as `p` says. -/
def Counts (p : Nat → Prop) (t : TypeExpr) : Prop := ∀ c d, array c d ∈ t.parts → p d

/-- Whether a part is neither a variable nor a wildcard, nor an array whose component is one. -/
def isCollapsed : TypeExpr → Bool
  | named _ _ | any => true
  | array c _ => !c.isArray
  | var _ | wildcard _ => false

/-- A type without variables, without wildcards and without arrays of arrays. -/
def Collapsed (t : TypeExpr) : Prop := ∀ u ∈ t.parts, u.isCollapsed = true

variable {p : Nat → Prop} {t c : TypeExpr} {n : String} {as : List TypeExpr} {d : Nat}
  {σ τ : String → TypeExpr} {β : String → Option TypeExpr}

/-! Counts. -/

theorem counts_named : (named n as).Counts p ↔ ∀ a ∈ as, a.Counts p := by
  simp only [Counts, parts, partsArgs_eq_flatMap, List.mem_cons, List.mem_flatMap, reduceCtorEq,
    false_or]
  constructor
  · intro h a ha c d hmem
    exact h c d ⟨a, ha, hmem⟩
  · rintro h c d ⟨a, ha, hmem⟩
    exact h a ha c d hmem

theorem counts_array : (array c d).Counts p ↔ p d ∧ c.Counts p := by
  simp only [Counts, parts, List.mem_cons, array.injEq]
  constructor
  · exact fun h => ⟨h c d (.inl ⟨rfl, rfl⟩), fun c' d' hmem => h c' d' (.inr hmem)⟩
  · rintro ⟨hd, hc⟩ c' d' (⟨rfl, rfl⟩ | hmem)
    · exact hd
    · exact hc c' d' hmem

theorem counts_var : (var n).Counts p := by
  simp [Counts, parts]

theorem counts_wildcard {u : Option TypeExpr} : (wildcard u).Counts p ↔ ∀ t ∈ u, t.Counts p := by
  cases u <;> simp [Counts, parts, partsBound]

theorem counts_any : any.Counts p := by
  simp [Counts, parts]

theorem counts_replace (hβ : ∀ n u, β n = some u → u.Counts p) (ht : t.Counts p) :
    (t.replace β).Counts p := by
  induction t using inductOn with
  | named n as ih =>
    rw [counts_named] at ht
    rw [replace, replaceArgs_eq_map, counts_named, List.forall_mem_map]
    exact fun a ha => ih a ha (ht a ha)
  | array c d ih =>
    rw [counts_array] at ht
    rw [replace, counts_array]
    exact ⟨ht.1, ih ht.2⟩
  | var n =>
    rw [replace]
    cases hb : β n with
    | none => exact counts_var
    | some u => exact hβ n u hb
  | wildcard u ih =>
    cases u with
    | none => exact ht
    | some u =>
      have hu := ih u rfl (counts_wildcard.mp ht u rfl)
      exact counts_wildcard.mpr (by rintro _ ⟨⟩; exact hu)
  | any => exact ht

theorem counts_canonicalize {i : Index} (ht : t.Plain) :
    (t.canonicalize i).Counts p ↔ t.Counts p := by
  induction t using inductOn with
  | named n as ih =>
    rw [plain_named] at ht
    rw [canonicalize, canonicalizeArgs_eq_map, counts_named, counts_named, List.forall_mem_map]
    exact forall₂_congr (fun a ha => ih a ha (ht a ha))
  | array c d ih => rw [canonicalize_array ht, counts_array, counts_array, ih (plain_array.mp ht).2.2]
  | _ => rfl

/-! Cutting. -/

theorem wrapArgs_eq_map (as : List TypeExpr) : wrapArgs as = as.map wrap := by
  induction as with
  | nil => rfl
  | cons a as ih => rw [wrapArgs, ih, List.map_cons]

theorem isArray_wrap (t : TypeExpr) : t.wrap.isArray = t.isArray := by
  cases t <;> rfl

theorem parts_wrap (t : TypeExpr) : t.wrap.parts = t.parts.map wrap := by
  induction t using inductOn with
  | named n as ih =>
    rw [wrap, parts, parts, partsArgs_eq_flatMap, partsArgs_eq_flatMap, wrapArgs_eq_map, List.map_cons,
      List.flatMap_map, List.map_flatMap, wrap, wrapArgs_eq_map]
    exact congrArg _ (List.flatMap_congr ih)
  | array c d ih => rw [wrap, parts, parts, ih, List.map_cons, wrap]
  | var n => rfl
  | wildcard u ih =>
    cases u with
    | none => rfl
    | some u => exact congrArg (wildcard (some u.wrap) :: ·) (ih u rfl)
  | any => rfl

theorem wrap_eq_self_iff : t.wrap = t ↔ t.Counts (· < UInt64.size) := by
  induction t using inductOn with
  | named n as ih =>
    have hargs : as.map wrap = as ↔ ∀ a ∈ as, a.wrap = a := by
      conv_lhs => rw [← List.map_id as, List.map_map, List.map_inj_left]
      rfl
    rw [wrap, wrapArgs_eq_map, named.injEq, hargs, counts_named]
    simpa using forall₂_congr ih
  | array c d ih =>
    rw [wrap, array.injEq, ih, counts_array, Nat.mod_eq_iff_lt (by decide), and_comm]
  | var n => simp [wrap, counts_var]
  | wildcard u ih =>
    rw [counts_wildcard]
    cases u with
    | none => simp [wrap, wrapBound]
    | some u => simpa [wrap, wrapBound] using ih u rfl
  | any => simp [wrap, counts_any]

theorem collapsed_wrap (ht : t.Plain) : t.wrap.Collapsed := by
  rw [Collapsed, parts_wrap, List.forall_mem_map]
  intro u hu
  have hsettled := ht u hu
  cases u with
  | array c d =>
    rw [wrap, isCollapsed, isArray_wrap]
    exact (Bool.and_eq_true_iff.mp hsettled).2
  | named n as => rfl
  | any => rfl
  | var n => cases hsettled
  | wildcard u => cases hsettled

/-- Cutting leaves a settled type settled if it cuts no count to zero. -/
theorem plain_wrap_iff (ht : t.Plain) : t.wrap.Plain ↔ t.Counts (· % UInt64.size ≠ 0) := by
  induction t using inductOn with
  | named n as ih =>
    rw [plain_named] at ht
    rw [wrap, wrapArgs_eq_map, plain_named, List.forall_mem_map, counts_named]
    exact forall₂_congr (fun a ha => ih a ha (ht a ha))
  | array c d ih =>
    obtain ⟨-, hc, hp⟩ := plain_array.mp ht
    rw [wrap, plain_array, isArray_wrap, counts_array, ih hp, Nat.pos_iff_ne_zero]
    simp [hc]
  | var n => exact absurd ht (not_plain_var n)
  | wildcard u => exact absurd ht (not_plain_wildcard u)
  | any => simp [wrap, plain_any, counts_any]

/-! Substitution. -/

theorem substituteArgsWrapping_eq_map (σ : String → TypeExpr) (as : List TypeExpr) :
    substituteArgsWrapping σ as = as.map (substituteWrapping σ) := by
  induction as with
  | nil => rfl
  | cons a as ih => rw [substituteArgsWrapping, ih, List.map_cons]

theorem arrayOfWrapping_of_isArray (h : t.isArray = false) (hd : 0 < d) :
    t.arrayOfWrapping d = array t d := by
  unfold arrayOfWrapping
  rw [if_neg (Nat.ne_of_gt hd)]
  split
  · cases h
  · rfl

/-- One sum of words is the exact sum, cut to a word. -/
theorem wrap_arrayOf (c : TypeExpr) (hd : d < UInt64.size) :
    (c.arrayOf d).wrap = c.wrap.arrayOfWrapping d := by
  by_cases hzero : d = 0
  · subst hzero
    rfl
  · have hpos : 0 < d := Nat.pos_of_ne_zero hzero
    -- Only an array takes the dimensions into a sum, and cutting leaves an array one.
    cases hc : c.isArray with
    | false =>
      rw [arrayOf_of_isArray hc hpos, arrayOfWrapping_of_isArray ((isArray_wrap c).trans hc) hpos, wrap,
        Nat.mod_eq_of_lt hd]
    | true =>
      cases c with
      | array inner n => simp [arrayOf, arrayOfWrapping, wrap, hzero]
      | _ => cases hc

theorem substituteWrapping_eq_wrap (hσ : ∀ n, τ n = (σ n).wrap) (ht : t.Counts (· < UInt64.size)) :
    t.substituteWrapping τ = (t.substitute σ).wrap := by
  induction t using inductOn with
  | named n as ih =>
    rw [counts_named] at ht
    rw [substituteWrapping, substitute, wrap, substituteArgsWrapping_eq_map, substituteArgs_eq_map,
      wrapArgs_eq_map, List.map_map]
    exact congrArg _ (List.map_congr_left (fun a ha => ih a ha (ht a ha)))
  | array c d ih =>
    rw [counts_array] at ht
    rw [substituteWrapping, substitute, wrap_arrayOf _ ht.1, ih ht.2]
  | var n => exact hσ n
  | wildcard u ih =>
    cases u with
    | none => rfl
    | some u => exact ih u rfl (counts_wildcard.mp ht u rfl)
  | any => rfl

/-- A settled type that has been cut is left as it is exactly if no count was cut to zero: an array without
dimensions would be replaced by its component, which is no array. -/
theorem substituteWrapping_wrap_iff (ht : t.Plain) :
    t.wrap.substituteWrapping σ = t.wrap ↔ t.Counts (· % UInt64.size ≠ 0) := by
  induction t using inductOn with
  | named n as ih =>
    rw [plain_named] at ht
    rw [wrap, substituteWrapping, substituteArgsWrapping_eq_map, wrapArgs_eq_map, named.injEq,
      List.map_map, List.map_inj_left, counts_named]
    simpa using forall₂_congr (fun a ha => ih a ha (ht a ha))
  | array c d ih =>
    obtain ⟨-, hc, hp⟩ := plain_array.mp ht
    have harray : (c.wrap.substituteWrapping σ).isArray = false := by
      cases c with
      | array inner m => cases hc
      | var n => exact absurd hp (not_plain_var n)
      | wildcard u => exact absurd hp (not_plain_wildcard u)
      | _ => rfl
    rw [counts_array, ← ih hp, wrap, substituteWrapping]
    -- A count cut to zero drops its array, and what is left in its place is no array.
    by_cases hzero : d % UInt64.size = 0
    · have hne : c.wrap.substituteWrapping σ ≠ array c.wrap 0 := by
        intro heq
        cases heq ▸ harray
      rw [hzero]
      exact iff_of_false hne (fun h => h.1 rfl)
    · rw [arrayOfWrapping_of_isArray harray (Nat.pos_of_ne_zero hzero), array.injEq]
      exact ⟨fun h => ⟨hzero, h.1⟩, fun h => ⟨h.2, rfl⟩⟩
  | var n => exact absurd ht (not_plain_var n)
  | wildcard u => exact absurd ht (not_plain_wildcard u)
  | any => simp [wrap, substituteWrapping, counts_any]

/-! Texts. -/

theorem length_le_charsArgs {a : TypeExpr} (ha : a ∈ as) :
    a.chars.length + 3 ≤ (charsArgs as).length := by
  induction as with
  | nil => cases ha
  | cons b as ih =>
    rw [charsArgs]
    simp only [List.length_cons, List.length_append]
    rcases List.mem_cons.mp ha with rfl | ha
    · have : 1 ≤ (charsArgs as).length := by cases as <;> simp [charsArgs]
      omega
    · have := ih ha
      omega

theorem length_lt_of_mem_args {a : TypeExpr} (ha : a ∈ as) :
    a.chars.length + 2 ≤ (named n as).chars.length := by
  cases as with
  | nil => cases ha
  | cons b as =>
    have hargs := length_le_charsArgs ha
    rw [charsArgs] at hargs
    rw [chars]
    simp only [List.length_cons, List.length_append] at hargs ⊢
    omega

theorem length_array (c : TypeExpr) (d : Nat) :
    (array c d).chars.length = c.chars.length + 2 * d := by
  simp [chars, Nat.mul_comm]

/-- Every dimension has two characters of its own in the text of a type. -/
theorem counts_of_length {m : Nat} (h : t.chars.length ≤ m) : t.Counts (2 * · ≤ m) := by
  induction t using inductOn with
  | named n as ih =>
    refine counts_named.mpr (fun a ha => ih a ha ?_)
    have hlength := length_lt_of_mem_args (n := n) ha
    omega
  | array c d ih =>
    rw [length_array] at h
    exact counts_array.mpr ⟨by omega, ih (by omega)⟩
  | var n => exact counts_var
  | wildcard u ih =>
    refine counts_wildcard.mpr (fun t ht => ih t ht ?_)
    cases ht
    simp only [chars, List.length_cons] at h
    omega
  | any => exact counts_any

/-- A type whose text has fewer characters than there are words has only words as counts. -/
theorem words_of_signature (h : t.signature.length < UInt64.size) : t.Counts (· < UInt64.size) := by
  rw [signature, String.length_ofList] at h
  intro c d hmem
  have hd := counts_of_length (Nat.le_refl _) c d hmem
  omega

/-- A text is at least twice as long as its type is deep. -/
theorem two_mul_depth_le_length (t : TypeExpr) : 2 * t.depth ≤ t.signature.length := by
  rw [signature, String.length_ofList]
  induction t using inductOn with
  | named n as ih =>
    -- The depth of a class is the largest of many, bounded by one number: half of the length.
    have hdepth : (named n as).depth ≤ (named n as).chars.length / 2 := by
      refine depth_named_le_iff.mpr (fun a ha => ?_)
      have hlength := length_lt_of_mem_args (n := n) ha
      have hinner := ih a ha
      omega
    omega
  | array c d ih =>
    rw [depth, length_array]
    omega
  | _ => exact Nat.zero_le _

end TypeExpr

namespace Scope

/-- Whether all counts of dimensions in a scope are words. -/
def Words (s : Scope) : Prop := ∀ f ∈ s, ∀ e ∈ f.bindings, e.2.Counts (· < UInt64.size)

variable {f : Frame} {s : Scope} {t : TypeExpr}

theorem Words.outer (hs : Words (f :: s)) : Words s :=
  fun g hg => hs g (List.mem_cons_of_mem _ hg)

theorem meaningWrapping_eq_wrap (hs : s.Words) (n : String) :
    s.meaningWrapping n = (s.meaning n).wrap := by
  induction s generalizing n with
  | nil => rfl
  | cons f outer ih =>
    rw [meaningWrapping, meaning]
    cases hb : f.binding? n with
    | none => exact ih hs.outer n
    | some bound =>
      exact TypeExpr.substituteWrapping_eq_wrap (ih hs.outer)
        (hs f (List.mem_cons_self ..) _ (Assoc.mem_of_lookup hb))

/-- Also where a sum overflows, words give the exact type with its counts cut to words. -/
theorem resolveDeepWrapping_eq_wrap (hs : s.Words) (ht : t.Counts (· < UInt64.size)) :
    s.resolveDeepWrapping t = (s.resolveDeep t).wrap :=
  TypeExpr.substituteWrapping_eq_wrap (meaningWrapping_eq_wrap hs) ht

theorem resolveDeepWrapping_cons (hs : Words (f :: s)) (ht : t.Counts (· < UInt64.size)) :
    resolveDeepWrapping (f :: s) t = s.resolveDeepWrapping (t.replace f.binding?) := by
  have hreplace : (t.replace f.binding?).Counts (· < UInt64.size) :=
    TypeExpr.counts_replace (fun n u hu => hs f (List.mem_cons_self ..) _ (Assoc.mem_of_lookup hu)) ht
  rw [resolveDeepWrapping_eq_wrap hs ht, resolveDeepWrapping_eq_wrap hs.outer hreplace, resolveDeep_cons]

theorem resolveDeepWrapping_replace_any (hs : s.Words) (ht : t.Counts (· < UInt64.size)) :
    s.resolveDeepWrapping (t.replace (fun _ => some .any)) = resolveDeepWrapping [] t := by
  have hreplace : (t.replace (fun _ => some .any)).Counts (· < UInt64.size) :=
    TypeExpr.counts_replace (by rintro _ _ ⟨⟩; exact TypeExpr.counts_any) ht
  have hnil : Words [] := fun f hf => absurd hf List.not_mem_nil
  rw [resolveDeepWrapping_eq_wrap hs hreplace, resolveDeepWrapping_eq_wrap hnil ht,
    resolveDeep_replace_any]
  rfl

/-- Resolution takes the bindings of the innermost frame first, and leaves the rest to the frames outside
it; outside of all frames nothing is known of a variable. What it gives is the only normal form of the type
with all bindings written into it, each count of dimensions cut to a word. There are no variables in it, no
wildcards and no arrays of arrays; there are no arrays without dimensions in it, and it means the same in
every scope, exactly if none of the counts is cut to zero. It is that normal form where all counts are
words. -/
theorem resolveDeepWrapping_normalizes (hs : Words (f :: s)) (ht : t.Counts (· < UInt64.size)) :
    (resolveDeepWrapping (f :: s) t = s.resolveDeepWrapping (t.replace f.binding?) ∧
      resolveDeepWrapping [] t = s.resolveDeepWrapping (t.replace (fun _ => some .any))) ∧
    ((∀ u, (s.written t).Steps u ∧ u.Normal ↔ u = s.resolveDeep t) ∧
      s.resolveDeepWrapping t = (s.resolveDeep t).wrap ∧
      (s.resolveDeepWrapping t = s.resolveDeep t ↔ (s.resolveDeep t).Counts (· < UInt64.size))) ∧
    (s.resolveDeepWrapping t).Collapsed ∧
    ((s.resolveDeepWrapping t).Plain ↔ (s.resolveDeep t).Counts (· % UInt64.size ≠ 0)) ∧
    ((∀ s' : Scope, s'.resolveDeepWrapping (s.resolveDeepWrapping t) = s.resolveDeepWrapping t) ↔
      (s.resolveDeep t).Counts (· % UInt64.size ≠ 0)) := by
  have hplain := TypeExpr.plain_resolveDeep s t
  have hwrap := resolveDeepWrapping_eq_wrap hs.outer ht
  refine ⟨⟨resolveDeepWrapping_cons hs ht, (resolveDeepWrapping_replace_any hs.outer ht).symm⟩, ?_⟩
  rw [hwrap]
  refine ⟨⟨(resolveDeep_normalizes f s t).2.2.2.2, rfl, TypeExpr.wrap_eq_self_iff⟩,
    TypeExpr.collapsed_wrap hplain, TypeExpr.plain_wrap_iff hplain, fun h => ?_, fun h s' => ?_⟩
  · exact (TypeExpr.substituteWrapping_wrap_iff hplain).mp (h [])
  · exact (TypeExpr.substituteWrapping_wrap_iff hplain).mpr h

/-- The most dimensions that a word counts, and two more: one of them is left, so that the type is settled
and yet another one. -/
theorem resolveDeepWrapping_normalizes_overflow :
    let s : Scope := [{ bindings := [("T", .array (.named "u8" []) (UInt64.size - 1))] }]
    let t : TypeExpr := .array (.var "T") 2
    Words ({} :: s) ∧ t.Counts (· < UInt64.size) ∧
      s.resolveDeep t = .array (.named "u8" []) (UInt64.size + 1) ∧
      s.resolveDeepWrapping t = .array (.named "u8" []) 1 ∧ (s.resolveDeepWrapping t).Plain := by
  intro s t
  have hs : Words ({} :: s) := by
    simp [Words, s, TypeExpr.counts_array, TypeExpr.counts_named]
  have ht : t.Counts (· < UInt64.size) := by
    simp [t, TypeExpr.counts_array, TypeExpr.counts_var, UInt64.size]
  have hexact : s.resolveDeep t = .array (.named "u8" []) (UInt64.size + 1) := by decide +kernel
  obtain ⟨-, ⟨-, hwrap, -⟩, -, hplain, -⟩ := resolveDeepWrapping_normalizes hs ht
  refine ⟨hs, ht, hexact, ?_, hplain.mpr ?_⟩
  · rw [hwrap, hexact]
    decide +kernel
  · rw [hexact]
    simp [TypeExpr.counts_array, TypeExpr.counts_named]

/-- One dimension more than a word counts are none: an array without dimensions is left, which means
something else in any scope. -/
theorem resolveDeepWrapping_zero :
    let t : TypeExpr := .array (.array .any (UInt64.size - 1)) 1
    resolveDeepWrapping [] t = .array .any 0 ∧ ¬(resolveDeepWrapping [] t).Plain ∧
      resolveDeepWrapping [] (resolveDeepWrapping [] t) = .any := by
  unfold TypeExpr.Plain
  decide +kernel

end Scope

namespace BuildState

/-- A reference in a build stands for the type that a host is given, under declared names, and the depth of
it is a word, wherever its signature has fewer characters than there are words. -/
theorem resolved_eq_wrapping {b : Builder} {s : BuildState} {t : TypeExpr} (hs : s.scope.Words)
    (ht : t.Counts (· < UInt64.size)) (h : (s.resolved b t).signature.length < UInt64.size) :
    s.resolved b t = (s.scope.resolveDeepWrapping t).canonicalize b.index ∧
      (s.resolved b t).depth < UInt64.size := by
  have hwords : (s.scope.resolveDeep t).Counts (· < UInt64.size) :=
    (TypeExpr.counts_canonicalize (TypeExpr.plain_resolveDeep s.scope t)).mp
      (TypeExpr.words_of_signature h)
  have hdepth := TypeExpr.two_mul_depth_le_length (s.resolved b t)
  constructor
  · rw [resolved, Scope.resolveDeepWrapping_eq_wrap hs ht, TypeExpr.wrap_eq_self_iff.mpr hwords]
  · omega

end BuildState
end SchemaGraph
