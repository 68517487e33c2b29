import SchemaGraph.Proofs.Depth
import SchemaGraph.Proofs.Vocabulary

/-! Reading signatures back. The text of a settled type says which type it is, but for a class called
`any` without arguments, which reads as the type of which nothing is known. -/
namespace SchemaGraph

/-- Whether a character can stand in a name without ending it in the text of a type. -/
def TypeExpr.isNameChar (c : Char) : Bool := c ∉ ['<', '>', ',', '[']

namespace PathName

/-- Whether a name can be read back from the text of a type. -/
def Legible (n : String) : Prop := ∀ c ∈ n.toList, TypeExpr.isNameChar c = true

/-- Whether a name can be read back as that of a class. -/
def Telling (n : String) : Prop := Legible n ∧ n ≠ "any"

instance (n : String) : Decidable (Legible n) :=
  decidable_of_iff (n.toList.all TypeExpr.isNameChar = true) List.all_eq_true

instance (n : String) : Decidable (Telling n) :=
  inferInstanceAs (Decidable (Legible n ∧ n ≠ "any"))

example : Telling "()" := by decide

end PathName

namespace TypeExpr

mutual
/-- The type with every class called `any` without arguments as the type of which nothing is known. -/
def blur : TypeExpr → TypeExpr
  | named n as => if n = "any" ∧ as.isEmpty then any else named n (blurArgs as)
  | array c d => array (blur c) d
  | t => t

def blurArgs : List TypeExpr → List TypeExpr
  | [] => []
  | a :: as => blur a :: blurArgs as
end

/-! A reader of signatures. -/

/-- The pairs of brackets at the front of a text, and what stands after them. -/
def readDims : List Char → Nat × List Char
  | '[' :: ']' :: cs => ((readDims cs).1 + 1, (readDims cs).2)
  | cs => (0, cs)

/-- Puts the dimensions that stand after a type around it. -/
def withDims (r : TypeExpr × List Char) : TypeExpr × List Char :=
  (r.1.arrayOf (readDims r.2).1, (readDims r.2).2)

mutual
/-- A named type at the front of a text, and what stands after it. -/
def readNamed : Nat → List Char → Option (TypeExpr × List Char)
  | 0, _ => none
  | fuel + 1, cs =>
    let name := String.ofList (cs.takeWhile isNameChar)
    match cs.dropWhile isNameChar with
    | '<' :: rest => (readArgs fuel rest).map (fun r => (named name r.1, r.2))
    | rest => some (if name = "any" then any else named name [], rest)

/-- The arguments at the front of a text up to the mark that closes them, and what stands after it. -/
def readArgs : Nat → List Char → Option (List TypeExpr × List Char)
  | 0, _ => none
  | fuel + 1, cs =>
    match (readNamed fuel cs).map withDims with
    | some (a, '>' :: rest) => some ([a], rest)
    | some (a, ',' :: ' ' :: rest) => (readArgs fuel rest).map (fun r => (a :: r.1, r.2))
    | _ => none
end

/-- The type of a signature. -/
def ofChars? (fuel : Nat) (cs : List Char) : Option TypeExpr :=
  ((readNamed fuel cs).map withDims).map Prod.fst

/-- What an array is made of; another type itself. -/
def component : TypeExpr → TypeExpr
  | array c _ => c
  | t => t

def dims : TypeExpr → Nat
  | array _ d => d
  | _ => 0

def legible : Vocabulary := fun n _ => PathName.Legible n

def telling : Vocabulary := fun n _ => PathName.Telling n

variable {a b t : TypeExpr} {n : String} {as : List TypeExpr} {rest : List Char} {fuel : Nat}

theorem legible_of_names (h : ∀ n ∈ t.names, PathName.Legible n) : legible.Covers t :=
  fun n _ hmem => h n (List.mem_filterMap.mpr ⟨_, hmem, rfl⟩)

theorem blurArgs_eq_map (as : List TypeExpr) : blurArgs as = as.map blur := by
  induction as with
  | nil => rfl
  | cons a as ih => simp [blurArgs, ih]

theorem chars_eq_component (t : TypeExpr) :
    t.chars = t.component.chars ++ (List.replicate t.dims ['[', ']']).flatten := by
  cases t <;> simp [component, dims, chars]

theorem isArray_blur (h : t.isArray = false) : t.blur.isArray = false := by
  cases t with
  | named n as =>
    unfold blur
    split <;> rfl
  | array c d => cases h
  | _ => rfl

theorem blur_eq_component (h : t.Plain) : t.blur = t.component.blur.arrayOf t.dims := by
  cases t with
  | array c d =>
    obtain ⟨hd, hc, -⟩ := plain_array.mp h
    exact (arrayOf_of_isArray (isArray_blur hc) hd).symm
  | _ => simp [blur, component, dims, arrayOf]

/-! Each part of a text is read up to its end. -/

theorem readDims_append (d : Nat) (h : rest.head? ≠ some '[') :
    readDims ((List.replicate d ['[', ']']).flatten ++ rest) = (d, rest) := by
  induction d with
  | zero =>
    rw [List.replicate_zero, List.flatten_nil, List.nil_append]
    unfold readDims
    split
    · simp at h
    · rfl
  | succ d ih => simp [List.replicate_succ, readDims, ih]

theorem takeWhile_name (hn : PathName.Legible n) (h : ∀ c ∈ rest.head?, isNameChar c = false) :
    (n.toList ++ rest).takeWhile isNameChar = n.toList ∧
      (n.toList ++ rest).dropWhile isNameChar = rest := by
  have hrest : rest.takeWhile isNameChar = [] ∧ rest.dropWhile isNameChar = rest := by
    cases rest with
    | nil => exact ⟨rfl, rfl⟩
    | cons c rest => simp [h c rfl]
  rw [List.takeWhile_append_of_pos hn, List.dropWhile_append_of_pos hn, hrest.1, hrest.2,
    List.append_nil]
  exact ⟨rfl, rfl⟩

/-- Whether what stands before a text is read as a type that is no array. -/
def ReadsNamed (t : TypeExpr) : Prop :=
  ∀ fuel rest, sizeOf t ≤ fuel → (∀ c ∈ rest.head?, isNameChar c = false ∧ c ≠ '<') →
    readNamed fuel (t.chars ++ rest) = some (t.blur, rest)

/-- Whether a type and the dimensions after it are read where they stand as an argument. -/
def ReadsArgument (a : TypeExpr) : Prop :=
  ∀ fuel rest, sizeOf a ≤ fuel → (∀ c ∈ rest.head?, c = '>' ∨ c = ',') →
    (readNamed fuel (a.chars ++ rest)).map withDims = some (a.blur, rest)

theorem ReadsNamed.argument (h : a.component.ReadsNamed) (ha : a.Plain) : a.ReadsArgument := by
  intro fuel rest hfuel hrest
  have hsize : sizeOf a.component ≤ sizeOf a := by
    cases a with
    | array c d =>
      simp only [component, array.sizeOf_spec]
      omega
    | _ => exact Nat.le_refl _
  have hdims : rest.head? ≠ some '[' := by
    intro h
    rcases hrest '[' h with h | h <;> cases h
  -- What follows the name is a bracket or one of the marks after an argument.
  have hstop : ∀ c ∈ ((List.replicate a.dims ['[', ']']).flatten ++ rest).head?,
      isNameChar c = false ∧ c ≠ '<' := by
    intro c hc
    cases hd : a.dims with
    | zero =>
      rw [hd] at hc
      rcases hrest c (by simpa using hc) with rfl | rfl <;> decide
    | succ d =>
      rw [hd, List.replicate_succ] at hc
      cases hc
      decide
  rw [chars_eq_component, List.append_assoc, h fuel _ (Nat.le_trans hsize hfuel) hstop,
    Option.map_some, withDims, readDims_append _ hdims, ← blur_eq_component ha]

theorem readArgs_append (ha : a.ReadsArgument) (has : ∀ b ∈ as, b.ReadsArgument)
    (hfuel : sizeOf (a :: as) ≤ fuel) :
    readArgs fuel (a.chars ++ charsArgs as ++ rest) = some ((a :: as).map blur, rest) := by
  induction as generalizing a fuel with
  | nil =>
    simp only [List.cons.sizeOf_spec, List.nil.sizeOf_spec] at hfuel
    obtain ⟨fuel, rfl⟩ := Nat.exists_eq_add_of_le' (show 1 ≤ fuel by omega)
    have hread := ha fuel ('>' :: rest) (by omega) (by simp)
    rw [charsArgs, List.append_assoc, readArgs, List.singleton_append, hread]
    rfl
  | cons b as ih =>
    simp only [List.cons.sizeOf_spec] at hfuel
    obtain ⟨fuel, rfl⟩ := Nat.exists_eq_add_of_le' (show 1 ≤ fuel by omega)
    rw [List.forall_mem_cons] at has
    have hread := ha fuel (',' :: ' ' :: (b.chars ++ charsArgs as ++ rest)) (by omega) (by simp)
    have hrest := ih has.1 has.2 (show sizeOf (b :: as) ≤ fuel by
      simp only [List.cons.sizeOf_spec]
      omega)
    have htext : a.chars ++ charsArgs (b :: as) ++ rest =
        a.chars ++ ',' :: ' ' :: (b.chars ++ charsArgs as ++ rest) := by
      simp [charsArgs]
    rw [htext, readArgs, hread]
    simp only [hrest, Option.map_some, List.map_cons]

theorem readsNamed_named (hn : legible n as.length) (has : ∀ a ∈ as, a.ReadsArgument) :
    (named n as).ReadsNamed := by
  intro fuel rest hfuel hrest
  simp only [named.sizeOf_spec] at hfuel
  obtain ⟨fuel, rfl⟩ := Nat.exists_eq_add_of_le' (show 1 ≤ fuel by omega)
  cases as with
  | nil =>
    obtain ⟨htake, hdrop⟩ := takeWhile_name hn (fun c hc => (hrest c hc).1)
    unfold readNamed
    simp only [chars, htake, hdrop, String.ofList_toList]
    split
    · exact absurd rfl (hrest '<' rfl).2
    · simp [blur, blurArgs]
  | cons a as =>
    have hmark : ∀ c ∈ ('<' :: (a.chars ++ charsArgs as ++ rest)).head?, isNameChar c = false := by
      rintro _ ⟨⟩
      decide
    obtain ⟨htake, hdrop⟩ := takeWhile_name hn hmark
    rw [List.forall_mem_cons] at has
    have hargs : readArgs fuel (a.chars ++ charsArgs as ++ rest) =
        some ((a :: as).map blur, rest) := readArgs_append has.1 has.2 (by omega)
    have htext : (named n (a :: as)).chars ++ rest =
        n.toList ++ '<' :: (a.chars ++ charsArgs as ++ rest) := by
      simp [chars]
    unfold readNamed
    simp only [htext, htake, hdrop, hargs, String.ofList_toList, Option.map_some]
    simp [blur, blurArgs_eq_map]

theorem readsNamed_component (ht : t.Plain) (hl : legible.Covers t) : t.component.ReadsNamed := by
  induction t using inductOn with
  | named n as ih =>
    obtain ⟨hn, has⟩ := Vocabulary.covers_named.mp hl
    have hplain := plain_named.mp ht
    exact readsNamed_named hn (fun a ha => (ih a ha (hplain a ha) (has a ha)).argument (hplain a ha))
  | array c d ih =>
    obtain ⟨-, hc, hp⟩ := plain_array.mp ht
    have hread := ih hp (Vocabulary.covers_array.mp hl)
    have hself : c.component = c := by
      cases c with
      | array => cases hc
      | _ => rfl
    rwa [hself] at hread
  | var n => exact absurd ht (not_plain_var n)
  | wildcard u => exact absurd ht (not_plain_wildcard u)
  | any =>
    intro fuel rest hfuel hrest
    change sizeOf any ≤ fuel at hfuel
    rw [any.sizeOf_spec] at hfuel
    obtain ⟨fuel, rfl⟩ := Nat.exists_eq_add_of_le' hfuel
    have hany : PathName.Legible "any" := List.all_eq_true.mp (by decide)
    obtain ⟨htake, hdrop⟩ := takeWhile_name hany (fun c hc => (hrest c hc).1)
    have hchars : any.chars = "any".toList := rfl
    unfold readNamed
    simp only [hchars, component, htake, hdrop, String.ofList_toList]
    split
    · exact absurd rfl (hrest '<' rfl).2
    · rfl

theorem ofChars?_chars (ht : t.Plain) (hl : legible.Covers t) (hfuel : sizeOf t ≤ fuel) :
    ofChars? fuel t.chars = some t.blur := by
  have hread := (readsNamed_component ht hl).argument ht fuel [] hfuel (by simp)
  rw [List.append_nil] at hread
  rw [ofChars?, hread]
  rfl

theorem charsArgs_map_blur (h : ∀ a ∈ as, a.blur.chars = a.chars) :
    charsArgs (as.map blur) = charsArgs as := by
  induction as with
  | nil => rfl
  | cons a as ih =>
    rw [List.forall_mem_cons] at h
    rw [List.map_cons, charsArgs, charsArgs, h.1, ih h.2]

theorem chars_blur (t : TypeExpr) : t.blur.chars = t.chars := by
  induction t using inductOn with
  | named n as ih =>
    unfold blur
    split
    · rename_i h
      obtain ⟨rfl, has⟩ := h
      rw [List.isEmpty_iff.mp has]
      rfl
    · cases as with
      | nil => rfl
      | cons a as =>
        rw [List.forall_mem_cons] at ih
        rw [blurArgs_eq_map, List.map_cons, chars, chars, ih.1, charsArgs_map_blur ih.2]
  | array c d ih => rw [blur, chars, chars, ih]
  | var n => rfl
  | wildcard u => rfl
  | any => rfl

/-- The signatures of settled types under legible names are the same when the types are, apart from
classes called `any`. -/
theorem signature_eq_iff_blur (ha : a.Plain) (hb : b.Plain) (hla : legible.Covers a)
    (hlb : legible.Covers b) : a.signature = b.signature ↔ a.blur = b.blur := by
  constructor
  · intro h
    have hchars : a.chars = b.chars := String.ofList_injective h
    have hreada := ofChars?_chars ha hla (Nat.le_max_left (sizeOf a) (sizeOf b))
    have hreadb := ofChars?_chars hb hlb (Nat.le_max_right (sizeOf a) (sizeOf b))
    rw [← hchars, hreada] at hreadb
    exact Option.some.inj hreadb
  · intro h
    rw [signature, signature, ← chars_blur, h, chars_blur]

theorem blur_of_notMem (h : named "any" [] ∉ t.parts) : t.blur = t := by
  induction t using inductOn with
  | named n as ih =>
    have hparts : ∀ a ∈ as, named "any" [] ∉ a.parts :=
      fun a ha => mt (mem_parts_trans (mem_parts_of_mem_args (t := named n as) ha)) h
    have hargs : as.map blur = as := by
      rw [List.map_congr_left (fun a ha => ih a ha (hparts a ha)), List.map_id']
    have hname : ¬(n = "any" ∧ as.isEmpty = true) := by
      rintro ⟨rfl, has⟩
      rw [List.isEmpty_iff.mp has] at h
      exact h (mem_parts_self _)
    rw [blur, if_neg hname, blurArgs_eq_map, hargs]
  | array c d ih => rw [blur, ih (mt (List.mem_cons_of_mem _) h)]
  | var n => rfl
  | wildcard u => rfl
  | any => rfl

/-- Settled types whose names hold none of the marks that end a name have one signature exactly when they
are the same but for classes called `any` without arguments, which look like the type of which nothing is
known. Where there are no such classes, the signature says which type it is. -/
theorem signature_eq_iff_of_names (ha : a.Plain) (hb : b.Plain)
    (hna : ∀ n ∈ a.names, PathName.Legible n) (hnb : ∀ n ∈ b.names, PathName.Legible n) :
    (a.signature = b.signature ↔ a.blur = b.blur) ∧
      (named "any" [] ∉ a.parts → named "any" [] ∉ b.parts →
        (a.signature = b.signature ↔ a = b)) := by
  have hsame := signature_eq_iff_blur ha hb (legible_of_names hna) (legible_of_names hnb)
  refine ⟨hsame, fun hanya hanyb => ?_⟩
  rw [hsame, blur_of_notMem hanya, blur_of_notMem hanyb]

/-- In an array and as an argument, a class called `any` looks like the type of which nothing is known. -/
theorem signature_eq_iff_of_names_map :
    let a := named "Map" [array (named "any" []) 2, named "any" [any]]
    let b := named "Map" [array any 2, named "any" [named "any" []]]
    a.Plain ∧ b.Plain ∧ (∀ n ∈ a.names, PathName.Legible n) ∧ (∀ n ∈ b.names, PathName.Legible n) ∧
      a ≠ b ∧ a.signature = b.signature := by
  intro a b
  have ha : a.Plain := by
    unfold Plain
    decide
  have hb : b.Plain := by
    unfold Plain
    decide
  have hna : ∀ n ∈ a.names, PathName.Legible n := by decide
  have hnb : ∀ n ∈ b.names, PathName.Legible n := by decide
  refine ⟨ha, hb, hna, hnb, by decide, ?_⟩
  exact (signature_eq_iff_of_names ha hb hna hnb).1.mpr (by decide)

theorem blur_of_telling (h : telling.Covers t) : t.blur = t := by
  induction t using inductOn with
  | named n as ih =>
    obtain ⟨⟨-, hn⟩, has⟩ := Vocabulary.covers_named.mp h
    have hargs : as.map blur = as := by
      rw [List.map_congr_left (fun a ha => ih a ha (has a ha)), List.map_id']
    rw [blur, if_neg (fun hany => hn hany.1), blurArgs_eq_map, hargs]
  | array c d ih => rw [blur, ih (Vocabulary.covers_array.mp h)]
  | var n => rfl
  | wildcard u => rfl
  | any => rfl

theorem legible_of_telling (h : telling.Covers t) : legible.Covers t :=
  fun n as hmem => (h n as hmem).1

/-- A settled type under telling names has a signature of its own. -/
theorem eq_of_signature_eq (ha : a.Plain) (hb : b.Plain) (hta : telling.Covers a)
    (htb : telling.Covers b) (h : a.signature = b.signature) : a = b := by
  have hblur := (signature_eq_iff_blur ha hb (legible_of_telling hta) (legible_of_telling htb)).mp h
  rwa [blur_of_telling hta, blur_of_telling htb] at hblur

end TypeExpr

namespace Index

open TypeExpr (telling)

theorem coversIndex_telling {i : Index} {ts : List TypeExpr}
    (h : ∀ n ∈ i.usedNames ts, PathName.Telling n) : telling.CoversIndex i where
  declaration n d hd := by
    have hused := (coversIndex_vocabulary i ts).declaration n d hd
    constructor
    · exact fun m hm => (hused.member m hm).mono (fun n _ hn => h n hn.1)
    · exact fun t ht => (hused.supertype t ht).mono (fun n _ hn => h n hn.1)
    · exact fun p hp t ht => (hused.bound p hp t ht).mono (fun n _ hn => h n hn.1)
  rename n d k hd _ := by
    obtain ⟨key, hkey⟩ := mem_of_lookup hd
    exact h _ (List.mem_append_left _ (List.mem_map_of_mem hkey))

theorem covers_telling {i : Index} {ts : List TypeExpr}
    (h : ∀ n ∈ i.usedNames ts, PathName.Telling n) : ∀ t ∈ ts, telling.Covers t :=
  fun _ ht => (covers_of_mem_types (List.mem_append_right _ ht)).mono (fun n _ hn => h n hn.1)

end Index
end SchemaGraph
