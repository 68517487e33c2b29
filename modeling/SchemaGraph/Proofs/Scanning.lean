import Mathlib.Data.List.TakeWhile
import Mathlib.Tactic.MkIffOfInductiveProp
import SchemaGraph.Proofs.Casing
import SchemaGraph.Source.Lexer
import SchemaGraph.Source.Stream

/-! The tokens of texts that are made of identifiers, brackets and punctuation: each is read by itself, and
what stands in brackets becomes a group. -/
namespace SchemaGraph.Source

variable {c : Char} {w cs rest : List Char} {ts : List FlatToken} {s : String} {fuel : Nat}

/-- Whether an ASCII character can start an identifier. -/
def isNameStart (c : Char) : Bool := c.isAlpha || c = '_'

/-- Whether an ASCII character can go on an identifier. -/
def isNamePart (c : Char) : Bool := c.isAlphanum || c = '_'

/-- Whether a text is an identifier of ASCII characters, and no keyword. -/
def IsIdentifier (s : String) : Prop :=
  s.toList.head?.any isNameStart = true ∧ s.toList.all isNamePart = true ∧ s ∉ keywords

instance (s : String) : Decidable (IsIdentifier s) := inferInstanceAs (Decidable (_ ∧ _))

/-- Whether a character starts nothing but identifiers, and literals that letters announce. -/
@[mk_iff]
structure Letter (c : Char) : Prop where
  start : isIdentStart c = true
  goesOn : isIdentContinue c = true
  notDigit : c.isDigit = false
  notDecimal : ∀ d ∈ hexDigit? c, ¬d < 10
  notBlank : isBlank c = false
  notDelimiter : delimiter? c = none
  notPunctuation : punctuation.contains c = false

instance (c : Char) : Decidable (Letter c) := decidable_of_iff _ (letter_iff c).symm

/-- Characters that make a literal of the letters before them. -/
def literalMarks : List Char := ['"', '\'', '#']

/-- Whether the letters at the front of a text do not make a literal of what follows them. -/
def Unmarked (cs : List Char) : Prop := ∀ c ∈ (cs.dropWhile isIdentContinue).head?, c ∉ literalMarks

theorem toNat_lt_of_isNamePart (h : isNamePart c = true) : c.toNat < 128 := by
  rw [isNamePart, Bool.or_eq_true, decide_eq_true_eq] at h
  rcases h with h | rfl
  · rcases Bool.or_eq_true_iff.mp (show (c.isAlpha || c.isDigit) = true from h) with h | h
    · rcases Bool.or_eq_true_iff.mp (show (c.isUpper || c.isLower) = true from h) with h | h
      · have hle : c.toNat ≤ 'Z'.toNat :=
          (of_decide_eq_true (show decide (c.val ≥ 'A'.val ∧ c.val ≤ 'Z'.val) = true from h)).2
        exact hle.trans_lt (by decide)
      · exact Text.toNat_lt_of_isLower h
    · exact Text.toNat_lt_of_isDigit h
  · decide

theorem isIdentContinue_of_isNamePart (h : isNamePart c = true) : isIdentContinue c = true := by
  rw [isIdentContinue, if_pos (toNat_lt_of_isNamePart h)]
  exact h

theorem isNamePart_of_isNameStart (h : isNameStart c = true) : isNamePart c = true := by
  rw [isNameStart, Bool.or_eq_true] at h
  rw [isNamePart, Char.isAlphanum, Bool.or_eq_true, Bool.or_eq_true]
  exact h.elim (fun h => .inl (.inl h)) .inr

theorem letter_of_isNameStart (h : isNameStart c = true) : Letter c :=
  Text.ascii_forall (P := fun c => isNameStart c = true → Letter c) (by decide +kernel)
    (toNat_lt_of_isNamePart (isNamePart_of_isNameStart h)) h

theorem unmarked_cons (h : isIdentContinue c = true) : Unmarked (c :: cs) ↔ Unmarked cs := by
  rw [Unmarked, Unmarked, List.dropWhile_cons_of_pos h]

theorem Unmarked.head_notMem (h : Unmarked (c :: cs)) : c ∉ literalMarks := by
  intro hmark
  have hstop : isIdentContinue c ≠ true := by
    simp only [literalMarks, List.mem_cons, List.not_mem_nil, or_false] at hmark
    rcases hmark with rfl | rfl | rfl <;> decide
  rw [Unmarked, List.dropWhile_cons_of_neg hstop] at h
  exact h c rfl hmark

/-- No literal starts with letters that are not marked as one. -/
theorem Unmarked.startsWith_eq_false (h : Unmarked cs) {start : String}
    (hstart : (start.toList.dropWhile isIdentContinue).head?.any (· ∈ literalMarks) = true) :
    startsWith start cs = false := by
  rw [startsWith, Bool.eq_false_iff]
  intro hprefix
  obtain ⟨rest, rfl⟩ := List.isPrefixOf_iff_prefix.mp hprefix
  cases hd : start.toList.dropWhile isIdentContinue with
  | nil => simp [hd] at hstart
  | cons c more =>
    rw [hd] at hstart
    have hhead : ((start.toList ++ rest).dropWhile isIdentContinue).head? = some c := by
      rw [List.dropWhile_append, hd]
      rfl
    exact h c hhead (by simpa using hstart)

theorem Unmarked.readRawLiteral (h : Unmarked cs) (k : QuoteKind) : readRawLiteral k cs = none := by
  have hopening : rawOpening cs = none := by
    unfold rawOpening
    split
    · exact absurd (by decide) h.head_notMem
    · exact absurd (by decide) h.head_notMem
    · rfl
  rw [Source.readRawLiteral, hopening]
  rfl

theorem Letter.spanInt (h : Letter c) : spanInt (c :: cs) = none := by
  have hzero : c ≠ '0' := by
    rintro rfl
    exact absurd h.notDigit (by decide)
  have hbase : spanBase (c :: cs) = (10, c :: cs) := by
    simp [spanBase, hzero]
  by_cases hmark : c = '_'
  · subst hmark
    rfl
  · have hdigits : spanBaseDigits 10 (c :: cs) = some ([], c :: cs) := by
      rw [spanBaseDigits, if_neg hmark]
      cases hd : hexDigit? c with
      | none => rfl
      | some d => simp [h.notDigit, h.notDecimal d hd]
    rw [Source.spanInt, hbase]
    dsimp only
    rw [hdigits, Option.bind_eq_bind, Option.bind_eq_none_iff]
    exact fun _ _ => rfl

theorem Letter.readNumber (h : Letter c) : readNumber (c :: cs) = none := by
  have hfloat : spanFloat (c :: cs) = none := by simp [spanFloat, h.notDigit]
  rw [Source.readNumber, hfloat]
  dsimp only
  rw [h.spanInt]
  rfl

theorem Letter.readLiteral (hc : Letter c) (h : Unmarked (c :: cs)) :
    readLiteral fuel (c :: cs) = none := by
  have hcs : Unmarked cs := (unmarked_cons hc.goesOn).mp h
  unfold Source.readLiteral
  dsimp only
  split
  case h_1 heq | h_8 heq =>
    cases heq
    exact absurd hc (by decide)
  case h_2 heq =>
    cases heq
    rw [hcs.readRawLiteral]
    rfl
  case h_3 heq | h_5 heq | h_6 heq =>
    cases heq
    exact absurd (by decide) hcs.head_notMem
  case h_4 heq | h_7 heq =>
    cases heq
    rw [((unmarked_cons (by decide)).mp hcs).readRawLiteral]
    rfl
  case h_9 => exact hc.readNumber

theorem Letter.startsPunctuation (h : Letter c) : startsPunctuation (c :: cs) = false := by
  have hpunct := h.notPunctuation
  simp [Source.startsPunctuation, -List.contains_eq_mem, hpunct]

theorem Letter.readPunctuation (h : Letter c) : readPunctuation (c :: cs) = none := by
  unfold Source.readPunctuation
  rw [h.startsPunctuation]
  rfl

/-- Whether what follows an identifier ends it and makes no literal of it. -/
def Ends (rest : List Char) : Prop :=
  ∀ c ∈ rest.head?, isIdentContinue c = false ∧ c ∉ literalMarks

theorem Ends.dropWhile (h : Ends rest) (hw : ∀ d ∈ w, isIdentContinue d = true) :
    (w ++ rest).dropWhile isIdentContinue = rest := by
  rw [List.dropWhile_append_of_pos hw]
  cases rest with
  | nil => rfl
  | cons c rest => exact List.dropWhile_cons_of_neg (by simp [h c rfl])

theorem Ends.takeWhile (h : Ends rest) (hw : ∀ d ∈ w, isIdentContinue d = true) :
    (w ++ rest).takeWhile isIdentContinue = w := by
  rw [List.takeWhile_append_of_pos hw]
  cases rest with
  | nil => simp
  | cons c rest => simp [h c rfl]

/-- An identifier starts with a letter. -/
theorem IsIdentifier.exists_letter (hs : IsIdentifier s) :
    ∃ c w, s.toList = c :: w ∧ Letter c ∧ ∀ d ∈ c :: w, isIdentContinue d = true := by
  obtain ⟨hstart, hparts, -⟩ := hs
  cases hw : s.toList with
  | nil => simp [hw] at hstart
  | cons c w =>
    rw [hw] at hstart hparts
    exact ⟨c, w, rfl, letter_of_isNameStart hstart,
      fun d hd => isIdentContinue_of_isNamePart (List.all_eq_true.mp hparts d hd)⟩

/-- An identifier is read up to its end where nothing makes a literal of it. -/
theorem readLeaf_identifier (hs : IsIdentifier s) (hrest : Ends rest) :
    readLeaf fuel (s.toList ++ rest) = some (.ident s, rest) := by
  obtain ⟨c, w, hw, hc, hparts⟩ := hs.exists_letter
  have hunmarked : Unmarked (s.toList ++ rest) := by
    rw [Unmarked, hrest.dropWhile (hw ▸ hparts)]
    exact fun d hd => (hrest d hd).2
  have hliteral : literalStarts.any (startsWith · (s.toList ++ rest)) = false := by
    rw [List.any_eq_false]
    intro start hstart
    rw [hunmarked.startsWith_eq_false]
    · exact Bool.false_ne_true
    · revert start
      decide
  have hraw : startsWith "r#" (s.toList ++ rest) = false :=
    hunmarked.startsWith_eq_false (by decide)
  have hspan : spanIdent (s.toList ++ rest) = some (s.toList, rest) := by
    rw [List.forall_mem_cons] at hparts
    rw [hw, List.cons_append, spanIdent, if_pos hc.start, hrest.takeWhile hparts.2,
      hrest.dropWhile hparts.2]
  have hident : readIdent (s.toList ++ rest) = some (s, rest) := by
    rw [readIdent, hliteral, if_neg Bool.false_ne_true, readAnyIdent, hraw,
      if_neg Bool.false_ne_true, hspan]
    simp
  rw [hw] at hunmarked hident ⊢
  rw [List.cons_append] at hunmarked hident ⊢
  rw [readLeaf, hc.readLiteral hunmarked, hc.readPunctuation, hident]
  rfl

/-! Scanning. -/

/-- Whether a text has these tokens. -/
def Scans (cs : List Char) (ts : List FlatToken) : Prop :=
  ∀ fuel, cs.length < fuel → scan fuel cs = some ts

theorem scans_nil : Scans [] [] := by
  intro fuel hfuel
  obtain ⟨fuel, rfl⟩ := Nat.exists_eq_add_of_lt hfuel
  simp [scan, skipBlanks]

theorem skipBlanks_of_not_isBlank (hblank : isBlank c = false) (hslash : c ≠ '/') (cs : List Char)
    (fuel : Nat) : skipBlanks (fuel + 1) (c :: cs) = c :: cs := by
  simp [skipBlanks, hblank, startsLineComment, startsBlockComment, startsWith, hslash.symm]

theorem docComment?_of_ne (hslash : c ≠ '/') (cs : List Char) : docComment? (c :: cs) = none := by
  have hno : ∀ start : String, start.toList.head? = some '/' → startsWith start (c :: cs) = false := by
    intro start hstart
    obtain ⟨more, hmore⟩ := List.head?_eq_some_iff.mp hstart
    rw [startsWith, hmore, List.isPrefixOf_cons_cons, beq_false_of_ne hslash.symm, Bool.false_and]
  rw [docComment?, hno "//!" (by decide), hno "/*!" (by decide), hno "///" (by decide),
    hno "/**" (by decide)]
  rfl

theorem Scans.leaf {t : Token} (h : Scans rest ts) (hblank : isBlank c = false) (hslash : c ≠ '/')
    (hdelimiter : delimiter? c = none) (hlength : rest.length ≤ cs.length)
    (hleaf : ∀ fuel, readLeaf fuel (c :: cs) = some (t, rest)) :
    Scans (c :: cs) (.leaf t :: ts) := by
  intro fuel hfuel
  obtain ⟨fuel, rfl⟩ := Nat.exists_eq_add_of_lt (Nat.lt_of_le_of_lt (Nat.zero_le _) hfuel)
  rw [List.length_cons] at hfuel
  have hrest := h fuel (by omega)
  simp [scan, skipBlanks_of_not_isBlank hblank hslash, docComment?_of_ne hslash, hdelimiter, hleaf, hrest]

theorem Scans.identifier (h : Scans rest ts) (hs : IsIdentifier s) (hrest : Ends rest) :
    Scans (s.toList ++ rest) (.leaf (.ident s) :: ts) := by
  have hread : ∀ fuel, readLeaf fuel (s.toList ++ rest) = some (.ident s, rest) :=
    fun fuel => readLeaf_identifier hs hrest
  obtain ⟨c, w, hw, hc, -⟩ := hs.exists_letter
  rw [hw, List.cons_append] at hread ⊢
  refine h.leaf hc.notBlank ?_ hc.notDelimiter ?_ hread
  · rintro rfl
    exact absurd hc (by decide)
  · simp

/-- Whether a text starts with a letter or a bracket. -/
def Opens (cs : List Char) : Prop := ∃ c rest, cs = c :: rest ∧ (Letter c ∨ c = '(')

theorem IsIdentifier.opens (hs : IsIdentifier s) (rest : List Char) : Opens (s.toList ++ rest) := by
  obtain ⟨c, w, hw, hc, -⟩ := hs.exists_letter
  exact ⟨c, w ++ rest, by rw [hw, List.cons_append], .inl hc⟩

theorem Opens.startsPunctuation (h : Opens cs) : startsPunctuation cs = false := by
  obtain ⟨c, rest, rfl, hc | rfl⟩ := h
  · exact hc.startsPunctuation
  · rfl

theorem Opens.head?_ne (h : Opens cs) : cs.head? ≠ some '\uFEFF' := by
  obtain ⟨c, rest, rfl, hc | rfl⟩ := h
  · intro heq
    rw [List.head?_cons, Option.some.injEq] at heq
    subst heq
    exact absurd hc (by decide +kernel)
  · simp

/-- A blank does not count before what opens. -/
theorem Scans.blank (h : Scans cs ts) (hcs : Opens cs) : Scans (' ' :: cs) ts := by
  obtain ⟨c, rest, rfl, hc⟩ := hcs
  have hblank : isBlank c = false := hc.elim (·.notBlank) (by rintro rfl; decide)
  have hslash : c ≠ '/' := by
    rintro rfl
    exact absurd hc (by decide)
  intro fuel hfuel
  simp only [List.length_cons] at hfuel
  obtain ⟨fuel, rfl⟩ := Nat.exists_eq_add_of_le' (show 2 ≤ fuel by omega)
  -- the blank is passed over inside one step of the scan
  have hskip : skipBlanks (fuel + 2) (' ' :: c :: rest) = skipBlanks (fuel + 2) (c :: rest) := by
    rw [skipBlanks_of_not_isBlank hblank hslash]
    exact skipBlanks_of_not_isBlank hblank hslash rest fuel
  have hsame := h (fuel + 2) (by
    rw [List.length_cons]
    omega)
  rw [scan] at hsame ⊢
  rw [hskip]
  exact hsame

/-- Punctuation that starts nothing else. -/
def marks : List Char := ['<', '>', ',', ':', '-']

theorem readLeaf_mark (hc : c ∈ marks) :
    readLeaf fuel (c :: rest) = some (.punct c (startsPunctuation rest), rest) := by
  simp only [marks, List.mem_cons, List.not_mem_nil, or_false] at hc
  rcases hc with rfl | rfl | rfl | rfl | rfl <;> rfl

theorem Scans.mark (h : Scans rest ts) (hc : c ∈ marks) :
    Scans (c :: rest) (.leaf (.punct c (startsPunctuation rest)) :: ts) := by
  have hplain : isBlank c = false ∧ c ≠ '/' ∧ delimiter? c = none := by
    simp only [marks, List.mem_cons, List.not_mem_nil, or_false] at hc
    rcases hc with rfl | rfl | rfl | rfl | rfl <;> exact ⟨rfl, by decide, rfl⟩
  exact h.leaf hplain.1 hplain.2.1 hplain.2.2 (Nat.le_refl _) (fun _ => readLeaf_mark hc)

theorem Scans.bracket (h : Scans rest ts) {d : Delimiter} {opens : Bool}
    (hc : delimiter? c = some (d, opens)) (hblank : isBlank c = false) (hslash : c ≠ '/') :
    Scans (c :: rest) ((if opens then .opening d else .closing d) :: ts) := by
  intro fuel hfuel
  obtain ⟨fuel, rfl⟩ := Nat.exists_eq_add_of_lt (Nat.lt_of_le_of_lt (Nat.zero_le _) hfuel)
  rw [List.length_cons] at hfuel
  have hrest := h fuel (by omega)
  simp [scan, skipBlanks_of_not_isBlank hblank hslash, docComment?_of_ne hslash, hc, hrest]

theorem Scans.parens (h : Scans rest ts) :
    Scans ('(' :: ')' :: rest) (.opening .paren :: .closing .paren :: ts) := by
  have hopen : delimiter? '(' = some (.paren, true) := rfl
  have hclose : delimiter? ')' = some (.paren, false) := rfl
  exact (h.bracket hclose (by decide) (by decide)).bracket hopen (by decide) (by decide)

/-! Grouping. -/

mutual
/-- A token with the ends of the groups in it. -/
def Token.flat : Token → List FlatToken
  | .group d ts => .opening d :: (Token.flatAll ts ++ [.closing d])
  | t => [.leaf t]

/-- Tokens with the ends of the groups in them. -/
def Token.flatAll : List Token → List FlatToken
  | [] => []
  | t :: ts => Token.flat t ++ Token.flatAll ts
end

theorem Token.flatAll_append (ts ts' : List Token) :
    Token.flatAll (ts ++ ts') = Token.flatAll ts ++ Token.flatAll ts' := by
  induction ts with
  | nil => rfl
  | cons t ts ih => rw [List.cons_append, Token.flatAll, Token.flatAll, ih, List.append_assoc]

theorem Token.sizeAll_append (ts ts' : List Token) :
    Token.sizeAll (ts ++ ts') = Token.sizeAll ts + Token.sizeAll ts' := by
  induction ts with
  | nil => rw [List.nil_append, Token.sizeAll, Nat.zero_add]
  | cons t ts ih => rw [List.cons_append, Token.sizeAll, Token.sizeAll, ih, Nat.add_assoc]

-- A group is left as it was entered: what stood before it comes back from the stack.
mutual
theorem nestTokens_flat (done : List Token) (outer : List (Delimiter × List Token))
    (rest : List FlatToken) :
    ∀ t : Token, nestTokens done outer (t.flat ++ rest) = nestTokens (t :: done) outer rest
  | .group d ts => by
    rw [Token.flat, List.cons_append, List.append_assoc, nestTokens, nestTokens_flatAll, List.append_nil]
    simp [nestTokens]
  | .ident _ | .lifetime _ | .punct .. | .literal _ => rfl

theorem nestTokens_flatAll (done : List Token) (outer : List (Delimiter × List Token))
    (rest : List FlatToken) :
    ∀ ts : List Token,
      nestTokens done outer (Token.flatAll ts ++ rest) = nestTokens (ts.reverse ++ done) outer rest
  | [] => rfl
  | t :: ts => by
    rw [Token.flatAll, List.append_assoc, nestTokens_flat, nestTokens_flatAll, List.reverse_cons,
      List.append_assoc, List.singleton_append]
end

theorem Scans.tokens? {ts : List Token} (h : Scans cs (Token.flatAll ts))
    (hmark : cs.head? ≠ some '\uFEFF') : tokens? (String.ofList cs) = some ts := by
  have hscan := h (cs.length + 1) (Nat.lt_succ_self _)
  have hnest : nestTokens [] [] (Token.flatAll ts) = some ts := by
    have hall := nestTokens_flatAll [] [] [] ts
    rw [List.append_nil, List.append_nil, nestTokens, List.reverse_reverse] at hall
    exact hall
  simp [Source.tokens?, hmark, hscan, hnest]

end SchemaGraph.Source
