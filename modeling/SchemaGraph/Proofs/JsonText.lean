import SchemaGraph.Json.Reader
import SchemaGraph.Json.Writer

/-! JSON text that was written is read back as the value that it was written for. -/
namespace SchemaGraph.Json

/-- Induction with a hypothesis for every item and every field. -/
@[elab_as_elim]
theorem inductOn {motive : Json → Prop} (j : Json)
    (leaf : ∀ j, (∀ items, j ≠ arr items) → (∀ fields, j ≠ obj fields) → motive j)
    (arr : ∀ items, (∀ i ∈ items, motive i) → motive (arr items))
    (obj : ∀ fields, (∀ e ∈ fields, motive e.2) → motive (obj fields)) : motive j := by
  refine @Json.rec motive (fun items => ∀ i ∈ items, motive i)
    (fun fields => ∀ e ∈ fields, motive e.2) (fun e => motive e.2) ?_ ?_ ?_ ?_ ?_ arr obj ?_ ?_ ?_ ?_
    ?_ ?_ j
  · exact leaf null (by simp) (by simp)
  · exact fun b => leaf (bool b) (by simp) (by simp)
  · exact fun n => leaf (int n) (by simp) (by simp)
  · exact fun x => leaf (float x) (by simp) (by simp)
  · exact fun s => leaf (str s) (by simp) (by simp)
  · exact leaf unreadable (by simp) (by simp)
  · simp
  · intro i items hi hitems
    simpa using ⟨hi, hitems⟩
  · simp
  · intro e fields he hfields
    rw [List.forall_mem_cons]
    exact ⟨he, hfields⟩
  · exact fun _ _ h => h

mutual
/-- The value and every value inside it. -/
def parts : Json → List Json
  | arr items => arr items :: partsItems items
  | obj fields => obj fields :: partsFields fields
  | j => [j]

def partsItems : List Json → List Json
  | [] => []
  | j :: js => parts j ++ partsItems js

def partsFields : List (String × Json) → List Json
  | [] => []
  | (_, j) :: js => parts j ++ partsFields js
end

theorem partsItems_eq_flatMap (items : List Json) : partsItems items = items.flatMap parts := by
  induction items with
  | nil => rfl
  | cons j js ih => simp [partsItems, ih]

theorem partsFields_eq_flatMap (fields : List (String × Json)) :
    partsFields fields = fields.flatMap (fun e => e.2.parts) := by
  induction fields with
  | nil => rfl
  | cons e es ih => simp [partsFields, ih]

/-- Whether the text of a value's top says all of it: integers of 64 bits do, floats are left out. -/
def isExact : Json → Bool
  | int n => -Int.pow 2 63 ≤ n && n < Int.pow 2 64
  | float _ | unreadable => false
  | null | bool _ | str _ | arr _ | obj _ => true

/-- A value of which every part is exact. -/
def Exact (j : Json) : Prop := ∀ p ∈ j.parts, p.isExact = true

theorem Exact.isExact {j : Json} (h : j.Exact) : j.isExact = true := h j (by cases j <;> simp [parts])

theorem exact_arr {items : List Json} : (arr items).Exact ↔ ∀ j ∈ items, j.Exact := by
  simp only [Exact, parts, partsItems_eq_flatMap, List.forall_mem_cons, isExact, List.mem_flatMap,
    true_and]
  constructor
  · exact fun h j hj p hp => h p ⟨j, hj, hp⟩
  · rintro h p ⟨j, hj, hp⟩
    exact h j hj p hp

theorem exact_obj {fields : List (String × Json)} :
    (obj fields).Exact ↔ ∀ e ∈ fields, e.2.Exact := by
  simp only [Exact, parts, partsFields_eq_flatMap, List.forall_mem_cons, isExact, List.mem_flatMap,
    true_and]
  constructor
  · exact fun h e he p hp => h p ⟨e, he, hp⟩
  · rintro h p ⟨e, he, hp⟩
    exact h e he p hp

/-! Strings. -/

/-- The characters that are written as a backslash and one character more. -/
def shortEscaped : List Char := ['"', '\\', '\n', '\t', '\r', '\x08', '\x0c']

/-- The piece that the escape of a character, or the character itself, is read as. -/
def pieceOf (c : Char) : Piece :=
  if c.toNat < 32 ∧ c ∉ shortEscaped then .unit c.toNat else .char c

theorem escapeChar_of_mem {c : Char} (h : c ∈ shortEscaped) :
    ∃ e, escapeChar c = ['\\', e] ∧ escaped? e = some c ∧ e ≠ 'u' := by
  simp only [shortEscaped, List.mem_cons, List.not_mem_nil, or_false] at h
  rcases h with rfl | rfl | rfl | rfl | rfl | rfl | rfl <;> exact ⟨_, rfl, rfl, by decide⟩

theorem escapeChar_of_notMem {c : Char} (h : c ∉ shortEscaped) :
    escapeChar c = if c.toNat < 32 then
      ['\\', 'u', '0', '0', hexDigit (c.toNat / 16), hexDigit (c.toNat % 16)] else [c] := by
  simp only [shortEscaped, List.mem_cons, List.not_mem_nil, or_false, not_or] at h
  obtain ⟨hquote, hslash, hline, htab, hreturn, hback, hfeed⟩ := h
  simp only [escapeChar, if_neg hquote, if_neg hslash, if_neg hline, if_neg htab, if_neg hreturn,
    if_neg hback, if_neg hfeed]

theorem hexValue?_hexDigit {n : Nat} (h : n < 16) : hexValue? (hexDigit n) = some n := by
  revert n
  decide

theorem readUnit_hexDigit {n : Nat} (h : n < 32) (cs : List Char) :
    readUnit ('0' :: '0' :: hexDigit (n / 16) :: hexDigit (n % 16) :: cs) = some (n, cs) := by
  have hhigh := hexValue?_hexDigit (show n / 16 < 16 by omega)
  have hlow := hexValue?_hexDigit (show n % 16 < 16 by omega)
  have hzero : hexValue? '0' = some 0 := rfl
  simp only [readUnit, hhigh, hlow, hzero, Option.bind_eq_bind, Option.bind_some, Option.pure_def,
    Option.some.injEq, Prod.mk.injEq, and_true]
  omega

theorem readPieces_escaped {e ch : Char} (fuel : Nat) (cs : List Char) (he : escaped? e = some ch)
    (hu : e ≠ 'u') :
    readPieces (fuel + 1) ('\\' :: e :: cs) =
      (readPieces fuel cs).map (fun r => (.char ch :: r.1, r.2)) := by
  cases h : readPieces fuel cs <;> simp [readPieces, h, he]

theorem readPieces_unit {n : Nat} (fuel : Nat) (cs : List Char) (h : n < 32) :
    readPieces (fuel + 1) ('\\' :: 'u' :: '0' :: '0' :: hexDigit (n / 16) :: hexDigit (n % 16) :: cs) =
      (readPieces fuel cs).map (fun r => (.unit n :: r.1, r.2)) := by
  have hunit := readUnit_hexDigit h cs
  cases h : readPieces fuel cs <;> simp [readPieces, h, hunit]

theorem readPieces_plain {c : Char} (fuel : Nat) (cs : List Char) (hc : c ∉ shortEscaped)
    (h : ¬c.toNat < 32) :
    readPieces (fuel + 1) (c :: cs) =
      (readPieces fuel cs).map (fun r => (.char c :: r.1, r.2)) := by
  have hquote : c ≠ '"' := fun heq => hc (by simp [heq, shortEscaped])
  have hslash : c ≠ '\\' := fun heq => hc (by simp [heq, shortEscaped])
  cases hrest : readPieces fuel cs <;> simp [readPieces, hrest, hquote, hslash, h]

/-- The escape of a character is read as one piece. -/
theorem readPieces_escapeChar (fuel : Nat) (c : Char) (cs : List Char) :
    readPieces (fuel + 1) (escapeChar c ++ cs) =
      (readPieces fuel cs).map (fun r => (pieceOf c :: r.1, r.2)) := by
  by_cases hshort : c ∈ shortEscaped
  · obtain ⟨e, hescape, hread, hu⟩ := escapeChar_of_mem hshort
    rw [hescape, pieceOf, if_neg (fun h => h.2 hshort)]
    exact readPieces_escaped fuel cs hread hu
  · rw [escapeChar_of_notMem hshort]
    by_cases hcontrol : c.toNat < 32
    · rw [if_pos hcontrol, pieceOf, if_pos ⟨hcontrol, hshort⟩]
      exact readPieces_unit fuel cs hcontrol
    · rw [if_neg hcontrol, pieceOf, if_neg (fun h => hcontrol h.1)]
      exact readPieces_plain fuel cs hshort hcontrol

theorem readPieces_flatMap {fuel : Nat} {cs : List Char} (rest : List Char)
    (h : cs.length < fuel) :
    readPieces fuel (cs.flatMap escapeChar ++ '"' :: rest) = some (cs.map pieceOf, rest) := by
  induction cs generalizing fuel with
  | nil =>
    obtain ⟨fuel, rfl⟩ := Nat.exists_eq_add_of_lt h
    simp [readPieces]
  | cons c cs ih =>
    obtain ⟨fuel, rfl⟩ := Nat.exists_eq_add_of_lt (Nat.lt_of_le_of_lt (Nat.zero_le _) h)
    simp only [Nat.zero_add] at h ⊢
    rw [List.flatMap_cons, List.append_assoc, readPieces_escapeChar, ih (by simpa using h)]
    rfl

/-- A unit below 32 is no surrogate, whatever piece comes after it. -/
theorem joinPieces_unit {n : Nat} (h : n < 32) (ps : List Piece) :
    joinPieces (.unit n :: ps) = (joinPieces ps).map (Char.ofNat n :: ·) := by
  have hhigh : isHighUnit n = false := by
    simp only [isHighUnit, Bool.and_eq_false_imp, decide_eq_true_eq, decide_eq_false_iff_not]
    omega
  have hlow : isLowUnit n = false := by
    simp only [isLowUnit, Bool.and_eq_false_imp, decide_eq_true_eq, decide_eq_false_iff_not]
    omega
  rw [Option.map_eq_bind]
  rcases ps with _ | ⟨_ | l, ps⟩ <;> simp [joinPieces, hhigh, hlow, Function.comp_def]

theorem joinPieces_map_pieceOf (cs : List Char) : joinPieces (cs.map pieceOf) = some cs := by
  induction cs with
  | nil => rfl
  | cons c cs ih =>
    rw [List.map_cons, pieceOf]
    split
    · rename_i hc
      rw [joinPieces_unit hc.1, ih, Char.ofNat_toNat]
      rfl
    · simp [joinPieces, ih]

theorem length_le_flatMap_escapeChar (cs : List Char) :
    cs.length ≤ (cs.flatMap escapeChar).length := by
  induction cs with
  | nil => exact Nat.le_refl 0
  | cons c cs ih =>
    have hpos : 0 < (escapeChar c).length := by
      unfold escapeChar
      repeat' split
      all_goals simp
    rw [List.flatMap_cons, List.length_append, List.length_cons]
    omega

/-- A string that was written is read back, whatever its characters are. -/
theorem readString_quoted (s : String) (rest : List Char) :
    ∃ cs, quoted s ++ rest = '"' :: cs ∧ readString cs = some (some s, rest) := by
  refine ⟨s.toList.flatMap escapeChar ++ '"' :: rest, by simp [quoted], ?_⟩
  have hlength := length_le_flatMap_escapeChar s.toList
  have hfuel : s.toList.length < (s.toList.flatMap escapeChar ++ '"' :: rest).length + 1 := by
    rw [List.length_append]
    omega
  rw [readString, readPieces_flatMap rest hfuel]
  simp [joinPieces_map_pieceOf]

/-! Integers. -/

/-- Whether what follows a number does not go on with it. -/
def Ends (rest : List Char) : Prop :=
  ∀ c ∈ rest.head?, c.isDigit = false ∧ c ≠ '.' ∧ c ≠ 'e' ∧ c ≠ 'E'

theorem ends_nil : Ends [] := by simp [Ends]

theorem ends_cons {c : Char} {rest : List Char} (h : c ∈ [',', ']', '\x7d']) : Ends (c :: rest) := by
  intro d hd
  obtain rfl := Option.some.inj hd
  simp only [List.mem_cons, List.not_mem_nil, or_false] at h
  rcases h with rfl | rfl | rfl <;> decide

theorem spanDigits_append {cs rest : List Char} (hcs : ∀ c ∈ cs, c.isDigit = true)
    (hrest : Ends rest) : spanDigits (cs ++ rest) = (cs.map digitValue, rest) := by
  have htake : rest.takeWhile Char.isDigit = [] := by
    cases rest with
    | nil => rfl
    | cons c rest => simp [(hrest c rfl).1]
  have hdrop : rest.dropWhile Char.isDigit = rest := by
    cases rest with
    | nil => rfl
    | cons c rest => simp [(hrest c rfl).1]
  rw [spanDigits, List.takeWhile_append_of_pos hcs, List.dropWhile_append_of_pos hcs, htake, hdrop,
    List.append_nil]

/-- The digits of a number: a zero stands first only when it stands alone. -/
theorem exists_toDigits (n : Nat) :
    ∃ c cs, Nat.toDigits 10 n = c :: cs ∧ (cs = [] ∨ digitValue c ≠ 0) := by
  induction n using Nat.strongRecOn with
  | ind n ih =>
    by_cases h : n < 10
    · exact ⟨_, [], Nat.toDigits_of_lt_base h, .inl rfl⟩
    · obtain ⟨c, cs, heq, hlead⟩ := ih (n / 10) (by omega)
      rw [Nat.toDigits_of_base_le (by decide) (by omega), heq]
      refine ⟨c, cs ++ [(n % 10).digitChar], rfl, .inr ?_⟩
      rcases hlead with rfl | hne
      · -- One digit is left, that of a number from 1 to 9.
        have hsmall : n / 10 < 10 := by
          refine Nat.lt_of_not_le (fun hbig => ?_)
          rw [Nat.toDigits_of_base_le (by decide) (by omega)] at heq
          have hlength := congrArg List.length heq
          have hpos := Nat.length_toDigits_pos (b := 10) (n := n / 10 / 10)
          simp only [List.length_append, List.length_singleton] at hlength
          omega
        rw [Nat.toDigits_of_lt_base hsmall, List.cons.injEq] at heq
        rw [digitValue, ← heq.1, Nat.toNat_digitChar_sub_48_of_lt_ten hsmall]
        omega
      · exact hne

theorem natOfDigits_toDigits (n : Nat) : natOfDigits ((Nat.toDigits 10 n).map digitValue) = n := by
  rw [natOfDigits, List.foldl_map]
  have h := Nat.ofDigitChars_toDigits (b := 10) (n := n) (by decide) (by decide)
  rw [Nat.ofDigitChars_eq_foldl] at h
  simpa [digitValue, Nat.mul_comm] using h

theorem readWhole_toDigits {rest : List Char} (n : Nat) (h : Ends rest) :
    readWhole (Nat.toDigits 10 n ++ rest) = some ((Nat.toDigits 10 n).map digitValue, rest) := by
  have hspan := spanDigits_append
    (fun c hc => Nat.isDigit_of_mem_toDigits (b := 10) (n := n) (by decide) (by decide) hc) h
  obtain ⟨c, cs, heq, hlead⟩ := exists_toDigits n
  rw [readWhole, hspan, heq]
  rcases hlead with rfl | hne
  · simp
  · cases cs with
    | nil => simp
    | cons c' cs => simp [hne]

theorem le_foldl_digits (s : Nat) (ds : List Nat) : s ≤ ds.foldl (fun n d => n * 10 + d) s := by
  induction ds generalizing s with
  | nil => exact Nat.le_refl s
  | cons d ds ih =>
    have := ih (s * 10 + d)
    rw [List.foldl_cons]
    omega

/-- Digits of a number of 64 bits are all gathered. -/
theorem gatherDigits_of_lt {s : Nat} {ds : List Nat}
    (h : ds.foldl (fun n d => n * 10 + d) s < Nat.pow 2 64) :
    gatherDigits s ds = (ds.foldl (fun n d => n * 10 + d) s, []) := by
  induction ds generalizing s with
  | nil => rfl
  | cons d ds ih =>
    rw [List.foldl_cons] at h ⊢
    have hle := le_foldl_digits (s * 10 + d) ds
    rw [gatherDigits, if_pos (Nat.lt_of_le_of_lt hle h), ih h]

theorem readMagnitude_toDigits {n : Nat} {rest : List Char} (negative : Bool)
    (h : Ends rest) :
    readMagnitude negative (Nat.toDigits 10 n ++ rest) =
      some (Numeral.value ⟨negative, (Nat.toDigits 10 n).map digitValue, none, none⟩, rest) := by
  have hfraction : readFraction rest = some (none, rest) := by
    cases rest with
    | nil => rfl
    | cons c rest => simp [readFraction, (h c rfl).2.1]
  have hexponent : readExponent rest = some (none, rest) := by
    cases rest with
    | nil => rfl
    | cons c rest => simp [readExponent, (h c rfl).2.2]
  simp [readMagnitude, readWhole_toDigits n h, hfraction, hexponent]

theorem value_toDigits {n : Nat} (hn : n < Nat.pow 2 64) :
    Numeral.value ⟨false, (Nat.toDigits 10 n).map digitValue, none, none⟩ = .int n := by
  have hvalue := natOfDigits_toDigits n
  rw [natOfDigits] at hvalue
  have hgather := gatherDigits_of_lt (hvalue.symm ▸ hn)
  rw [hvalue] at hgather
  simp [Numeral.value, hgather]

theorem value_toDigits_neg {n : Nat} (hn : n < Nat.pow 2 63) :
    Numeral.value ⟨true, (Nat.toDigits 10 (n + 1)).map digitValue, none, none⟩ =
      .int (Int.negSucc n) := by
  have hvalue := natOfDigits_toDigits (n + 1)
  rw [natOfDigits] at hvalue
  have hlt : n + 1 < Nat.pow 2 64 := Nat.lt_of_le_of_lt hn (by decide)
  have hgather := gatherDigits_of_lt (hvalue.symm ▸ hlt)
  rw [hvalue] at hgather
  have hrange : ¬(n + 1 = 0 ∨ Nat.pow 2 63 < n + 1) := by omega
  simp only [Numeral.value, hgather, Bool.not_true, Bool.false_eq_true, if_false, if_neg hrange]
  rfl

/-! Values. -/

/-- Whether a character starts a value that is neither an array nor an object. -/
def Opens (c : Char) : Prop := isBlank c = false ∧ c ∉ ['[', ']', '\x7b', '\x7d']

theorem opens_of_isDigit {c : Char} (h : c.isDigit = true) : Opens c := by
  constructor
  · simp only [isBlank, Bool.or_eq_false_iff, decide_eq_false_iff_not]
    refine ⟨⟨⟨?_, ?_⟩, ?_⟩, ?_⟩ <;> rintro rfl <;> exact absurd h (by decide)
  · intro hmem
    simp only [List.mem_cons, List.not_mem_nil, or_false] at hmem
    rcases hmem with rfl | rfl | rfl | rfl <;> exact absurd h (by decide)

theorem skipBlanks_cons {c : Char} (h : isBlank c = false) (cs : List Char) :
    skipBlanks (c :: cs) = c :: cs := by
  rw [skipBlanks, List.dropWhile_cons_of_neg (by simp [h])]

theorem readLeaf_of_isDigit {c : Char} (h : c.isDigit = true) (cs : List Char) :
    readLeaf (c :: cs) = readMagnitude false (c :: cs) := by
  have hne : ∀ d : Char, d.isDigit = false → c ≠ d := by
    rintro d hd rfl
    rw [h] at hd
    cases hd
  unfold readLeaf
  split
  case h_6 => rfl
  all_goals
    rename_i heq
    exact absurd (List.cons.inj heq).1 (hne _ (by decide))

theorem readLeaf_int {n : Int} {rest : List Char} (hn : (int n).isExact = true) (h : Ends rest) :
    ∃ c cs, leafText (int n) ++ rest = c :: cs ∧ Opens c ∧ readLeaf (c :: cs) = some (int n, rest) := by
  simp only [isExact, Bool.and_eq_true, decide_eq_true_eq] at hn
  cases n with
  | ofNat n =>
    obtain ⟨c, cs, hcs, -⟩ := exists_toDigits n
    have htext : leafText (int (Int.ofNat n)) = c :: cs := by
      rw [← hcs]
      exact String.toList_ofList
    have hdigit : c.isDigit = true :=
      Nat.isDigit_of_mem_toDigits (b := 10) (n := n) (by decide) (by decide) (by simp [hcs])
    have hread := readMagnitude_toDigits (n := n) false h
    rw [value_toDigits (Int.ofNat_lt.mp hn.2), hcs] at hread
    refine ⟨c, cs ++ rest, by rw [htext, List.cons_append], opens_of_isDigit hdigit, ?_⟩
    rw [readLeaf_of_isDigit hdigit]
    exact hread
  | negSucc n =>
    have htext : leafText (int (Int.negSucc n)) = '-' :: Nat.toDigits 10 (n + 1) := by
      change ("-" ++ String.ofList (Nat.toDigits 10 (n + 1))).toList = _
      simp
    have hlt : n < Nat.pow 2 63 := by
      have hbound : Int.pow 2 63 = (Nat.pow 2 63 : Nat) := rfl
      omega
    have hread := readMagnitude_toDigits (n := n + 1) true h
    rw [value_toDigits_neg hlt] at hread
    exact ⟨'-', _, by rw [htext, List.cons_append], ⟨by decide, by decide⟩, hread⟩

/-- A value that is neither an array nor an object is read back. -/
theorem readLeaf_leafText {j : Json} {rest : List Char} (harr : ∀ items, j ≠ arr items)
    (hobj : ∀ fields, j ≠ obj fields) (hj : j.isExact = true) (h : Ends rest) :
    ∃ c cs, leafText j ++ rest = c :: cs ∧ Opens c ∧ readLeaf (c :: cs) = some (j, rest) := by
  cases j with
  | null => exact ⟨'n', _, rfl, ⟨by decide, by decide⟩, rfl⟩
  | bool value =>
    cases value with
    | true => exact ⟨'t', _, rfl, ⟨by decide, by decide⟩, rfl⟩
    | false => exact ⟨'f', _, rfl, ⟨by decide, by decide⟩, rfl⟩
  | int n => exact readLeaf_int hj h
  | float x => cases hj
  | str s =>
    obtain ⟨cs, hcs, hread⟩ := readString_quoted s rest
    exact ⟨'"', cs, hcs, ⟨by decide, by decide⟩, by simp [readLeaf, hread]⟩
  | arr items => exact absurd rfl (harr items)
  | obj fields => exact absurd rfl (hobj fields)
  | unreadable => cases hj

theorem readValue_of_opens {c : Char} (h : Opens c) (fuel : Nat) (cs : List Char) :
    readValue (fuel + 1) (c :: cs) = readLeaf (c :: cs) := by
  rw [readValue, skipBlanks_cons h.1]
  split
  · rename_i heq
    exact absurd ((List.cons.inj heq).1 ▸ h.2) (by decide)
  · rename_i heq
    exact absurd ((List.cons.inj heq).1 ▸ h.2) (by decide)
  · rfl

/-- Whether the text of a value is read as that value, with fuel for its characters and whatever comes
after it. -/
def ReadBack (j : Json) : Prop :=
  ∀ fuel rest, (compactChars j).length < fuel → Ends rest →
    readValue fuel (compactChars j ++ rest) = some (j, rest)

theorem readItems_compact {j : Json} {js : List Json} {fuel : Nat} (rest : List Char)
    (h : ∀ i ∈ j :: js, i.ReadBack) (hfuel : (compactChars j ++ compactItems js).length < fuel) :
    readItems fuel (compactChars j ++ (compactItems js ++ rest)) = some (j :: js, rest) := by
  induction js generalizing j fuel with
  | nil =>
    obtain ⟨fuel, rfl⟩ := Nat.exists_eq_add_one_of_ne_zero (Nat.ne_zero_of_lt hfuel)
    have hread := h j (by simp) fuel (']' :: rest)
      (by simp only [compactItems, List.length_append, List.length_singleton] at hfuel; omega)
      (ends_cons (by simp))
    simp [readItems, compactItems, hread, skipBlanks_cons (c := ']') rfl]
  | cons k js ih =>
    obtain ⟨fuel, rfl⟩ := Nat.exists_eq_add_one_of_ne_zero (Nat.ne_zero_of_lt hfuel)
    simp only [compactItems, List.length_append, List.length_cons] at hfuel
    have hread := h j (by simp) fuel (',' :: (compactChars k ++ (compactItems js ++ rest)))
      (by omega) (ends_cons (by simp))
    have hrest := ih (fun i hi => h i (List.mem_cons_of_mem j hi))
      (show _ < fuel by rw [List.length_append]; omega)
    simp [readItems, compactItems, hread, skipBlanks_cons (c := ',') rfl, hrest]

theorem readEntries_compact {k : String} {j : Json} {fields : List (String × Json)} {fuel : Nat}
    (rest : List Char) (h : ∀ e ∈ (k, j) :: fields, e.2.ReadBack)
    (hfuel : (quoted k ++ ':' :: compactChars j ++ compactFields fields).length < fuel) :
    readEntries fuel (quoted k ++ ':' :: (compactChars j ++ (compactFields fields ++ rest))) =
      some (((k, j) :: fields).map (fun e => (some e.1, e.2)), rest) := by
  induction fields generalizing k j fuel with
  | nil =>
    obtain ⟨fuel, rfl⟩ := Nat.exists_eq_add_one_of_ne_zero (Nat.ne_zero_of_lt hfuel)
    obtain ⟨cs, hcs, hkey⟩ := readString_quoted k (':' :: (compactChars j ++ ('\x7d' :: rest)))
    have hread := h (k, j) (by simp) fuel ('\x7d' :: rest)
      (by simp only [compactFields, List.length_append, List.length_cons] at hfuel ⊢; omega)
      (ends_cons (by simp))
    simp only [compactFields, List.singleton_append]
    rw [hcs]
    simp [readEntries, hkey, hread, skipBlanks_cons (c := '"') rfl, skipBlanks_cons (c := ':') rfl,
      skipBlanks_cons (c := '\x7d') rfl]
  | cons e fields ih =>
    obtain ⟨l, i⟩ := e
    obtain ⟨fuel, rfl⟩ := Nat.exists_eq_add_one_of_ne_zero (Nat.ne_zero_of_lt hfuel)
    simp only [compactFields, List.length_append, List.length_cons] at hfuel
    let after := quoted l ++ ':' :: (compactChars i ++ (compactFields fields ++ rest))
    obtain ⟨cs, hcs, hkey⟩ := readString_quoted k (':' :: (compactChars j ++ (',' :: after)))
    have hread := h (k, j) (by simp) fuel (',' :: after) (by dsimp only; omega) (ends_cons (by simp))
    have hrest : readEntries fuel after = _ :=
      ih (fun e he => h e (List.mem_cons_of_mem _ he))
        (by simp only [List.length_append, List.length_cons]; omega)
    have htext : quoted k ++ ':' :: (compactChars j ++ (compactFields ((l, i) :: fields) ++ rest)) =
        quoted k ++ ':' :: (compactChars j ++ (',' :: after)) := by
      simp [compactFields, after]
    rw [htext, hcs]
    simp [readEntries, hkey, hread, skipBlanks_cons (c := '"') rfl, skipBlanks_cons (c := ':') rfl,
      skipBlanks_cons (c := ',') rfl, hrest]

theorem ofEntries_map (fields : List (String × Json)) :
    ofEntries (fields.map (fun e => (some e.1, e.2))) = .obj fields := by
  have hall : (fields.map (fun e => (some e.1, e.2))).mapM
      (fun e : Option String × Json => e.1.map (·, e.2)) = some fields := by
    induction fields with
    | nil => rfl
    | cons e fields ih => simp_all
  simp only [ofEntries, hall]

theorem compactChars_leaf {j : Json} (harr : ∀ items, j ≠ arr items)
    (hobj : ∀ fields, j ≠ obj fields) : compactChars j = leafText j := by
  cases j with
  | arr items => exact absurd rfl (harr items)
  | obj fields => exact absurd rfl (hobj fields)
  | _ => rfl

/-- A value does not start with what ends an array. -/
theorem skipBlanks_compactChars {j : Json} (h : j.Exact) (rest : List Char) :
    ∃ c cs, compactChars j ++ rest = c :: cs ∧ isBlank c = false ∧ c ≠ ']' := by
  cases j using inductOn with
  | arr items =>
    cases items with
    | nil => exact ⟨'[', _, rfl, rfl, by decide⟩
    | cons i items => exact ⟨'[', _, rfl, rfl, by decide⟩
  | obj fields =>
    cases fields with
    | nil => exact ⟨'\x7b', _, rfl, rfl, by decide⟩
    | cons e fields => exact ⟨'\x7b', _, rfl, rfl, by decide⟩
  | leaf j harr hobj =>
    obtain ⟨c, cs, hcs, hopens, -⟩ := readLeaf_leafText harr hobj h.isExact ends_nil
    rw [List.append_nil] at hcs
    refine ⟨c, cs ++ rest, by rw [compactChars_leaf harr hobj, hcs, List.cons_append], hopens.1, ?_⟩
    rintro rfl
    exact absurd hopens.2 (by decide)

theorem readBack_arr {items : List Json} (hx : ∀ i ∈ items, i.Exact) (h : ∀ i ∈ items, i.ReadBack) :
    (arr items).ReadBack := by
  intro fuel rest hfuel hrest
  obtain ⟨fuel, rfl⟩ := Nat.exists_eq_add_one_of_ne_zero (Nat.ne_zero_of_lt hfuel)
  cases items with
  | nil =>
    simp [compactChars, leafText, readValue, skipBlanks_cons (c := '[') rfl,
      skipBlanks_cons (c := ']') rfl]
  | cons j js =>
    simp only [compactChars, List.length_cons, List.length_append] at hfuel
    have hitems := readItems_compact rest h
      (show _ < fuel by rw [List.length_append]; omega)
    obtain ⟨c, cs, hcs, hblank, hne⟩ :=
      skipBlanks_compactChars (hx j (by simp)) (compactItems js ++ rest)
    have htext : compactChars (arr (j :: js)) ++ rest = '[' :: c :: cs := by
      simp [compactChars, ← hcs]
    rw [hcs] at hitems
    rw [htext]
    simp [readValue, skipBlanks_cons (c := '[') rfl, skipBlanks_cons hblank, hitems, hne]

theorem readBack_obj {fields : List (String × Json)} (h : ∀ e ∈ fields, e.2.ReadBack) :
    (obj fields).ReadBack := by
  intro fuel rest hfuel hrest
  obtain ⟨fuel, rfl⟩ := Nat.exists_eq_add_one_of_ne_zero (Nat.ne_zero_of_lt hfuel)
  cases fields with
  | nil =>
    simp [compactChars, leafText, readValue, skipBlanks_cons (c := '\x7b') rfl,
      skipBlanks_cons (c := '\x7d') rfl]
  | cons e fields =>
    obtain ⟨k, j⟩ := e
    simp only [compactChars, List.length_cons, List.length_append] at hfuel
    have hentries := readEntries_compact rest h
      (show _ < fuel by simp only [List.length_append, List.length_cons]; omega)
    obtain ⟨cs, hcs, -⟩ := readString_quoted k
      (':' :: (compactChars j ++ (compactFields fields ++ rest)))
    have htext : compactChars (obj ((k, j) :: fields)) ++ rest = '\x7b' :: '"' :: cs := by
      simp [compactChars, ← hcs]
    have hobject := ofEntries_map ((k, j) :: fields)
    rw [hcs, List.map_cons] at hentries
    rw [List.map_cons] at hobject
    rw [htext]
    simp [readValue, skipBlanks_cons (c := '\x7b') rfl, skipBlanks_cons (c := '"') rfl, hentries,
      hobject]

/-- Exact values are read back from their text. -/
theorem readBack_of_exact (j : Json) (h : j.Exact) : j.ReadBack := by
  induction j using inductOn with
  | leaf j harr hobj =>
    intro fuel rest hfuel hrest
    obtain ⟨fuel, rfl⟩ := Nat.exists_eq_add_one_of_ne_zero (Nat.ne_zero_of_lt hfuel)
    obtain ⟨c, cs, hcs, hopens, hread⟩ := readLeaf_leafText harr hobj h.isExact hrest
    rw [compactChars_leaf harr hobj, hcs, readValue_of_opens hopens, hread]
  | arr items ih =>
    rw [exact_arr] at h
    exact readBack_arr h (fun i hi => ih i hi (h i hi))
  | obj fields ih =>
    rw [exact_obj] at h
    exact readBack_obj (fun e he => ih e he (h e he))

theorem parse?_compact {j : Json} (h : j.Exact) : parse? (compact j) = some j := by
  have hread := readBack_of_exact j h ((compactChars j).length + 1) [] (by omega) ends_nil
  rw [List.append_nil] at hread
  have htext : (compact j).toList = compactChars j := String.toList_ofList
  rw [parse?, htext, hread]
  rfl

end SchemaGraph.Json
