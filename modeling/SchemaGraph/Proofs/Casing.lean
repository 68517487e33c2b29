import Mathlib.Data.List.Basic
import Mathlib.Data.List.TakeWhile
import Mathlib.Tactic.MkIffOfInductiveProp
import SchemaGraph.Text.Words

/-! Spellings of plain words. Each of them shows where the words start, so that any of them can be turned
into any other. -/
namespace SchemaGraph.Text

/-- Whether a text is a plain word: two or more small letters, and then digits. -/
def IsWord (w : List Char) : Prop :=
  2 ≤ (w.takeWhile Char.isLower).length ∧ (w.dropWhile Char.isLower).all Char.isDigit = true

instance (w : List Char) : Decidable (IsWord w) := inferInstanceAs (Decidable (_ ∧ _))

/-- A word with a capital at its start. -/
def titled : List Char → List Char
  | [] => []
  | c :: cs => c.toUpper :: cs

namespace CaseRule

/-- Whether a spelling shows where words start. -/
def marksWords : CaseRule → Bool
  | lower | upper => false
  | _ => true

/-- Words in the spelling of a rule. -/
def spelling : CaseRule → List (List Char) → List Char
  | camel, [] => []
  | camel, w :: ws => w ++ ws.flatMap titled
  | pascal, ws => ws.flatMap titled
  | snake, ws => ['_'].intercalate ws
  | kebab, ws => ['-'].intercalate ws
  | screamingSnake, ws => ['_'].intercalate (ws.map (·.map Char.toUpper))
  | screamingKebab, ws => ['-'].intercalate (ws.map (·.map Char.toUpper))
  | lower, ws => ws.flatten
  | upper, ws => ws.flatten.map Char.toUpper

/-- The name of words in the spelling of a rule. -/
def spelled (r : CaseRule) (ws : List (List Char)) : String := String.ofList (r.spelling ws)

/-- The name of a rule. -/
def name : CaseRule → String
  | camel => "camelCase"
  | pascal => "PascalCase"
  | snake => "snake_case"
  | kebab => "kebab-case"
  | screamingSnake => "SCREAMING_SNAKE_CASE"
  | screamingKebab => "SCREAMING-KEBAB-CASE"
  | lower => "lowercase"
  | upper => "UPPERCASE"

theorem named?_name (r : CaseRule) : named? r.name = some r := by
  cases r <;> rfl

end CaseRule

variable {c prev sep : Char} {w cs current rest name : List Char} {ws ws' : List (List Char)}
  {r r₀ r₁ : CaseRule}

/-! Letters and digits. -/

/-- Whether a character goes on with the word before it, and stays as it is in lower case. -/
@[mk_iff]
structure Inner (c : Char) : Prop where
  notSeparator : isSeparator c = false
  notUpper : isUpper c = false
  toLower : toLower c = [c]
  toUpper : toUpper c = [c.toUpper]
  small : (isLower c || c.isDigit) = true

/-- Whether a character has a capital, with which a word can start. -/
@[mk_iff]
structure Capital (c : Char) : Prop where
  notSeparator : isSeparator c.toUpper = false
  upper : isUpper c.toUpper = true
  notSmall : (isLower c.toUpper || c.toUpper.isDigit) = false
  toLower : toLower c.toUpper = [c]

instance (c : Char) : Decidable (Inner c) := decidable_of_iff _ (inner_iff c).symm

instance (c : Char) : Decidable (Capital c) := decidable_of_iff _ (capital_iff c).symm

theorem ascii_forall {P : Char → Prop} (h : ∀ n < 128, P (Char.ofNat n)) (hc : c.toNat < 128) :
    P c := by
  rw [← Char.ofNat_toNat c]
  exact h c.toNat hc

theorem toNat_le_of_between {low high : Char}
    (h : (decide (c.val ≥ low.val) && decide (c.val ≤ high.val)) = true) : c.toNat ≤ high.toNat :=
  of_decide_eq_true (Bool.and_eq_true_iff.mp h).2

theorem toNat_lt_of_isLower (h : c.isLower = true) : c.toNat < 128 := by
  have hle : c.toNat ≤ 'z'.toNat := toNat_le_of_between h
  exact hle.trans_lt (by decide)

theorem toNat_lt_of_isDigit (h : c.isDigit = true) : c.toNat < 128 := by
  have hle : c.toNat ≤ '9'.toNat := toNat_le_of_between h
  exact hle.trans_lt (by decide)

theorem inner_of_isLower (h : c.isLower = true) : Inner c :=
  ascii_forall (P := fun c => c.isLower = true → Inner c) (by decide +kernel)
    (toNat_lt_of_isLower h) h

theorem inner_of_isDigit (h : c.isDigit = true) : Inner c :=
  ascii_forall (P := fun c => c.isDigit = true → Inner c) (by decide +kernel)
    (toNat_lt_of_isDigit h) h

theorem capital_of_isLower (h : c.isLower = true) : Capital c :=
  ascii_forall (P := fun c => c.isLower = true → Capital c) (by decide +kernel)
    (toNat_lt_of_isLower h) h

theorem toUpper_of_isDigit (h : c.isDigit = true) : c.toUpper = c ∧ isLower c = false :=
  ascii_forall (P := fun c => c.isDigit = true → c.toUpper = c ∧ isLower c = false)
    (by decide +kernel) (toNat_lt_of_isDigit h) h

theorem not_small_of_isSeparator (h : isSeparator c = true) :
    isLower c = false ∧ c.isDigit = false := by
  rw [isSeparator, Bool.or_eq_true, decide_eq_true_eq, decide_eq_true_eq] at h
  rcases h with rfl | rfl <;> decide

/-! Words. -/

theorem IsWord.exists_parts (hw : IsWord w) :
    ∃ letters digits, w = letters ++ digits ∧ 2 ≤ letters.length ∧
      (∀ c ∈ letters, c.isLower = true) ∧ ∀ c ∈ digits, c.isDigit = true :=
  ⟨_, _, List.takeWhile_append_dropWhile.symm, hw.1,
    fun _ hc => List.mem_takeWhile_imp hc, List.all_eq_true.mp hw.2⟩

theorem IsWord.inner (hw : IsWord w) : ∀ c ∈ w, Inner c := by
  obtain ⟨letters, digits, rfl, -, hletters, hdigits⟩ := hw.exists_parts
  intro c hc
  rcases List.mem_append.mp hc with hc | hc
  · exact inner_of_isLower (hletters c hc)
  · exact inner_of_isDigit (hdigits c hc)

/-- A word starts with a letter, and does not end there. -/
theorem IsWord.exists_cons (hw : IsWord w) :
    ∃ c d cs, w = c :: d :: cs ∧ c.isLower = true ∧ ∀ e ∈ d :: cs, Inner e := by
  have hinner := hw.inner
  obtain ⟨letters, digits, rfl, hlength, hletters, -⟩ := hw.exists_parts
  match letters, hlength with
  | c :: d :: cs, _ =>
    exact ⟨c, d, cs ++ digits, rfl, hletters c (List.mem_cons_self ..),
      fun e he => hinner e (List.mem_cons_of_mem _ he)⟩

theorem IsWord.ne_nil (hw : IsWord w) : w ≠ [] := by
  obtain ⟨c, d, cs, rfl, -⟩ := hw.exists_cons
  exact List.cons_ne_nil _ _

/-! Reading. -/

/-- Characters that go on with a word do so up to what follows. -/
theorem wordsFrom_inner (hcs : ∀ c ∈ cs, Inner c) (current : List Char) (prev : Char)
    (rest : List Char) :
    wordsFrom current prev (cs ++ rest) = wordsFrom (current ++ cs) (cs.getLast?.getD prev) rest := by
  induction cs generalizing current prev with
  | nil => rw [List.nil_append, List.append_nil, List.getLast?_nil, Option.getD_none]
  | cons c cs ih =>
    rw [List.forall_mem_cons] at hcs
    have hstart : ∀ next, startsWord prev c next = false := by
      intro next
      rw [startsWord, hcs.1.notUpper, Bool.false_and]
    rw [List.cons_append, wordsFrom, if_neg (by simp [hcs.1.notSeparator]),
      if_neg (by simp [hstart]), hcs.1.toLower, ih hcs.2, List.append_assoc,
      List.singleton_append, List.getLast?_cons, Option.getD_some]

/-- A word with a capital is read up to its end. The capital starts it after a small letter or a digit. -/
theorem wordsFrom_titled (hw : IsWord w) (rest : List Char) :
    ∃ last, (isLower last || last.isDigit) = true ∧
      (∀ prev, wordsFrom [] prev (titled w ++ rest) = wordsFrom w last rest) ∧
      ∀ current prev, current ≠ [] → (isLower prev || prev.isDigit) = true →
        wordsFrom current prev (titled w ++ rest) = current :: wordsFrom w last rest := by
  obtain ⟨c, d, cs, rfl, hc, hcs⟩ := hw.exists_cons
  have hcap := capital_of_isLower hc
  have hlast : (d :: cs).getLast? = some ((d :: cs).getLast?.getD c.toUpper) := by
    rw [List.getLast?_cons, Option.getD_some]
  refine ⟨_, (hcs _ (List.mem_of_getLast? hlast)).small, ?_, ?_⟩
  · intro prev
    rw [titled, List.cons_append, wordsFrom, if_neg (by simp [hcap.notSeparator]),
      if_neg (by simp), hcap.toLower, wordsFrom_inner hcs, List.nil_append, List.singleton_append]
  · intro current prev hcurrent hprev
    have hstart : ∀ next, startsWord prev c.toUpper next = true := by
      intro next
      rw [startsWord, hcap.upper, hprev, Bool.true_or, Bool.and_true]
    rw [titled, List.cons_append, wordsFrom, if_neg (by simp [hcap.notSeparator]),
      if_pos (by simp [hcurrent, hstart]), hcap.toLower, wordsFrom_inner hcs,
      List.singleton_append]

theorem wordsFrom_flatMap_titled (hws : ∀ w ∈ ws, IsWord w) (hcurrent : current ≠ [])
    (hprev : (isLower prev || prev.isDigit) = true) :
    wordsFrom current prev (ws.flatMap titled) = current :: ws := by
  induction ws generalizing current prev with
  | nil => rw [List.flatMap_nil, wordsFrom, if_neg (by simpa using hcurrent)]
  | cons w ws ih =>
    rw [List.forall_mem_cons] at hws
    obtain ⟨last, hlast, -, hword⟩ := wordsFrom_titled hws.1 (ws.flatMap titled)
    rw [List.flatMap_cons, hword current prev hcurrent hprev, ih hws.2 hws.1.ne_nil hlast]

/-- Capitals go on with a word, if no small letter follows the last of them. -/
theorem wordsFrom_capitals (hcs : ∀ c ∈ cs, c.isLower = true)
    (hprev : (isLower prev || prev.isDigit) = false) (hrest : rest.head?.any isLower = false)
    (current : List Char) :
    ∃ last, wordsFrom current prev (cs.map Char.toUpper ++ rest) =
      wordsFrom (current ++ cs) last rest := by
  induction cs generalizing current prev with
  | nil => exact ⟨prev, by rw [List.map_nil, List.nil_append, List.append_nil]⟩
  | cons c cs ih =>
    rw [List.forall_mem_cons] at hcs
    have hcap := capital_of_isLower hcs.1
    have hnext : (cs.map Char.toUpper ++ rest).head?.any isLower = false := by
      cases cs with
      | nil => exact hrest
      | cons d ds =>
        have hnotSmall := (capital_of_isLower (hcs.2 d (List.mem_cons_self ..))).notSmall
        exact (Bool.or_eq_false_iff.mp hnotSmall).1
    obtain ⟨last, hlast⟩ := ih hcs.2 hcap.notSmall (current ++ [c])
    refine ⟨last, ?_⟩
    have hstart : startsWord prev c.toUpper (cs.map Char.toUpper ++ rest).head? = false := by
      rw [startsWord, hprev, hnext, Bool.and_false, Bool.or_false, Bool.and_false]
    rw [List.map_cons, List.cons_append, wordsFrom, if_neg (by simp [hcap.notSeparator]), hstart,
      if_neg (by simp), hcap.toLower, hlast, List.append_assoc, List.singleton_append]

/-- Whether a text between separators is read as a word. -/
def ReadsAs (text w : List Char) : Prop :=
  ∀ prev rest, (isLower prev || prev.isDigit) = false → rest.head?.any isLower = false →
    ∃ last, wordsFrom [] prev (text ++ rest) = wordsFrom w last rest

theorem IsWord.readsAs (hw : IsWord w) : ReadsAs w w :=
  fun prev rest _ _ => ⟨_, wordsFrom_inner hw.inner [] prev rest⟩

theorem IsWord.readsAs_map_toUpper (hw : IsWord w) : ReadsAs (w.map Char.toUpper) w := by
  intro prev rest hprev hrest
  obtain ⟨letters, digits, rfl, -, hletters, hdigits⟩ := hw.exists_parts
  have hsame : digits.map Char.toUpper = digits := by
    rw [List.map_congr_left (fun c hc => (toUpper_of_isDigit (hdigits c hc)).1), List.map_id']
  have hnext : (digits ++ rest).head?.any isLower = false := by
    cases digits with
    | nil => exact hrest
    | cons d ds => exact (toUpper_of_isDigit (hdigits d (List.mem_cons_self ..))).2
  obtain ⟨last, hlast⟩ := wordsFrom_capitals hletters hprev hnext []
  rw [List.map_append, hsame, List.append_assoc, hlast,
    wordsFrom_inner (fun c hc => inner_of_isDigit (hdigits c hc)), List.nil_append]
  exact ⟨_, rfl⟩

theorem wordsFrom_intercalate (image : List Char → List Char) (hsep : isSeparator sep = true)
    (hws : ∀ w ∈ ws, w ≠ [] ∧ ReadsAs (image w) w)
    (hprev : (isLower prev || prev.isDigit) = false) :
    wordsFrom [] prev ([sep].intercalate (ws.map image)) = ws := by
  have hsmall : (isLower sep || sep.isDigit) = false := by
    obtain ⟨hl, hd⟩ := not_small_of_isSeparator hsep
    rw [hl, hd, Bool.or_false]
  induction ws generalizing prev with
  | nil => rfl
  | cons w ws ih =>
    rw [List.forall_mem_cons] at hws
    obtain ⟨hne, hread⟩ := hws.1
    cases ws with
    | nil =>
      obtain ⟨last, hlast⟩ := hread prev [] hprev rfl
      rw [List.map_singleton, List.intercalate_singleton, ← List.append_nil (image w), hlast,
        wordsFrom, if_neg (by simpa using hne)]
    | cons v ws =>
      have hnext : (sep :: [sep].intercalate ((v :: ws).map image)).head?.any isLower = false :=
        (Bool.or_eq_false_iff.mp hsmall).1
      obtain ⟨last, hlast⟩ := hread prev _ hprev hnext
      rw [List.map_cons, List.map_cons, List.intercalate_cons_cons, List.append_assoc,
        List.singleton_append, ← List.map_cons, hlast, wordsFrom, if_pos hsep,
        if_neg (by simpa using hne), ih hws.2 hsmall]

/-- The words of a spelling that marks them. -/
theorem words_spelling (hws : ∀ w ∈ ws, IsWord w) (hr : r.marksWords = true) :
    words (r.spelling ws) = ws := by
  have hplain : ∀ {sep}, isSeparator sep = true → words ([sep].intercalate ws) = ws := by
    intro sep hsep
    have hread : words ([sep].intercalate (ws.map id)) = ws :=
      wordsFrom_intercalate id hsep (fun w hw => ⟨(hws w hw).ne_nil, (hws w hw).readsAs⟩)
        (by decide)
    rwa [List.map_id] at hread
  have hcapitals : ∀ {sep}, isSeparator sep = true →
      words ([sep].intercalate (ws.map (·.map Char.toUpper))) = ws :=
    fun hsep => wordsFrom_intercalate _ hsep
      (fun w hw => ⟨(hws w hw).ne_nil, (hws w hw).readsAs_map_toUpper⟩) (by decide)
  cases r with
  | camel =>
    cases ws with
    | nil => rfl
    | cons w ws =>
      rw [List.forall_mem_cons] at hws
      obtain ⟨c, d, cs, heq, -, hcs⟩ := hws.1.exists_cons
      have hlast : w.getLast? = some (w.getLast?.getD '_') := by
        rw [heq, List.getLast?_cons, Option.getD_some]
      rw [CaseRule.spelling, words, wordsFrom_inner hws.1.inner, List.nil_append,
        wordsFrom_flatMap_titled hws.2 hws.1.ne_nil
          (hws.1.inner _ (List.mem_of_getLast? hlast)).small]
  | pascal =>
    cases ws with
    | nil => rfl
    | cons w ws =>
      rw [List.forall_mem_cons] at hws
      obtain ⟨last, hlast, hword, -⟩ := wordsFrom_titled hws.1 (ws.flatMap titled)
      rw [CaseRule.spelling, List.flatMap_cons, words, hword,
        wordsFrom_flatMap_titled hws.2 hws.1.ne_nil hlast]
  | snake => exact hplain rfl
  | kebab => exact hplain rfl
  | screamingSnake => exact hcapitals rfl
  | screamingKebab => exact hcapitals rfl
  | lower => cases hr
  | upper => cases hr

/-! Writing. -/

theorem capitalize_eq_titled (hw : IsWord w) : capitalize w = titled w := by
  obtain ⟨c, d, cs, rfl, hc, -⟩ := hw.exists_cons
  rw [capitalize, (inner_of_isLower hc).toUpper, titled, List.singleton_append]

theorem uncapitalize_titled (hw : IsWord w) (rest : List Char) :
    uncapitalize (titled w ++ rest) = w ++ rest := by
  obtain ⟨c, d, cs, rfl, hc, -⟩ := hw.exists_cons
  rw [titled, List.cons_append, uncapitalize, (capital_of_isLower hc).toLower]
  rfl

theorem upperAll_of_inner (hcs : ∀ c ∈ cs, Inner c) : upperAll cs = cs.map Char.toUpper := by
  rw [upperAll, List.flatMap_congr (fun c hc => (hcs c hc).toUpper), ← List.map_eq_flatMap]

theorem upperAll_intercalate (hsep : toUpper sep = [sep]) (hws : ∀ w ∈ ws, IsWord w) :
    upperAll ([sep].intercalate ws) = [sep].intercalate (ws.map (·.map Char.toUpper)) := by
  induction ws with
  | nil => rfl
  | cons w ws ih =>
    rw [List.forall_mem_cons] at hws
    have hword := upperAll_of_inner hws.1.inner
    cases ws with
    | nil => rw [List.map_singleton, List.intercalate_singleton, List.intercalate_singleton, hword]
    | cons v ws =>
      have hjoin : ∀ xs ys, upperAll (xs ++ ys) = upperAll xs ++ upperAll ys :=
        fun xs ys => List.flatMap_append
      have hmark : upperAll [sep] = [sep] := by
        rw [upperAll, List.flatMap_singleton, hsep]
      rw [List.intercalate_cons_cons, hjoin, hjoin, hmark, hword, ih hws.2]
      exact List.intercalate_cons_cons.symm

/-- A name of plain words in the spelling of a rule. -/
theorem spell_eq_spelling (hname : words name = ws) (hws : ∀ w ∈ ws, IsWord w)
    (hr : r.marksWords = true) : r.spell name = r.spelling ws := by
  have hpascal : CaseRule.pascalCase ws = ws.flatMap titled :=
    List.flatMap_congr (fun w hw => capitalize_eq_titled (hws w hw))
  cases r with
  | camel =>
    rw [CaseRule.spell, hname, hpascal]
    cases ws with
    | nil => rfl
    | cons w ws =>
      rw [List.flatMap_cons, uncapitalize_titled (hws w (List.mem_cons_self ..)),
        CaseRule.spelling]
  | pascal => rw [CaseRule.spell, hname, hpascal, CaseRule.spelling]
  | snake => rw [CaseRule.spell, hname, CaseRule.spelling]
  | kebab => rw [CaseRule.spell, hname, CaseRule.spelling]
  | screamingSnake =>
    rw [CaseRule.spell, hname, upperAll_intercalate (by decide) hws, CaseRule.spelling]
  | screamingKebab =>
    rw [CaseRule.spell, hname, upperAll_intercalate (by decide) hws, CaseRule.spelling]
  | lower => cases hr
  | upper => cases hr

theorem renameField_spelled (hws : ∀ w ∈ ws, IsWord w) (hr₀ : r₀.marksWords = true)
    (hr : r.marksWords = true) : renameField (r₀.spelled ws) (some r.name) = r.spelled ws := by
  rw [renameField, Option.bind_some, CaseRule.named?_name, CaseRule.spelled, String.toList_ofList]
  exact congrArg String.ofList (spell_eq_spelling (words_spelling hws hr₀) hws hr)

theorem spelled_injective (hws : ∀ w ∈ ws, IsWord w) (hws' : ∀ w ∈ ws', IsWord w)
    (hr : r.marksWords = true) (h : r.spelled ws = r.spelled ws') : ws = ws' := by
  rw [← words_spelling hws hr, ← words_spelling hws' hr, String.ofList_injective h]

/-- Names of plain words are renamed by their words. The words of a name in one spelling that marks them,
under the rule of another, come out in the spelling of that one. So it makes no difference which spellings
a name has been through before, and two names become one exactly when they have the same words. -/
theorem renameField_recovers (hws : ∀ w ∈ ws, IsWord w) (hr₀ : r₀.marksWords = true)
    (hr : r.marksWords = true) :
    renameField (r₀.spelled ws) (some r.name) = r.spelled ws ∧
    (∀ r₁ : CaseRule, r₁.marksWords = true →
      renameField (renameField (r₀.spelled ws) (some r₁.name)) (some r.name) =
        renameField (r₀.spelled ws) (some r.name)) ∧
    ∀ (r₁ : CaseRule) (ws' : List (List Char)), r₁.marksWords = true → (∀ w ∈ ws', IsWord w) →
      (renameField (r₀.spelled ws) (some r.name) = renameField (r₁.spelled ws') (some r.name) ↔
        ws = ws') := by
  refine ⟨renameField_spelled hws hr₀ hr, ?_, ?_⟩
  · intro r₁ hr₁
    rw [renameField_spelled hws hr₀ hr₁, renameField_spelled hws hr₁ hr,
      renameField_spelled hws hr₀ hr]
  · intro r₁ ws' hr₁ hws'
    rw [renameField_spelled hws hr₀ hr, renameField_spelled hws' hr₁ hr]
    constructor
    · exact spelled_injective hws hws' hr
    · rintro rfl
      rfl

/-- A name of two words in camel case becomes capitals with hyphens, by way of snake case too, and another
name in snake case does not become the same. -/
theorem renameField_recovers_userId :
    let ws := ["user".toList, "id2".toList]
    let ws' := ["user".toList, "id".toList]
    ((∀ w ∈ ws, IsWord w) ∧ ∀ w ∈ ws', IsWord w) ∧
      renameField "userId2" (some "SCREAMING-KEBAB-CASE") = "USER-ID2" ∧
      renameField (renameField "userId2" (some "snake_case")) (some "SCREAMING-KEBAB-CASE") =
        "USER-ID2" ∧
      renameField "userId2" (some "SCREAMING-KEBAB-CASE") ≠
        renameField "user_id" (some "SCREAMING-KEBAB-CASE") := by
  intro ws ws'
  have hws : ∀ w ∈ ws, IsWord w := by decide
  have hws' : ∀ w ∈ ws', IsWord w := by decide
  obtain ⟨hspelled, hpath, hsame⟩ :=
    @renameField_recovers ws .screamingKebab .camel hws rfl rfl
  have hcollapse := (hsame .snake ws' rfl hws').not.mpr (by decide)
  exact ⟨⟨hws, hws'⟩, hspelled, (hpath .snake rfl).trans hspelled, hcollapse⟩

end SchemaGraph.Text
