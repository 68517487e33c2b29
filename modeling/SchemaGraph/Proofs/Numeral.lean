import Mathlib.Data.Nat.Digits.Defs
import Mathlib.Data.Option.Basic
import SchemaGraph.Proofs.Scanning

/-! Integer literals in any base, with separators and a suffix, are read whole and as the numbers that their
digits write. -/
namespace SchemaGraph.Source

/-- The bases in which integers are written. -/
inductive Radix where
  | binary | octal | decimal | hexadecimal
deriving DecidableEq

namespace Radix

def base : Radix → Nat
  | binary => 2
  | octal => 8
  | decimal => 10
  | hexadecimal => 16

/-- What announces the base before the digits. -/
def announcement : Radix → List Char
  | binary => ['0', 'b']
  | octal => ['0', 'o']
  | decimal => []
  | hexadecimal => ['0', 'x']

/-- Whether a character is a digit of the base or a separator. -/
def isDigit (r : Radix) (c : Char) : Bool := c = '_' || (hexDigit? c).any (· < r.base)

/-- Letters after digits that announce something else than a suffix: the exponent of a float, or a base
after a single zero. -/
def reserved : Radix → List Char → List Char
  | decimal, ds => ['e', 'E'] ++ if ds = ['0'] then ['x', 'o', 'b'] else []
  | _, _ => []

end Radix

/-- An integer literal: digits of a base, with separators between them, and a suffix, which may be empty. -/
structure Numeral where
  radix : Radix
  digits : List Char
  suffix : List Char
  digits_all : digits.all radix.isDigit = true
  digits_any : digits.any (· ≠ '_') = true
  digits_head : radix = .decimal → digits.head? ≠ some '_'
  suffix_all : suffix.all isIdentContinue = true
  suffix_head : ∀ c ∈ suffix.head?,
    isIdentStart c = true ∧ radix.isDigit c = false ∧ c ∉ radix.reserved digits

namespace Numeral

def text (x : Numeral) : List Char := x.radix.announcement ++ (x.digits ++ x.suffix)

/-- The number that the digits write. -/
def value (x : Numeral) : Nat := Nat.ofDigits x.radix.base (x.digits.filterMap hexDigit?).reverse

end Numeral

/-- Whether a text is empty or closes a group. -/
def Closed (rest : List Char) : Prop := ∀ c ∈ rest.head?, c = ')'

variable {r : Radix} {rest tail ds : List Char} {x : Numeral}

theorem Closed.ends (h : Closed rest) : Ends rest := by
  intro c hc
  rw [h c hc]
  decide

/-! Digits. -/

theorem valueOf_eq_ofDigits (base : Nat) (ds : List Char) :
    valueOf base ds = Nat.ofDigits base (ds.filterMap hexDigit?).reverse := by
  rw [valueOf, List.foldl_eq_foldr_reverse, ← List.filterMap_reverse]
  induction ds.reverse with
  | nil => rfl
  | cons c cs ih =>
    rw [List.foldr_cons, ih]
    cases hc : hexDigit? c with
    | none => rw [List.filterMap_cons_none hc]
    | some d =>
      rw [List.filterMap_cons_some hc, Nat.ofDigits_cons]
      dsimp only
      rw [Nat.mul_comm, Nat.add_comm]

theorem spanBaseDigits_append (hds : ∀ c ∈ ds, r.isDigit c = true)
    (htail : ∀ c ∈ tail.head?, r.isDigit c = false ∧ c.isDigit = false) :
    spanBaseDigits r.base (ds ++ tail) = some (ds, tail) := by
  induction ds with
  | nil =>
    cases tail with
    | nil => rfl
    | cons c tail =>
      obtain ⟨hc, hdecimal⟩ := htail c rfl
      simp only [Radix.isDigit, Bool.or_eq_false_iff, decide_eq_false_iff_not] at hc
      rw [List.nil_append, spanBaseDigits, if_neg hc.1]
      cases hd : hexDigit? c with
      | none => rfl
      | some d =>
        have hlt : ¬d < r.base := by simpa [hd] using hc.2
        dsimp only
        rw [if_neg hlt, if_neg (by simp [hdecimal])]
  | cons c ds ih =>
    rw [List.forall_mem_cons] at hds
    rw [List.cons_append, spanBaseDigits, ih hds.2, Option.map_some]
    by_cases hmark : c = '_'
    · rw [if_pos hmark]
    · rw [if_neg hmark]
      have hc : (hexDigit? c).any (· < r.base) = true := by simpa [Radix.isDigit, hmark] using hds.1
      cases hd : hexDigit? c with
      | none => simp [hd] at hc
      | some d =>
        have hlt : d < r.base := by simpa [hd] using hc
        dsimp only
        rw [if_pos hlt]

/-- Whether a text does not go on a number. -/
def Stops (x : Numeral) (tail : List Char) : Prop :=
  ∀ c ∈ tail.head?, x.radix.isDigit c = false ∧ c.isDigit = false ∧ c ≠ '.' ∧
    c ∉ x.radix.reserved x.digits

theorem isDigit_eq_false_of_isIdentStart {c : Char} (h : isIdentStart c = true) : c.isDigit = false := by
  rw [Bool.eq_false_iff]
  intro hdigit
  have hlt : c.toNat < 128 := toNat_lt_of_isNamePart (by simp [isNamePart, Char.isAlphanum, hdigit])
  have hplain := Text.ascii_forall (P := fun c => isIdentStart c = true → c.isDigit = false)
    (by decide +kernel) hlt h
  rw [hdigit] at hplain
  cases hplain

theorem Closed.stops (x : Numeral) (hrest : Closed rest) : Stops x rest := by
  intro c hc
  rw [hrest c hc]
  refine ⟨?_, by decide, by decide, ?_⟩
  · cases x.radix <;> rfl
  · cases x.radix with
    | decimal =>
      rw [Radix.reserved]
      split <;> decide
    | _ => exact List.not_mem_nil

theorem Numeral.stops (x : Numeral) (hrest : Closed rest) : Stops x (x.suffix ++ rest) := by
  cases hsuffix : x.suffix with
  | nil => exact hrest.stops x
  | cons c w =>
    rintro c ⟨⟩
    obtain ⟨hstart, hdigit, hreserved⟩ := x.suffix_head c (by rw [hsuffix]; rfl)
    refine ⟨hdigit, isDigit_eq_false_of_isIdentStart hstart, ?_, hreserved⟩
    rintro rfl
    exact absurd hstart (by decide)

theorem toNat_lt_of_hexDigit? {c : Char} {d : Nat} (h : hexDigit? c = some d) : c.toNat < 128 := by
  unfold hexDigit? at h
  split at h
  case isTrue hc => exact Nat.lt_of_le_of_lt (UInt32.le_iff_toNat_le.mp hc.2) (by decide)
  case isFalse =>
    split at h
    case isTrue hc => exact Nat.lt_of_le_of_lt (UInt32.le_iff_toNat_le.mp hc.2) (by decide)
    case isFalse =>
      split at h
      case isTrue hc => exact Nat.lt_of_le_of_lt (UInt32.le_iff_toNat_le.mp hc.2) (by decide)
      case isFalse => cases h

theorem toNat_lt_of_isDigit {c : Char} (h : r.isDigit c = true) : c.toNat < 128 := by
  cases hd : hexDigit? c with
  | some d => exact toNat_lt_of_hexDigit? hd
  | none =>
    have hmark : c = '_' := by simpa [Radix.isDigit, hd] using h
    rw [hmark]
    decide

theorem isDigitOrSeparator_of_isDigit {c : Char} (h : Radix.decimal.isDigit c = true) :
    isDigitOrSeparator c = true :=
  Text.ascii_forall (P := fun c => Radix.decimal.isDigit c = true → isDigitOrSeparator c = true)
    (by decide +kernel) (toNat_lt_of_isDigit h) h

/-- A number is no float where neither a dot nor an exponent follows its digits. -/
theorem Numeral.spanFloat (x : Numeral) (htail : Stops x tail) :
    spanFloat (x.radix.announcement ++ (x.digits ++ tail)) = none := by
  have hdigits := x.digits_all
  unfold Stops at htail
  cases hr : x.radix with
  | decimal =>
    rw [hr] at hdigits htail
    have hwhole : ∀ c ∈ x.digits, isDigitOrSeparator c = true :=
      fun c hc => isDigitOrSeparator_of_isDigit (List.all_eq_true.mp hdigits c hc)
    rw [Radix.announcement, List.nil_append, Source.spanFloat, List.dropWhile_append_of_pos hwhole]
    cases tail with
    | nil => simp
    | cons c tail =>
      obtain ⟨hc, hdecimal, hdot, hreserved⟩ := htail c rfl
      have hexponent : ¬(c = 'e' ∨ c = 'E') :=
        fun h => hreserved (List.mem_append_left _ (by simpa using h))
      have hseparator : isDigitOrSeparator c ≠ true := by
        simp only [Radix.isDigit, Bool.or_eq_false_iff] at hc
        simp [isDigitOrSeparator, hdecimal, hc.1]
      rw [List.dropWhile_cons_of_neg hseparator]
      split
      · rfl
      · split
        case h_1 heq => exact absurd (List.cons.inj heq).1 hdot
        case h_2 heq =>
          rw [← (List.cons.inj heq).1, if_neg hexponent]
        case h_3 => rfl
  -- the letter that announces the base is neither a dot nor an exponent
  | _ => rfl

/-- Digits and what stops them announce no base. -/
theorem Numeral.notMem_announcement {c : Char} {cs : List Char} (x : Numeral) (htail : Stops x tail)
    (hr : x.radix = .decimal) (h : x.digits ++ tail = '0' :: c :: cs) : c ∉ ['x', 'o', 'b'] := by
  have hany := x.digits_any
  have hall := x.digits_all
  unfold Stops at htail
  rw [hr] at hall htail
  cases hds : x.digits with
  | nil => simp [hds] at hany
  | cons d ds =>
    rw [hds] at h hall htail
    obtain ⟨rfl, htl⟩ := List.cons.inj h
    cases ds with
    | nil =>
      have htail' : tail = c :: cs := htl
      subst htail'
      intro hmem
      exact (htail c rfl).2.2.2 (List.mem_append_right _ hmem)
    | cons d' ds =>
      obtain ⟨rfl, -⟩ := List.cons.inj htl
      have hd : Radix.decimal.isDigit d' = true := List.all_eq_true.mp hall d' (by simp)
      simp only [List.mem_cons, List.not_mem_nil, or_false]
      rintro (rfl | rfl | rfl) <;> cases hd

theorem Numeral.spanBase (x : Numeral) (htail : Stops x tail) :
    spanBase (x.radix.announcement ++ (x.digits ++ tail)) = (x.radix.base, x.digits ++ tail) := by
  cases hr : x.radix with
  | decimal =>
    rw [Radix.announcement, List.nil_append, Source.spanBase.eq_def]
    split
    case h_4 => rfl
    case h_1 heq => exact absurd (by decide) (x.notMem_announcement htail hr heq)
    case h_2 heq => exact absurd (by decide) (x.notMem_announcement htail hr heq)
    case h_3 heq => exact absurd (by decide) (x.notMem_announcement htail hr heq)
  | _ => rfl

theorem Numeral.spanInt (x : Numeral) (htail : Stops x tail) :
    spanInt (x.radix.announcement ++ (x.digits ++ tail)) = some (x.value, tail) := by
  have hdigits := spanBaseDigits_append (List.all_eq_true.mp x.digits_all)
    (fun c hc => ⟨(htail c hc).1, (htail c hc).2.1⟩)
  have hguard : x.radix.base ≠ 10 ∨ (x.digits ++ tail).head? ≠ some '_' := by
    have hhead := x.digits_head
    have hany := x.digits_any
    cases hr : x.radix with
    | decimal =>
      right
      cases hds : x.digits with
      | nil => simp [hds] at hany
      | cons c ds => simpa [hds] using hhead hr
    | _ => exact .inl (by decide)
  rw [Source.spanInt, x.spanBase htail]
  dsimp only
  rw [(Option.guard_eq_some' ()).mpr hguard, hdigits]
  dsimp only [bind, Option.bind_some]
  rw [(Option.guard_eq_some' ()).mpr x.digits_any, Option.bind_some, valueOf_eq_ofDigits]
  rfl

theorem Numeral.spanSuffix (x : Numeral) (hrest : Closed rest) :
    spanSuffix (x.suffix ++ rest) = (x.suffix, rest) := by
  have hparts := List.all_eq_true.mp x.suffix_all
  cases hsuffix : x.suffix with
  | nil =>
    rw [List.nil_append]
    cases rest with
    | nil => rfl
    | cons c rest =>
      rw [hrest c rfl]
      rfl
  | cons c w =>
    have hstart := (x.suffix_head c (by rw [hsuffix]; rfl)).1
    rw [hsuffix, List.forall_mem_cons] at hparts
    rw [List.cons_append, Source.spanSuffix, spanIdent, if_pos hstart, hrest.ends.takeWhile hparts.2,
      hrest.ends.dropWhile hparts.2]
    rfl

/-- A literal is read up to its end, as the number that its digits write. -/
theorem Numeral.readNumber_text (x : Numeral) (hrest : Closed rest) :
    readNumber (x.text ++ rest) = some (.int x.value (String.ofList x.suffix), rest) := by
  have hend : rest.head?.any isIdentContinue = false := by
    cases rest with
    | nil => rfl
    | cons c rest => exact (hrest.ends c rfl).1
  rw [text, List.append_assoc, List.append_assoc]
  rw [readNumber, x.spanFloat (x.stops hrest)]
  dsimp only
  rw [x.spanInt (x.stops hrest)]
  dsimp only [bind, Option.bind_some]
  rw [x.spanSuffix hrest]
  dsimp only
  rw [hend]
  rfl

/-! The token of a literal. -/

/-- Whether a character starts nothing but numbers. -/
@[mk_iff]
structure Figure (c : Char) : Prop where
  ascii : c.toNat < 128
  notBlank : isBlank c = false
  notSlash : c ≠ '/'
  notDelimiter : delimiter? c = none
  notPunctuation : punctuation.contains c = false
  notMark : c ∉ ['"', 'r', 'b', 'c', '\'']

instance (c : Char) : Decidable (Figure c) := decidable_of_iff _ (figure_iff c).symm

theorem figure_of_isDigit {c : Char} (h : c.isDigit = true) : Figure c :=
  Text.ascii_forall (P := fun c => c.isDigit = true → Figure c) (by decide +kernel)
    (toNat_lt_of_isNamePart (by simp [isNamePart, Char.isAlphanum, h])) h

theorem Figure.readLiteral {c : Char} {cs : List Char} {fuel : Nat} (hc : Figure c) :
    readLiteral fuel (c :: cs) = readNumber (c :: cs) := by
  have hmark := hc.notMark
  unfold Source.readLiteral
  dsimp only
  split
  case h_1 heq | h_2 heq | h_3 heq | h_4 heq | h_5 heq | h_6 heq | h_7 heq | h_8 heq =>
    cases heq
    exact absurd (by decide) hmark
  case h_9 => rfl

theorem Numeral.exists_figure (x : Numeral) : ∃ c w, x.text = c :: w ∧ Figure c := by
  have hany := x.digits_any
  have hall := x.digits_all
  have hhead := x.digits_head
  have hfigure : ∀ c, Radix.decimal.isDigit c = true → c ≠ '_' → c.isDigit = true := by
    intro c hc hmark
    simpa [isDigitOrSeparator, hmark] using isDigitOrSeparator_of_isDigit hc
  unfold text
  cases hr : x.radix with
  | decimal =>
    cases hds : x.digits with
    | nil => simp [hds] at hany
    | cons c ds =>
      rw [hr, hds] at hall
      rw [hds] at hhead
      refine ⟨c, ds ++ x.suffix, rfl, figure_of_isDigit (hfigure c ?_ ?_)⟩
      · exact List.all_eq_true.mp hall c (List.mem_cons_self ..)
      · simpa using hhead hr
  | _ => exact ⟨'0', _, rfl, by decide⟩

theorem Scans.numeral {ts : List FlatToken} (h : Scans rest ts) (x : Numeral) (hrest : Closed rest) :
    Scans (x.text ++ rest) (.leaf (.literal (.int x.value (String.ofList x.suffix))) :: ts) := by
  have hread := x.readNumber_text hrest
  obtain ⟨c, w, htext, hc⟩ := x.exists_figure
  rw [htext, List.cons_append] at hread ⊢
  refine h.leaf hc.notBlank hc.notSlash hc.notDelimiter ?_ (fun fuel => ?_)
  · simp
  · rw [readLeaf, hc.readLiteral, hread]

end SchemaGraph.Source
