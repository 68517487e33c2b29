import Mathlib.Algebra.Ring.Nat
import SchemaGraph.Number.Binary64

/-! Whole numbers of binary64, and the integers that they are equal to. -/
namespace SchemaGraph.Binary64

/-- Whether a number is in the one form that binary64 has for it. -/
def Proper : Binary64 → Prop
  | finite _ m e => m < 2 ^ 53 ∧ minExponent ≤ e ∧ e ≤ maxExponent ∧ (2 ^ 52 ≤ m ∨ e = minExponent)
  | infinite _ | nan => True

def negativeZero : Binary64 := finite true 0 minExponent

theorem toInt?_of_le {s : Bool} {m : Nat} {n : Int} (k : Nat)
    (h : (finite s m (-k)).toInt? = some n) :
    ∃ q : Nat, m = q * 2 ^ k ∧ n = if s then -(q : Int) else q := by
  have hk : (0 : Int) ≤ - -(k : Int) := by omega
  have hnat : (- -(k : Int)).toNat = k := by omega
  simp only [toInt?, quotient, shiftQuotient, if_pos hk, hnat, Nat.one_mul, Nat.pow_eq] at h
  split at h
  · rename_i hdvd
    have hm := Nat.div_mul_cancel (Nat.dvd_of_mod_eq_zero hdvd)
    exact ⟨m / 2 ^ k, hm.symm, (Option.some.inj h).symm⟩
  · cases h

theorem toInt?_of_pos {s : Bool} {m : Nat} {n : Int} (k : Nat)
    (h : (finite s m (k + 1)).toInt? = some n) : n.natAbs = m * 2 ^ (k + 1) := by
  have hk : ¬(0 : Int) ≤ -((k : Int) + 1) := by omega
  have hnat : (- -((k : Int) + 1)).toNat = k + 1 := by omega
  simp only [toInt?, quotient, shiftQuotient, if_neg hk, hnat, Nat.mod_one, Nat.div_one, if_true,
    Nat.pow_eq] at h
  obtain rfl := Option.some.inj h
  cases s with
  | true => exact (Int.natAbs_neg _).trans (Int.natAbs_natCast _)
  | false => exact Int.natAbs_natCast _

theorem floorLog2_one {q k : Nat} (hlow : 2 ^ k ≤ q) (hhigh : q < 2 ^ (k + 1)) :
    floorLog2 q 1 = k := by
  have hq : q ≠ 0 := by
    have := Nat.two_pow_pos k
    omega
  have hlog : q.log2 = k := by
    have hle := (Nat.le_log2 hq).mpr hlow
    have hlt := (Nat.log2_lt hq).mpr hhigh
    omega
  have hone : Nat.log2 1 = 0 := by decide
  simp [floorLog2, shiftQuotient, hlog, hone, hlow]

theorem divRoundEven_one (n : Nat) : divRoundEven n 1 = n := by
  simp [divRoundEven, Nat.mod_one]

/-- An integer that a mantissa of 53 bits writes in full is rounded to itself. -/
theorem ofRatio_one {q k : Nat} (s : Bool) (hk : k ≤ 52) (hlow : 2 ^ 52 ≤ q * 2 ^ k)
    (hhigh : q * 2 ^ k < 2 ^ 53) : ofRatio s q 1 = finite s (q * 2 ^ k) (-k) := by
  have hsplit : (2 : Nat) ^ 52 = 2 ^ (52 - k) * 2 ^ k := by rw [← Nat.pow_add]; congr 1; omega
  have hsplit' : (2 : Nat) ^ 53 = 2 ^ (52 - k + 1) * 2 ^ k := by rw [← Nat.pow_add]; congr 1; omega
  rw [hsplit] at hlow
  have hlog := floorLog2_one (Nat.le_of_mul_le_mul_right hlow (Nat.two_pow_pos k))
    (Nat.lt_of_mul_lt_mul_right (hsplit' ▸ hhigh))
  have hq : q ≠ 0 := by
    rintro rfl
    have := Nat.two_pow_pos k
    have := Nat.two_pow_pos (52 - k)
    have := Nat.mul_pos this ‹0 < 2 ^ k›
    omega
  have hexponent : max (floorLog2 q 1 - 52) minExponent = -(k : Int) := by
    rw [hlog, minExponent]
    omega
  have hshift : shiftQuotient q 1 (-(k : Int)) = (q * 2 ^ k, 1) := by
    rw [shiftQuotient]
    split
    · obtain rfl : k = 0 := by omega
      simp
    · simp
  have hmantissa : q * 2 ^ k ≠ Nat.pow 2 53 := Nat.ne_of_lt hhigh
  have hmax : ¬maxExponent < -(k : Int) := by
    rw [maxExponent]
    omega
  simp only [ofRatio, if_neg hq, hexponent, hshift, divRoundEven_one, normalize, if_neg hmantissa,
    if_neg hmax]

theorem ofInt_of_ne_zero {q : Nat} (s : Bool) (hq : q ≠ 0) :
    ofInt (if s then -(q : Int) else q) = ofRatio s q 1 := by
  rw [ofInt]
  cases s with
  | true =>
    have hsign : decide (-(q : Int) < 0) = true := decide_eq_true (by omega)
    have habs : (-(q : Int)).natAbs = q := by omega
    simp only [if_true, hsign, habs]
  | false =>
    have hsign : decide ((q : Int) < 0) = false := decide_eq_false (by omega)
    simp only [Bool.false_eq_true, if_false, hsign, Int.natAbs_natCast]

/-- A whole number of no more than 53 bits is the nearest one to the integer that it is equal to. -/
theorem ofInt_of_toInt? {x : Binary64} {n : Int} (hx : x.Proper) (hz : x ≠ negativeZero)
    (h : x.toInt? = some n) (hn : n.natAbs < 2 ^ 53) : ofInt n = x := by
  cases x with
  | infinite s => cases h
  | nan => cases h
  | finite s m e =>
    obtain ⟨hm, hmin, -, hnormal⟩ := hx
    by_cases he : 1 ≤ e
    · -- Twice a mantissa of full length is too large.
      obtain ⟨k, rfl⟩ : ∃ k : Nat, e = k + 1 := ⟨(e - 1).toNat, by omega⟩
      have hvalue := toInt?_of_pos k h
      have hfull : 2 ^ 52 ≤ m := hnormal.resolve_right (by rw [minExponent]; omega)
      have hpow := Nat.pow_le_pow_right (show 0 < 2 by decide) (show 1 ≤ k + 1 by omega)
      have := Nat.mul_le_mul hfull hpow
      omega
    · obtain ⟨k, rfl⟩ : ∃ k : Nat, e = -(k : Int) := ⟨(-e).toNat, by omega⟩
      obtain ⟨q, rfl, rfl⟩ := toInt?_of_le k h
      by_cases hq : q = 0
      · subst hq
        have hleast : -(k : Int) = minExponent := hnormal.resolve_left (by simp)
        cases s with
        | true =>
          refine absurd ?_ hz
          rw [Nat.zero_mul, hleast]
          rfl
        | false =>
          rw [Nat.zero_mul, hleast]
          rfl
      · -- The mantissa has 53 bits, so that no more than 52 of them are past the point.
        have hk : k < 53 := by
          have hle := Nat.mul_le_mul (Nat.pos_of_ne_zero hq) (Nat.le_refl (2 ^ k))
          rw [Nat.succ_mul, Nat.zero_mul, Nat.zero_add] at hle
          exact (Nat.pow_lt_pow_iff_right (by decide)).mp (Nat.lt_of_le_of_lt hle hm)
        have hfull : 2 ^ 52 ≤ q * 2 ^ k := hnormal.resolve_right (by rw [minExponent]; omega)
        rw [ofInt_of_ne_zero s hq]
        exact ofRatio_one s (by omega) hfull hm

end SchemaGraph.Binary64
