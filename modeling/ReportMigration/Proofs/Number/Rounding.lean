import Mathlib.Algebra.Order.Field.Power
import Mathlib.Data.Rat.Cast.Order
import Mathlib.Tactic.FieldSimp
import Mathlib.Tactic.Linarith
import Mathlib.Tactic.NormNum
import Mathlib.Tactic.Positivity
import Mathlib.Tactic.Ring
import ReportMigration.Number.Double
/-!
Rounding to double precision.

* `Double.eq_signed`: a number is its sign with the bits of its significand and scale;
* `Double.Near m s q`: the fraction `q` is rounded to the whole number `m * 2 ^ s`, both in units of
  the least number above zero;
* `Double.ofDecimal_of_near`: a decimal fraction is read as the number it is near to;
* `Double.isNaN_ofDecimal` and `Double.eq_nan_of_isNaN_ofFloat`: what is read is a number, and what is
  added up is one or the one value that is none.
-/
namespace ReportMigration.Double

/-! ## Numbers by significand and scale -/

section
variable (x : Double)

theorem exponentBits_eq : x.exponentBits = x.bits.toNat / 2 ^ 52 % 2 ^ 11 := by
  have h : (0x7FF : Nat) = 2 ^ 11 - 1 := rfl
  rw [exponentBits, UInt64.toNat_and, UInt64.toNat_shiftRight, Nat.shiftRight_eq_div_pow]
  exact Nat.and_two_pow_sub_one_eq_mod _ 11

theorem fractionBits_eq : x.fractionBits = x.bits.toNat % 2 ^ 52 := by
  rw [fractionBits, UInt64.toNat_and]
  exact Nat.and_two_pow_sub_one_eq_mod _ 52

theorem isNegative_iff : x.isNegative = true ↔ 2 ^ 63 ≤ x.bits.toNat := by
  have hlt := x.bits.toNat_lt
  rw [isNegative, beq_iff_eq, ← UInt64.toNat_inj, UInt64.toNat_shiftRight,
    Nat.shiftRight_eq_div_pow]
  show x.bits.toNat / 2 ^ 63 = 1 ↔ _
  omega

theorem one_le_scale : 1 ≤ x.scale := Nat.le_max_right _ _

theorem significand_lt : x.significand < 2 ^ 53 := by
  have hF := x.fractionBits_eq
  unfold significand
  split
  · omega
  · rw [Nat.one_shiftLeft]
    omega

theorem scale_eq_one_or_le : x.scale - 1 = 0 ∨ 2 ^ 52 ≤ x.significand := by
  unfold significand scale
  split
  · rename_i h
    rw [beq_iff_eq] at h
    omega
  · rw [Nat.one_shiftLeft]
    omega

/-- The bits of a number but for its sign. -/
theorem bits_mod : x.bits.toNat % 2 ^ 63 = (x.scale - 1) * 2 ^ 52 + x.significand := by
  have hE := x.exponentBits_eq
  have hF := x.fractionBits_eq
  unfold significand scale
  split
  · rename_i h
    rw [beq_iff_eq] at h
    omega
  · rename_i h
    rw [beq_iff_eq] at h
    rw [Nat.one_shiftLeft]
    omega

theorem signed_eq {negative : Bool} {n : Nat} (hn : n < 2 ^ 63) :
    (signed negative n).bits.toNat = n + if negative then 2 ^ 63 else 0 := by
  rw [signed, Nat.one_shiftLeft]
  show (if negative then n + 2 ^ 63 else n) % 2 ^ 64 = _
  split <;> omega

/-- **A number is its sign and its magnitude.** -/
theorem eq_signed : x = signed x.isNegative ((x.scale - 1) * 2 ^ 52 + x.significand) := by
  have hneg := x.isNegative_iff
  have hlt := x.bits.toNat_lt
  have hbits : x.bits.toNat =
      (signed x.isNegative ((x.scale - 1) * 2 ^ 52 + x.significand)).bits.toNat := by
    rw [← bits_mod, signed_eq (Nat.mod_lt _ (by decide))]
    split
    · rename_i h
      have := hneg.1 h
      omega
    · rename_i h
      have := mt hneg.2 h
      omega
  calc x = ⟨x.bits⟩ := rfl
    _ = _ := congrArg Double.mk (UInt64.toNat_inj.1 hbits)

end

theorem eq_signed_infinity {x : Double} (h : x.isInfinite = true) :
    x = signed x.isNegative infinity.bits.toNat := by
  simp only [isInfinite, Bool.and_eq_true, beq_iff_eq] at h
  have hx := x.eq_signed
  simp only [scale, significand, h.1, h.2] at hx
  exact hx

theorem eq_signed_zero {x : Double} (h : x.isZero = true) : x = signed x.isNegative 0 := by
  simp only [isZero, Bool.and_eq_true, beq_iff_eq] at h
  have hx := x.eq_signed
  simp only [scale, significand, h.1, h.2] at hx
  exact hx

/-! ## The nearest number -/

/-- Four times the distance, in units of the significand, at which the number below begins: it is
    nearer where the scale changes. -/
def gap (m s : Nat) : Nat := if m = 2 ^ 52 ∧ 0 < s then 1 else 2

/-- The fraction `q` is nearer to `m * 2 ^ s` than to any other number, or as near and `m` is even. -/
structure Near (m s : Nat) (q : ℚ) : Prop where
  above : (4 * m - gap m s) * 2 ^ s ≤ 4 * q
  below : 4 * q ≤ (4 * m + 2) * 2 ^ s
  apart : m % 2 = 1 → (4 * m - gap m s) * 2 ^ s < 4 * q ∧ 4 * q < (4 * m + 2) * 2 ^ s

theorem gap_le (m s : Nat) : gap m s ≤ 2 := by
  unfold gap
  split <;> omega

theorem roundedQuotient_eq {a b r : Nat} (hb : 0 < b) (hlo : 2 * (r * b) ≤ 2 * a + b)
    (hhi : 2 * a ≤ 2 * (r * b) + b)
    (hodd : r % 2 = 1 → 2 * (r * b) < 2 * a + b ∧ 2 * a < 2 * (r * b) + b) :
    roundedQuotient a b = r := by
  have ha := Nat.div_add_mod' a b
  have hmod := Nat.mod_lt a hb
  -- the quotient is the whole number sought, or the one below it
  have hle : a / b ≤ r := by
    by_contra hlt
    have := Nat.mul_le_mul_right b (show r + 1 ≤ a / b by omega)
    rw [Nat.add_mul, Nat.one_mul] at this
    omega
  have hge : r ≤ a / b + 1 := by
    by_contra hlt
    have := Nat.mul_le_mul_right b (show a / b + 2 ≤ r by omega)
    rw [Nat.add_mul] at this
    omega
  unfold roundedQuotient
  simp only [Bool.or_eq_true, Bool.and_eq_true, decide_eq_true_eq, beq_iff_eq]
  rcases Nat.eq_or_lt_of_le hle with heq | hlt
  · subst heq
    rw [if_neg]
    rintro (h | ⟨h, hr⟩)
    · omega
    · have := (hodd hr).2
      omega
  · obtain rfl : r = a / b + 1 := by omega
    rw [if_pos]
    rw [Nat.add_mul, Nat.one_mul] at hlo hhi hodd
    by_contra hn
    rw [not_or] at hn
    have h2 : 2 * (a % b) = b := by omega
    have := hodd (by omega)
    omega

/-- `Near` for a quotient, with the quotient multiplied out. -/
theorem Near.nat_bounds {m s n den : Nat} (hden : 0 < den) (h : Near m s ((n : ℚ) / den)) :
    4 * (m * (den * 2 ^ s)) ≤ 4 * n + gap m s * (den * 2 ^ s) ∧
      4 * n ≤ 4 * (m * (den * 2 ^ s)) + 2 * (den * 2 ^ s) ∧
      (m % 2 = 1 →
        4 * (m * (den * 2 ^ s)) < 4 * n + gap m s * (den * 2 ^ s) ∧
        4 * n < 4 * (m * (den * 2 ^ s)) + 2 * (den * 2 ^ s)) := by
  have hd : (0 : ℚ) < den := by exact_mod_cast hden
  obtain ⟨habove, hbelow, hapart⟩ := h
  rw [mul_div_assoc', le_div_iff₀ hd] at habove
  rw [mul_div_assoc', div_le_iff₀ hd] at hbelow
  refine ⟨?_, ?_, fun hm => ?_⟩
  · have : (4 * (m * (den * 2 ^ s)) : ℚ) ≤ 4 * n + gap m s * (den * 2 ^ s) := by linarith
    exact_mod_cast this
  · have : (4 * n : ℚ) ≤ 4 * (m * (den * 2 ^ s)) + 2 * (den * 2 ^ s) := by linarith
    exact_mod_cast this
  · obtain ⟨hlo, hhi⟩ := hapart hm
    rw [mul_div_assoc', lt_div_iff₀ hd] at hlo
    rw [mul_div_assoc', div_lt_iff₀ hd] at hhi
    constructor
    · have : (4 * (m * (den * 2 ^ s)) : ℚ) < 4 * n + gap m s * (den * 2 ^ s) := by linarith
      exact_mod_cast this
    · have : (4 * n : ℚ) < 4 * (m * (den * 2 ^ s)) + 2 * (den * 2 ^ s) := by linarith
      exact_mod_cast this

section
variable {m s n den : Nat}

theorem nearestBits_eq {shift r : Nat} (hshift : Nat.log2 (n / den) - 52 = shift)
    (hr : roundedQuotient n (den * 2 ^ shift) = r) (hle : shift * 2 ^ 52 + r ≤ 2047 * 2 ^ 52) :
    nearestBits n den = shift * 2 ^ 52 + r := by
  unfold nearestBits
  dsimp only
  rw [hshift, Nat.shiftLeft_eq shift, Nat.shiftLeft_eq den, hr]
  exact Nat.min_eq_left hle

theorem log2_div_eq (hden : 0 < den) (hlo : 2 ^ 52 * (den * 2 ^ s) ≤ n) (hhi : n < 2 ^ 53 * (den * 2 ^ s)) :
    Nat.log2 (n / den) = 52 + s := by
  have hlower : 2 ^ (52 + s) ≤ n / den := by
    rwa [Nat.le_div_iff_mul_le hden, Nat.pow_add, Nat.mul_assoc, Nat.mul_comm (2 ^ s)]
  have hupper : n / den < 2 ^ (53 + s) := by
    rwa [Nat.div_lt_iff_lt_mul hden, Nat.pow_add, Nat.mul_assoc, Nat.mul_comm (2 ^ s)]
  rw [Nat.log2_eq_iff (by have := Nat.two_pow_pos (52 + s); omega)]
  exact ⟨hlower, by rwa [show 52 + s + 1 = 53 + s by omega]⟩

theorem log2_div_le (hhi : n < 2 ^ 53 * den) : Nat.log2 (n / den) ≤ 52 := by
  have hupper : n / den < 2 ^ 53 := Nat.div_lt_of_lt_mul (by rwa [Nat.mul_comm])
  by_cases h0 : n / den = 0
  · rw [h0]
    decide
  · have := (Nat.log2_lt h0).2 hupper
    omega

/-- A fraction just below a power of two is rounded up to it, which is the least of the next scale. -/
theorem nearestBits_carry (hden : 0 < den) (hfin : s ≤ 2044)
    (hlo : 2 * (2 ^ 53 * (den * 2 ^ s)) ≤ 2 * n + den * 2 ^ s) (hhi : n < 2 ^ 53 * (den * 2 ^ s)) :
    nearestBits n den = (s + 1) * 2 ^ 52 + 2 ^ 52 := by
  have hpos : 0 < den * 2 ^ s := Nat.mul_pos hden (Nat.two_pow_pos s)
  have hlog := log2_div_eq hden (by omega) hhi
  have hround : roundedQuotient n (den * 2 ^ s) = 2 ^ 53 :=
    roundedQuotient_eq hpos hlo (by omega) fun h => absurd h (by decide)
  calc nearestBits n den = s * 2 ^ 52 + 2 ^ 53 := nearestBits_eq (by omega) hround (by omega)
    _ = (s + 1) * 2 ^ 52 + 2 ^ 52 := by omega

/-- **The bits of the number that a fraction is near to.** -/
theorem nearestBits_of_near (hden : 0 < den) (hm : m < 2 ^ 53) (hs : s = 0 ∨ 2 ^ 52 ≤ m)
    (hfin : s ≤ 2045) (h : Near m s ((n : ℚ) / den)) : nearestBits n den = s * 2 ^ 52 + m := by
  obtain ⟨hlo, hhi, hodd⟩ := h.nat_bounds hden
  have hpos : 0 < den * 2 ^ s := Nat.mul_pos hden (Nat.two_pow_pos s)
  have hgap : gap m s * (den * 2 ^ s) ≤ 2 * (den * 2 ^ s) := Nat.mul_le_mul_right _ (gap_le m s)
  have hupper : n < 2 ^ 53 * (den * 2 ^ s) := by
    have := Nat.mul_le_mul_right (den * 2 ^ s) (show m + 1 ≤ 2 ^ 53 from hm)
    rw [Nat.succ_mul] at this
    omega
  by_cases hcarry : 0 < s ∧ n < 2 ^ 52 * (den * 2 ^ s)
  · obtain ⟨hspos, hlt⟩ := hcarry
    obtain rfl : m = 2 ^ 52 := by
      by_contra hne
      have := Nat.mul_le_mul_right (den * 2 ^ s) (show 2 ^ 52 + 1 ≤ m by omega)
      rw [Nat.succ_mul] at this
      omega
    have hgap1 : gap (2 ^ 52) s = 1 := if_pos ⟨rfl, hspos⟩
    obtain ⟨k, rfl⟩ : ∃ k, s = k + 1 := ⟨s - 1, by omega⟩
    have htwice : den * 2 ^ (k + 1) = 2 * (den * 2 ^ k) := by ring
    rw [hgap1, htwice] at hlo
    rw [htwice] at hlt
    exact nearestBits_carry hden (by omega) (by omega) (by omega)
  · have hlog : Nat.log2 (n / den) - 52 = s := by
      rcases Nat.eq_zero_or_pos s with rfl | hspos
      · rw [Nat.pow_zero, Nat.mul_one] at hupper
        exact Nat.sub_eq_zero_of_le (log2_div_le hupper)
      · rw [log2_div_eq hden (by omega) hupper, Nat.add_sub_cancel_left]
    have hround : roundedQuotient n (den * 2 ^ s) = m := by
      refine roundedQuotient_eq hpos (by omega) (by omega) fun h => ?_
      have := hodd h
      constructor <;> omega
    exact nearestBits_eq hlog hround (by omega)

end

/-! ## Decimal fractions -/

theorem two_pow_le_ten_pow (k : Nat) : 2 ^ (3 * k) ≤ 10 ^ k := by
  rw [Nat.pow_mul]
  exact Nat.pow_le_pow_left (by decide) k

section
-- `c` is the exponent of the least number above zero: as a variable its power is never worked out
variable {m s n k c : Nat}

/-- What is near to a number other than zero is no less than half the least of them. -/
theorem Near.two_le {q : ℚ} (hm : 0 < m) (h : Near m s q) : 2 ≤ 4 * q := by
  have hgap : (gap m s : ℚ) ≤ 2 := by exact_mod_cast gap_le m s
  have hm' : (1 : ℚ) ≤ m := by exact_mod_cast hm
  have hpow : (1 : ℚ) ≤ 2 ^ s := one_le_pow₀ (by norm_num)
  calc (2 : ℚ) = 2 * 1 := by norm_num
    _ ≤ (4 * m - gap m s) * 2 ^ s := mul_le_mul (by linarith) hpow (by norm_num) (by linarith)
    _ ≤ 4 * q := h.above

/-- What is near to a number is no more than a power of two above it. -/
theorem Near.le_two_pow {q : ℚ} (hm : m < 2 ^ 53) (h : Near m s q) : 4 * q ≤ 2 ^ (56 + s) := by
  have hm' : (4 * m + 2 : ℚ) ≤ 2 ^ 56 := by
    have : 4 * m + 2 ≤ 2 ^ 56 := by omega
    exact_mod_cast this
  calc 4 * q ≤ (4 * m + 2) * 2 ^ s := h.below
    _ ≤ 2 ^ 56 * 2 ^ s := mul_le_mul_of_nonneg_right hm' (by positivity)
    _ = 2 ^ (56 + s) := (pow_add _ _ _).symm

/-- A fraction that is near to a finite number is not so large that its exponent alone tells. -/
theorem Near.exponent_le (hc : c = 1074) (hm : m < 2 ^ 53) (hs : s ≤ 2045) (hn : 0 < n)
    (h : Near m s ((n * 10 ^ k * 2 ^ c : Nat) : ℚ)) : k ≤ 400 := by
  by_contra hk
  have hle : 4 * (n * 10 ^ k * 2 ^ c) ≤ 2 ^ (56 + s) := by exact_mod_cast h.le_two_pow hm
  have hge : 2 ^ (3 * k) * 2 ^ c ≤ n * 10 ^ k * 2 ^ c :=
    Nat.mul_le_mul_right _ ((two_pow_le_ten_pow k).trans (Nat.le_mul_of_pos_left _ hn))
  have hlt : 2 ^ (56 + s) < 2 ^ (3 * k) * 2 ^ c := by
    rw [← Nat.pow_add]
    exact Nat.pow_lt_pow_right (by decide) (by omega)
  omega

/-- A fraction that is near to a number other than zero is not so small that its exponent tells. -/
theorem Near.le_exponent (hc : c = 1074) (hm : 0 < m)
    (h : Near m s (((n * 2 ^ c : Nat) : ℚ) / (10 ^ k : Nat))) : k ≤ 400 + Nat.log2 n := by
  by_contra hk
  have hge := h.two_le hm
  have hpos : (0 : ℚ) < ((10 ^ k : Nat) : ℚ) := by positivity
  rw [mul_div_assoc', le_div_iff₀ hpos] at hge
  have hge' : 2 * 10 ^ k ≤ 4 * (n * 2 ^ c) := by exact_mod_cast hge
  have hlt : n * 2 ^ c < 2 ^ (Nat.log2 n + 1 + c) := by
    rw [Nat.pow_add 2 _ c]
    exact Nat.mul_lt_mul_of_pos_right Nat.lt_log2_self (Nat.two_pow_pos c)
  have hle : 2 ^ (Nat.log2 n + 1 + c) * 2 ≤ 10 ^ k :=
    calc 2 ^ (Nat.log2 n + 1 + c) * 2 = 2 ^ (Nat.log2 n + 1 + c + 1) := (Nat.pow_succ ..).symm
      _ ≤ 2 ^ (3 * k) := Nat.pow_le_pow_right (by decide) (by omega)
      _ ≤ 10 ^ k := two_pow_le_ten_pow k
  omega

/-- **A decimal fraction is read as the number that it is near to.** -/
theorem ofDecimal_of_near {e : Int} (negative : Bool) (hc : c = 1074) (hm : 0 < m)
    (hm' : m < 2 ^ 53) (hs : s = 0 ∨ 2 ^ 52 ≤ m) (hfin : s ≤ 2045)
    (h : Near m s (n * 10 ^ (-e) * 2 ^ c)) :
    ofDecimal negative n e = signed negative (s * 2 ^ 52 + m) := by
  have hn : 0 < n := by
    refine Nat.pos_of_ne_zero fun h0 => ?_
    have := h.two_le hm
    rw [h0] at this
    norm_num at this
  have hn' : (n == 0) = false := by simpa using hn.ne'
  unfold ofDecimal
  rw [hn', if_neg Bool.false_ne_true, ← hc]
  by_cases he : e < 0
  · obtain ⟨k, rfl⟩ : ∃ k : Nat, e = -k := ⟨(-e).toNat, by omega⟩
    have hq : (n : ℚ) * 10 ^ (-(-(k : Int))) * 2 ^ c = (n * 10 ^ k * 2 ^ c : Nat) := by
      rw [neg_neg, zpow_natCast]
      push_cast
      rfl
    rw [hq] at h
    have hk := h.exponent_le hc hm' hfin hn
    rw [if_pos he, if_neg (by omega), neg_neg, Int.toNat_natCast, Nat.shiftLeft_eq]
    rw [← div_one ((n * 10 ^ k * 2 ^ c : Nat) : ℚ), ← Nat.cast_one] at h
    exact congrArg _ (nearestBits_of_near Nat.one_pos hm' hs hfin h)
  · obtain ⟨k, rfl⟩ : ∃ k : Nat, e = k := ⟨e.toNat, by omega⟩
    have hq : (n : ℚ) * 10 ^ (-(k : Int)) * 2 ^ c = ((n * 2 ^ c : Nat) : ℚ) / (10 ^ k : Nat) := by
      rw [zpow_neg, zpow_natCast, div_eq_mul_inv]
      push_cast
      exact mul_right_comm _ _ _
    rw [hq] at h
    have hk := h.le_exponent hc hm
    rw [if_neg he, if_neg (by omega), Int.toNat_natCast, Nat.shiftLeft_eq]
    exact congrArg _ (nearestBits_of_near (Nat.pow_pos (by decide)) hm' hs hfin h)

end

/-! ## What is not a number -/

theorem isNaN_signed (negative : Bool) {n : Nat} (hn : n ≤ infinity.bits.toNat) :
    (signed negative n).isNaN = false := by
  have hn' : n ≤ 2047 * 2 ^ 52 := hn
  have hbits := @signed_eq negative n (by omega)
  rw [← Bool.not_eq_true]
  simp only [isNaN, Bool.and_eq_true, beq_iff_eq, bne_iff_ne, exponentBits_eq, fractionBits_eq, hbits]
  rintro ⟨hE, hF⟩
  split at hE <;> split at hF <;> omega

theorem isNaN_ofDecimal (negative : Bool) (m : Nat) (e : Int) :
    (ofDecimal negative m e).isNaN = false := by
  have hnearest : ∀ n den, nearestBits n den ≤ infinity.bits.toNat := fun n den =>
    Nat.min_le_right _ _
  unfold ofDecimal
  apply isNaN_signed
  split
  · exact Nat.zero_le _
  · split
    · split
      · exact Nat.le_refl _
      · exact hnearest _ _
    · split
      · exact Nat.zero_le _
      · exact hnearest _ _

/-- Among the machine's values one is not a number. -/
theorem eq_nan_of_isNaN_ofFloat {f : Float} (h : (ofFloat f).isNaN = true) : ofFloat f = nan := by
  simp only [isNaN, Bool.and_eq_true, beq_iff_eq, bne_iff_ne, exponentBits_eq, fractionBits_eq] at h
  have hexp : @Float.Model.UnpackedFloat.unpackExponent .binary64 f.toModel.toBits.toBitVec =
      -1#11 := by
    apply BitVec.eq_of_toNat_eq
    simp only [Float.Model.UnpackedFloat.unpackExponent, BitVec.toNat_cast, BitVec.extractLsb_toNat,
      Nat.shiftRight_eq_div_pow]
    exact h.1
  have hfrac : @Float.Model.UnpackedFloat.unpackMantissa .binary64 f.toModel.toBits.toBitVec ≠
      0#52 := by
    intro h0
    have hzero := congrArg BitVec.toNat h0
    simp only [Float.Model.UnpackedFloat.unpackMantissa, BitVec.toNat_cast, BitVec.extractLsb_toNat,
      Nat.shiftRight_zero] at hzero
    exact h.2 hzero
  have hbits := f.toModel.valid.eq_packedNaN hexp hfrac
  exact congrArg Double.mk (UInt64.toBitVec_inj.1 hbits)

end ReportMigration.Double
