import ReportMigration.Proofs.Number.Rounding
/-!
The fewest digits of a number.

* `Double.near_digits`: the digits of a finite number other than zero, with their point, are near to
  the number, so that they are read as the number again (`Double.ofDecimal_of_near`).
-/
namespace ReportMigration.Double

/-! ## The place of the point -/

theorem le_mul_ten_pow_leadingZeros {den : Nat} : ∀ {num fuel : Nat}, den ≤ num * 10 ^ fuel →
    den ≤ num * 10 ^ leadingZeros num den fuel
  | num, 0, h => h
  | num, fuel + 1, h => by
    unfold leadingZeros
    split
    · simpa
    · rw [Nat.pow_succ, Nat.mul_comm _ 10, ← Nat.mul_assoc]
      refine le_mul_ten_pow_leadingZeros ?_
      rwa [Nat.mul_assoc, Nat.mul_comm 10, ← Nat.pow_succ]

/-- Before the point there are no more digits than the position of the point says. -/
theorem ten_zpow_pointPosition_le {num den f : Nat} (hf : f = 400) (hden : 0 < den)
    (h : den ≤ num * 10 ^ f) : (10 : ℚ) ^ (pointPosition num den - 1) * den ≤ num := by
  unfold pointPosition
  split
  · rename_i hle
    have hq : 0 < num / den := Nat.div_pos hle hden
    obtain ⟨k, hk⟩ : ∃ k, (Nat.toDigits 10 (num / den)).length = k + 1 :=
      ⟨_, (Nat.sub_add_cancel Nat.length_toDigits_pos).symm⟩
    -- with fewer digits the whole part would be below that power of ten
    have hpow : 10 ^ k ≤ num / den := by
      rcases Nat.eq_zero_or_pos k with rfl | hkpos
      · exact hq
      · by_contra hlt
        have := (Nat.length_toDigits_le_iff (by decide) hkpos).2 (Nat.lt_of_not_le hlt)
        omega
    rw [hk, show ((k + 1 : Nat) : Int) - 1 = k by omega, zpow_natCast]
    exact_mod_cast (Nat.le_div_iff_mul_le hden).1 hpow
  · rw [← hf, show (1 - (leadingZeros num den f : Int)) - 1 = -(leadingZeros num den f : Int) by omega,
      zpow_neg, zpow_natCast, inv_mul_le_iff₀ (by positivity), mul_comm]
    exact_mod_cast le_mul_ten_pow_leadingZeros h

/-! ## Digits within bounds -/

section
variable {lo num hi den count d : Nat} {closed : Bool} {point : Int}

/-- The steps between numbers of so many digits, with the factor that makes them whole. -/
theorem exists_grid (den : Nat) (k : Int) : ∃ up unit : Nat,
    (if k < 0 then Nat.pow 10 (-k).toNat else 1) = up ∧
      (if k < 0 then den else den * Nat.pow 10 k.toNat) = unit ∧
      0 < up ∧ (unit : ℚ) = 10 ^ k * den * up := by
  by_cases h : k < 0
  · obtain ⟨j, rfl⟩ : ∃ j : Nat, k = -j := ⟨(-k).toNat, by omega⟩
    rw [if_pos h, if_pos h, neg_neg, Int.toNat_natCast, zpow_neg, zpow_natCast, Nat.pow_eq]
    refine ⟨_, _, rfl, rfl, Nat.pow_pos (by decide), ?_⟩
    push_cast
    field_simp
  · obtain ⟨j, rfl⟩ : ∃ j : Nat, k = j := ⟨k.toNat, by omega⟩
    rw [if_neg h, if_neg h, Int.toNat_natCast, zpow_natCast, Nat.pow_eq]
    refine ⟨_, _, rfl, rfl, Nat.one_pos, ?_⟩
    push_cast
    ring

/-- Digits that are found lie within the bounds. -/
theorem within_of_digitsWithin (h : digitsWithin lo num hi den closed point count = some d) :
    (lo : ℚ) ≤ d * 10 ^ (point - count) * den ∧ (d : ℚ) * 10 ^ (point - count) * den ≤ hi ∧
      (closed = false →
        (lo : ℚ) < d * 10 ^ (point - count) * den ∧ (d : ℚ) * 10 ^ (point - count) * den < hi) := by
  obtain ⟨up, unit, hup, hunit, hpos, hgrid⟩ := exists_grid den (point - count)
  unfold digitsWithin at h
  dsimp only at h
  rw [hup, hunit] at h
  have hpos' : (0 : ℚ) < up := by exact_mod_cast hpos
  have hin : (if closed then decide (lo * up ≤ d * unit) && decide (d * unit ≤ hi * up)
      else decide (lo * up < d * unit) && decide (d * unit < hi * up)) = true := by
    split at h
    · split at h <;> cases h <;> assumption
    · cases h; assumption
    · cases h; assumption
    · cases h
  have hmul : (d * unit : ℚ) = d * 10 ^ (point - count) * den * up := by
    rw [hgrid]
    ring
  cases closed with
  | true =>
    simp only [if_true, Bool.and_eq_true, decide_eq_true_eq] at hin
    have h₁ : (lo * up : ℚ) ≤ d * unit := by exact_mod_cast hin.1
    have h₂ : (d * unit : ℚ) ≤ hi * up := by exact_mod_cast hin.2
    rw [hmul] at h₁ h₂
    exact ⟨le_of_mul_le_mul_right h₁ hpos', le_of_mul_le_mul_right h₂ hpos', fun h => by cases h⟩
  | false =>
    simp only [Bool.false_eq_true, if_false, Bool.and_eq_true, decide_eq_true_eq] at hin
    have h₁ : (lo * up : ℚ) < d * unit := by exact_mod_cast hin.1
    have h₂ : (d * unit : ℚ) < hi * up := by exact_mod_cast hin.2
    rw [hmul] at h₁ h₂
    have hlo := lt_of_mul_lt_mul_right h₁ hpos'.le
    have hhi := lt_of_mul_lt_mul_right h₂ hpos'.le
    exact ⟨hlo.le, hhi.le, fun _ => ⟨hlo, hhi⟩⟩

/-- Of so many digits some lie within bounds that are further apart than two neighbours. -/
theorem digitsWithin_ne_none (hden : 0 < den) (hlo : lo < num) (hhi : num < hi)
    (hwide : (10 : ℚ) ^ (point - count) * den + lo < hi) :
    digitsWithin lo num hi den closed point count ≠ none := by
  obtain ⟨up, unit, hup, hunit, hpos, hgrid⟩ := exists_grid den (point - count)
  unfold digitsWithin
  dsimp only
  rw [hup, hunit]
  have hpos' : (0 : ℚ) < up := by exact_mod_cast hpos
  have hunitpos : 0 < unit := by
    have : (0 : ℚ) < unit := by
      rw [hgrid]
      positivity
    exact_mod_cast this
  have hwide' : unit + lo * up < hi * up := by
    have : (unit + lo * up : ℚ) < hi * up := by
      rw [hgrid]
      calc (10 : ℚ) ^ (point - count) * den * up + lo * up =
            (10 ^ (point - count) * den + lo) * up := by ring
        _ < hi * up := mul_lt_mul_of_pos_right hwide hpos'
    exact_mod_cast this
  -- the neighbours enclose the number, so one of them lies within
  have hbelow : num * up / unit * unit ≤ num * up := Nat.div_mul_le_self _ _
  have habove : num * up < (num * up / unit + 1) * unit :=
    (Nat.div_lt_iff_lt_mul hunitpos).1 (Nat.lt_succ_self _)
  have hloup : lo * up < num * up := Nat.mul_lt_mul_of_pos_right hlo hpos
  have hhiup : num * up < hi * up := Nat.mul_lt_mul_of_pos_right hhi hpos
  rw [Nat.add_mul, Nat.one_mul] at habove
  split
  · split <;> simp
  · simp
  · simp
  · rename_i h₁ h₂
    exfalso
    cases closed with
    | true =>
      simp only [if_true, Bool.and_eq_false_iff, decide_eq_false_iff_not, Nat.add_mul,
        Nat.one_mul] at h₁ h₂
      omega
    | false =>
      simp only [Bool.false_eq_true, if_false, Bool.and_eq_false_iff, decide_eq_false_iff_not,
        Nat.add_mul, Nat.one_mul] at h₁ h₂
      omega

end

/-! ## The digits of a number -/

section
variable {m p c : Nat}

/-- The powers of two around a number of scale `p`, whether they multiply or divide. -/
theorem two_pow_balance (hc : c = 1074) (hp : 1 ≤ p) :
    2 ^ (p - 1) * 2 ^ (1077 - p) = 2 ^ (p - 1077) * (4 * 2 ^ c) := by
  rw [show 4 * 2 ^ c = 2 ^ (c + 2) by rw [Nat.pow_add]; omega, ← Nat.pow_add, ← Nat.pow_add]
  exact congrArg (2 ^ ·) (by omega)

theorem cast_sub_gap (hm : 0 < m) (s : Nat) : ((4 * m - gap m s : Nat) : ℚ) = 4 * m - gap m s := by
  have hgap := gap_le m s
  rw [Nat.cast_sub (by omega)]
  push_cast
  rfl

/-- What lies within the bounds of a number is near to it. -/
theorem near_of_within {q : ℚ} (hc : c = 1074) (hp : 1 ≤ p) (hm : 0 < m)
    (hlo : (((4 * m - gap m (p - 1)) * 2 ^ (p - 1077) : Nat) : ℚ) ≤ q * (2 ^ (1077 - p) : Nat))
    (hhi : q * (2 ^ (1077 - p) : Nat) ≤ (((4 * m + 2) * 2 ^ (p - 1077) : Nat) : ℚ))
    (hodd : m % 2 = 1 →
      (((4 * m - gap m (p - 1)) * 2 ^ (p - 1077) : Nat) : ℚ) < q * (2 ^ (1077 - p) : Nat) ∧
        q * (2 ^ (1077 - p) : Nat) < (((4 * m + 2) * 2 ^ (p - 1077) : Nat) : ℚ)) :
    Near m (p - 1) (q * 2 ^ c) := by
  have hbalance : (2 ^ (p - 1) * 2 ^ (1077 - p) : ℚ) = 2 ^ (p - 1077) * (4 * 2 ^ c) := by
    exact_mod_cast two_pow_balance hc hp
  have hden : (0 : ℚ) < 2 ^ (1077 - p) := by positivity
  have hunits : (0 : ℚ) < 4 * 2 ^ c := by positivity
  -- both sides are multiplied by the denominator, and by the number of units in a quarter
  have hscale : ∀ a : ℚ, a * 2 ^ (p - 1) * 2 ^ (1077 - p) = a * 2 ^ (p - 1077) * (4 * 2 ^ c) := by
    intro a
    rw [mul_assoc, hbalance, ← mul_assoc]
  have hq : 4 * (q * 2 ^ c) * 2 ^ (1077 - p) = q * 2 ^ (1077 - p) * (4 * 2 ^ c) := by ring
  push_cast [cast_sub_gap hm] at hlo hhi hodd
  refine ⟨?_, ?_, fun h => ⟨?_, ?_⟩⟩
  · refine le_of_mul_le_mul_right ?_ hden
    rw [hscale, hq]
    exact mul_le_mul_of_nonneg_right hlo hunits.le
  · refine le_of_mul_le_mul_right ?_ hden
    rw [hscale, hq]
    exact mul_le_mul_of_nonneg_right hhi hunits.le
  · refine lt_of_mul_lt_mul_right ?_ hden.le
    rw [hscale, hq]
    exact mul_lt_mul_of_pos_right (hodd h).1 hunits
  · refine lt_of_mul_lt_mul_right ?_ hden.le
    rw [hscale, hq]
    exact mul_lt_mul_of_pos_right (hodd h).2 hunits

theorem gap_lt (hm : m < 2 ^ 53) (s : Nat) : 4 * m < (2 + gap m s) * 10 ^ 16 := by
  unfold gap
  split <;> omega

/-- Seventeen digits are always enough. -/
theorem seventeen_digits (hp : 1 ≤ p) (hm : 0 < m) (hm' : m < 2 ^ 53) (closed : Bool) :
    digitsWithin ((4 * m - gap m (p - 1)) * 2 ^ (p - 1077)) (4 * m * 2 ^ (p - 1077))
      ((4 * m + 2) * 2 ^ (p - 1077)) (2 ^ (1077 - p)) closed
      (pointPosition (4 * m * 2 ^ (p - 1077)) (2 ^ (1077 - p))) 17 ≠ none := by
  have hgap := gap_le m (p - 1)
  have hgap' : 0 < gap m (p - 1) := by unfold gap; split <;> omega
  obtain ⟨f, hf⟩ : ∃ f, f = 400 := ⟨_, rfl⟩
  have hF : 0 < 2 ^ (p - 1077) := Nat.two_pow_pos _
  have hfuel : 2 ^ (1077 - p) ≤ 4 * m * 2 ^ (p - 1077) * 10 ^ f :=
    calc 2 ^ (1077 - p) ≤ 2 ^ (3 * f) := Nat.pow_le_pow_right (by decide) (by omega)
      _ ≤ 10 ^ f := two_pow_le_ten_pow f
      _ ≤ _ := Nat.le_mul_of_pos_left _ (Nat.mul_pos (by omega) hF)
  have hpoint := ten_zpow_pointPosition_le hf (Nat.two_pow_pos _) hfuel
  generalize pointPosition (4 * m * 2 ^ (p - 1077)) (2 ^ (1077 - p)) = point at hpoint ⊢
  refine digitsWithin_ne_none (Nat.two_pow_pos _) (Nat.mul_lt_mul_of_pos_right (by omega) hF)
    (Nat.mul_lt_mul_of_pos_right (by omega) hF) ?_
  -- the steps are the last of seventeen digits, less than the width of the bounds
  have hstep : (10 : ℚ) ^ (point - (17 : Nat)) * (2 ^ (1077 - p) : Nat) * 10 ^ 16 =
      10 ^ (point - 1) * (2 ^ (1077 - p) : Nat) := by
    rw [show point - 1 = (point - (17 : Nat)) + (16 : Nat) by push_cast; ring,
      zpow_add₀ (by norm_num), zpow_natCast]
    ring
  have hwidth : (4 * m : ℚ) < (2 + gap m (p - 1)) * 10 ^ 16 := by
    exact_mod_cast gap_lt hm' (p - 1)
  have hFq : (0 : ℚ) < 2 ^ (p - 1077) := by positivity
  have hlt : (10 : ℚ) ^ (point - (17 : Nat)) * (2 ^ (1077 - p) : Nat) * 10 ^ 16 <
      (2 + gap m (p - 1)) * 2 ^ (p - 1077) * 10 ^ 16 := by
    rw [hstep]
    refine hpoint.trans_lt ?_
    push_cast
    calc (4 * m * 2 ^ (p - 1077) : ℚ) < (2 + gap m (p - 1)) * 10 ^ 16 * 2 ^ (p - 1077) :=
          mul_lt_mul_of_pos_right hwidth hFq
      _ = (2 + gap m (p - 1)) * 2 ^ (p - 1077) * 10 ^ 16 := by ring
  have hstep' := lt_of_mul_lt_mul_right hlt (by positivity)
  push_cast [cast_sub_gap hm] at hstep' ⊢
  linarith

end

section
variable {x : Double} {c : Nat}

theorem lower_eq (m p : Nat) :
    (if (m == 2 ^ 52 && decide (p > 1)) = true then 4 * m - 1 else 4 * m - 2) =
      4 * m - gap m (p - 1) := by
  unfold gap
  simp only [Bool.and_eq_true, beq_iff_eq, decide_eq_true_eq]
  by_cases h : m = 2 ^ 52 ∧ p > 1
  · rw [if_pos h, if_pos ⟨h.1, by omega⟩]
  · rw [if_neg h, if_neg fun h' => h ⟨h'.1, by omega⟩]

/-- **The digits of a number, with their point, are near to it.** -/
theorem near_digits (hc : c = 1074) (hx : 0 < x.significand) :
    Near x.significand (x.scale - 1)
      (x.digits.1 * 10 ^ (x.digits.2 - (Nat.toDigits 10 x.digits.1).length) * 2 ^ c) := by
  have hp := x.one_le_scale
  have hseventeen := seventeen_digits hp hx x.significand_lt (x.significand % 2 == 0)
  unfold digits
  simp only [Nat.one_shiftLeft, lower_eq]
  generalize pointPosition (4 * x.significand * 2 ^ (x.scale - 1077)) (2 ^ (1077 - x.scale)) = point
    at hseventeen ⊢
  split
  · rename_i d n hfound
    obtain ⟨i, -, hi⟩ := List.exists_of_findSome?_eq_some hfound
    obtain ⟨d', hd', heq⟩ := Option.map_eq_some_iff.1 hi
    obtain ⟨rfl, rfl⟩ := Prod.mk.inj heq
    obtain ⟨hlo, hhi, hopen⟩ := within_of_digitsWithin hd'
    have hexp : point + ((Nat.toDigits 10 d').length - (i + 1 : Nat)) - (Nat.toDigits 10 d').length =
        point - (i + 1 : Nat) := by omega
    rw [hexp]
    exact near_of_within hc hp hx hlo hhi fun hodd => hopen (by simp [hodd])
  · rename_i hnone
    rw [List.findSome?_eq_none_iff] at hnone
    exact absurd (Option.map_eq_none_iff.1 (hnone 16 (by simp))) hseventeen

end

end ReportMigration.Double
