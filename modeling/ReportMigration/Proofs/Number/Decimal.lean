import Mathlib.Data.List.TakeWhile
import ReportMigration.Proofs.Number.Digits
/-!
Numbers as decimal fractions.

* A `Decimal` is a fraction as it is written: digits before and after the point, and an exponent;
* `Double.exists_decimal`: a finite number other than zero is written as a decimal fraction whose value
  is that of its digits.
-/
namespace ReportMigration

/-! ## Decimal fractions -/

/-- A decimal fraction as it is written. -/
structure Decimal where
  /-- The digits before the point. -/
  whole : List Char
  /-- The digits after the point; without any there is no point. -/
  fraction : List Char
  exponent : Option Int

namespace Decimal

/-- The text of the fraction. -/
def text (d : Decimal) : List Char :=
  d.whole ++ (if d.fraction.isEmpty then [] else '.' :: d.fraction) ++
    (d.exponent.map Double.exponentText).getD []

/-- The number that the digits write. -/
def numerator (d : Decimal) : Nat := Nat.ofDigitChars 10 (d.whole ++ d.fraction) 0

/-- How many places the point is to the left of the end of the digits. -/
def places (d : Decimal) : Int := d.fraction.length - d.exponent.getD 0

def value (d : Decimal) : ℚ := d.numerator * 10 ^ (-d.places)

/-- The fraction has digits only, no zero in front, and cannot be taken for a whole number. -/
structure IsReal (d : Decimal) : Prop where
  whole_ne_nil : d.whole ≠ []
  leading : d.whole = ['0'] ∨ d.whole.head? ≠ some '0'
  isDigit_whole : ∀ c ∈ d.whole, c.isDigit
  isDigit_fraction : ∀ c ∈ d.fraction, c.isDigit
  real : d.fraction ≠ [] ∨ d.exponent.isSome

end Decimal

/-! ## Digits -/

theorem head?_toDigits {n : Nat} (hn : 0 < n) : (Nat.toDigits 10 n).head? ≠ some '0' := by
  induction n using Nat.strongRecOn with
  | ind n ih =>
    by_cases h : n < 10
    · rw [Nat.toDigits_of_lt_base h]
      intro h0
      have hdigit : n.digitChar = '0' := Option.some.inj h0
      rw [Nat.digitChar_eq_zero] at hdigit
      omega
    · rw [Nat.toDigits_of_base_le (by decide) (by omega),
        List.head?_append_of_ne_nil _ Nat.toDigits_ne_nil]
      exact ih (n / 10) (by omega) (by omega)

namespace Double

/-- The digits of a number without zeros at the end, which are made up for in the power of ten. -/
theorem exists_dropFinalZeros {n : Nat} (hn : 0 < n) :
    ∃ z, Nat.toDigits 10 n = dropFinalZeros (Nat.toDigits 10 n) ++ List.replicate z '0' ∧
      (dropFinalZeros (Nat.toDigits 10 n)).head? ≠ some '0' ∧
      dropFinalZeros (Nat.toDigits 10 n) ≠ [] := by
  have hhead := head?_toDigits hn
  have hne := @Nat.toDigits_ne_nil n 10
  generalize Nat.toDigits 10 n = ds at hhead hne
  have hzeros : ∀ c ∈ ds.reverse.takeWhile (· == '0'), c = '0' := fun c hc => by
    simpa using List.mem_takeWhile_imp hc
  have hsplit : ds = (ds.reverse.dropWhile (· == '0')).reverse ++
      List.replicate (ds.reverse.takeWhile (· == '0')).length '0' := by
    have h := congrArg List.reverse (List.takeWhile_append_dropWhile (p := (· == '0')) (l := ds.reverse))
    rw [List.reverse_reverse, List.reverse_append, List.eq_replicate_of_mem hzeros,
      List.reverse_replicate] at h
    simpa using h.symm
  have hkept : (ds.reverse.dropWhile (· == '0')).reverse ≠ [] := by
    intro h
    rw [h, List.nil_append] at hsplit
    rw [hsplit] at hhead hne
    cases hz : (ds.reverse.takeWhile (· == '0')).length with
    | zero => rw [hz] at hne; exact hne rfl
    | succ z => rw [hz] at hhead; exact hhead rfl
  have hdrop : dropFinalZeros ds = (ds.reverse.dropWhile (· == '0')).reverse := by
    unfold dropFinalZeros
    split
    · rename_i h
      exact absurd h hkept
    · rfl
  refine ⟨_, by rw [hdrop]; exact hsplit, ?_, by rwa [hdrop]⟩
  rw [hdrop]
  rwa [hsplit, List.head?_append_of_ne_nil _ hkept] at hhead

/-- The digits that are written have the value of the digits of the number. -/
theorem ofDigitChars_dropFinalZeros {n : Nat} (hn : 0 < n) (point : Int) :
    (Nat.ofDigitChars 10 (dropFinalZeros (Nat.toDigits 10 n)) 0 : ℚ) *
        10 ^ (point - (dropFinalZeros (Nat.toDigits 10 n)).length) =
      n * 10 ^ (point - (Nat.toDigits 10 n).length) := by
  obtain ⟨z, hz, -, -⟩ := exists_dropFinalZeros hn
  have hlen := congrArg List.length hz
  have hval := congrArg (fun ds => Nat.ofDigitChars 10 ds 0) hz
  simp only [List.length_append, List.length_replicate] at hlen
  simp only [Nat.ofDigitChars_ten_toDigits, Nat.ofDigitChars_append,
    Nat.ofDigitChars_replicate_zero] at hval
  generalize dropFinalZeros (Nat.toDigits 10 n) = ds at hlen hval ⊢
  have hexp : point - ds.length = point - (Nat.toDigits 10 n).length + (z : Int) := by omega
  have hval' : (n : ℚ) = 10 ^ z * Nat.ofDigitChars 10 ds 0 := by exact_mod_cast hval
  rw [hexp, zpow_add₀ (by norm_num), zpow_natCast, hval']
  ring

/-! ## The text of a number -/

/-- `cs` is a fraction of the digits `ds` with the point behind `point` of them. -/
def WritesPoint (ds : List Char) (point : Int) (cs : List Char) : Prop :=
  ∃ d : Decimal, d.IsReal ∧ cs = d.text ∧ d.value = Nat.ofDigitChars 10 ds 0 * 10 ^ (point - ds.length)

theorem isDigit_of_mem_replicate_zero (k : Nat) : ∀ c ∈ List.replicate k '0', c.isDigit := by
  intro c hc
  rw [List.eq_of_mem_replicate hc]
  decide

section
variable {ds : List Char} {point : Int} (hne : ds ≠ []) (hhead : ds.head? ≠ some '0')
  (hdigit : ∀ c ∈ ds, c.isDigit)

include hne hhead hdigit in
theorem writesPoint_exponent (hpoint : (point ≤ -4 || 16 < point) = true) :
    WritesPoint ds point (pointText ds point) := by
  rw [pointText.eq_def, if_pos hpoint]
  obtain ⟨c, cs, rfl⟩ := List.exists_cons_of_ne_nil hne
  obtain ⟨hc, hcs⟩ := List.forall_mem_cons.1 hdigit
  refine ⟨⟨[c], cs, some (point - 1)⟩,
    ⟨by simp, .inr hhead, List.forall_mem_singleton.2 hc, hcs, .inr rfl⟩, by cases cs <;> rfl, ?_⟩
  show (Nat.ofDigitChars 10 (c :: cs) 0 : ℚ) * 10 ^ (-((cs.length : Int) - (point - 1))) = _
  congr 2
  simp only [List.length_cons]
  omega

include hne hdigit in
theorem writesPoint_before (hpoint : point ≤ 0) :
    WritesPoint ds point ('0' :: '.' :: (List.replicate (-point).toNat '0' ++ ds)) := by
  have hfraction : ∀ c ∈ List.replicate (-point).toNat '0' ++ ds, c.isDigit :=
    List.forall_mem_append.2 ⟨isDigit_of_mem_replicate_zero _, hdigit⟩
  refine ⟨⟨['0'], List.replicate (-point).toNat '0' ++ ds, none⟩,
    ⟨by simp, .inl rfl, by simp, hfraction, .inl (by simp [hne])⟩, by simp [Decimal.text, hne], ?_⟩
  simp only [Decimal.value, Decimal.numerator, Decimal.places, List.length_append,
    List.length_replicate, Option.getD_none, Nat.ofDigitChars_append, Nat.ofDigitChars_replicate_zero]
  congr 2
  omega

include hne hhead hdigit in
theorem writesPoint_behind (hlen : ds.length ≤ point.toNat) :
    WritesPoint ds point (ds ++ List.replicate (point.toNat - ds.length) '0' ++ ['.', '0']) := by
  have hwhole : ∀ c ∈ ds ++ List.replicate (point.toNat - ds.length) '0', c.isDigit :=
    List.forall_mem_append.2 ⟨hdigit, isDigit_of_mem_replicate_zero _⟩
  have hhead' : (ds ++ List.replicate (point.toNat - ds.length) '0').head? ≠ some '0' := by
    rwa [List.head?_append_of_ne_nil _ hne]
  refine ⟨⟨ds ++ List.replicate (point.toNat - ds.length) '0', ['0'], none⟩,
    ⟨by simp [hne], .inr hhead', hwhole, by simp, .inl (by simp)⟩, by simp [Decimal.text], ?_⟩
  have hexp : point - ds.length = ((point.toNat - ds.length : Nat) : Int) := by
    have := List.length_pos_iff.2 hne
    omega
  simp only [Decimal.value, Decimal.numerator, Decimal.places, List.length_singleton,
    Option.getD_none, Nat.ofDigitChars_append, Nat.ofDigitChars_replicate_zero,
    Nat.ofDigitChars_cons, Nat.ofDigitChars_nil]
  rw [hexp, zpow_natCast]
  push_cast
  norm_num
  ring

include hne hhead hdigit in
theorem writesPoint_within (hpoint : 0 < point) (hlen : point.toNat < ds.length) :
    WritesPoint ds point (ds.take point.toNat ++ '.' :: ds.drop point.toNat) := by
  have hpos : point.toNat ≠ 0 := by omega
  have hdrop : ds.drop point.toNat ≠ [] := by simpa using hlen
  refine ⟨⟨ds.take point.toNat, ds.drop point.toNat, none⟩, ⟨by simp [hne, hpos], .inr ?_,
    fun c hc => hdigit c (List.mem_of_mem_take hc), fun c hc => hdigit c (List.mem_of_mem_drop hc),
    .inl hdrop⟩, ?_, ?_⟩
  · rwa [List.head?_take, if_neg hpos]
  · rw [Decimal.text, if_neg (by simpa using hlen)]
    simp
  · simp only [Decimal.value, Decimal.numerator, Decimal.places, List.take_append_drop,
      Option.getD_none, List.length_drop]
    congr 2
    omega

include hne hhead hdigit in
/-- However digits with a point are laid out, they are written as a fraction. -/
theorem writesPoint_pointText (point : Int) : WritesPoint ds point (pointText ds point) := by
  by_cases hfar : (point ≤ -4 || 16 < point) = true
  · exact writesPoint_exponent hne hhead hdigit hfar
  rw [pointText.eq_def, if_neg hfar]
  split
  · rename_i hpoint
    exact writesPoint_before hne hdigit hpoint
  rename_i hpoint
  split
  · rename_i hlen
    exact writesPoint_behind hne hhead hdigit hlen
  · rename_i hlen
    exact writesPoint_within hne hhead hdigit (by omega) (by omega)

end

/-- **A number is written as a decimal fraction that has the value of its digits.** -/
theorem exists_decimal_magnitudeText {x : Double} (hx : 0 < x.digits.1) :
    ∃ d : Decimal, d.IsReal ∧ x.magnitudeText.toList = d.text ∧
      d.value = x.digits.1 * 10 ^ (x.digits.2 - (Nat.toDigits 10 x.digits.1).length) := by
  obtain ⟨z, hz, hhead, hne⟩ := exists_dropFinalZeros hx
  have hdigit : ∀ c ∈ dropFinalZeros (Nat.toDigits 10 x.digits.1), c.isDigit := by
    intro c hc
    have hmem : c ∈ Nat.toDigits 10 x.digits.1 := by
      rw [hz]
      exact List.mem_append_left _ hc
    exact Nat.isDigit_of_mem_toDigits (by decide) (by decide) hmem
  obtain ⟨d, hd, htext, hvalue⟩ := writesPoint_pointText hne hhead hdigit x.digits.2
  refine ⟨d, hd, ?_, ?_⟩
  · rw [magnitudeText, String.toList_ofList, htext]
  · rw [hvalue, ofDigitChars_dropFinalZeros hx]

/-! ## Exponents -/

theorem isDigit_exponentDigits (e : Int) : ∀ c ∈ exponentDigits e, c.isDigit := by
  intro c hc
  have htail : c ∈ Nat.toDigits 10 e.natAbs → c.isDigit :=
    Nat.isDigit_of_mem_toDigits (by decide) (by decide)
  unfold exponentDigits at hc
  dsimp only at hc
  split at hc
  · rcases List.mem_cons.1 hc with rfl | hc
    · decide
    · exact htail hc
  · exact htail hc

theorem exponentDigits_ne_nil (e : Int) : exponentDigits e ≠ [] := by
  unfold exponentDigits
  dsimp only
  split
  · simp
  · exact Nat.toDigits_ne_nil

theorem ofDigitChars_exponentDigits (e : Int) :
    Nat.ofDigitChars 10 (exponentDigits e) 0 = e.natAbs := by
  unfold exponentDigits
  dsimp only
  split
  · exact Nat.ofDigitChars_ten_toDigits
  · exact Nat.ofDigitChars_ten_toDigits

/-! ## Reading a written number -/

/-- **A number is read back from the decimal fraction that it is written as.** -/
theorem exists_decimal (x : Double) (hx : 0 < x.significand) (hfin : x.exponentBits ≠ 0x7FF) :
    ∃ d : Decimal, d.IsReal ∧ x.magnitudeText.toList = d.text ∧
      ofDecimal x.isNegative d.numerator d.places = x := by
  obtain ⟨c, hc⟩ : ∃ c, c = 1074 := ⟨_, rfl⟩
  have hnear := near_digits hc hx
  have hdigits : 0 < x.digits.1 := by
    refine Nat.pos_of_ne_zero fun h0 => ?_
    have := hnear.two_le hx
    rw [h0] at this
    norm_num at this
  have hscale : x.scale - 1 ≤ 2045 := by
    have := x.exponentBits_eq
    unfold scale
    omega
  obtain ⟨d, hd, htext, hvalue⟩ := exists_decimal_magnitudeText hdigits
  refine ⟨d, hd, htext, ?_⟩
  rw [← hvalue] at hnear
  rw [ofDecimal_of_near _ hc hx x.significand_lt x.scale_eq_one_or_le hscale hnear]
  exact x.eq_signed.symm

end Double

end ReportMigration
