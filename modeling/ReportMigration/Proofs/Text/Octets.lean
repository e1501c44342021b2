import ReportMigration.Text.Octets
/-!
Reading back the octets of a text.

* `Text.charsOfOctets_one` to `Text.charsOfOctets_four` read the octets of one character, by how many
  they are;
* `Text.ofOctets_octets`: every text is read back from its octets.
-/
namespace ReportMigration.Text

variable {pos : Nat} {rest : List UInt8} {a b c d : UInt8}

theorem continues_iff : continues b = true ↔ 0x80 ≤ b.toNat ∧ b.toNat < 0xC0 := by
  simp [continues, UInt8.le_iff_toNat_le, UInt8.lt_iff_toNat_lt]

theorem follows_iff : follows a b = true ↔ 0x80 ≤ b.toNat ∧ b.toNat < 0xC0 ∧
    (a.toNat = 0xE0 → 0xA0 ≤ b.toNat) ∧ (a.toNat = 0xED → b.toNat < 0xA0) ∧
    (a.toNat = 0xF0 → 0x90 ≤ b.toNat) ∧ (a.toNat = 0xF4 → b.toNat < 0x90) := by
  have heq : ∀ x y : UInt8, x = y ↔ x.toNat = y.toNat := fun x y => UInt8.toNat_inj.symm
  simp only [follows, continues_iff, heq, UInt8.le_iff_toNat_le, UInt8.lt_iff_toNat_lt,
    Bool.and_eq_true, Bool.not_eq_true', Bool.and_eq_false_imp, decide_eq_true_eq,
    decide_eq_false_iff_not, Nat.not_lt, Nat.not_le, and_assoc]
  rfl

/-! ## One character -/

theorem charsOfOctets_one (ha : a.toNat < 0x80) :
    charsOfOctets pos (a :: rest) = (.ofNat a.toNat :: ·) <$> charsOfOctets (pos + 1) rest := by
  rw [charsOfOctets.eq_def]
  simp only [UInt8.lt_iff_toNat_lt]
  rw [if_pos (by simpa using ha)]

/-- The first of several octets is neither a character nor refused. -/
theorem first_of_several (ha : 0xC2 ≤ a.toNat) (ha' : a.toNat < 0xF5) :
    ¬ a < 0x80 ∧ ¬ (a < 0xC2 || 0xF5 ≤ a) = true := by
  simp only [UInt8.lt_iff_toNat_lt, UInt8.le_iff_toNat_le, Bool.or_eq_true, decide_eq_true_eq,
    UInt8.reduceToNat]
  omega

theorem charsOfOctets_two (ha : 0xC2 ≤ a.toNat) (ha' : a.toNat < 0xE0) (hb : follows a b = true) :
    charsOfOctets pos (a :: b :: rest) =
      (.ofNat (a.toNat % 0x20 * 0x40 + lowBits b) :: ·) <$> charsOfOctets (pos + 2) rest := by
  obtain ⟨h₁, h₂⟩ := first_of_several ha (by omega)
  have h₃ : a < 0xE0 := UInt8.lt_iff_toNat_lt.2 ha'
  rw [charsOfOctets.eq_def]
  simp only [if_neg h₁, if_neg h₂, hb, if_pos h₃, Bool.not_true, Bool.false_eq_true, if_false]

theorem charsOfOctets_three (ha : 0xE0 ≤ a.toNat) (ha' : a.toNat < 0xF0) (hb : follows a b = true)
    (hc : continues c = true) :
    charsOfOctets pos (a :: b :: c :: rest) =
      (.ofNat (a.toNat % 0x10 * 0x1000 + lowBits b * 0x40 + lowBits c) :: ·) <$>
        charsOfOctets (pos + 3) rest := by
  obtain ⟨h₁, h₂⟩ := first_of_several (show 0xC2 ≤ a.toNat by omega) (by omega)
  have h₃ : ¬ a < 0xE0 := fun h => Nat.not_lt.2 ha (UInt8.lt_iff_toNat_lt.1 h)
  have h₄ : a < 0xF0 := UInt8.lt_iff_toNat_lt.2 ha'
  rw [charsOfOctets.eq_def]
  simp only [if_neg h₁, if_neg h₂, hb, if_neg h₃, hc, if_pos h₄, Bool.not_true, Bool.false_eq_true,
    if_false]

theorem charsOfOctets_four (ha : 0xF0 ≤ a.toNat) (ha' : a.toNat < 0xF5) (hb : follows a b = true)
    (hc : continues c = true) (hd : continues d = true) :
    charsOfOctets pos (a :: b :: c :: d :: rest) =
      (.ofNat (a.toNat % 0x8 * 0x40000 + lowBits b * 0x1000 + lowBits c * 0x40 + lowBits d) :: ·) <$>
        charsOfOctets (pos + 4) rest := by
  obtain ⟨h₁, h₂⟩ := first_of_several (show 0xC2 ≤ a.toNat by omega) (by omega)
  have h₃ : ¬ a < 0xE0 := fun h => Nat.not_lt.2 (Nat.le_trans (by decide) ha) (UInt8.lt_iff_toNat_lt.1 h)
  have h₄ : ¬ a < 0xF0 := fun h => Nat.not_lt.2 ha (UInt8.lt_iff_toNat_lt.1 h)
  rw [charsOfOctets.eq_def]
  simp only [if_neg h₁, if_neg h₂, hb, if_neg h₃, hc, if_neg h₄, hd, Bool.not_true,
    Bool.false_eq_true, if_false]

theorem toNat_lt_of_valid (x : Char) : x.toNat < 0xD800 ∨ 0xDFFF < x.toNat ∧ x.toNat < 0x110000 :=
  x.valid

/-- The octets of a character are read back as this character, whatever follows. -/
theorem charsOfOctets_charOctets (x : Char) (pos : Nat) (rest : List UInt8) :
    charsOfOctets pos (charOctets x ++ rest) =
      (x :: ·) <$> charsOfOctets (pos + (charOctets x).length) rest := by
  have hvalid := toNat_lt_of_valid x
  have hchar : ∀ n, n = x.toNat → Char.ofNat n = x := fun n hn => hn ▸ Char.ofNat_toNat x
  have hoctet : ∀ {n}, n < 256 → (UInt8.ofNat n).toNat = n := UInt8.toNat_ofNat_of_lt'
  generalize hn : x.toNat = n at hvalid hchar
  unfold charOctets
  simp only [hn]
  by_cases h₁ : n < 0x80
  · have ha := hoctet (n := n) (by omega)
    rw [if_pos h₁, List.singleton_append, charsOfOctets_one (by omega), ha, hchar n rfl]
    rfl
  by_cases h₂ : n < 0x800
  · have ha := hoctet (n := 0xC0 + n / 0x40) (by omega)
    have hb := hoctet (n := 0x80 + n % 0x40) (by omega)
    rw [if_neg h₁, if_pos h₂, List.cons_append, List.singleton_append,
      charsOfOctets_two (by omega) (by omega) (follows_iff.2 (by omega)), lowBits, ha, hb,
      hchar _ (by omega)]
    rfl
  by_cases h₃ : n < 0x10000
  · have ha := hoctet (n := 0xE0 + n / 0x1000) (by omega)
    have hb := hoctet (n := 0x80 + n / 0x40 % 0x40) (by omega)
    have hc := hoctet (n := 0x80 + n % 0x40) (by omega)
    rw [if_neg h₁, if_neg h₂, if_pos h₃, List.cons_append, List.cons_append, List.singleton_append,
      charsOfOctets_three (by omega) (by omega) (follows_iff.2 (by omega))
        (continues_iff.2 (by omega)), lowBits, lowBits, ha, hb, hc, hchar _ (by omega)]
    rfl
  · have ha := hoctet (n := 0xF0 + n / 0x40000) (by omega)
    have hb := hoctet (n := 0x80 + n / 0x1000 % 0x40) (by omega)
    have hc := hoctet (n := 0x80 + n / 0x40 % 0x40) (by omega)
    have hd := hoctet (n := 0x80 + n % 0x40) (by omega)
    rw [if_neg h₁, if_neg h₂, if_neg h₃, List.cons_append, List.cons_append, List.cons_append,
      List.singleton_append,
      charsOfOctets_four (by omega) (by omega) (follows_iff.2 (by omega))
        (continues_iff.2 (by omega)) (continues_iff.2 (by omega)), lowBits, lowBits, lowBits, ha, hb,
      hc, hd, hchar _ (by omega)]
    rfl

/-! ## Texts -/

theorem charsOfOctets_flatMap (cs : List Char) (pos : Nat) :
    charsOfOctets pos (cs.flatMap charOctets) = .ok cs := by
  induction cs generalizing pos with
  | nil => rfl
  | cons x cs ih =>
    rw [List.flatMap_cons, charsOfOctets_charOctets, ih]
    rfl

/-- **Every text is read back from its octets.** -/
theorem ofOctets_octets (s : String) : ofOctets (octets s) = .ok s := by
  simp only [ofOctets, octets, charsOfOctets_flatMap, String.ofList_toList]

end ReportMigration.Text
