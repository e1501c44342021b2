import ReportMigration.Text.Base64
/-!
Base64 texts: what they look like, and that they are read back.

* `Base64.IsText cs`: characters of the alphabet with at most two equals signs at the end, in groups of
  four; `Base64.isText_encode`: what is written is such a text;
* `Base64.decode_encode`: all octets are read back from the text that is written for them.
-/
namespace ReportMigration.Base64

/-- The characters that stand for six bits, in the order of the bits. -/
def alphabet : List Char :=
  "ABCDEFGHIJKLMNOPQRSTUVWXYZabcdefghijklmnopqrstuvwxyz0123456789+/".toList

/-- Characters of the alphabet, filled up with equals signs to groups of four. -/
structure IsText (cs : List Char) : Prop where
  body : ∃ ds pads, cs = ds ++ List.replicate pads '=' ∧ pads ≤ 2 ∧ ∀ c ∈ ds, c ∈ alphabet
  groups : 4 ∣ cs.length

/-! ## Characters -/

section
variable {n : Nat} {c : Char}

theorem alphabet_eq : alphabet = (List.range 64).map digit := by decide +kernel

theorem digit_mem (h : n < 64) : digit n ∈ alphabet := by
  rw [alphabet_eq]
  exact List.mem_map_of_mem (List.mem_range.2 h)

theorem value?_digit (h : n < 64) : value? (digit n) = some n := by
  have hall : ∀ n < 64, value? (digit n) = some n := by decide
  exact hall n h

theorem digit_ne_pad (h : n < 64) : digit n ≠ '=' := fun he => by
  have hvalue := value?_digit h
  rw [he] at hvalue
  cases hvalue

/-- Every character of a text is an ASCII character. -/
theorem IsText.toNat_lt {cs : List Char} (h : IsText cs) (hc : c ∈ cs) : c.toNat < 128 := by
  have hall : ('=' :: alphabet).all (fun c => c.toNat < 128) = true := by decide
  obtain ⟨ds, pads, rfl, -, hds⟩ := h.body
  have hmem : c ∈ '=' :: alphabet := by
    rcases List.mem_append.1 hc with hc | hc
    · exact List.mem_cons_of_mem _ (hds c hc)
    · exact List.eq_of_mem_replicate hc ▸ List.mem_cons_self
  simpa using List.all_eq_true.1 hall c hmem

end

/-! ## The form of a text -/

section
variable {w x y z : Nat} {cs : List Char}

/-- A text with one more group in front. -/
theorem IsText.group (h : IsText cs) (hw : w < 64) (hx : x < 64) (hy : y < 64) (hz : z < 64) :
    IsText (digit w :: digit x :: digit y :: digit z :: cs) := by
  obtain ⟨⟨ds, pads, rfl, hpads, hds⟩, hgroups⟩ := h
  refine ⟨⟨digit w :: digit x :: digit y :: digit z :: ds, pads, rfl, hpads, ?_⟩, ?_⟩
  · simpa [digit_mem hw, digit_mem hx, digit_mem hy, digit_mem hz] using hds
  · simp only [List.length_cons]
    omega

theorem isText_encode : ∀ bs, IsText (encode bs)
  | [] => ⟨⟨[], 0, rfl, by decide, by simp⟩, by simp [encode]⟩
  | [a] => by
    have ha := a.toNat_lt
    refine ⟨⟨[digit (a.toNat / 4), digit (a.toNat % 4 * 16)], 2, rfl, by decide, ?_⟩, by simp [encode]⟩
    simp [digit_mem (n := a.toNat / 4) (by omega), digit_mem (n := a.toNat % 4 * 16) (by omega)]
  | [a, b] => by
    have ha := a.toNat_lt
    have hb := b.toNat_lt
    refine ⟨⟨[digit (a.toNat / 4), digit (a.toNat % 4 * 16 + b.toNat / 16), digit (b.toNat % 16 * 4)], 1,
      rfl, by decide, ?_⟩, by simp [encode]⟩
    simp [digit_mem (n := a.toNat / 4) (by omega), digit_mem (n := b.toNat % 16 * 4) (by omega),
      digit_mem (n := a.toNat % 4 * 16 + b.toNat / 16) (by omega)]
  | a :: b :: c :: rest => by
    have ha := a.toNat_lt
    have hb := b.toNat_lt
    have hc := c.toNat_lt
    exact (isText_encode rest).group (by omega) (by omega) (by omega) (by omega)

/-! ## Reading -/

section
variable (groups : Nat) {v : Nat} {a : UInt8}

theorem decodeFrom_first (hw : w < 64) :
    decodeFrom groups {} (digit w :: cs) = decodeFrom groups ⟨1, w, 0⟩ cs := by
  rw [decodeFrom, if_neg (digit_ne_pad hw), value?_digit hw]
  rfl

theorem decodeFrom_second (hx : x < 64) (ha : v * 4 + x / 16 = a.toNat) :
    decodeFrom groups ⟨1, v, 0⟩ (digit x :: cs) =
      (a :: ·) <$> decodeFrom groups ⟨2, x % 16, 0⟩ cs := by
  rw [decodeFrom, if_neg (digit_ne_pad hx), value?_digit hx]
  simp only [ha, UInt8.ofNat_toNat]

theorem decodeFrom_third (hy : y < 64) (ha : v * 16 + y / 4 = a.toNat) :
    decodeFrom groups ⟨2, v, 0⟩ (digit y :: cs) =
      (a :: ·) <$> decodeFrom groups ⟨3, y % 4, 0⟩ cs := by
  rw [decodeFrom, if_neg (digit_ne_pad hy), value?_digit hy]
  simp only [ha, UInt8.ofNat_toNat]

theorem decodeFrom_fourth (hz : z < 64) (ha : v * 64 + z = a.toNat) :
    decodeFrom groups ⟨3, v, 0⟩ (digit z :: cs) = (a :: ·) <$> decodeFrom (groups + 1) {} cs := by
  rw [decodeFrom, if_neg (digit_ne_pad hz), value?_digit hz]
  simp only [ha, UInt8.ofNat_toNat]

end

/-- A group gives its octets, the rest is read by itself. -/
theorem decodeFrom_encode : ∀ (bs : List UInt8) (groups : Nat), decodeFrom groups {} (encode bs) = .ok bs
  | [], _ => rfl
  | [a], groups => by
    have ha := a.toNat_lt
    rw [encode, decodeFrom_first groups (by omega), decodeFrom_second groups (a := a) (by omega) (by omega)]
    rfl
  | [a, b], groups => by
    have ha := a.toNat_lt
    have hb := b.toNat_lt
    rw [encode, decodeFrom_first groups (by omega), decodeFrom_second groups (a := a) (by omega) (by omega),
      decodeFrom_third groups (a := b) (by omega) (by omega)]
    rfl
  | a :: b :: c :: rest, groups => by
    have ha := a.toNat_lt
    have hb := b.toNat_lt
    have hc := c.toNat_lt
    rw [encode, decodeFrom_first groups (by omega), decodeFrom_second groups (a := a) (by omega) (by omega),
      decodeFrom_third groups (a := b) (by omega) (by omega),
      decodeFrom_fourth groups (a := c) (by omega) (by omega), decodeFrom_encode rest]
    rfl

/-- **All octets are read back from their text.** -/
theorem decode_encode (bs : List UInt8) : decode (encode bs) = .ok bs := by
  rw [decode, decodeFrom_encode]

end

end ReportMigration.Base64
