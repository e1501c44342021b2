import ReportMigration.Json.Reader
import ReportMigration.Json.Writer
import ReportMigration.Proofs.Number.Decimal
/-!
Strings and numbers of JSON text.

* `Json.Gives r a rest`: the reading `r` gives `a` and goes on with `rest`;
* `Json.gives_string_quote`: a string is read back from its quoted form;
* `Json.gives_number_int` and `Json.gives_number_real`: so are numbers, if what follows cannot belong to
  them (`Json.Stops`).
-/
namespace ReportMigration.Json

/-- The reading gives `a`, and `rest` is what follows. -/
def Gives {α : Type} (r : Reading α) (a : α) (rest : List Char) : Prop :=
  ∃ pos, r = .ok (a, ⟨rest, pos⟩)

variable {cs rest : List Char} {pos : Nat}

theorem advance_append (cs rest : List Char) (pos : Nat) :
    Cursor.advance ⟨cs ++ rest, pos⟩ cs.length = ⟨rest, pos + cs.length⟩ := by
  simp [Cursor.advance]

/-! ## Blanks -/

/-- A text of blanks only. -/
def Blank (cs : List Char) : Prop := ∀ c ∈ cs, isSpace c = true

theorem takeWhile_append_stop {p : Char → Bool} (hcs : ∀ c ∈ cs, p c = true)
    (hrest : ∀ c, rest.head? = some c → p c = false) : (cs ++ rest).takeWhile p = cs := by
  rw [List.takeWhile_append_of_pos hcs]
  cases rest with
  | nil => simp
  | cons c rest => simp [hrest c rfl]

theorem skipSpace_append (hcs : Blank cs) (hrest : ∀ c, rest.head? = some c → isSpace c = false)
    (pos : Nat) : Cursor.skipSpace ⟨cs ++ rest, pos⟩ = ⟨rest, pos + cs.length⟩ := by
  unfold Cursor.skipSpace
  rw [takeWhile_append_stop hcs hrest, advance_append]

/-! ## Strings -/

theorem hexValue?_hexDigit {n : Nat} (h : n < 16) : hexValue? (hexDigit n) = some n :=
  of_decide_eq_true (List.all_eq_true.1
    (show (List.range 16).all (fun n => hexValue? (hexDigit n) = some n) = true by decide) n
    (List.mem_range.2 h))

theorem hexNumber?_hexFour {n : Nat} (h : n < 0x10000) : hexNumber? (hexFour n) = some n := by
  simp only [hexNumber?, hexFour, List.foldlM_cons, List.foldlM_nil,
    hexValue?_hexDigit (Nat.mod_lt _ (show 0 < 16 by decide)), Option.map_some, Option.pure_def,
    Option.bind_eq_bind, Option.bind_some, Option.some.injEq]
  omega

theorem unicodeEscape_hexFour {n : Nat} (h : n < 0x10000) (hs : n < 0xD800 ∨ 0xDC00 ≤ n)
    (hrest : rest ≠ []) : unicodeEscape (hexFour n ++ rest) = .ok (Char.ofNat n, 4) := by
  have hlen : ¬ (hexFour n ++ rest).length ≤ 4 := by
    have := List.length_pos_iff.2 hrest
    simp only [List.length_append, hexFour, List.length_cons, List.length_nil]
    omega
  have htake : (hexFour n ++ rest).take 4 = hexFour n := rfl
  unfold unicodeEscape
  rw [if_neg hlen, htake, hexNumber?_hexFour h]
  dsimp only
  rw [if_neg]
  simp only [Bool.and_eq_true, decide_eq_true_eq, not_and]
  omega

theorem unicodeEscape_surrogates (hi lo : Nat) (hhi : 0xD800 ≤ hi) (hhi' : hi < 0xDC00)
    (hlo : 0xDC00 ≤ lo) (hlo' : lo < 0xE000) (hrest : rest ≠ []) :
    unicodeEscape (hexFour hi ++ '\\' :: 'u' :: (hexFour lo ++ rest)) =
      .ok (Char.ofNat (joinSurrogates hi lo), 10) := by
  have hpos := List.length_pos_iff.2 hrest
  have htake : (hexFour hi ++ '\\' :: 'u' :: (hexFour lo ++ rest)).take 4 = hexFour hi := rfl
  have hmark : ((hexFour hi ++ '\\' :: 'u' :: (hexFour lo ++ rest)).drop 4).take 2 = ['\\', 'u'] := rfl
  have htake' : ((hexFour hi ++ '\\' :: 'u' :: (hexFour lo ++ rest)).drop 6).take 4 = hexFour lo := rfl
  have hlen : (hexFour hi ++ '\\' :: 'u' :: (hexFour lo ++ rest)).length = 10 + rest.length := by
    simp only [List.length_append, hexFour, List.length_cons, List.length_nil]
    omega
  unfold unicodeEscape
  rw [if_neg (by omega), htake, hexNumber?_hexFour (by omega)]
  dsimp only
  rw [if_pos (by simp [hmark, hlen, hhi, hhi', hpos]), htake', hexNumber?_hexFour (by omega)]
  dsimp only
  rw [if_pos (by simp [hlo, hlo'])]

section
variable {start fuel : Nat} {acc : List Char} {c e : Char}

theorem stringFrom_plain (hquote : c ≠ '"') (hslash : c ≠ '\\') (hc : 32 ≤ c.toNat) :
    stringFrom start (fuel + 1) acc ⟨c :: rest, pos⟩ =
      stringFrom start fuel (c :: acc) ⟨rest, pos + 1⟩ := by
  rw [stringFrom]
  split
  · rename_i h
    cases h
  · rename_i h
    exact absurd (List.cons.inj h).1 hquote
  · rename_i h
    exact absurd (List.cons.inj h).1 hslash
  · rename_i h
    exact absurd (List.cons.inj h).1 hslash
  · rename_i h
    exact absurd (List.cons.inj h).1 hslash
  · rename_i h
    obtain ⟨rfl, rfl⟩ := List.cons.inj h
    rw [if_neg (by omega)]
    rfl

theorem stringFrom_escaped (he : e ≠ 'u') (hc : escaped? e = some c) :
    stringFrom start (fuel + 1) acc ⟨'\\' :: e :: rest, pos⟩ =
      stringFrom start fuel (c :: acc) ⟨rest, pos + 2⟩ := by
  rw [stringFrom]
  split
  · rename_i h
    cases h
  · rename_i h
    exact absurd (List.cons.inj h).1 (by decide)
  · rename_i h
    cases h
  · rename_i h
    exact absurd (List.cons.inj (List.cons.inj h).2).1 he
  · rename_i h
    obtain ⟨-, h⟩ := List.cons.inj h
    obtain ⟨rfl, rfl⟩ := List.cons.inj h
    rw [hc]
    rfl
  · rename_i hother h
    obtain ⟨rfl, rfl⟩ := List.cons.inj h
    exact (hother e rest rfl rfl).elim

theorem stringFrom_unicode {n : Nat} (hc : unicodeEscape cs = .ok (c, n)) :
    stringFrom start (fuel + 1) acc ⟨'\\' :: 'u' :: cs, pos⟩ =
      stringFrom start fuel (c :: acc) ⟨cs.drop n, pos + (n + 2)⟩ := by
  rw [stringFrom]
  simp only
  rw [hc]
  rfl

end

/-- The escaped forms of a character: a letter that stands for it, the character itself, its number,
    or the numbers of its two halves. -/
theorem escapeChar_cases (ascii : Bool) (c : Char) :
    (∃ e, e ≠ 'u' ∧ escaped? e = some c ∧ escapeChar ascii c = ['\\', e]) ∨
      (c ≠ '"' ∧ c ≠ '\\' ∧ 32 ≤ c.toNat ∧ escapeChar ascii c = [c]) ∨
      (c.toNat < 0x10000 ∧ escapeChar ascii c = '\\' :: 'u' :: hexFour c.toNat) ∨
      (0x10000 ≤ c.toNat ∧ escapeChar ascii c =
        '\\' :: 'u' :: (hexFour (0xD800 + (c.toNat - 0x10000) / 0x400) ++
          '\\' :: 'u' :: hexFour (0xDC00 + (c.toNat - 0x10000) % 0x400))) := by
  unfold escapeChar
  dsimp only
  by_cases hquote : c = '"'
  · exact .inl ⟨'"', by decide, by rw [hquote]; rfl, if_pos hquote⟩
  rw [if_neg hquote]
  by_cases hslash : c = '\\'
  · exact .inl ⟨'\\', by decide, by rw [hslash]; rfl, if_pos hslash⟩
  rw [if_neg hslash]
  by_cases h : c = '\n'
  · exact .inl ⟨'n', by decide, by rw [h]; rfl, if_pos h⟩
  rw [if_neg h]
  by_cases h : c = '\r'
  · exact .inl ⟨'r', by decide, by rw [h]; rfl, if_pos h⟩
  rw [if_neg h]
  by_cases h : c = '\t'
  · exact .inl ⟨'t', by decide, by rw [h]; rfl, if_pos h⟩
  rw [if_neg h]
  by_cases h : c = '\x0c'
  · exact .inl ⟨'f', by decide, by rw [h]; rfl, if_pos h⟩
  rw [if_neg h]
  by_cases h : c = '\x08'
  · exact .inl ⟨'b', by decide, by rw [h]; rfl, if_pos h⟩
  rw [if_neg h]
  by_cases hplain : (decide (32 ≤ c.toNat) && (decide (c.toNat < 127) || !ascii)) = true
  · have hle : 32 ≤ c.toNat := of_decide_eq_true (Bool.and_eq_true_iff.1 hplain).1
    exact .inr (.inl ⟨hquote, hslash, hle, if_pos hplain⟩)
  rw [if_neg hplain]
  by_cases hlow : c.toNat < 0x10000
  · exact .inr (.inr (.inl ⟨hlow, if_pos hlow⟩))
  · exact .inr (.inr (.inr ⟨by omega, if_neg hlow⟩))

/-- A character is read back from its escaped form. -/
theorem stringFrom_escapeChar (ascii : Bool) (start fuel : Nat) (acc : List Char) (c : Char)
    (hrest : rest ≠ []) (pos : Nat) :
    stringFrom start (fuel + 1) acc ⟨escapeChar ascii c ++ rest, pos⟩ =
      stringFrom start fuel (c :: acc) ⟨rest, pos + (escapeChar ascii c).length⟩ := by
  have hvalid : c.toNat < 0xD800 ∨ 0xDFFF < c.toNat ∧ c.toNat < 0x110000 := c.valid
  rcases escapeChar_cases ascii c with ⟨e, he, hc, h⟩ | ⟨hquote, hslash, hle, h⟩ | ⟨hlow, h⟩ |
    ⟨hhigh, h⟩
  · rw [h]
    exact stringFrom_escaped he hc
  · rw [h]
    exact stringFrom_plain hquote hslash hle
  · rw [h]
    have hcode : unicodeEscape (hexFour c.toNat ++ rest) = .ok (c, 4) := by
      rw [unicodeEscape_hexFour (by omega) (by omega) hrest, Char.ofNat_toNat]
    exact stringFrom_unicode hcode
  · rw [h]
    have hjoin : joinSurrogates (0xD800 + (c.toNat - 0x10000) / 0x400)
        (0xDC00 + (c.toNat - 0x10000) % 0x400) = c.toNat := by
      unfold joinSurrogates
      omega
    have hcode := unicodeEscape_surrogates (0xD800 + (c.toNat - 0x10000) / 0x400)
      (0xDC00 + (c.toNat - 0x10000) % 0x400) (by omega) (by omega) (by omega) (by omega) hrest
    rw [hjoin, Char.ofNat_toNat] at hcode
    exact stringFrom_unicode hcode

theorem length_le_flatMap_escapeChar (ascii : Bool) (cs : List Char) :
    cs.length ≤ (cs.flatMap (escapeChar ascii)).length := by
  induction cs with
  | nil => simp
  | cons c cs ih =>
    have hpos : 1 ≤ (escapeChar ascii c).length := by
      rcases escapeChar_cases ascii c with ⟨e, -, -, h⟩ | ⟨-, -, -, h⟩ | ⟨-, h⟩ | ⟨-, h⟩ <;> simp [h]
    simp only [List.flatMap_cons, List.length_append, List.length_cons]
    omega

theorem gives_stringFrom (ascii : Bool) (start : Nat) (rest : List Char) :
    ∀ (cs acc : List Char) (fuel pos : Nat), cs.length < fuel →
      Gives (stringFrom start fuel acc ⟨cs.flatMap (escapeChar ascii) ++ '"' :: rest, pos⟩)
        (.ofList (acc.reverse ++ cs)) rest
  | [], acc, fuel + 1, pos, _ => by
    rw [List.append_nil]
    exact ⟨pos + 1, rfl⟩
  | c :: cs, acc, fuel + 1, pos, h => by
    rw [List.flatMap_cons, List.append_assoc, stringFrom_escapeChar ascii _ _ _ _ (by simp)]
    have ih := gives_stringFrom ascii start rest cs (c :: acc) fuel
      (pos + (escapeChar ascii c).length) (by simpa using h)
    rwa [List.reverse_cons, List.append_assoc, List.singleton_append] at ih

theorem toList_quote_append (ascii : Bool) (s : String) (rest : List Char) :
    (quote ascii s).toList ++ rest = '"' :: (s.toList.flatMap (escapeChar ascii) ++ '"' :: rest) := by
  simp [quote]

/-- **A string is read back from its quoted form.** -/
theorem gives_string_quote (ascii : Bool) (s : String) (rest : List Char) (pos : Nat) :
    Gives (string ⟨(quote ascii s).toList ++ rest, pos⟩) s rest := by
  have h := gives_stringFrom ascii pos rest s.toList []
    (((quote ascii s).toList ++ rest).length + 1) (pos + 1) (by
      have := length_le_flatMap_escapeChar ascii s.toList
      simp only [quote, String.toList_ofList, List.length_append, List.length_cons]
      omega)
  rw [List.reverse_nil, List.nil_append, String.ofList_toList] at h
  rw [string, quote, String.toList_ofList]
  simpa [Cursor.advance, quote] using h

/-! ## Numbers -/

/-- What follows cannot belong to a number. -/
def Stops (rest : List Char) : Prop :=
  ∀ c, rest.head? = some c → isDigit c = false ∧ c ≠ '.' ∧ c ≠ 'e' ∧ c ≠ 'E'

theorem isDigit_eq (c : Char) : isDigit c = c.isDigit := by
  rw [Bool.eq_iff_iff]
  simp only [isDigit, Char.isDigit, Bool.and_eq_true, decide_eq_true_eq, ge_iff_le,
    UInt32.le_iff_toNat_le]
  rfl

theorem decimalNumber_eq (cs : List Char) : decimalNumber cs = Nat.ofDigitChars 10 cs 0 := by
  rw [decimalNumber, Nat.ofDigitChars_eq_foldl]
  congr 1
  funext n c
  rw [Nat.mul_comm]
  rfl

theorem wholeDigits_append {whole : List Char} (hne : whole ≠ [])
    (hlead : whole = ['0'] ∨ whole.head? ≠ some '0') (hdigit : ∀ c ∈ whole, c.isDigit)
    (hrest : ∀ c, rest.head? = some c → isDigit c = false) :
    wholeDigits (whole ++ rest) = whole := by
  rcases hlead with rfl | hlead
  · rfl
  · unfold wholeDigits
    split
    · rename_i h
      rw [← List.head?_append_of_ne_nil _ hne, h] at hlead
      exact absurd rfl hlead
    · exact takeWhile_append_stop (fun c hc => by rw [isDigit_eq]; exact hdigit c hc) hrest

theorem fractionDigits_point {fraction : List Char} (hdigit : ∀ c ∈ fraction, c.isDigit)
    (hrest : ∀ c, rest.head? = some c → isDigit c = false) :
    fractionDigits ('.' :: (fraction ++ rest)) = fraction :=
  takeWhile_append_stop (fun c hc => by rw [isDigit_eq]; exact hdigit c hc) hrest

theorem fractionDigits_none (hrest : rest.head? ≠ some '.') : fractionDigits rest = [] := by
  unfold fractionDigits
  split
  · exact absurd rfl hrest
  · rfl

theorem exponent?_none (hrest : ∀ c, rest.head? = some c → c ≠ 'e' ∧ c ≠ 'E') :
    exponent? rest = none := by
  cases rest with
  | nil => rfl
  | cons c rest =>
    obtain ⟨h₁, h₂⟩ := hrest c rfl
    simp [exponent?, h₁, h₂]

theorem exponent?_exponentText (e : Int) (hrest : ∀ c, rest.head? = some c → isDigit c = false) :
    exponent? (Double.exponentText e ++ rest) = some (e, (Double.exponentText e).length) := by
  have hdigits : (Double.exponentDigits e ++ rest).takeWhile isDigit = Double.exponentDigits e :=
    takeWhile_append_stop (fun c hc => by
      rw [isDigit_eq]
      exact Double.isDigit_exponentDigits e c hc) hrest
  have hne : (Double.exponentDigits e).isEmpty = false := by
    simpa using Double.exponentDigits_ne_nil e
  have hvalue : decimalNumber (Double.exponentDigits e) = e.natAbs := by
    rw [decimalNumber_eq, Double.ofDigitChars_exponentDigits]
  have hlen : (Double.exponentText e).length = (Double.exponentDigits e).length + 1 + 1 := rfl
  rw [hlen]
  unfold Double.exponentText
  by_cases he : e < 0
  · have hsign : -(e.natAbs : Int) = e := by omega
    rw [if_pos he]
    simp only [exponent?, List.cons_append, hdigits, hne, hvalue]
    rw [hsign]
    rfl
  · have hsign : (e.natAbs : Int) = e := by omega
    rw [if_neg he]
    simp only [exponent?, List.cons_append, hdigits, hne, hvalue]
    rw [hsign]
    rfl

/-- The sign in front of a number. -/
def sign (negative : Bool) : List Char := if negative then ['-'] else []

section
variable {whole tail : List Char} {negative : Bool}

theorem head?_sign (hne : whole ≠ []) (hdigit : ∀ c ∈ whole, c.isDigit) :
    ((sign negative ++ (whole ++ tail)).head? == some '-') = negative := by
  cases negative with
  | true => rfl
  | false =>
    obtain ⟨c, cs, rfl⟩ := List.exists_cons_of_ne_nil hne
    have hc : c ≠ '-' := by
      rintro rfl
      exact absurd (hdigit '-' List.mem_cons_self) (by decide)
    simpa [sign] using hc

theorem drop_sign :
    (if negative = true then (sign negative ++ (whole ++ tail)).drop 1
      else sign negative ++ (whole ++ tail)) = whole ++ tail := by
  cases negative <;> rfl

theorem advance_sign (n : Nat) :
    Cursor.advance ⟨sign negative ++ (whole ++ tail), pos⟩
        ((if negative = true then 1 else 0) + whole.length + n) =
      Cursor.advance ⟨tail, pos + ((if negative = true then 1 else 0) + whole.length)⟩ n := by
  unfold Cursor.advance
  congr 1
  · cases negative with
    | true =>
      rw [if_pos rfl, Nat.add_assoc, Nat.add_comm 1]
      simp [sign, List.drop_append]
    | false => simp [sign, List.drop_append]
  · exact (Nat.add_assoc _ _ _).symm

/-- How a number is read on once its sign and the digits before the point are read. -/
def numberFrom (negative : Bool) (whole : List Char) (c : Cursor) : Reading Json :=
  let fraction := fractionDigits c.rest
  let rest := if fraction.isEmpty then c.rest else c.rest.drop (fraction.length + 1)
  let used := if fraction.isEmpty then 0 else fraction.length + 1
  match fraction, exponent? rest with
  | [], none =>
    let n : Int := decimalNumber whole
    .ok (.int (if negative then -n else n), c.advance used)
  | fraction, exp =>
    let (e, extra) := exp.getD (0, 0)
    .ok (.real (Double.ofDecimal negative (decimalNumber (whole ++ fraction))
      ((fraction.length : Int) - e)), c.advance (used + extra))

theorem number_sign (negative : Bool) (hne : whole ≠ [])
    (hlead : whole = ['0'] ∨ whole.head? ≠ some '0') (hdigit : ∀ c ∈ whole, c.isDigit)
    (htail : ∀ c, tail.head? = some c → isDigit c = false) (pos : Nat) :
    ∃ p, number ⟨sign negative ++ (whole ++ tail), pos⟩ = numberFrom negative whole ⟨tail, p⟩ := by
  refine ⟨pos + ((if negative = true then 1 else 0) + whole.length), ?_⟩
  have hempty : whole.isEmpty = false := by simpa using hne
  unfold number
  simp only [head?_sign hne hdigit, drop_sign, wholeDigits_append hne hlead hdigit htail, hempty,
    List.drop_left, Bool.false_eq_true, if_false, Nat.add_assoc _ (ite _ _ _) _, advance_sign]
  rfl

theorem toList_toString_int (n : Int) :
    (toString n).toList = sign (decide (n < 0)) ++ Nat.toDigits 10 n.natAbs := by
  cases n with
  | ofNat m =>
    show (toString m).toList = _
    rw [Nat.toString_eq_ofList_toDigits, String.toList_ofList]
    rfl
  | negSucc m =>
    show ("-" ++ toString (m + 1)).toList = _
    rw [String.toList_append, Nat.toString_eq_ofList_toDigits, String.toList_ofList,
      String.toList_ofList, decide_eq_true (Int.negSucc_lt_zero m)]
    rfl

/-- **A whole number is read back.** -/
theorem gives_number_int (n : Int) (hrest : Stops rest) (pos : Nat) :
    Gives (number ⟨(toString n).toList ++ rest, pos⟩) (.int n) rest := by
  have hne := @Nat.toDigits_ne_nil n.natAbs 10
  have hdigit : ∀ c ∈ Nat.toDigits 10 n.natAbs, c.isDigit := fun c hc =>
    Nat.isDigit_of_mem_toDigits (by decide) (by decide) hc
  have hlead : Nat.toDigits 10 n.natAbs = ['0'] ∨ (Nat.toDigits 10 n.natAbs).head? ≠ some '0' := by
    rcases Nat.eq_zero_or_pos n.natAbs with h | h
    · exact .inl (by rw [h, Nat.toDigits_zero])
    · exact .inr (head?_toDigits h)
  have hvalue : decimalNumber (Nat.toDigits 10 n.natAbs) = n.natAbs := by
    rw [decimalNumber_eq, Nat.ofDigitChars_ten_toDigits]
  have hsign : (if decide (n < 0) = true then -(n.natAbs : Int) else n.natAbs) = n := by
    by_cases h : n < 0
    · rw [decide_eq_true h, if_pos rfl]
      omega
    · rw [decide_eq_false h, if_neg Bool.false_ne_true]
      omega
  have hfraction : fractionDigits rest = [] := fractionDigits_none fun h => (hrest '.' h).2.1 rfl
  have hexponent : exponent? rest = none := exponent?_none fun c hc => (hrest c hc).2.2
  obtain ⟨p, hp⟩ := number_sign (decide (n < 0)) hne hlead hdigit (fun c hc => (hrest c hc).1) pos
  refine ⟨p, ?_⟩
  rw [toList_toString_int, List.append_assoc, hp]
  simp only [numberFrom, hfraction, hexponent, List.isEmpty_nil, if_true, hvalue, hsign]
  rfl

/-- The exponent of a decimal fraction is read, whether there is one or not. -/
theorem exponent?_append (exponent : Option Int) (hrest : Stops rest) :
    exponent? ((exponent.map Double.exponentText).getD [] ++ rest) =
      exponent.map fun e => (e, (Double.exponentText e).length) := by
  cases exponent with
  | none => exact exponent?_none fun c hc => (hrest c hc).2.2
  | some e => exact exponent?_exponentText e fun c hc => (hrest c hc).1

theorem isDigit_head?_exponent (exponent : Option Int) (hrest : Stops rest) (c : Char)
    (hc : ((exponent.map Double.exponentText).getD [] ++ rest).head? = some c) : isDigit c = false := by
  cases exponent with
  | none => exact (hrest c hc).1
  | some e =>
    obtain rfl : 'e' = c := Option.some.inj hc
    decide

theorem gives_numberFrom_exponent (negative : Bool) (whole : List Char) (e : Int) (hrest : Stops rest)
    (pos : Nat) :
    Gives (numberFrom negative whole ⟨Double.exponentText e ++ rest, pos⟩)
      (.real (.ofDecimal negative (decimalNumber whole) (-e))) rest := by
  have hfraction : fractionDigits (Double.exponentText e ++ rest) = [] :=
    fractionDigits_none (by simp [Double.exponentText])
  have hexponent := exponent?_exponentText e fun c hc => (hrest c hc).1
  refine ⟨pos + (Double.exponentText e).length, ?_⟩
  simp [numberFrom, hfraction, hexponent, Cursor.advance]

theorem gives_numberFrom_point (negative : Bool) (whole : List Char) {fraction : List Char}
    (exponent : Option Int) (hne : fraction ≠ []) (hdigit : ∀ c ∈ fraction, c.isDigit)
    (hrest : Stops rest) (pos : Nat) :
    Gives (numberFrom negative whole
        ⟨'.' :: (fraction ++ ((exponent.map Double.exponentText).getD [] ++ rest)), pos⟩)
      (.real (.ofDecimal negative (decimalNumber (whole ++ fraction))
        (fraction.length - exponent.getD 0))) rest := by
  have hfraction := fractionDigits_point hdigit (isDigit_head?_exponent exponent hrest)
  obtain ⟨f, fs, rfl⟩ := List.exists_cons_of_ne_nil hne
  have hdrop : ∀ cs : List Char,
      ('.' :: (f :: fs ++ (cs ++ rest))).drop ((f :: fs).length + 1 + cs.length) = rest := fun cs => by
    rw [← List.drop_drop, List.drop_succ_cons, List.drop_left, List.drop_left]
  unfold numberFrom
  simp only [hfraction, List.isEmpty_cons, Bool.false_eq_true, if_false, List.drop_succ_cons,
    List.drop_left, exponent?_append exponent hrest, Cursor.advance]
  cases exponent with
  | none => exact ⟨_, congrArg (fun cs => Except.ok (_, Cursor.mk cs _)) (hdrop [])⟩
  | some e => exact ⟨_, congrArg (fun cs => Except.ok (_, Cursor.mk cs _)) (hdrop (Double.exponentText e))⟩

/-- **A decimal fraction is read as the number nearest to it.** -/
theorem gives_number_real {d : Decimal} (hd : d.IsReal) (negative : Bool) (hrest : Stops rest)
    (pos : Nat) :
    Gives (number ⟨sign negative ++ (d.text ++ rest), pos⟩)
      (.real (.ofDecimal negative d.numerator d.places)) rest := by
  obtain ⟨whole, fraction, exponent⟩ := d
  obtain ⟨hne, hlead, hwhole, hfraction, hreal⟩ := hd
  rw [Decimal.text, List.append_assoc, List.append_assoc, Decimal.numerator, ← decimalNumber_eq,
    Decimal.places]
  dsimp only at *
  cases fraction with
  | nil =>
    obtain ⟨e, rfl⟩ := Option.isSome_iff_exists.1 (hreal.resolve_left (by simp))
    obtain ⟨p, hp⟩ := number_sign negative hne hlead hwhole (isDigit_head?_exponent (some e) hrest) pos
    rw [List.isEmpty_nil, if_pos rfl, List.nil_append, hp]
    simpa using gives_numberFrom_exponent negative whole e hrest p
  | cons f fs =>
    have hpoint : ∀ c, ('.' :: (f :: fs ++ ((exponent.map Double.exponentText).getD [] ++ rest))).head? =
        some c → isDigit c = false := fun c hc => by
      obtain rfl : '.' = c := Option.some.inj hc
      decide
    obtain ⟨p, hp⟩ := number_sign negative hne hlead hwhole hpoint pos
    rw [List.isEmpty_cons, if_neg Bool.false_ne_true, List.cons_append, hp]
    exact gives_numberFrom_point negative whole exponent (by simp) hfraction hrest p

end

end ReportMigration.Json
