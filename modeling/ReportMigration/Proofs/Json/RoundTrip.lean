import ReportMigration.Proofs.Json.Tokens
/-!
Reading back what was written.

* `Json.Proper v`: the value can come from a text: names within an object differ, and there is one number
  that is none;
* `Json.Layout.Plain l`: the layout puts blanks, commas and colons around items, and nothing else;
* `Json.read_write`: a proper value is read back from its text in any such layout.
-/
namespace ReportMigration

/-! ## Fields -/

section
-- a field is set in the place of one of the same name or else at the end
variable {α : Type} {k : String} {v : α} (set : List (String × α) → List (String × α))
  (hnil : set [] = [(k, v)])
  (hcons : ∀ f fs, set (f :: fs) = if f.1 = k then (k, v) :: fs else f :: set fs)
include hnil hcons

theorem mem_of_mem_set {f : String × α} {fs : List (String × α)} (h : f ∈ set fs) :
    f = (k, v) ∨ f ∈ fs := by
  induction fs with
  | nil =>
    rw [hnil] at h
    exact .inl (List.mem_singleton.1 h)
  | cons g fs ih =>
    rw [hcons] at h
    split at h
    · exact (List.mem_cons.1 h).imp id (List.mem_cons_of_mem _)
    · rcases List.mem_cons.1 h with h | h
      · exact .inr (h ▸ List.mem_cons_self)
      · exact (ih h).imp id (List.mem_cons_of_mem _)

/-- Names that differ still do after a field was set. -/
theorem nodup_of_set {fs : List (String × α)} (h : (fs.map (·.1)).Nodup) :
    ((set fs).map (·.1)).Nodup := by
  induction fs with
  | nil => simp [hnil]
  | cons g fs ih =>
    obtain ⟨hg, hfs⟩ := List.nodup_cons.1 (show (g.1 :: fs.map (·.1)).Nodup from h)
    rw [hcons]
    split
    · rename_i hk
      exact List.nodup_cons.2 ⟨hk ▸ hg, hfs⟩
    · rename_i hk
      refine List.nodup_cons.2 ⟨fun hmem => ?_, ih hfs⟩
      obtain ⟨f, hf, hname⟩ := List.mem_map.1 hmem
      rcases mem_of_mem_set set hnil hcons hf with rfl | hf
      · exact hk hname.symm
      · exact hg (List.mem_map.2 ⟨f, hf, hname⟩)

end

namespace Json

variable {rest : List Char} {fuel pos : Nat}

/-! ## Values that can be read -/

/-- A value in which the names within an object differ, with one number that is none. -/
inductive Proper : Json → Prop where
  | null : Proper .null
  | bool (b : Bool) : Proper (.bool b)
  | int (n : Int) : Proper (.int n)
  | real {x : Double} (h : x.isNaN = true → x = .nan) : Proper (.real x)
  | str (s : String) : Proper (.str s)
  | arr {xs : List Json} (h : ∀ x ∈ xs, Proper x) : Proper (.arr xs)
  | obj {fs : List (String × Json)} (distinct : (fs.map (·.1)).Nodup) (h : ∀ f ∈ fs, Proper f.2) :
    Proper (.obj fs)

theorem setField_of_notMem {k : String} (v : Json) {fs : List (String × Json)}
    (h : k ∉ fs.map (·.1)) : setField k v fs = fs ++ [(k, v)] := by
  induction fs with
  | nil => rfl
  | cons f fs ih =>
    rw [List.map_cons, List.mem_cons, not_or] at h
    rw [setField, if_neg (Ne.symm h.1), ih h.2, List.cons_append]

/-- Fields whose names differ are taken as they are. -/
theorem ofFields_of_nodup {fs : List (String × Json)} (h : (fs.map (·.1)).Nodup) :
    ofFields fs = fs := by
  have hfold : ∀ fs acc : List (String × Json), ((acc ++ fs).map (·.1)).Nodup →
      fs.foldl (fun acc f => setField f.1 f.2 acc) acc = acc ++ fs := by
    intro fs
    induction fs with
    | nil => simp
    | cons f fs ih =>
      intro acc hn
      have hf : f.1 ∉ acc.map (·.1) := by
        rw [List.map_append, List.map_cons] at hn
        exact fun hm => (List.nodup_append.1 hn).2.2 _ hm _ List.mem_cons_self rfl
      rw [List.foldl_cons, setField_of_notMem _ hf, ih _ (by simpa using hn), List.append_assoc,
        List.singleton_append]
  exact hfold fs [] h

/-! ## Layouts -/

/-- A text of blanks that no reader of lines changes. -/
def Filler (cs : List Char) : Prop := ∀ c ∈ cs, isSpace c = true ∧ c ≠ '\r'

theorem Filler.blank {cs : List Char} (h : Filler cs) : Blank cs := fun c hc => (h c hc).1

/-- Around items the layout puts blanks, commas and colons. -/
structure Layout.Plain (l : Layout) : Prop where
  colon : ∃ bs, l.colon.toList = ':' :: bs ∧ Filler bs
  comma : ∀ d, ∃ bs, (l.comma d).toList = ',' :: bs ∧ Filler bs
  opening : ∀ d, Filler (l.opening d).toList
  closing : ∀ d, Filler (l.closing d).toList

theorem filler_nil : Filler [] := by simp [Filler]

theorem filler_space : Filler [' '] := by simp [Filler, isSpace]

theorem filler_newLine (d : Nat) : Filler (newLine d).toList := by
  intro c hc
  simp only [newLine, String.toList_append, String.toList_ofList, List.mem_append] at hc
  rcases hc with hc | hc
  · obtain rfl : c = '\n' := by simpa using hc
    decide
  · obtain rfl := List.eq_of_mem_replicate hc
    decide

theorem plain_prettyLayout : prettyLayout.Plain where
  colon := ⟨[' '], by decide, filler_space⟩
  comma d := ⟨(newLine d).toList, by simp [prettyLayout], filler_newLine d⟩
  opening := filler_newLine
  closing := filler_newLine

theorem plain_spacedLayout : spacedLayout.Plain where
  colon := ⟨[' '], by decide, filler_space⟩
  comma _ := ⟨[' '], by simp [spacedLayout], filler_space⟩
  opening _ := filler_nil
  closing _ := filler_nil

/-! ## The beginning of a value -/

/-- A character that a value can begin with. -/
def Begins (c : Char) : Prop := isSpace c = false ∧ c ≠ ']' ∧ c ≠ Char.ofNat 0xFEFF

theorem begins_of_isDigit {c : Char} (h : c.isDigit = true) : Begins c := by
  refine ⟨?_, ?_, ?_⟩
  · rw [← Bool.not_eq_true]
    intro hs
    simp only [isSpace, Bool.or_eq_true, decide_eq_true_eq] at hs
    rcases hs with ((rfl | rfl) | rfl) | rfl <;> exact absurd h (by decide)
  · rintro rfl
    exact absurd h (by decide)
  · rintro rfl
    exact absurd h (by decide)

/-- A text that begins with such a character. -/
def BeginsWell (cs : List Char) : Prop := ∃ c cs', cs = c :: cs' ∧ Begins c

theorem beginsWell_sign {whole : List Char} (negative : Bool) (hne : whole ≠ [])
    (hdigit : ∀ c ∈ whole, c.isDigit) (tail : List Char) :
    BeginsWell (sign negative ++ (whole ++ tail)) := by
  obtain ⟨c, cs, rfl⟩ := List.exists_cons_of_ne_nil hne
  cases negative with
  | true => exact ⟨'-', _, rfl, by unfold Begins; decide⟩
  | false => exact ⟨c, _, rfl, begins_of_isDigit (hdigit c List.mem_cons_self)⟩

/-! ## Words, numbers and strings as values -/

theorem value_other {c : Char} {cs : List Char} (hquote : c ≠ '"') (hlist : c ≠ '[') (hobj : c ≠ '\x7b') :
    value (fuel + 1) ⟨c :: cs, pos⟩ = match word? (c :: cs) with
      | some (v, n) => .ok (v, Cursor.advance ⟨c :: cs, pos⟩ n)
      | none => number ⟨c :: cs, pos⟩ := by
  rw [value]
  split
  · rename_i h
    cases h
  · rename_i h
    exact absurd (List.cons.inj h).1 hquote
  · rename_i h
    exact absurd (List.cons.inj h).1 hlist
  · rename_i h
    exact absurd (List.cons.inj h).1 hobj
  · rfl

theorem value_sign {whole tail : List Char} (negative : Bool) (hne : whole ≠ [])
    (hdigit : ∀ c ∈ whole, c.isDigit) :
    value (fuel + 1) ⟨sign negative ++ (whole ++ tail), pos⟩ =
      number ⟨sign negative ++ (whole ++ tail), pos⟩ := by
  obtain ⟨c, cs, rfl⟩ := List.exists_cons_of_ne_nil hne
  have hc := hdigit c List.mem_cons_self
  have hne : ∀ c' : Char, c'.isDigit = false → c ≠ c' := by
    rintro c' h rfl
    rw [hc] at h
    cases h
  cases negative with
  | true =>
    have hword : word? ('-' :: (c :: (cs ++ tail))) = none := by
      simp [word?, (hne 'I' (by decide)).symm]
    show value (fuel + 1) ⟨'-' :: (c :: (cs ++ tail)), pos⟩ = _
    rw [value_other (by decide) (by decide) (by decide), hword]
    rfl
  | false =>
    have hword : word? (c :: (cs ++ tail)) = none := by
      simp [word?, (hne 'n' (by decide)).symm, (hne 't' (by decide)).symm, (hne 'f' (by decide)).symm,
        (hne 'N' (by decide)).symm, (hne 'I' (by decide)).symm, (hne '-' (by decide)).symm]
    show value (fuel + 1) ⟨c :: (cs ++ tail), pos⟩ = _
    rw [value_other (hne '"' (by decide)) (hne '[' (by decide)) (hne '\x7b' (by decide)), hword]
    rfl

/-- A finite number is written as a sign and a decimal fraction that is read as the number. -/
theorem exists_decimal_textWith {x : Double} (hnan : x.isNaN = false) (hinf : x.isInfinite = false)
    (nan infinity : String) :
    ∃ d : Decimal, d.IsReal ∧ (x.textWith nan infinity).toList = sign x.isNegative ++ d.text ∧
      Double.ofDecimal x.isNegative d.numerator d.places = x := by
  have hsign : (if x.isNegative = true then "-" else "").toList = sign x.isNegative := by
    cases x.isNegative <;> decide
  rw [Double.textWith, hnan, hinf, if_neg Bool.false_ne_true, if_neg Bool.false_ne_true,
    String.toList_append, hsign]
  by_cases hzero : x.isZero = true
  · refine ⟨⟨['0'], ['0'], none⟩, ⟨by simp, .inl rfl, by simp, by simp, .inl (by simp)⟩, ?_, ?_⟩
    · rw [if_pos hzero]
      rfl
    · exact (Double.eq_signed_zero hzero).symm
  · have hE : x.exponentBits ≠ 0x7FF := by
      intro hE
      simp only [Double.isNaN, Double.isInfinite, hE, beq_self_eq_true, Bool.true_and, bne_eq_false_iff_eq,
        beq_eq_false_iff_ne] at hnan hinf
      exact hinf hnan
    have hpos : 0 < x.significand := by
      simp only [Double.isZero, Bool.and_eq_true, beq_iff_eq, not_and] at hzero
      unfold Double.significand
      split
      · rename_i h
        exact Nat.pos_of_ne_zero (hzero (beq_iff_eq.1 h))
      · rw [Nat.one_shiftLeft]
        omega
    obtain ⟨d, hd, htext, hread⟩ := x.exists_decimal hpos hE
    exact ⟨d, hd, by rw [if_neg hzero, htext], hread⟩

theorem gives_value_int (n : Int) (hrest : Stops rest) :
    Gives (value (fuel + 1) ⟨(toString n).toList ++ rest, pos⟩) (.int n) rest := by
  have h := gives_number_int n hrest pos
  rw [toList_toString_int, List.append_assoc] at h ⊢
  rw [value_sign _ Nat.toDigits_ne_nil fun c hc =>
    Nat.isDigit_of_mem_toDigits (by decide) (by decide) hc]
  exact h

theorem gives_value_real {x : Double} (hx : x.isNaN = true → x = .nan) (hrest : Stops rest) :
    Gives (value (fuel + 1) ⟨(realText x).toList ++ rest, pos⟩) (.real x) rest := by
  unfold realText
  by_cases hnan : x.isNaN = true
  · obtain rfl := hx hnan
    exact ⟨pos + 3, rfl⟩
  by_cases hinf : x.isInfinite = true
  · have hbits := Double.eq_signed_infinity hinf
    rw [Double.textWith, if_neg hnan, if_pos hinf]
    cases hneg : x.isNegative with
    | true =>
      rw [hneg] at hbits
      rw [hbits]
      exact ⟨pos + 9, rfl⟩
    | false =>
      rw [hneg] at hbits
      rw [hbits]
      exact ⟨pos + 8, rfl⟩
  · obtain ⟨d, hd, htext, hread⟩ := exists_decimal_textWith (Bool.eq_false_iff.2 hnan)
      (Bool.eq_false_iff.2 hinf) "NaN" "Infinity"
    have h := gives_number_real hd x.isNegative hrest pos
    rw [hread] at h
    rw [htext, List.append_assoc]
    rw [Decimal.text, List.append_assoc, List.append_assoc] at h ⊢
    rw [value_sign _ hd.whole_ne_nil hd.isDigit_whole]
    exact h

theorem gives_value_str (ascii : Bool) (s : String) :
    Gives (value (fuel + 1) ⟨(quote ascii s).toList ++ rest, pos⟩) (.str s) rest := by
  obtain ⟨p, hp⟩ := gives_string_quote ascii s rest pos
  refine ⟨p, ?_⟩
  rw [toList_quote_append] at hp ⊢
  rw [value]
  simp only [hp]
  rfl

/-! ## Lists and objects -/

section
variable {bs cs cs' : List Char} {v : Json} {vs : List Json} {k : String} {fs : List (String × Json)}

theorem BeginsWell.append (h : BeginsWell cs) (tail : List Char) : BeginsWell (cs ++ tail) := by
  obtain ⟨c, cs, rfl, hc⟩ := h
  exact ⟨c, _, rfl, hc⟩

theorem skipSpace_of_beginsWell (hbs : Blank bs) (hcs : BeginsWell cs) (pos : Nat) :
    Cursor.skipSpace ⟨bs ++ cs, pos⟩ = ⟨cs, pos + bs.length⟩ := by
  obtain ⟨c, cs, rfl, hc⟩ := hcs
  refine skipSpace_append hbs (fun c' hc' => ?_) pos
  obtain rfl : c = c' := Option.some.inj hc'
  exact hc.1

theorem skipSpace_close {c : Char} (hbs : Blank bs) (hc : isSpace c = false) (rest : List Char)
    (pos : Nat) : Cursor.skipSpace ⟨bs ++ c :: rest, pos⟩ = ⟨c :: rest, pos + bs.length⟩ := by
  refine skipSpace_append hbs (fun c' hc' => ?_) pos
  obtain rfl : c = c' := Option.some.inj hc'
  exact hc

theorem gives_value_arr (hbs : Blank bs) (hcs : BeginsWell cs)
    (h : ∀ pos, Gives (items fuel ⟨cs, pos⟩) vs rest) :
    Gives (value (fuel + 1) ⟨'[' :: (bs ++ cs), pos⟩) (.arr vs) rest := by
  obtain ⟨p, hp⟩ := h (pos + 1 + bs.length)
  have hskip := skipSpace_of_beginsWell hbs hcs (pos + 1)
  obtain ⟨c, cs, rfl, hc⟩ := hcs
  refine ⟨p, ?_⟩
  rw [value]
  simp only [Cursor.advance, List.drop_succ_cons, List.drop_zero, hskip]
  split
  · rename_i h
    exact absurd (List.cons.inj h).1 hc.2.1
  · rw [hp]
    rfl

theorem gives_items_last (hbs : Blank bs) (h : Gives (value fuel ⟨cs, pos⟩) v (bs ++ ']' :: rest)) :
    Gives (items (fuel + 1) ⟨cs, pos⟩) [v] rest := by
  obtain ⟨p, hp⟩ := h
  refine ⟨p + bs.length + 1, ?_⟩
  rw [items, hp]
  simp only [skipSpace_close hbs (show isSpace ']' = false by decide)]
  rfl

theorem gives_items_more (hbs : Blank bs) (hcs : BeginsWell cs')
    (h : Gives (value fuel ⟨cs, pos⟩) v (',' :: (bs ++ cs')))
    (hs : ∀ pos, Gives (items fuel ⟨cs', pos⟩) vs rest) :
    Gives (items (fuel + 1) ⟨cs, pos⟩) (v :: vs) rest := by
  obtain ⟨p, hp⟩ := h
  obtain ⟨q, hq⟩ := hs (p + 1 + bs.length)
  have hcomma : Cursor.skipSpace ⟨',' :: (bs ++ cs'), p⟩ = ⟨',' :: (bs ++ cs'), p⟩ :=
    skipSpace_close filler_nil.blank (by decide) _ _
  refine ⟨q, ?_⟩
  rw [items, hp]
  simp only [hcomma, Cursor.advance, List.drop_succ_cons, List.drop_zero,
    skipSpace_of_beginsWell hbs hcs, hq]
  rfl

theorem gives_value_obj {ascii : Bool} (distinct : (fs.map (·.1)).Nodup) (hbs : Blank bs)
    (h : ∀ pos, Gives (fields fuel ⟨(quote ascii k).toList ++ cs, pos⟩) fs rest) :
    Gives (value (fuel + 1) ⟨'\x7b' :: (bs ++ ((quote ascii k).toList ++ cs)), pos⟩) (.obj fs) rest := by
  obtain ⟨p, hp⟩ := h (pos + 1 + bs.length)
  rw [toList_quote_append] at hp ⊢
  have hskip := skipSpace_close hbs (show isSpace '"' = false by decide)
    (k.toList.flatMap (escapeChar ascii) ++ '"' :: cs) (pos + 1)
  refine ⟨p, ?_⟩
  rw [value]
  simp only [Cursor.advance, List.drop_succ_cons, List.drop_zero, hskip, hp, Except.map,
    ofFields_of_nodup distinct]
  rfl

theorem beginsWell_quote (ascii : Bool) (k : String) : BeginsWell (quote ascii k).toList := by
  rw [← List.append_nil (quote ascii k).toList, toList_quote_append]
  exact ⟨'"', _, rfl, by unfold Begins; decide⟩

/-- How the fields are read on once the name of one and its colon are read. -/
def fieldsFrom (fuel : Nat) (k : String) (c : Cursor) : Reading (List (String × Json)) :=
  match value fuel c with
  | .error e => .error e
  | .ok (v, c) =>
    match c.skipSpace.rest with
    | '}' :: _ => .ok ([(k, v)], c.skipSpace.advance 1)
    | ',' :: _ =>
      (fields fuel (c.skipSpace.advance 1).skipSpace).map fun (fs, c) => ((k, v) :: fs, c)
    | _ => .error ⟨.expectingComma, c.skipSpace.pos⟩

/-- A field is read by its name, the colon and then the value. -/
theorem fields_name (ascii : Bool) (k : String) (hbs : Blank bs) (hcs : BeginsWell cs) (fuel pos : Nat) :
    ∃ p, fields (fuel + 1) ⟨(quote ascii k).toList ++ ':' :: (bs ++ cs), pos⟩ =
      fieldsFrom fuel k ⟨cs, p⟩ := by
  obtain ⟨p, hp⟩ := gives_string_quote ascii k (':' :: (bs ++ cs)) pos
  have hcolon : Cursor.skipSpace ⟨':' :: (bs ++ cs), p⟩ = ⟨':' :: (bs ++ cs), p⟩ :=
    skipSpace_close filler_nil.blank (by decide) _ _
  refine ⟨p + 1 + bs.length, ?_⟩
  rw [toList_quote_append] at hp ⊢
  rw [fields]
  simp only [hp, hcolon, Cursor.advance, List.drop_succ_cons, List.drop_zero,
    skipSpace_of_beginsWell hbs hcs]
  rfl

theorem gives_fields_last {bs' : List Char} (ascii : Bool) (hbs : Blank bs) (hcs : BeginsWell cs)
    (hbs' : Blank bs') (h : ∀ pos, Gives (value fuel ⟨cs, pos⟩) v (bs' ++ '\x7d' :: rest)) :
    Gives (fields (fuel + 1) ⟨(quote ascii k).toList ++ ':' :: (bs ++ cs), pos⟩) [(k, v)] rest := by
  obtain ⟨p, hp⟩ := fields_name ascii k hbs hcs fuel pos
  obtain ⟨q, hq⟩ := h p
  refine ⟨q + bs'.length + 1, ?_⟩
  rw [hp, fieldsFrom, hq]
  simp only [skipSpace_close hbs' (show isSpace '\x7d' = false by decide)]
  rfl

theorem gives_fields_more {bs' : List Char} (ascii : Bool) (hbs : Blank bs) (hcs : BeginsWell cs)
    (hbs' : Blank bs') (hcs' : BeginsWell cs')
    (h : ∀ pos, Gives (value fuel ⟨cs, pos⟩) v (',' :: (bs' ++ cs')))
    (hs : ∀ pos, Gives (fields fuel ⟨cs', pos⟩) fs rest) :
    Gives (fields (fuel + 1) ⟨(quote ascii k).toList ++ ':' :: (bs ++ cs), pos⟩) ((k, v) :: fs) rest := by
  obtain ⟨p, hp⟩ := fields_name ascii k hbs hcs fuel pos
  obtain ⟨q, hq⟩ := h p
  obtain ⟨r, hr⟩ := hs (q + 1 + bs'.length)
  have hcomma : Cursor.skipSpace ⟨',' :: (bs' ++ cs'), q⟩ = ⟨',' :: (bs' ++ cs'), q⟩ :=
    skipSpace_close filler_nil.blank (by decide) _ _
  refine ⟨r, ?_⟩
  rw [hp, fieldsFrom, hq]
  simp only [hcomma, Cursor.advance, List.drop_succ_cons, List.drop_zero,
    skipSpace_of_beginsWell hbs' hcs', hr]
  rfl

end

/-! ## Whole values -/

/-- What may follow a number: blanks and then no part of one. -/
theorem stops_append {bs : List Char} (hbs : Blank bs) (h : Stops rest) : Stops (bs ++ rest) := by
  cases bs with
  | nil => exact h
  | cons b bs =>
    intro c hc
    obtain rfl : b = c := Option.some.inj hc
    have hb := hbs b List.mem_cons_self
    simp only [isSpace, Bool.or_eq_true, decide_eq_true_eq] at hb
    rcases hb with ((rfl | rfl) | rfl) | rfl <;> decide

theorem stops_cons {c : Char} (h : isDigit c = false ∧ c ≠ '.' ∧ c ≠ 'e' ∧ c ≠ 'E') :
    Stops (c :: rest) := by
  intro c' hc'
  obtain rfl : c = c' := Option.some.inj hc'
  exact h

section
variable {l : Layout}

theorem beginsWell_realText (x : Double) : BeginsWell (realText x).toList := by
  unfold realText
  by_cases hnan : x.isNaN = true
  · rw [Double.textWith, if_pos hnan]
    exact ⟨'N', _, rfl, by unfold Begins; decide⟩
  by_cases hinf : x.isInfinite = true
  · rw [Double.textWith, if_neg hnan, if_pos hinf]
    cases x.isNegative with
    | true => exact ⟨'-', _, rfl, by unfold Begins; decide⟩
    | false => exact ⟨'I', _, rfl, by unfold Begins; decide⟩
  · obtain ⟨d, hd, htext, -⟩ := exists_decimal_textWith (Bool.eq_false_iff.2 hnan)
      (Bool.eq_false_iff.2 hinf) "NaN" "Infinity"
    rw [htext, Decimal.text, List.append_assoc]
    exact beginsWell_sign _ hd.whole_ne_nil hd.isDigit_whole _

theorem toList_write_arr (l : Layout) (d : Nat) (x : Json) (xs : List Json) :
    (write l d (.arr (x :: xs))).toList = '[' :: ((l.opening (d + 1)).toList ++
      ((write l (d + 1) x).toList ++ ((writeItems l (d + 1) xs).toList ++
        ((l.closing d).toList ++ [']'])))) := by
  simp only [write, String.toList_append, List.append_assoc]
  rfl

theorem toList_write_obj (l : Layout) (d : Nat) (k : String) (v : Json) (fs : List (String × Json)) :
    (write l d (.obj ((k, v) :: fs))).toList = '\x7b' :: ((l.opening (d + 1)).toList ++
      ((quote l.ascii k).toList ++ (l.colon.toList ++ ((write l (d + 1) v).toList ++
        ((writeFields l (d + 1) fs).toList ++ ((l.closing d).toList ++ ['\x7d'])))))) := by
  simp only [write, String.toList_append, List.append_assoc]
  rfl

theorem beginsWell_write (l : Layout) (d : Nat) (v : Json) : BeginsWell (write l d v).toList := by
  cases v with
  | null =>
    rw [write]
    exact ⟨'n', _, rfl, by unfold Begins; decide⟩
  | bool b =>
    cases b with
    | true =>
      rw [write]
      exact ⟨'t', _, rfl, by unfold Begins; decide⟩
    | false =>
      rw [write]
      exact ⟨'f', _, rfl, by unfold Begins; decide⟩
  | int n =>
    rw [write, toList_toString_int, ← List.append_nil (Nat.toDigits _ _)]
    exact beginsWell_sign _ Nat.toDigits_ne_nil
      (fun c hc => Nat.isDigit_of_mem_toDigits (by decide) (by decide) hc) _
  | real x =>
    rw [write]
    exact beginsWell_realText x
  | str s =>
    rw [write]
    exact beginsWell_quote _ s
  | arr xs =>
    cases xs with
    | nil =>
      rw [write]
      exact ⟨'[', _, rfl, by unfold Begins; decide⟩
    | cons x xs =>
      rw [toList_write_arr]
      exact ⟨'[', _, rfl, by unfold Begins; decide⟩
  | obj fs =>
    cases fs with
    | nil =>
      rw [write]
      exact ⟨'\x7b', _, rfl, by unfold Begins; decide⟩
    | cons f fs =>
      rw [toList_write_obj]
      exact ⟨'\x7b', _, rfl, by unfold Begins; decide⟩

/-- The text of `v` is read as `v`, at any depth and whatever follows. -/
def ReadsBack (l : Layout) (v : Json) : Prop :=
  ∀ {d fuel pos : Nat} {rest : List Char}, Stops rest → (write l d v).toList.length ≤ fuel →
    Gives (value fuel ⟨(write l d v).toList ++ rest, pos⟩) v rest

/-- The items of a list are read back up to its end. -/
theorem gives_items_write (hl : l.Plain) {bs : List Char} (hbs : Blank bs) {d : Nat} :
    ∀ (xs : List Json) (x : Json) (fuel pos : Nat), (∀ y ∈ x :: xs, ReadsBack l y) →
      (write l d x).toList.length + (writeItems l d xs).toList.length < fuel →
      Gives (items fuel ⟨(write l d x).toList ++
        ((writeItems l d xs).toList ++ (bs ++ ']' :: rest)), pos⟩) (x :: xs) rest
  | [], x, fuel + 1, pos, h, hfuel => by
    rw [writeItems, String.toList_empty, List.nil_append]
    exact gives_items_last hbs
      (h x List.mem_cons_self (stops_append hbs (stops_cons (by decide))) (by omega))
  | x' :: xs, x, fuel + 1, pos, h, hfuel => by
    obtain ⟨cs, hcomma, hcs⟩ := hl.comma d
    simp only [writeItems, String.toList_append, List.length_append, List.append_assoc, hcomma,
      List.cons_append, List.length_cons] at hfuel ⊢
    refine gives_items_more hcs.blank ((beginsWell_write l d x').append _)
      (h x List.mem_cons_self (stops_cons (by decide)) (by omega)) fun pos => ?_
    exact gives_items_write hl hbs xs x' fuel pos (fun y hy => h y (List.mem_cons_of_mem _ hy)) (by omega)

/-- The fields of an object are read back up to its end. -/
theorem gives_fields_write (hl : l.Plain) {bs : List Char} (hbs : Blank bs) {d : Nat} :
    ∀ (fs : List (String × Json)) (f : String × Json) (fuel pos : Nat), (∀ g ∈ f :: fs, ReadsBack l g.2) →
      (write l d f.2).toList.length + (writeFields l d fs).toList.length < fuel →
      Gives (fields fuel ⟨(quote l.ascii f.1).toList ++ (l.colon.toList ++ ((write l d f.2).toList ++
        ((writeFields l d fs).toList ++ (bs ++ '\x7d' :: rest)))), pos⟩) (f :: fs) rest
  | [], (k, v), fuel + 1, pos, h, hfuel => by
    obtain ⟨cs, hcolon, hcs⟩ := hl.colon
    have hv : ReadsBack l v := h (k, v) List.mem_cons_self
    rw [writeFields, String.toList_empty, List.nil_append, hcolon, List.cons_append]
    refine gives_fields_last _ hcs.blank ((beginsWell_write l d v).append _) hbs fun pos => ?_
    exact hv (stops_append hbs (stops_cons (by decide))) (by simp only at hfuel; omega)
  | (k', v') :: fs, (k, v), fuel + 1, pos, h, hfuel => by
    obtain ⟨cs, hcolon, hcs⟩ := hl.colon
    obtain ⟨cs', hcomma, hcs'⟩ := hl.comma d
    have hv : ReadsBack l v := h (k, v) List.mem_cons_self
    simp only [writeFields, String.toList_append, List.length_append, List.append_assoc, hcomma,
      List.cons_append, List.length_cons] at hfuel ⊢
    rw [hcolon, List.cons_append]
    refine gives_fields_more _ hcs.blank ((beginsWell_write l d v).append _) hcs'.blank
      ((beginsWell_quote l.ascii k').append _) (fun pos => hv (stops_cons (by decide)) (by omega))
      fun pos => ?_
    rw [← hcolon]
    exact gives_fields_write hl hbs fs (k', v') fuel pos (fun g hg => h g (List.mem_cons_of_mem _ hg))
      (by simp only; omega)

/-- Since the text of a value is not empty, there is fuel for a first step. -/
theorem readsBack_of_succ {v : Json} (h : ∀ (d fuel pos : Nat) (rest : List Char), Stops rest →
    (write l d v).toList.length ≤ fuel + 1 →
    Gives (value (fuel + 1) ⟨(write l d v).toList ++ rest, pos⟩) v rest) : ReadsBack l v := by
  intro d fuel pos rest hrest hfuel
  cases fuel with
  | zero =>
    obtain ⟨c, cs, htext, -⟩ := beginsWell_write l d v
    rw [htext, List.length_cons] at hfuel
    omega
  | succ fuel => exact h d fuel pos rest hrest hfuel

theorem readsBack_of_proper (hl : l.Plain) {v : Json} (hv : v.Proper) : ReadsBack l v := by
  induction hv with refine readsBack_of_succ fun d fuel pos rest hrest hfuel => ?_
  | null =>
    rw [write]
    exact ⟨pos + 4, rfl⟩
  | bool b =>
    cases b with
    | true =>
      rw [write]
      exact ⟨pos + 4, rfl⟩
    | false =>
      rw [write]
      exact ⟨pos + 5, rfl⟩
  | int n =>
    rw [write]
    exact gives_value_int n hrest
  | real h =>
    rw [write]
    exact gives_value_real h hrest
  | str s =>
    rw [write]
    exact gives_value_str l.ascii s
  | @arr xs h ih =>
    cases xs with
    | nil =>
      rw [write]
      exact ⟨pos + 2, rfl⟩
    | cons x xs =>
      rw [toList_write_arr, List.length_cons] at hfuel
      simp only [List.length_append] at hfuel
      rw [toList_write_arr]
      simp only [List.append_assoc, List.cons_append, List.nil_append]
      refine gives_value_arr (hl.opening _).blank ((beginsWell_write l _ x).append _) fun pos => ?_
      exact gives_items_write hl (hl.closing d).blank xs x fuel pos ih (by simp at hfuel; omega)
  | @obj fs distinct h ih =>
    cases fs with
    | nil =>
      rw [write]
      exact ⟨pos + 2, rfl⟩
    | cons f fs =>
      obtain ⟨k, v⟩ := f
      rw [toList_write_obj, List.length_cons] at hfuel
      simp only [List.length_append] at hfuel
      rw [toList_write_obj]
      simp only [List.append_assoc, List.cons_append, List.nil_append]
      refine gives_value_obj distinct (hl.opening _).blank fun pos => ?_
      exact gives_fields_write hl (hl.closing d).blank fs (k, v) fuel pos ih (by simp at hfuel ⊢; omega)

/-- A proper value is read back from its text. -/
theorem read_write (hl : l.Plain) {v : Json} (hv : v.Proper) (d : Nat) : read (write l d v) = .ok v := by
  have hreads : ReadsBack l v := readsBack_of_proper hl hv
  have hstops : Stops [] := fun c hc => by cases hc
  obtain ⟨p, hp⟩ : Gives (value (2 * (write l d v).toList.length + 2) ⟨(write l d v).toList ++ [], 0⟩) v [] :=
    hreads hstops (by omega)
  have hbegins := beginsWell_write l d v
  have hskip := skipSpace_of_beginsWell filler_nil.blank hbegins 0
  have hmark : (write l d v).toList.head? ≠ some (Char.ofNat 0xFEFF) := by
    obtain ⟨c, cs, htext, hc⟩ := hbegins
    rw [htext, List.head?_cons, Ne, Option.some.injEq]
    exact hc.2.2
  rw [List.append_nil] at hp
  rw [List.nil_append] at hskip
  simp only [read, if_neg hmark, hskip, List.length_nil, Nat.add_zero, hp]
  rfl

end

end Json

end ReportMigration
