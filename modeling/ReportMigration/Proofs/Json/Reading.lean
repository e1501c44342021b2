import ReportMigration.Proofs.Json.RoundTrip
import ReportMigration.Text.Lines
/-!
What is read is proper, and what is written has no carriage return.

* `Json.proper_of_read`: a value that a text holds can be written and read again;
* `Json.read_unifyLines_write`: a text in a plain layout says the same after it went through a file.
-/
namespace ReportMigration.Json

/-! ## Fields -/

section
variable {k : String} {v : Json} {fs : List (String × Json)}

/-- The names of an object that was put together differ, and its values are those it was given. -/
theorem proper_ofFields (h : ∀ f ∈ fs, Proper f.2) : Proper (.obj (ofFields fs)) := by
  have hfold : ∀ fs acc : List (String × Json), (∀ f ∈ fs, Proper f.2) → (acc.map (·.1)).Nodup →
      (∀ f ∈ acc, Proper f.2) →
      Proper (.obj (fs.foldl (fun acc f => setField f.1 f.2 acc) acc)) := by
    intro fs
    induction fs with
    | nil => exact fun acc _ hd hacc => .obj hd hacc
    | cons f fs ih =>
      intro acc hfs hd hacc
      refine ih _ (fun g hg => hfs g (List.mem_cons_of_mem _ hg))
        (nodup_of_set (setField f.1 f.2) rfl (fun _ _ => rfl) hd) fun g hg => ?_
      rcases mem_of_mem_set (setField f.1 f.2) rfl (fun _ _ => rfl) hg with rfl | hg
      · exact hfs f List.mem_cons_self
      · exact hacc g hg
  exact hfold fs [] h List.nodup_nil (by simp)

end

/-! ## What is read -/

theorem exists_of_map_eq_ok {α β : Type} {r : Reading α} {f : α × Cursor → β × Cursor} {b : β} {c : Cursor}
    (h : r.map f = .ok (b, c)) : ∃ a c', r = .ok (a, c') ∧ f (a, c') = (b, c) := by
  cases r with
  | error e => cases h
  | ok a => exact ⟨a.1, a.2, rfl, Except.ok.inj h⟩

section
variable {fuel : Nat} {c c' : Cursor} {v : Json} {vs : List Json} {fs : List (String × Json)}

theorem proper_of_word? {cs : List Char} {n : Nat} (h : word? cs = some (v, n)) : Proper v := by
  unfold word? at h
  split at h
  · cases h; exact .null
  split at h
  · cases h; exact .bool true
  split at h
  · cases h; exact .bool false
  split at h
  · cases h; exact .real fun _ => rfl
  split at h
  · cases h; exact .real fun hn => absurd hn (by decide)
  split at h
  · cases h; exact .real fun hn => absurd hn (by decide)
  · cases h

theorem proper_of_number (h : number c = .ok (v, c')) : Proper v := by
  unfold number at h
  dsimp only at h
  generalize (if (c.rest.head? == some '-') = true then c.rest.drop 1 else c.rest) = cs at h
  generalize cs.drop (wholeDigits cs).length = ds at h
  generalize exponent? _ = e at h
  split at h
  · cases h
  · split at h
    · cases h
      exact .int _
    · cases h
      exact .real fun hn => by rw [Double.isNaN_ofDecimal] at hn; cases hn

/-- What is read within a fuel is proper. -/
structure ReadsProper (fuel : Nat) : Prop where
  value {c c' : Cursor} {v : Json} (h : value fuel c = .ok (v, c')) : Proper v
  items {c c' : Cursor} {vs : List Json} (h : items fuel c = .ok (vs, c')) : ∀ v ∈ vs, Proper v
  fields {c c' : Cursor} {fs : List (String × Json)} (h : fields fuel c = .ok (fs, c')) :
    ∀ f ∈ fs, Proper f.2

theorem ReadsProper.value_succ (hfuel : ReadsProper fuel) (h : Json.value (fuel + 1) c = .ok (v, c')) :
    Proper v := by
  rw [Json.value] at h
  split at h
  · cases h
  · obtain ⟨s, _, -, heq⟩ := exists_of_map_eq_ok h
    cases heq
    exact .str s
  · dsimp only at h
    split at h
    · cases h
      exact .arr (by simp)
    · obtain ⟨xs, _, hxs, heq⟩ := exists_of_map_eq_ok h
      cases heq
      exact .arr (hfuel.items hxs)
  · dsimp only at h
    split at h
    · cases h
      exact .obj List.nodup_nil (by simp)
    · obtain ⟨fs, _, hfs, heq⟩ := exists_of_map_eq_ok h
      cases heq
      exact proper_ofFields (hfuel.fields hfs)
  · split at h
    · rename_i hword
      cases h
      exact proper_of_word? hword
    · exact proper_of_number h

theorem ReadsProper.items_succ (hfuel : ReadsProper fuel) (h : Json.items (fuel + 1) c = .ok (vs, c')) :
    ∀ v ∈ vs, Proper v := by
  rw [Json.items] at h
  split at h
  · cases h
  · rename_i x _ hx
    dsimp only at h
    split at h
    · cases h
      exact List.forall_mem_singleton.2 (hfuel.value hx)
    · obtain ⟨xs, _, hxs, heq⟩ := exists_of_map_eq_ok h
      cases heq
      exact List.forall_mem_cons.2 ⟨hfuel.value hx, hfuel.items hxs⟩
    · cases h

theorem proper_of_fieldsFrom (hfuel : ReadsProper fuel) {k : String}
    (h : fieldsFrom fuel k c = .ok (fs, c')) : ∀ f ∈ fs, Proper f.2 := by
  unfold fieldsFrom at h
  split at h
  · cases h
  · rename_i x _ hx
    split at h
    · cases h
      exact List.forall_mem_singleton.2 (hfuel.value hx)
    · obtain ⟨fs, _, hfs, heq⟩ := exists_of_map_eq_ok h
      cases heq
      exact List.forall_mem_cons.2 ⟨hfuel.value hx, hfuel.fields hfs⟩
    · cases h

theorem ReadsProper.fields_succ (hfuel : ReadsProper fuel)
    (h : Json.fields (fuel + 1) c = .ok (fs, c')) : ∀ f ∈ fs, Proper f.2 := by
  rw [Json.fields] at h
  split at h
  · split at h
    · cases h
    · dsimp only at h
      split at h
      · exact proper_of_fieldsFrom hfuel h
      · cases h
  · cases h

theorem readsProper (fuel : Nat) : ReadsProper fuel := by
  induction fuel with
  | zero =>
    refine ⟨fun h => ?_, fun h => ?_, fun h => ?_⟩
    · rw [value] at h; cases h
    · rw [items] at h; cases h
    · rw [fields] at h; cases h
  | succ fuel ih => exact ⟨ih.value_succ, ih.items_succ, ih.fields_succ⟩

/-- A value that was read can be written and read again. -/
theorem proper_of_read {t : String} (h : read t = .ok v) : Proper v := by
  unfold read at h
  dsimp only at h
  split at h
  · cases h
  · split at h
    · cases h
    · rename_i x _ hx
      split at h
      · cases h
        exact (readsProper _).value hx
      · cases h

end

/-! ## Lines -/

section
variable {cs : List Char} {l : Layout}

theorem unifyLinesList_of_notMem (h : '\r' ∉ cs) : Text.unifyLinesList cs = cs := by
  fun_induction Text.unifyLinesList cs with
  | case1 => rfl
  | case2 => exact absurd List.mem_cons_self h
  | case3 => exact absurd List.mem_cons_self h
  | case4 c cs _ _ ih => rw [ih fun hc => h (List.mem_cons_of_mem _ hc)]

theorem return_notMem_of_isDigit (h : ∀ c ∈ cs, c.isDigit = true) : '\r' ∉ cs := fun hc => by
  cases h _ hc

theorem return_notMem_hexFour (n : Nat) : '\r' ∉ hexFour n := by
  have hdigit : ∀ m, m < 16 → '\r' ≠ hexDigit m := by decide
  have hmod : ∀ m, '\r' ≠ hexDigit (m % 16) := fun m => hdigit _ (Nat.mod_lt _ (by decide))
  simp [hexFour, hmod]

theorem return_notMem_escapeChar (ascii : Bool) (c : Char) : '\r' ∉ escapeChar ascii c := by
  obtain ⟨e, -, he, htext⟩ | ⟨-, -, hc, htext⟩ | ⟨-, htext⟩ | ⟨-, htext⟩ := escapeChar_cases ascii c
  · have hne : '\r' ≠ e := by
      rintro rfl
      cases he
    simp [htext, hne]
  · have hne : '\r' ≠ c := by
      rintro rfl
      exact absurd hc (by decide)
    simp [htext, hne]
  · simp [htext, return_notMem_hexFour]
  · simp [htext, return_notMem_hexFour]

theorem return_notMem_quote (ascii : Bool) (s : String) : '\r' ∉ (quote ascii s).toList := by
  simp [quote, return_notMem_escapeChar]

theorem return_notMem_sign (negative : Bool) : '\r' ∉ sign negative := by
  cases negative <;> decide

theorem return_notMem_decimal {d : Decimal} (hd : d.IsReal) : '\r' ∉ d.text := by
  have hexp : ∀ e, '\r' ∉ Double.exponentText e := fun e => by
    have hdigits := return_notMem_of_isDigit fun c hc => Double.isDigit_exponentDigits e c hc
    unfold Double.exponentText
    split <;> simp [hdigits]
  simp only [Decimal.text, List.mem_append, not_or]
  refine ⟨⟨return_notMem_of_isDigit hd.isDigit_whole, ?_⟩, ?_⟩
  · split
    · simp
    · simp [return_notMem_of_isDigit hd.isDigit_fraction]
  · cases d.exponent with
    | none => simp
    | some e => exact hexp e

theorem return_notMem_realText (x : Double) : '\r' ∉ (realText x).toList := by
  unfold realText
  by_cases hnan : x.isNaN = true
  · rw [Double.textWith, if_pos hnan]
    decide
  by_cases hinf : x.isInfinite = true
  · rw [Double.textWith, if_neg hnan, if_pos hinf]
    cases x.isNegative <;> decide
  · obtain ⟨d, hd, htext, -⟩ := exists_decimal_textWith (Bool.eq_false_iff.2 hnan)
      (Bool.eq_false_iff.2 hinf) "NaN" "Infinity"
    rw [htext, List.mem_append, not_or]
    exact ⟨return_notMem_sign _, return_notMem_decimal hd⟩

theorem Filler.return_notMem (h : Filler cs) : '\r' ∉ cs := fun hc => (h _ hc).2 rfl

theorem Layout.Plain.return_notMem_colon (hl : l.Plain) : '\r' ∉ l.colon.toList := by
  obtain ⟨bs, htext, hbs⟩ := hl.colon
  simp [htext, hbs.return_notMem]

theorem Layout.Plain.return_notMem_comma (hl : l.Plain) (d : Nat) : '\r' ∉ (l.comma d).toList := by
  obtain ⟨bs, htext, hbs⟩ := hl.comma d
  simp [htext, hbs.return_notMem]

theorem return_notMem_writeItems (hl : l.Plain) {d : Nat} {xs : List Json}
    (h : ∀ x ∈ xs, '\r' ∉ (write l d x).toList) : '\r' ∉ (writeItems l d xs).toList := by
  induction xs with
  | nil => simp [writeItems]
  | cons x xs ih =>
    simp only [writeItems, String.toList_append, List.mem_append, not_or]
    exact ⟨⟨hl.return_notMem_comma d, h x List.mem_cons_self⟩,
      ih fun y hy => h y (List.mem_cons_of_mem _ hy)⟩

theorem return_notMem_writeFields (hl : l.Plain) {d : Nat} {fs : List (String × Json)}
    (h : ∀ f ∈ fs, '\r' ∉ (write l d f.2).toList) : '\r' ∉ (writeFields l d fs).toList := by
  induction fs with
  | nil => simp [writeFields]
  | cons f fs ih =>
    simp only [writeFields, String.toList_append, List.mem_append, not_or]
    exact ⟨⟨⟨⟨hl.return_notMem_comma d, return_notMem_quote _ _⟩, hl.return_notMem_colon⟩,
      h f List.mem_cons_self⟩, ih fun g hg => h g (List.mem_cons_of_mem _ hg)⟩

theorem return_notMem_write (hl : l.Plain) {v : Json} (hv : v.Proper) (d : Nat) :
    '\r' ∉ (write l d v).toList := by
  induction hv generalizing d with
  | null => simp [write]
  | bool b => cases b <;> simp [write]
  | int n =>
    rw [write, toList_toString_int, List.mem_append, not_or]
    exact ⟨return_notMem_sign _, return_notMem_of_isDigit fun c hc =>
      Nat.isDigit_of_mem_toDigits (by decide) (by decide) hc⟩
  | real =>
    rw [write]
    exact return_notMem_realText _
  | str s =>
    rw [write]
    exact return_notMem_quote _ s
  | @arr xs h ih =>
    cases xs with
    | nil => simp [write]
    | cons x xs =>
      have hxs := return_notMem_writeItems hl fun y hy => ih y (List.mem_cons_of_mem _ hy) (d + 1)
      simp [toList_write_arr, (hl.opening _).return_notMem, (hl.closing _).return_notMem,
        ih x List.mem_cons_self, hxs]
  | @obj fs distinct h ih =>
    cases fs with
    | nil => simp [write]
    | cons f fs =>
      have hf := ih f List.mem_cons_self (d + 1)
      obtain ⟨k, v⟩ := f
      have hfs := return_notMem_writeFields hl fun g hg => ih g (List.mem_cons_of_mem _ hg) (d + 1)
      simp [toList_write_obj, (hl.opening _).return_notMem, (hl.closing _).return_notMem,
        return_notMem_quote, hl.return_notMem_colon, hf, hfs]

/-- A value that is written to a file is read back from it. -/
theorem read_unifyLines_write (hl : l.Plain) {v : Json} (hv : v.Proper) (d : Nat) :
    read (Text.unifyLines (write l d v)) = .ok v := by
  rw [Text.unifyLines, unifyLinesList_of_notMem (return_notMem_write hl hv d), String.ofList_toList]
  exact read_write hl hv d

end

end ReportMigration.Json
