import Mathlib.Data.List.Basic
import Mathlib.Data.List.Infix
import ReportMigration.Text.Blank
import ReportMigration.Text.Like
/-!
Words and the texts that match them.

* `like_of_map_fold_eq`, `map_fold_eq_of_like`: a pattern matches its spellings in other letters, and
  one without wildcards matches nothing else;
* `OccursIn w s`: the word `w` occurs in the text `s`, in any letters; `like_within_iff`: between two
  percent signs a word without wildcards matches exactly the texts that it occurs in;
* `IsTrimmed s w`: the word `w` is the text `s` without the blanks around it; `isTrimmed_trim`: trimming
  gives such a word, and `IsTrimmed.eq_trim`: there is no other.
-/
namespace ReportMigration.Text

variable {p s w : List Char}

/-! ## Patterns -/

/-- A character that stands for others in a pattern. -/
def IsWildcard (c : Char) : Prop := c = '%' ∨ c = '_'

instance (c : Char) : Decidable (IsWildcard c) := inferInstanceAs (Decidable (_ ∨ _))

/-- A pattern matches every text that differs from it in letter case only. -/
theorem like_of_map_fold_eq (h : p.map foldAsciiChar = s.map foldAsciiChar) : Like p s := by
  induction p generalizing s with
  | nil =>
    obtain rfl : s = [] := by simpa using h.symm
    exact .nil
  | cons a p ih =>
    cases s with
    | nil => simp at h
    | cons c s =>
      obtain ⟨hc, hs⟩ := List.cons.inj h
      by_cases hany : a = '%'
      · -- the percent sign takes the one character and no more
        subst hany
        exact .take c (.skip (ih hs))
      · by_cases hone : a = '_'
        · subst hone
          exact .one c (ih hs)
        · exact .char a c hany hone hc (ih hs)

theorem like_of_fold_eq {s p : String} (h : foldAscii s = foldAscii p) : like s p = true :=
  like_iff.2 (like_of_map_fold_eq (String.ofList_injective h).symm)

theorem map_fold_eq_of_like (h : Like p s) (hp : ∀ c ∈ p, ¬ IsWildcard c) :
    p.map foldAsciiChar = s.map foldAsciiChar := by
  induction h with
  | nil => rfl
  | skip _ _ => exact absurd (.inl rfl) (hp '%' List.mem_cons_self)
  | take _ _ _ => exact absurd (.inl rfl) (hp '%' List.mem_cons_self)
  | one _ _ _ => exact absurd (.inr rfl) (hp '_' List.mem_cons_self)
  | char a c _ _ hac _ ih =>
    rw [List.map_cons, List.map_cons, hac, ih fun b hb => hp b (List.mem_cons_of_mem _ hb)]

/-! ## Words in a text -/

/-- The word occurs in the text, where ASCII letters are the same in either case. -/
def OccursIn (w s : String) : Prop := (foldAscii w).toList <:+: (foldAscii s).toList

instance (w s : String) : Decidable (OccursIn w s) := inferInstanceAs (Decidable (_ <:+: _))

/-- A character that is no wildcard matches itself, in either case, and nothing else. -/
theorem like_cons_iff {a : Char} (ha : ¬ IsWildcard a) :
    Like (a :: p) s ↔ ∃ c t, s = c :: t ∧ foldAsciiChar a = foldAsciiChar c ∧ Like p t := by
  constructor
  · intro h
    cases h with
    | skip _ => exact absurd (.inl rfl) ha
    | take _ _ => exact absurd (.inl rfl) ha
    | one _ _ => exact absurd (.inr rfl) ha
    | char _ c _ _ hac h => exact ⟨c, _, rfl, hac, h⟩
  · rintro ⟨c, t, rfl, hac, h⟩
    exact .char a c (fun he => ha (.inl he)) (fun he => ha (.inr he)) hac h

/-- A word before a percent sign matches the texts that begin with it. -/
theorem like_before_percent_iff (hw : ∀ c ∈ w, ¬ IsWildcard c) :
    Like (w ++ ['%']) s ↔ w.map foldAsciiChar <+: s.map foldAsciiChar := by
  induction w generalizing s with
  | nil =>
    refine iff_of_true ?_ List.nil_prefix
    exact like_percent_iff.2 ⟨[], List.nil_suffix, .nil⟩
  | cons a w ih =>
    have htail := fun t => ih (s := t) fun c hc => hw c (List.mem_cons_of_mem _ hc)
    rw [List.cons_append, like_cons_iff (hw a List.mem_cons_self)]
    constructor
    · rintro ⟨c, t, rfl, hac, h⟩
      rw [List.map_cons, List.map_cons, List.cons_prefix_cons]
      exact ⟨hac, (htail t).1 h⟩
    · intro h
      cases s with
      | nil => simp at h
      | cons c t =>
        rw [List.map_cons, List.map_cons, List.cons_prefix_cons] at h
        exact ⟨c, t, rfl, h.1, (htail t).2 h.2⟩

/-- A word between two percent signs matches the texts that it occurs in. -/
theorem like_between_percents_iff (hw : ∀ c ∈ w, ¬ IsWildcard c) :
    Like ('%' :: (w ++ ['%'])) s ↔ w.map foldAsciiChar <:+: s.map foldAsciiChar := by
  rw [like_percent_iff, List.infix_iff_prefix_suffix]
  constructor
  · rintro ⟨t, hts, h⟩
    exact ⟨t.map foldAsciiChar, (like_before_percent_iff hw).1 h, hts.map _⟩
  · rintro ⟨_, hwt, hts⟩
    obtain ⟨t, ht, rfl⟩ := List.suffix_map_iff.1 hts
    exact ⟨t, ht, (like_before_percent_iff hw).2 hwt⟩

/-- **Between percent signs, matching is occurrence.** -/
theorem like_within_iff {w s : String} (hw : ∀ c ∈ w.toList, ¬ IsWildcard c) :
    like s ("%" ++ w ++ "%") = true ↔ OccursIn w s := by
  have hpattern : ("%" ++ w ++ "%").toList = '%' :: (w.toList ++ ['%']) := by simp
  rw [like_iff, hpattern, like_between_percents_iff hw, OccursIn, foldAscii, foldAscii,
    String.toList_ofList, String.toList_ofList]

/-! ## Blanks around a word -/

/-- The word is the text without the blanks around it. -/
structure IsTrimmed (s w : String) : Prop where
  around : ∃ a b, s.toList = a ++ w.toList ++ b ∧ (∀ c ∈ a, isBlank c = true) ∧
    ∀ c ∈ b, isBlank c = true
  head : ∀ c, w.toList.head? = some c → isBlank c = false
  last : ∀ c, w.toList.getLast? = some c → isBlank c = false

section
variable {q : Char → Bool} {cs : List Char} {c : Char}

theorem eq_false_of_head?_dropWhile (h : (cs.dropWhile q).head? = some c) : q c = false := by
  have hnot := List.head?_dropWhile_not q cs
  rw [h] at hnot
  exact hnot

theorem dropTrailing_append_takeWhile (q : Char → Bool) (cs : List Char) :
    dropTrailing q cs ++ (cs.reverse.takeWhile q).reverse = cs := by
  rw [dropTrailing, ← List.reverse_append, List.takeWhile_append_dropWhile, List.reverse_reverse]

theorem head?_dropAround (h : (dropAround q cs).head? = some c) : q c = false := by
  obtain ⟨t, ht⟩ : ∃ t, dropAround q cs = c :: t := List.head?_eq_some_iff.1 h
  have hhead : (cs.dropWhile q).head? = some c := by
    rw [← dropTrailing_append_takeWhile q (cs.dropWhile q)]
    show (dropAround q cs ++ _).head? = some c
    rw [ht]
    rfl
  exact eq_false_of_head?_dropWhile hhead

theorem getLast?_dropAround (h : (dropAround q cs).getLast? = some c) : q c = false := by
  rw [dropAround, dropTrailing, List.getLast?_reverse] at h
  exact eq_false_of_head?_dropWhile h

theorem dropWhile_of_head? (h : ∀ c, cs.head? = some c → q c = false) : cs.dropWhile q = cs := by
  cases cs with
  | nil => rfl
  | cons c cs => rw [List.dropWhile_cons, h c rfl]; rfl

/-- What neither begins nor ends with a character of the class stays as it is. -/
theorem dropAround_eq_self (hhead : ∀ c, cs.head? = some c → q c = false)
    (hlast : ∀ c, cs.getLast? = some c → q c = false) : dropAround q cs = cs := by
  have hrev : ∀ c, cs.reverse.head? = some c → q c = false := fun c hc =>
    hlast c (by rwa [List.head?_reverse] at hc)
  rw [dropAround, dropWhile_of_head? hhead, dropTrailing, dropWhile_of_head? hrev,
    List.reverse_reverse]

end

/-- **Trimming leaves the word between the blanks.** -/
theorem isTrimmed_trim (s : String) : IsTrimmed s (trim s) where
  around := by
    refine ⟨s.toList.takeWhile isBlank,
      ((s.toList.dropWhile isBlank).reverse.takeWhile isBlank).reverse, ?_, ?_, ?_⟩
    · rw [trim, String.toList_ofList, List.append_assoc, dropAround, dropTrailing_append_takeWhile,
        List.takeWhile_append_dropWhile]
    · exact fun c hc => List.all_eq_true.1 List.all_takeWhile c hc
    · exact fun c hc => List.all_eq_true.1 List.all_takeWhile c (List.mem_reverse.1 hc)
  head c hc := by
    rw [trim, String.toList_ofList] at hc
    exact head?_dropAround hc
  last c hc := by
    rw [trim, String.toList_ofList] at hc
    exact getLast?_dropAround hc

/-- There is only one word between the blanks. -/
theorem IsTrimmed.eq_trim {s w : String} (h : IsTrimmed s w) : w = trim s := by
  obtain ⟨a, b, hs, ha, hb⟩ := h.around
  have hlast : ∀ c, w.toList.reverse.head? = some c → isBlank c = false := fun c hc =>
    h.last c (by rwa [List.head?_reverse] at hc)
  have hrest : (w.toList ++ b).dropWhile isBlank = if w.toList = [] then [] else w.toList ++ b := by
    split
    next hw =>
      rw [hw, List.nil_append, ← List.append_nil b, List.dropWhile_append_of_pos hb, List.dropWhile_nil]
    next hw =>
      refine dropWhile_of_head? fun c hc => h.head c ?_
      rwa [List.head?_append_of_ne_nil _ hw] at hc
  have htrim : dropAround isBlank s.toList = w.toList := by
    rw [dropAround, hs, List.append_assoc, List.dropWhile_append_of_pos ha, hrest]
    split
    next hw => rw [hw]; rfl
    next =>
      rw [dropTrailing, List.reverse_append,
        List.dropWhile_append_of_pos fun c hc => hb c (List.mem_reverse.1 hc),
        dropWhile_of_head? hlast, List.reverse_reverse]
  rw [trim, htrim, String.ofList_toList]

theorem trim_trim (s : String) : trim (trim s) = trim s := by
  have h := isTrimmed_trim s
  rw [trim, dropAround_eq_self h.head h.last, String.ofList_toList]

theorem mem_of_mem_trim {s : String} {c : Char} (hc : c ∈ (trim s).toList) : c ∈ s.toList := by
  obtain ⟨a, b, hs, -, -⟩ := (isTrimmed_trim s).around
  rw [hs]
  exact List.mem_append_left _ (List.mem_append_right _ hc)

end ReportMigration.Text
