import Mathlib.Data.List.Basic
import Mathlib.Data.List.Chain
import ReportMigration.Proofs.Text.Matching
/-!
The words of a text.

* `words cs`: the longest runs of characters that are not blank (`isWord_of_mem_words`), which together
  are all such characters (`flatten_words`);
* `spaced ws`: the words `ws` with one space between each two, of which `ws` are the words again
  (`words_spaced`);
* `IsSpaced cs`: `cs` has no blanks but single spaces between other characters;
* `squeeze_eq_spaced`: a text with no blanks around it is squeezed to its words with spaces between them.
-/
namespace ReportMigration.Text

variable {c d : Char} {cs w : List Char} {ws : List (List Char)}

/-! ## Words -/

/-- The words of a text. -/
def words (cs : List Char) : List (List Char) := (cs.splitOnP isBlank).filter (!·.isEmpty)

/-- Some characters that are not blank. -/
structure IsWord (w : List Char) : Prop where
  ne_nil : w ≠ []
  notBlank : ∀ c ∈ w, isBlank c = false

theorem words_nil : words [] = [] := by
  simp [words, List.splitOnP_nil]

theorem words_append_cons (xs ys : List Char) (h : isBlank c = true) :
    words (xs ++ c :: ys) = words xs ++ words ys := by
  rw [words, List.splitOnP_append_cons _ _ h, List.filter_append]
  rfl

theorem words_cons_of_blank (h : isBlank c = true) : words (c :: cs) = words cs := by
  have hcut := words_append_cons [] cs h
  rwa [words_nil, List.nil_append, List.nil_append] at hcut

theorem words_eq_nil (h : ∀ c ∈ cs, isBlank c = true) : words cs = [] := by
  induction cs with
  | nil => exact words_nil
  | cons c cs ih =>
    rw [words_cons_of_blank (h c List.mem_cons_self)]
    exact ih fun d hd => h d (List.mem_cons_of_mem _ hd)

theorem words_append_of_blank (h : ∀ c ∈ w, isBlank c = true) : words (cs ++ w) = words cs := by
  cases w with
  | nil => rw [List.append_nil]
  | cons c w =>
    rw [words_append_cons _ _ (h c List.mem_cons_self),
      words_eq_nil fun d hd => h d (List.mem_cons_of_mem _ hd), List.append_nil]

theorem words_of_isWord (h : IsWord w) : words w = [w] := by
  simp [words, List.splitOnP_eq_singleton h.notBlank, h.ne_nil]

/-- A character before a blank is a word of its own. -/
theorem words_cons_cons_of_blank (cs : List Char) (hc : isBlank c = false) (hd : isBlank d = true) :
    words (c :: d :: cs) = [c] :: words (d :: cs) := by
  have hcut := words_append_cons [c] cs hd
  rw [words_of_isWord ⟨List.cons_ne_nil _ _, by simpa using hc⟩] at hcut
  rw [words_cons_of_blank hd]
  exact hcut

/-- A character before a word belongs to it. -/
theorem exists_words_cons_cons (cs : List Char) (hc : isBlank c = false) (hd : isBlank d = false) :
    ∃ w ws, words (d :: cs) = w :: ws ∧ words (c :: d :: cs) = (c :: w) :: ws := by
  obtain ⟨l, ls, hl⟩ := List.exists_cons_of_ne_nil (List.splitOnP_ne_nil isBlank cs)
  refine ⟨d :: l, ls.filter (!·.isEmpty), ?_, ?_⟩ <;>
    simp [words, List.splitOnP_cons_eq_if_modifyHead, hl, hc, hd]

/-- The words of a text are all that is not blank in it. -/
theorem flatten_words (cs : List Char) : (words cs).flatten = cs.filter (!isBlank ·) := by
  rw [words, List.flatten_filter_not_isEmpty]
  induction cs with
  | nil => simp [List.splitOnP_nil]
  | cons c cs ih =>
    obtain ⟨l, ls, hl⟩ := List.exists_cons_of_ne_nil (List.splitOnP_ne_nil isBlank cs)
    rw [hl] at ih
    rw [List.splitOnP_cons_eq_if_modifyHead, hl, List.filter_cons, ← ih]
    cases hc : isBlank c <;> simp

theorem words_ne_nil (h : c ∈ cs) (hc : isBlank c = false) : words cs ≠ [] := by
  intro hnil
  have hmem : c ∈ cs.filter (!isBlank ·) := List.mem_filter.2 ⟨h, by rw [hc]; rfl⟩
  rw [← flatten_words, hnil] at hmem
  cases hmem

theorem isWord_of_mem_words (h : w ∈ words cs) : IsWord w := by
  refine ⟨by simpa using (List.mem_filter.1 h).2, fun c hc => ?_⟩
  have hmem : c ∈ (words cs).flatten := List.mem_flatten.2 ⟨w, h, hc⟩
  rw [flatten_words] at hmem
  simpa using (List.mem_filter.1 hmem).2

theorem words_dropAround (cs : List Char) : words (dropAround isBlank cs) = words cs := by
  have hstart : ∀ xs : List Char, words (xs.dropWhile isBlank) = words xs := by
    intro xs
    induction xs with
    | nil => rfl
    | cons c xs ih =>
      cases hc : isBlank c with
      | false => rw [List.dropWhile_cons, hc]; rfl
      | true => rw [List.dropWhile_cons, hc, words_cons_of_blank hc]; exact ih
  rw [dropAround]
  conv_rhs => rw [← hstart cs, ← dropTrailing_append_takeWhile isBlank (cs.dropWhile isBlank)]
  refine (words_append_of_blank fun c hc => ?_).symm
  exact List.all_eq_true.1 List.all_takeWhile c (List.mem_reverse.1 hc)

/-! ## Words with spaces between them -/

/-- Words with one space between each two. -/
def spaced (ws : List (List Char)) : List Char := [' '].intercalate ws

theorem spaced_singleton (w : List Char) : spaced [w] = w := by
  simp [spaced]

theorem spaced_cons (w : List Char) (hws : ws ≠ []) : spaced (w :: ws) = w ++ ' ' :: spaced ws := by
  cases ws with
  | nil => exact absurd rfl hws
  | cons v ws => simp [spaced, List.intercalate_cons_cons]

theorem words_spaced (h : ∀ w ∈ ws, IsWord w) : words (spaced ws) = ws := by
  induction ws with
  | nil => exact words_nil
  | cons w ws ih =>
    have hw := words_of_isWord (h w List.mem_cons_self)
    by_cases hws : ws = []
    · rw [hws, spaced_singleton, hw]
    · rw [spaced_cons w hws, words_append_cons _ _ (by decide), hw,
        ih fun v hv => h v (List.mem_cons_of_mem _ hv)]
      rfl

/-- There are no blanks but single spaces, each with other characters on both sides. -/
structure IsSpaced (cs : List Char) : Prop where
  head : ∀ c, cs.head? = some c → isBlank c = false
  last : ∀ c, cs.getLast? = some c → isBlank c = false
  space : ∀ c ∈ cs, isBlank c = true → c = ' '
  single : cs.IsChain fun a b => isBlank a = false ∨ isBlank b = false

namespace IsSpaced

theorem of_isWord (h : IsWord w) : IsSpaced w where
  head c hc := h.notBlank c (List.mem_of_mem_head? hc)
  last c hc := h.notBlank c (List.mem_of_mem_getLast? hc)
  space c hc hblank := by
    rw [h.notBlank c hc] at hblank
    cases hblank
  single := (List.pairwise_of_forall_mem_list fun a ha _ _ => .inl (h.notBlank a ha)).isChain

/-- A word can follow without a space. -/
theorem append_word (h : IsSpaced cs) (hw : IsWord w) : IsSpaced (cs ++ w) where
  head c hc := by
    rw [List.head?_append, Option.or_eq_some_iff] at hc
    exact hc.elim (h.head c) fun hc => (of_isWord hw).head c hc.2
  last c hc := by
    rw [List.getLast?_append_of_ne_nil _ hw.ne_nil] at hc
    exact (of_isWord hw).last c hc
  space c hc := (List.mem_append.1 hc).elim (h.space c) ((of_isWord hw).space c)
  single := List.isChain_append.2
    ⟨h.single, (of_isWord hw).single, fun _ _ d hd => .inr ((of_isWord hw).head d hd)⟩

/-- A word can come before, with a space. -/
theorem word_append (hw : IsWord w) (h : IsSpaced cs) (hne : cs ≠ []) : IsSpaced (w ++ ' ' :: cs) where
  head c hc := by
    rw [List.head?_append_of_ne_nil _ hw.ne_nil] at hc
    exact (of_isWord hw).head c hc
  last c hc := by
    rw [List.getLast?_append_of_ne_nil _ (List.cons_ne_nil _ _), List.getLast?_cons_of_ne_nil hne] at hc
    exact h.last c hc
  space c hc := by
    rcases List.mem_append.1 hc with hc | hc
    · exact (of_isWord hw).space c hc
    · rcases List.mem_cons.1 hc with rfl | hc
      · exact fun _ => rfl
      · exact h.space c hc
  single := by
    refine List.isChain_append.2 ⟨(of_isWord hw).single, List.isChain_cons.2 ⟨?_, h.single⟩, ?_⟩
    · exact fun d hd => .inr (h.head d hd)
    · exact fun c hc _ _ => .inl ((of_isWord hw).last c hc)

end IsSpaced

theorem isSpaced_spaced (h : ∀ w ∈ ws, IsWord w) : IsSpaced (spaced ws) := by
  induction ws with
  | nil => exact ⟨nofun, nofun, nofun, .nil⟩
  | cons w ws ih =>
    have hw := h w List.mem_cons_self
    have hrest := ih fun v hv => h v (List.mem_cons_of_mem _ hv)
    cases ws with
    | nil => exact (spaced_singleton w).symm ▸ .of_isWord hw
    | cons v ws =>
      rw [spaced_cons w (List.cons_ne_nil v ws)]
      refine .word_append hw hrest fun hnil => ?_
      have hv := (h v (by simp)).ne_nil
      by_cases hws : ws = []
      · rw [hws, spaced_singleton] at hnil
        exact hv hnil
      · rw [spaced_cons v hws, List.append_eq_nil_iff] at hnil
        exact hv hnil.1

/-! ## Squeezing -/

/-- The state at the end of a text does not matter to what follows, if this is not blank. -/
theorem squeezeFrom_append (b : Bool) (cs : List Char) (hw : IsWord w) :
    squeezeFrom b (cs ++ w) = squeezeFrom b cs ++ w := by
  have hword : ∀ (b : Bool) (v : List Char), (∀ c ∈ v, isBlank c = false) → squeezeFrom b v = v := by
    intro b v hv
    induction v generalizing b with
    | nil => rfl
    | cons c v ih =>
      rw [squeezeFrom, hv c List.mem_cons_self, ih false fun d hd => hv d (List.mem_cons_of_mem _ hd)]
      rfl
  induction cs generalizing b with
  | nil => exact hword b w hw.notBlank
  | cons c cs ih =>
    rw [List.cons_append, squeezeFrom, squeezeFrom, ih, ih]
    cases isBlank c <;> cases b <;> rfl

/-- Squeezing leaves the words, with spaces between them; where a run of blanks is already under way,
    those at the start of the text belong to it. -/
theorem squeezeFrom_eq_spaced (hlast : ∀ c, cs.getLast? = some c → isBlank c = false) (b : Bool)
    (hb : b = true ∨ ∀ c, cs.head? = some c → isBlank c = false) :
    squeezeFrom b cs = spaced (words cs) := by
  induction cs generalizing b with
  | nil => rw [words_nil]; rfl
  | cons c cs ih =>
    by_cases hnil : cs = []
    · subst hnil
      have hc := hlast c rfl
      rw [words_of_isWord ⟨List.cons_ne_nil _ _, by simpa using hc⟩, spaced_singleton, squeezeFrom, hc]
      rfl
    · have hrest := ih (by rwa [List.getLast?_cons_of_ne_nil hnil] at hlast)
      cases hc : isBlank c with
      | true =>
        rcases hb with rfl | hb
        · rw [squeezeFrom, hc, words_cons_of_blank hc, ← hrest true (.inl rfl)]
          rfl
        · exact absurd (hb c rfl) (by simp [hc])
      | false =>
        obtain ⟨d, ds, rfl⟩ := List.exists_cons_of_ne_nil hnil
        rw [squeezeFrom, hc]
        cases hd : isBlank d with
        | true =>
          -- the last character is not blank, so that another word follows
          have hmore : words (d :: ds) ≠ [] := by
            have he := List.getLast?_eq_some_getLast hnil
            rw [← List.getLast?_cons_of_ne_nil (x := c) hnil] at he
            exact words_ne_nil (List.getLast_mem hnil) (hlast _ he)
          have hgap : squeezeFrom false (d :: ds) = ' ' :: squeezeFrom true (d :: ds) := by
            simp [squeezeFrom, hd]
          rw [words_cons_cons_of_blank ds hc hd, spaced_cons _ hmore, ← hrest true (.inl rfl), hgap]
          rfl
        | false =>
          obtain ⟨w, ws, hw, hcw⟩ := exists_words_cons_cons ds hc hd
          rw [hrest false (.inr fun e he => by cases he; exact hd), hw, hcw]
          by_cases hws : ws = []
          · rw [hws, spaced_singleton, spaced_singleton]
            rfl
          · rw [spaced_cons _ hws, spaced_cons _ hws]
            rfl

/-- **A text with no blanks around it is squeezed to its words with single spaces.** -/
theorem squeeze_eq_spaced (hhead : ∀ c, cs.head? = some c → isBlank c = false)
    (hlast : ∀ c, cs.getLast? = some c → isBlank c = false) : squeeze cs = spaced (words cs) :=
  squeezeFrom_eq_spaced hlast false (.inr hhead)

end ReportMigration.Text
