import ReportMigration.Projects.Upload
import ReportMigration.Proofs.Text.Words
/-!
The names that workbooks are kept under.

* `WorkbookName.isWorkbook_iff`: the names of workbooks are those that end in one of the extensions;
* `WorkbookName.normalizeList_append`: such a name is kept as its words with single spaces between them,
  followed by the extension;
* `WorkbookName.IsNormal`: what there is to say of the name that is kept;
* `WorkbookName.normalize_isNormal`: normalisation gives such a name, and changes it no further.
-/
namespace ReportMigration.WorkbookName

open Text

variable {name kept stem e : List Char}

/-! ## Extensions -/

theorem isWorkbook_iff {name : String} :
    isWorkbook name = true ↔ ∃ e ∈ extensions, e <:+ name.toList := by
  have hends : ∀ w : String, name.endsWith w = true ↔ w.toList <:+ name.toList := fun w => by
    have h : name.endsWith w = name.toSlice.endsWith w := rfl
    rw [h, String.Slice.endsWith_string_iff, String.copy_toSlice]
  rw [isWorkbook, Bool.or_eq_true_iff, hends, hends, or_comm]
  simp [extensions]

theorem isWord_of_mem_extensions (he : e ∈ extensions) : IsWord e := by
  have hall : (extensions.all fun e => !e.isEmpty && e.all fun c => !isBlank c) = true := by decide
  have hword := List.all_eq_true.1 hall e he
  simp only [Bool.and_eq_true, Bool.not_eq_true', List.isEmpty_eq_false_iff, List.all_eq_true] at hword
  exact ⟨hword.1, hword.2⟩

/-- A name ends in at most one of the extensions. -/
theorem find?_extensions (he : e ∈ extensions) (cs : List Char) :
    extensions.find? (fun x => x.isSuffixOf (cs ++ e)) = some e := by
  simp only [extensions, List.mem_cons, List.not_mem_nil, or_false] at he
  rcases he with rfl | rfl <;> simp [extensions, List.isSuffixOf, List.isPrefixOf]

theorem split_append (he : e ∈ extensions) : split (stem ++ e) = (stem, e) := by
  have hfold : ∀ x ∈ extensions, x.map foldAsciiChar = x := by decide
  rw [split, List.map_append, hfold e he, find?_extensions he]
  simp

/-- The blanks around a name are those before its stem. -/
theorem dropAround_append (he : IsWord e) :
    dropAround isBlank (stem ++ e) = stem.dropWhile isBlank ++ e := by
  have hstart : (stem ++ e).dropWhile isBlank = stem.dropWhile isBlank ++ e := by
    rw [List.dropWhile_append]
    split
    next hnone => rw [List.isEmpty_iff.1 hnone, dropWhile_of_head? (IsSpaced.of_isWord he).head]; rfl
    next => rfl
  obtain ⟨w, c, rfl⟩ : ∃ w c, e = w ++ [c] := ⟨_, _, (List.dropLast_append_getLast he.ne_nil).symm⟩
  rw [dropAround, hstart, ← List.append_assoc, dropTrailing_append_of_neg _ (he.notBlank c (by simp))]

theorem normalizeList_append (he : e ∈ extensions) :
    normalizeList (stem ++ e) = spaced (words stem) ++ e := by
  have hword := isWord_of_mem_extensions he
  have hne : e.isEmpty = false := by simpa using hword.ne_nil
  have hstem : dropTrailing isBlank (stem.dropWhile isBlank) = dropAround isBlank stem := rfl
  rw [normalizeList, dropAround_append hword, split_append he]
  dsimp only
  rw [hne, if_neg Bool.false_ne_true, hstem, squeeze, squeezeFrom_append false _ hword, ← squeeze,
    squeeze_eq_spaced (fun c => head?_dropAround) (fun c => getLast?_dropAround), words_dropAround]

/-! ## The name that is kept -/

/-- The name of a workbook with the extension `e`, and the normal form of this name. -/
structure IsNormal (e name kept : List Char) : Prop where
  /-- There are no blanks but single spaces between other characters. -/
  spaced : IsSpaced kept
  /-- Both end in the extension. Before it they have the same words, and the normal form has no blank. -/
  ends : ∃ stem stem', name = stem ++ e ∧ kept = stem' ++ e ∧ words stem' = words stem ∧
    ∀ c, stem'.getLast? = some c → isBlank c = false
  /-- All that is not blank is there, in its order. -/
  characters : kept.filter (!isBlank ·) = name.filter (!isBlank ·)

theorem isNormal_normalizeList (he : e ∈ extensions) (stem : List Char) :
    IsNormal e (stem ++ e) (normalizeList (stem ++ e)) := by
  have hwords : ∀ w ∈ words stem, IsWord w := fun w hw => isWord_of_mem_words hw
  have hspaced := isSpaced_spaced hwords
  rw [normalizeList_append he]
  refine ⟨hspaced.append_word (isWord_of_mem_extensions he),
    ⟨stem, _, rfl, rfl, words_spaced hwords, hspaced.last⟩, ?_⟩
  rw [List.filter_append, List.filter_append, ← flatten_words, words_spaced hwords, flatten_words]

theorem normalizeList_normalizeList (he : e ∈ extensions) (stem : List Char) :
    normalizeList (normalizeList (stem ++ e)) = normalizeList (stem ++ e) := by
  rw [normalizeList_append he, normalizeList_append he,
    words_spaced fun w hw => isWord_of_mem_words hw]

/-- **The name of a workbook is kept in a normal form.** Blanks around it and before its extension go, all
    others become single spaces, and nothing else changes; the name that is kept stays as it is. -/
theorem normalize_isNormal (name : String) (h : isWorkbook name = true) :
    (∃ e ∈ extensions, IsNormal e name.toList (normalize name).toList) ∧
      normalize (normalize name) = normalize name := by
  obtain ⟨e, he, stem, hname⟩ := isWorkbook_iff.1 h
  refine ⟨⟨e, he, ?_⟩, ?_⟩
  · rw [normalize, String.toList_ofList, ← hname]
    exact isNormal_normalizeList he stem
  · rw [normalize, normalize, String.toList_ofList, ← hname, normalizeList_normalizeList he]

/-- Tabs, wide blanks and an extension that stands apart. -/
theorem normalize_isNormal_padded :
    isWorkbook "\u3000Q1\t \tsales .twb .twbx" = true ∧
      normalize "\u3000Q1\t \tsales .twb .twbx" = "Q1 sales .twb.twbx" ∧
      normalize "Q1 sales .twb.twbx" = "Q1 sales .twb.twbx" ∧
      ∃ e ∈ extensions, IsNormal e "\u3000Q1\t \tsales .twb .twbx".toList "Q1 sales .twb.twbx".toList := by
  have hname : isWorkbook "\u3000Q1\t \tsales .twb .twbx" = true := by decide +kernel
  have hkept : normalize "\u3000Q1\t \tsales .twb .twbx" = "Q1 sales .twb.twbx" := by decide +kernel
  obtain ⟨⟨e, he, hnormal⟩, hagain⟩ := normalize_isNormal _ hname
  rw [hkept] at hnormal hagain
  exact ⟨hname, hkept, hagain, e, he, hnormal⟩

end ReportMigration.WorkbookName
