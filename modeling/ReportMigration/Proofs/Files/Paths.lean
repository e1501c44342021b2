import ReportMigration.Proofs.Files.Folders
/-!
Paths by their names.

A path that stands for the names `xs` is `"/".intercalate xs`. What is between its slashes are these
names again (`Path.parts_intercalate`), so that the ways to make one path of another are ways to make
one list of names of another: going below a folder appends names (`Path.below_intercalate`), another
suffix changes the last one (`Path.withSuffix_intercalate`), and the folder of a path is what comes
before it (`Path.dirName_intercalate`).
-/
namespace ReportMigration.Path

variable {p s x : String} {xs ys : List String}

/-! ## What is between slashes -/

theorem slash_notMem_of_splitOn {cs : List Char} : ∀ {l : List Char}, l ∈ cs.splitOn '/' → '/' ∉ l := by
  induction cs with
  | nil =>
    intro l h
    simp only [List.splitOn_nil, List.mem_singleton] at h
    simp [h]
  | cons c cs ih =>
    intro l h
    rw [List.splitOn_cons_eq_if_modifyHead] at h
    split at h
    · rcases List.mem_cons.1 h with rfl | h
      · simp
      · exact ih h
    · rename_i hc
      cases hs : cs.splitOn '/' with
      | nil => exact absurd hs (List.splitOn_ne_nil _ _)
      | cons y ys =>
        rw [hs, List.modifyHead_cons] at h
        rcases List.mem_cons.1 h with rfl | h
        · have hy : '/' ∉ y := ih (hs ▸ List.mem_cons_self)
          have hne : '/' ≠ c := fun he => hc (by simp [← he])
          exact fun hm => (List.mem_cons.1 hm).elim hne hy
        · exact ih (hs ▸ List.mem_cons_of_mem _ h)

theorem slash_notMem_of_parts (h : s ∈ parts p) : '/' ∉ s.toList := by
  obtain ⟨l, hl, rfl⟩ := List.mem_map.1 h
  rw [String.toList_ofList]
  exact slash_notMem_of_splitOn hl

theorem parts_intercalate (hne : xs ≠ []) (hxs : ∀ x ∈ xs, '/' ∉ x.toList) :
    parts ("/".intercalate xs) = xs := by
  have hid : (String.ofList ∘ String.toList : String → String) = id := by
    funext s
    exact String.ofList_toList
  rw [parts, String.toList_intercalate, toList_slash, List.splitOn_intercalate, List.map_map, hid,
    List.map_id]
  · intro l hl
    obtain ⟨x, hx, rfl⟩ := List.mem_map.1 hl
    exact hxs x hx
  · simpa using hne

/-- What is between the slashes of two paths with a slash between them. -/
theorem parts_append (p q : String) : parts (p ++ "/" ++ q) = parts p ++ parts q := by
  rw [parts, String.toList_append, String.toList_append, toList_slash, List.append_assoc,
    List.singleton_append, List.splitOn_append_cons_self, List.map_append]
  rfl

theorem intercalate_append (hx : xs ≠ []) (hy : ys ≠ []) (hxs : ∀ x ∈ xs, '/' ∉ x.toList)
    (hys : ∀ y ∈ ys, '/' ∉ y.toList) :
    "/".intercalate (xs ++ ys) = "/".intercalate xs ++ "/" ++ "/".intercalate ys := by
  rw [← intercalate_parts ("/".intercalate xs ++ "/" ++ "/".intercalate ys), parts_append,
    parts_intercalate hx hxs, parts_intercalate hy hys]

/-- A path that starts with a slash has an empty text before it. -/
theorem startsWith_slash_of_parts (h : "" ∉ parts p) : p.startsWith "/" = false := by
  rw [← Bool.not_eq_true, startsWith_slash_iff]
  intro hhead
  obtain ⟨cs, hcs⟩ := List.head?_eq_some_iff.1 hhead
  refine h ?_
  rw [parts, hcs, ← List.nil_append ('/' :: cs), List.splitOn_append_cons_self, List.splitOn_nil]
  simp

theorem endsWith_slash_of_parts (h : "" ∉ parts p) : p.endsWith "/" = false := by
  rw [← Bool.not_eq_true, endsWith_slash_iff]
  rintro ⟨cs, hcs⟩
  have hparts : parts p = parts (.ofList cs) ++ [""] := parts_eq_append (by simp) hcs
  exact h (by simp [hparts])

/-! ## Names -/

theorem mem_names : s ∈ names p ↔ s ∈ parts p ∧ s ≠ "" ∧ s ≠ "." := by
  simp [names]

theorem isName_of_mem_names (h : s ∈ names p) (hup : s ≠ "..") : IsName s := by
  obtain ⟨hs, hempty, hdot⟩ := mem_names.1 h
  exact ⟨hempty, hdot, hup, slash_notMem_of_parts hs⟩

section
variable (hne : xs ≠ []) (hxs : ∀ x ∈ xs, IsName x)
include hne hxs

theorem parts_of_names : parts ("/".intercalate xs) = xs :=
  parts_intercalate hne fun x hx => (hxs x hx).slash_notMem

theorem empty_notMem_parts : "" ∉ parts ("/".intercalate xs) := by
  rw [parts_of_names hne hxs]
  exact fun h => (hxs _ h).ne_empty rfl

theorem names_intercalate : names ("/".intercalate xs) = xs := by
  rw [names, parts_of_names hne hxs, List.filter_eq_self]
  intro x hx
  simp [(hxs x hx).ne_empty, (hxs x hx).ne_dot]

theorem intercalate_ne_empty : "/".intercalate xs ≠ "" := by
  intro h
  have hnil := names_intercalate hne hxs
  rw [h] at hnil
  exact hne (hnil.symm.trans (by decide))

theorem tidy_intercalate : tidy ("/".intercalate xs) = "/".intercalate xs := by
  have hstart := startsWith_slash_of_parts (empty_notMem_parts hne hxs)
  have hdouble : ("/".intercalate xs).startsWith "//" = false := by
    rw [← Bool.not_eq_true, String.startsWith_string_iff]
    rintro ⟨cs, hcs⟩
    rw [← Bool.not_eq_true, startsWith_slash_iff, ← hcs] at hstart
    exact hstart (by simp)
  have hempty := String.isEmpty_eq_false_iff.2 (intercalate_ne_empty hne hxs)
  simp [tidy, names_intercalate hne hxs, hstart, hdouble, hempty]

/-! ## One path made of another -/

theorem below_intercalate {b : String} (hb : b.startsWith "/" = false) :
    below ("/".intercalate xs) b = "/".intercalate (xs ++ names b) := by
  have hdot : "/".intercalate xs ≠ "." := by
    intro h
    have hparts := parts_of_names hne hxs
    rw [h, show parts "." = ["."] by decide] at hparts
    exact (hxs "." (hparts ▸ List.mem_singleton.2 rfl)).ne_dot rfl
  have hend := endsWith_slash_of_parts (empty_notMem_parts hne hxs)
  rw [below, if_neg (by simp [hb])]
  simp only [tidy_intercalate hne hxs]
  cases hnames : names b with
  | nil => simp
  | cons y ys =>
    have hslash : ∀ z ∈ y :: ys, '/' ∉ z.toList := fun z hz =>
      slash_notMem_of_parts (mem_names.1 (hnames ▸ hz)).1
    have hfull : ("/".intercalate (y :: ys)).isEmpty = false := by
      refine String.isEmpty_eq_false_iff.2 fun h => ?_
      have hparts := parts_intercalate (List.cons_ne_nil y ys) hslash
      rw [h, show parts "" = [""] by decide] at hparts
      exact (mem_names.1 (hnames ▸ List.mem_cons_self)).2.1 (List.cons.inj hparts).1.symm
    rw [intercalate_append hne (List.cons_ne_nil y ys) (fun x hx => (hxs x hx).slash_notMem) hslash]
    simp [hfull, hdot, hend]

theorem dirName_intercalate (hx : IsName x) :
    dirName ("/".intercalate (xs ++ [x])) = "/".intercalate xs := by
  have hend := endsWith_slash_of_parts (empty_notMem_parts hne hxs)
  have hempty := intercalate_ne_empty hne hxs
  have hstart : x.startsWith "/" = false := by
    rw [← Bool.not_eq_true, startsWith_slash_iff]
    exact fun h => hx.slash_notMem (List.mem_of_head? h)
  have hjoin : join ("/".intercalate xs) x = "/".intercalate (xs ++ [x]) := by
    rw [intercalate_append hne (List.cons_ne_nil x []) (fun y hy => (hxs y hy).slash_notMem)
      (by simpa using hx.slash_notMem)]
    simp [join, hstart, hend, String.isEmpty_eq_false_iff.2 hempty]
  obtain ⟨-, n, hn⟩ := dirName_join hempty hx.slash_notMem
  rw [hjoin] at hn
  cases n with
  | zero => exact (String.toList_inj.1 (by simpa using hn)).symm
  | succ n =>
    rw [List.replicate_succ', ← List.append_assoc] at hn
    rw [endsWith_slash_iff.2 ⟨_, hn⟩] at hend
    cases hend

theorem mem_ancestors (h : p ∈ Disk.ancestors ("/".intercalate xs)) :
    ∃ i, p = "/".intercalate (xs.take (i + 1)) := by
  obtain ⟨i, -, rfl⟩ := List.mem_map.1 (List.mem_filter.1 h).1
  exact ⟨i, by rw [parts_of_names hne hxs]⟩

end

theorem mem_stem {c : Char} (h : c ∈ (stem s).toList) : c ∈ s.toList := by
  rw [stem, String.toList_ofList] at h
  exact List.mem_of_mem_take h

/-- A suffix that is put behind a text is the one that is found. -/
theorem suffix_append {ext : List Char} (hs : s ≠ "") (hext : ext ≠ []) (hdot : '.' ∉ ext) :
    suffix (s ++ .ofList ('.' :: ext)) = .ofList ('.' :: ext) := by
  have hfound : ((s.toList ++ '.' :: ext).reverse.takeWhile (· ≠ '.')).reverse = ext := by
    rw [List.reverse_append, List.reverse_cons, List.append_assoc,
      List.takeWhile_append_of_pos fun c hc => by
        simpa using fun h : c = '.' => hdot (h ▸ List.mem_reverse.1 hc)]
    simp
  have hlength : 0 < s.toList.length := by
    rw [List.length_pos_iff]
    exact fun h => hs (String.toList_eq_nil_iff.1 h)
  rw [suffix, String.toList_append, String.toList_ofList]
  simp only [hfound]
  rw [if_pos]
  simp only [List.length_append, List.length_cons, Bool.and_eq_true, decide_eq_true_eq]
  exact ⟨by omega, by simpa using hext⟩

theorem stem_append {ext : List Char} (hs : s ≠ "") (hext : ext ≠ []) (hdot : '.' ∉ ext) :
    stem (s ++ .ofList ('.' :: ext)) = s := by
  rw [stem, suffix_append hs hext hdot, String.length_append, Nat.add_sub_cancel,
    String.toList_append, ← String.length_toList, List.take_left, String.ofList_toList]

theorem stem_ne_empty (h : suffix s ≠ "") : stem s ≠ "" := by
  intro hstem
  rw [stem, ← String.toList_eq_nil_iff, String.toList_ofList, List.take_eq_nil_iff] at hstem
  rw [suffix] at h hstem
  split at h
  next hcut =>
    rw [if_pos hcut] at hstem
    simp only [Bool.and_eq_true, decide_eq_true_eq] at hcut
    rcases hstem with hstem | hstem
    · simp only [← String.length_toList, String.toList_ofList, List.length_cons] at hstem
      omega
    · simp [hstem] at hcut
  next => exact h rfl

/-- A text without slashes and an extension are a name. -/
theorem isName_extended {s ext : String} (hs : '/' ∉ s.toList) (hext : '/' ∉ ext.toList)
    (hlength : 2 < ext.length) : IsName (s ++ ext) := by
  have hne : ∀ t : String, t.length ≤ 2 → s ++ ext ≠ t := by
    rintro t ht rfl
    rw [String.length_append] at ht
    omega
  refine ⟨hne _ (by decide), hne _ (by decide), hne _ (by decide), ?_⟩
  rw [String.toList_append, List.mem_append]
  exact not_or.2 ⟨hs, hext⟩

theorem isName_withSuffix {k ext : String} (hk : IsName k) (hext : '/' ∉ ext.toList)
    (hlength : 2 < ext.length) : IsName (stem k ++ ext) :=
  isName_extended (fun h => hk.slash_notMem (mem_stem h)) hext hlength

theorem slash_notMem_lastName (p : String) : '/' ∉ (lastName p).toList := by
  rw [lastName]
  rcases List.eq_nil_or_concat (names p) with hnil | ⟨xs, x, hx⟩
  · rw [hnil]
    decide
  · rw [hx, List.concat_eq_append, List.getLastD_concat]
    have hmem : x ∈ names p := by simp [hx]
    exact slash_notMem_of_parts (mem_names.1 hmem).1

theorem lastName_of_parts (h : parts p = xs ++ [x]) (hx : IsName x) : lastName p = x := by
  rw [lastName, names, h, List.filter_append]
  simp [hx.ne_empty, hx.ne_dot]

theorem lastName_intercalate (hxs : ∀ y ∈ xs ++ [x], IsName y) :
    lastName ("/".intercalate (xs ++ [x])) = x := by
  rw [lastName, names_intercalate (by simp) hxs, List.getLastD_concat]

/-- Another suffix is another last name. -/
theorem withSuffix_intercalate {ext : String} (hne : xs ≠ []) (hxs : ∀ y ∈ xs ++ [x], IsName y)
    (hext : '/' ∉ ext.toList) :
    withSuffix ("/".intercalate (xs ++ [x])) ext = "/".intercalate (xs ++ [stem x ++ ext]) := by
  have hslash : ∀ y ∈ xs, '/' ∉ y.toList := fun y hy =>
    (hxs y (List.mem_append_left _ hy)).slash_notMem
  have hx : '/' ∉ x.toList := (hxs x (by simp)).slash_notMem
  have hnew : '/' ∉ (stem x ++ ext).toList := by
    rw [String.toList_append, List.mem_append]
    rintro (h | h)
    · exact hx (mem_stem h)
    · exact hext h
  have hold : ("/".intercalate (xs ++ [x])).toList = ("/".intercalate xs ++ "/").toList ++ x.toList := by
    rw [intercalate_append hne (List.cons_ne_nil x []) hslash (by simpa using hx),
      String.toList_append]
    simp
  have htake : ("/".intercalate (xs ++ [x])).toList.take
      (("/".intercalate (xs ++ [x])).length - x.length) = ("/".intercalate xs ++ "/").toList := by
    rw [← String.length_toList, ← String.length_toList, hold, List.length_append,
      Nat.add_sub_cancel, List.take_left]
  rw [withSuffix, lastName_intercalate hxs, htake, String.ofList_toList,
    intercalate_append hne (List.cons_ne_nil _ []) hslash (by simpa using hnew)]
  simp [String.append_assoc]

end ReportMigration.Path
