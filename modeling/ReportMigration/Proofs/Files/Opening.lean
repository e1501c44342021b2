import ReportMigration.Proofs.Files.Paths
/-!
Opening a file for writing, by any path.

* `Path.getLast?_parts`: what comes last in a path is empty only after a slash;
* `Disk.OpensAt d path p`: a file can be opened by the path, at the place `p`. This is what a write asks
  for, whatever it writes (`Disk.write_eq_ok_iff`);
* `Disk.read_written`: what was written by a path is read by it;
* `Disk.opens_sameFolders`: which files can be opened depends on the folders alone.
-/
namespace ReportMigration

theorem Path.getLast?_parts {path : String} (hpath : path ≠ "") (hslash : path.endsWith "/" = false) :
    (parts path).getLast? ≠ some "" := by
  intro hlast
  obtain ⟨xs, hxs⟩ := List.getLast?_eq_some_iff.1 hlast
  have hparts : ∀ x ∈ xs ++ [""], '/' ∉ x.toList := fun x hx => slash_notMem_of_parts (hxs ▸ hx)
  have hjoined := intercalate_parts path
  rw [hxs] at hjoined
  by_cases hnil : xs = []
  · subst hnil
    exact hpath hjoined.symm
  · rw [intercalate_append hnil (by simp) (fun x hx => hparts x (by simp [hx])) (by simp)] at hjoined
    rw [← Bool.not_eq_true, endsWith_slash_iff, ← hjoined] at hslash
    refine hslash ⟨("/".intercalate xs).toList, ?_⟩
    simp [toList_slash]

/-! ## The place of a file that is opened -/

theorem Node.get?_set_in_folder {n new : Node} {p : List String}
    (h : p = [] ∨ ∃ es, n.get? p.dropLast = some (.folder es)) : (n.set p new).get? p = some new := by
  rcases List.eq_nil_or_concat p with rfl | ⟨ps, name, rfl⟩
  · rfl
  · obtain hnil | ⟨es, hes⟩ := h
    · simp at hnil
    · rw [List.concat_eq_append] at hes ⊢
      rw [List.dropLast_concat] at hes
      rw [Node.get?_append, Node.get?_set hes]
      simp [Node.get?, Node.child?_setEntry]

namespace Disk

variable {root root' : Node} {d d' : Disk} {path : String} {p : List String} {c : Content}

/-- Names the last of which is not empty lead where they led, if what was a folder is one. -/
theorem follow_of_keepsFolders {here xs : List String} (hkeeps : root.KeepsFolders root')
    (hlast : xs.getLast? ≠ some "") (h : follow root here xs = .ok p) : follow root' here xs = .ok p := by
  have hrest : ∀ {x : String} {rest : List String}, (x :: rest).getLast? ≠ some "" →
      rest.getLast? ≠ some "" := by
    intro x rest hx hr
    rw [List.getLast?_cons, hr] at hx
    exact hx rfl
  fun_induction follow root here xs with
  | case1 here => exact h
  | case2 here x rest hx ih => rw [follow_skip hx, ih (hrest hlast) h]
  | case3 here rest hx ih => rw [follow_up, ih (hrest hlast) h]
  | case4 here x hx hup =>
    cases h
    simp only [follow, if_neg hx, if_neg hup]
  | case5 here x rest hx hup es hget hne ih =>
    obtain ⟨es', hget'⟩ := hkeeps _ es hget
    rw [follow_pass hx hup hne, hget']
    exact ih (hrest hlast) h
  | case6 => cases h
  | case7 here x rest hx hup hnone hall hne =>
    -- only slashes follow, so the last of the names is empty
    have hempty := List.all_eq_true.1 hall _ (List.getLast_mem hne)
    have hy := List.getLast?_eq_some_getLast hne
    rw [of_decide_eq_true hempty] at hy
    exact absurd hy (hrest hlast)
  | case8 here x rest hx hup hnone hall hne =>
    rw [if_neg hall] at h
    cases h

theorem locate_of_folders (hhere : d'.here = d.here) (hkeeps : d.root.KeepsFolders d'.root)
    (hslash : path.endsWith "/" = false) (h : d.locate path = .ok p) : d'.locate path = .ok p := by
  unfold locate at h ⊢
  split at h
  next => cases h
  next hne =>
    rw [if_neg hne, hhere]
    exact follow_of_keepsFolders hkeeps (Path.getLast?_parts (by simpa using hne) hslash) h

/-- A file can be opened for writing by the path, at the place `p`. -/
structure OpensAt (d : Disk) (path : String) (p : List String) : Prop where
  locate : d.locate path = .ok p
  slash : path.endsWith "/" = false
  /-- There is no folder at the place. -/
  file : ∀ es, d.root.get? p ≠ some (.folder es)
  /-- The place is in a folder, unless it is the root. -/
  folder : p = [] ∨ ∃ es, d.root.get? p.dropLast = some (.folder es)

/-- A place where there is something is in a folder. -/
theorem in_folder_of_get? {n : Node} (h : root.get? p = some n) :
    p = [] ∨ ∃ es, root.get? p.dropLast = some (.folder es) := by
  rcases List.eq_nil_or_concat p with rfl | ⟨ps, name, rfl⟩
  · exact .inl rfl
  · right
    rw [List.concat_eq_append] at h ⊢
    rw [Node.get?_append] at h
    obtain ⟨m, hm, hname⟩ := Option.bind_eq_some_iff.1 h
    rw [List.dropLast_concat, hm]
    cases m with
    | file c => cases hname
    | folder es => exact ⟨es, rfl⟩

/-- **What a write does**: it needs a file that can be opened, and puts the content there. -/
theorem write_eq_ok_iff :
    d.write path c = .ok d' ↔ ∃ p, d.OpensAt path p ∧ d' = { d with root := d.root.set p (.file c) } := by
  constructor
  · intro h
    unfold write at h
    split at h
    next => cases h
    next p hp =>
      split at h
      next => cases h
      next c' hc' =>
        split at h
        next => cases h
        next hslash =>
          cases h
          exact ⟨p, ⟨hp, by simpa using hslash, by simp [hc'], in_folder_of_get? hc'⟩, rfl⟩
      next hnone =>
        split at h
        next => cases h
        next hslash =>
          split at h
          next hany =>
            cases h
            obtain ⟨n, hn, hfolder⟩ := (Option.any_eq_true _ _).1 hany
            cases n with
            | file c' => cases hfolder
            | folder es => exact ⟨p, ⟨hp, by simpa using hslash, by simp [hnone], .inr ⟨es, hn⟩⟩, rfl⟩
          next => cases h
  · rintro ⟨p, ⟨hp, hslash, hfile, hfolder⟩, rfl⟩
    simp only [write, hp, hslash]
    cases hn : d.root.get? p with
    | some n =>
      cases n with
      | file c' => rfl
      | folder es => exact absurd hn (hfile es)
    | none =>
      obtain rfl | ⟨es, hes⟩ := hfolder
      · cases hn
      · simp only [hes]
        rfl

/-- Any content can be written to a file that can be opened, and to no other. -/
theorem exists_write_iff : (∃ d', d.write path c = .ok d') ↔ ∃ p, d.OpensAt path p := by
  constructor
  · rintro ⟨d', h⟩
    obtain ⟨p, hp, -⟩ := write_eq_ok_iff.1 h
    exact ⟨p, hp⟩
  · rintro ⟨p, hp⟩
    exact ⟨_, write_eq_ok_iff.2 ⟨p, hp, rfl⟩⟩

theorem opens_iff_opensAt : d.opens path = true ↔ ∃ p, d.OpensAt path p := by
  rw [← exists_write_iff (c := .text ""), opens]
  cases d.write path (.text "") with
  | error e =>
    refine iff_of_false (fun h => by cases h) ?_
    rintro ⟨d', h⟩
    cases h
  | ok d' => exact iff_of_true rfl ⟨d', rfl⟩

/-- Whether a file can be written does not depend on what is written. -/
theorem opens_iff (c : Content) : d.opens path = true ↔ ∃ d', d.write path c = .ok d' := by
  rw [exists_write_iff, opens_iff_opensAt]

/-- What was written by a path is read by it. -/
theorem read_written (h : d.write path c = .ok d') : d'.read path = .ok c := by
  obtain ⟨p, hp, rfl⟩ := write_eq_ok_iff.1 h
  have hhere : ({ d with root := d.root.set p (.file c) } : Disk).here = d.here := rfl
  have hlocate := locate_of_folders hhere (.set hp.file) hp.slash hp.locate
  simp only [read, hlocate, Node.get?_set_in_folder hp.folder, hp.slash]
  rfl

/-- Which files can be opened depends on the folders alone. -/
theorem OpensAt.sameFolders (h : d.OpensAt path p) (hsame : d.SameFolders d') : d'.OpensAt path p where
  locate := locate_of_folders hsame.here hsame.keeps h.slash h.locate
  slash := h.slash
  file es hes := by
    obtain ⟨es', hes'⟩ := hsame.kept p es hes
    exact h.file es' hes'
  folder := h.folder.imp_right fun ⟨es, hes⟩ => hsame.keeps _ es hes

theorem SameFolders.symm (h : d.SameFolders d') : d'.SameFolders d := ⟨h.here.symm, h.kept, h.keeps⟩

theorem opens_sameFolders (h : d.SameFolders d') : d'.opens path = d.opens path := by
  rw [Bool.eq_iff_iff, opens_iff_opensAt, opens_iff_opensAt]
  exact ⟨fun ⟨p, hp⟩ => ⟨p, hp.sameFolders h.symm⟩, fun ⟨p, hp⟩ => ⟨p, hp.sameFolders h⟩⟩

end Disk

end ReportMigration
