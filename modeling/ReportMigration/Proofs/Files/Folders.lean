import Mathlib.Data.List.Induction
import ReportMigration.Proofs.Files.Writing
import ReportMigration.Text.Blank
/-!
Making folders, and writing files into a folder that is there.

* `Disk.isFolder_of_keepsFolders`: a folder is found by its path for as long as it is one;
* `Disk.leads_of_makeFolders`: once a folder was made, every path that leads to it is a folder, and
  then making it again, or making the folder of a file in it, changes nothing
  (`Disk.makeFolders_self`, `Disk.makeFolders_dirName_join`);
* `Disk.SameFolders d d'`: the same places are folders; writing a file keeps it so;
* `Disk.opens d path`: a file can be opened for writing, and `Disk.opens_join_iff`: when it can in a
  folder.
-/
namespace ReportMigration

/-! ## The folder of a joined path -/

namespace Text

theorem exists_dropTrailing_append (c : Char) (cs : List Char) :
    ∃ n, cs = dropTrailing (· = c) cs ++ List.replicate n c := by
  induction cs using List.reverseRecOn with
  | nil => exact ⟨0, rfl⟩
  | append_singleton cs x ih =>
    by_cases h : x = c
    · obtain ⟨n, hn⟩ := ih
      refine ⟨n + 1, ?_⟩
      rw [dropTrailing_append_of_pos cs (by simpa using h), List.replicate_succ', ← List.append_assoc,
        ← hn, h]
    · exact ⟨0, by rw [dropTrailing_append_of_neg cs (by simpa using h)]; simp⟩

end Text

namespace Path

variable {path name : String}

theorem intercalate_parts (p : String) : "/".intercalate (parts p) = p := by
  refine String.toList_inj.1 ?_
  rw [String.toList_intercalate, parts, List.map_map, toList_slash]
  have hid : (String.toList ∘ String.ofList : List Char → List Char) = id := by
    funext cs
    exact String.toList_ofList
  rw [hid, List.map_id, List.intercalate_splitOn]

/-- The folder of a path that is joined with a name is the path, without slashes at its end. -/
theorem dirName_join (hpath : path ≠ "") (hname : '/' ∉ name.toList) :
    dirName (join path name) ≠ "" ∧
      ∃ n, path.toList = (dirName (join path name)).toList ++ List.replicate n '/' := by
  obtain ⟨cs, hjoin, hcs⟩ := toList_join hpath hname
  have hhead : ((join path name).toList.reverse.dropWhile (· ≠ '/')).reverse = cs ++ ['/'] := by
    have hrev : ∀ c ∈ name.toList.reverse, (decide (c ≠ '/')) = true := by
      intro c hc
      simp only [decide_eq_true_eq]
      rintro rfl
      exact hname (List.mem_reverse.1 hc)
    rw [hjoin, List.reverse_append, List.reverse_cons, List.append_assoc,
      List.dropWhile_append_of_pos hrev]
    simp
  have hdir : dirName (join path name) = if (cs ++ ['/']).all (· = '/') then .ofList (cs ++ ['/'])
      else .ofList (Text.dropTrailing (· = '/') (cs ++ ['/'])) := by
    rw [dirName, hhead]
  have hne : path.toList ≠ [] := fun h => hpath (String.toList_eq_nil_iff.1 h)
  rcases hcs with ⟨hcs, hend⟩ | hcs
  · -- the path does not end with a slash, so it is the folder itself
    obtain ⟨cs', c, hc⟩ : ∃ cs' c, path.toList = cs' ++ [c] :=
      ⟨_, _, (List.dropLast_append_getLast hne).symm⟩
    have hslash : c ≠ '/' := by
      rintro rfl
      exact absurd (endsWith_slash_iff.2 ⟨cs', hc⟩) (by simp [hend])
    have hdir' : dirName (join path name) = path := by
      rw [hdir, if_neg (by simp [← hcs, hc, hslash]), Text.dropTrailing_append_of_pos _ (by simp),
        ← hcs, hc, Text.dropTrailing_append_of_neg _ (by simpa using hslash), ← hc,
        String.ofList_toList]
    rw [hdir']
    exact ⟨hpath, 0, by simp⟩
  · rw [← hcs] at hdir
    by_cases hall : path.toList.all (· = '/') = true
    · rw [if_pos hall, String.ofList_toList] at hdir
      rw [hdir]
      exact ⟨hpath, 0, by simp⟩
    · rw [if_neg hall] at hdir
      obtain ⟨n, hn⟩ := Text.exists_dropTrailing_append '/' path.toList
      rw [hdir]
      refine ⟨fun he => hall ?_, n, by rwa [String.toList_ofList]⟩
      -- nothing but slashes would be left
      rw [← String.toList_eq_nil_iff, String.toList_ofList] at he
      rw [hn, he]
      simp

theorem parts_append_slashes (n : Nat) : ∀ {s p : String}, s.toList = p.toList ++ List.replicate n '/' →
    parts p <+: parts s := by
  induction n with
  | zero =>
    intro s p h
    obtain rfl : s = p := String.toList_inj.1 (by simpa using h)
    exact List.prefix_rfl
  | succ n ih =>
    intro s p h
    rw [List.replicate_succ', ← List.append_assoc] at h
    have hparts : parts s = parts (.ofList (p.toList ++ List.replicate n '/')) ++ [""] :=
      parts_eq_append (by simp) h
    rw [hparts]
    exact (ih String.toList_ofList).trans (List.prefix_append _ _)

end Path

/-! ## Paths of folders -/

namespace Disk

variable {d d' d'' : Disk} {path name : String} {ps : List String} {es : List (String × Node)} {c : Content}

theorem follow_skips (root : Node) (here : List String) :
    ∀ {rest : List String}, rest.all (· = "") = true → follow root here rest = .ok here.reverse
  | [], _ => rfl
  | x :: rest, h => by
    rw [List.all_cons, Bool.and_eq_true] at h
    rw [follow_skip (by simp [h.1]), follow_skips root here h.2]

/-- A path leads where it led, if that is a folder now and what was a folder is one. -/
theorem follow_of_folder {root root' : Node} {here xs : List String} (hkeeps : root.KeepsFolders root')
    (hfolder : root'.get? ps = some (.folder es)) (h : follow root here xs = .ok ps) :
    follow root' here xs = .ok ps := by
  fun_induction follow root here xs with
  | case1 here => exact h
  | case2 here x rest hx ih => rw [follow_skip hx, ih h]
  | case3 here rest hx ih => rw [follow_up, ih h]
  | case4 here x hx hup =>
    cases h
    simp only [follow, if_neg hx, if_neg hup]
  | case5 here x rest hx hup es' hget hrest ih =>
    obtain ⟨es'', hget'⟩ := hkeeps _ es' hget
    rw [follow_pass hx hup hrest, hget']
    exact ih h
  | case6 => cases h
  | case7 here x rest hx hup hnone hall hrest =>
    rw [if_pos hall] at h
    cases h
    rw [follow_pass hx hup hrest, hfolder]
    exact follow_skips root' _ hall
  | case8 here x rest hx hup hnone hall hrest =>
    rw [if_neg hall] at h
    cases h

theorem isFolder_iff : d.isFolder path = true ↔ ∃ es, d.HasFolder path es := by
  unfold isFolder node? HasFolder
  constructor
  · intro h
    split at h
    next ps hps =>
      obtain ⟨n, hn, hfolder⟩ := (Option.any_eq_true _ _).1 h
      cases n with
      | file c => cases hfolder
      | folder es => exact ⟨es, ps, hps, hn⟩
    next => cases h
  · rintro ⟨es, ps, hps, hn⟩
    rw [hps]
    dsimp only
    rw [hn]
    rfl

theorem locate_of_folder (hhere : d'.here = d.here) (hkeeps : d.root.KeepsFolders d'.root)
    (hfolder : d'.root.get? ps = some (.folder es)) (h : d.locate path = .ok ps) :
    d'.locate path = .ok ps := by
  unfold locate at h ⊢
  split at h
  next => cases h
  next hne =>
    rw [if_neg hne, hhere]
    exact follow_of_folder hkeeps hfolder h

theorem isFolder_of_keepsFolders (hhere : d'.here = d.here) (hkeeps : d.root.KeepsFolders d'.root)
    (h : d.isFolder path = true) : d'.isFolder path = true := by
  obtain ⟨es, ps, hps, hget⟩ := isFolder_iff.1 h
  obtain ⟨es', hget'⟩ := hkeeps ps es hget
  exact isFolder_iff.2 ⟨es', ps, locate_of_folder hhere hkeeps hget' hps, hget'⟩

/-! ## Making folders -/

theorem makeFolder_of_isFolder (h : d.isFolder path = true) : d.makeFolder path = .error .present := by
  obtain ⟨es, ps, hps, hget⟩ := isFolder_iff.1 h
  simp only [makeFolder, hps, hget]

/-- A folder that was made is there, and so are those that were there before. -/
theorem isFolder_of_makeFolder (h : d.makeFolder path = .ok d') :
    d'.here = d.here ∧ d.root.KeepsFolders d'.root ∧ d'.isFolder path = true := by
  unfold makeFolder at h
  split at h
  next => cases h
  next p hp =>
    split at h
    next => cases h
    next hnone =>
      split at h
      next es hes =>
        cases h
        have hkeeps : d.root.KeepsFolders (d.root.set p (.folder [])) :=
          .set fun es hes => by rw [hnone] at hes; cases hes
        refine ⟨rfl, hkeeps, ?_⟩
        have hne : p ≠ [] := by
          rintro rfl
          cases hnone
        obtain ⟨qs, x, rfl⟩ : ∃ qs x, p = qs ++ [x] := ⟨_, _, (List.dropLast_append_getLast hne).symm⟩
        rw [List.dropLast_concat] at hes
        have hget : (d.root.set (qs ++ [x]) (.folder [])).get? (qs ++ [x]) = some (.folder []) := by
          rw [Node.get?_append, Node.get?_set hes]
          simp [Node.get?, Node.child?_setEntry]
        exact isFolder_iff.2 ⟨[], _, locate_of_folder (d := d) rfl hkeeps hget hp, hget⟩
      next => cases h
      next => cases h

/-- What is done for each of the folders that lead to a path. -/
def makeNext (d : Disk) (p : String) : Except (PathError × String) Disk :=
  match d.makeFolder p with
  | .ok d => .ok d
  | .error e => if d.isFolder p then .ok d else .error (e, p)

theorem makeFolders_eq (hpath : path ≠ "") : d.makeFolders path =
    match (ancestors path).foldlM makeNext d with
    | .ok d => .ok d
    | .error (e, p) => .error (wayFault path e p) := by
  rw [makeFolders, if_neg (by simpa using hpath)]
  rfl

theorem makeNext_self (h : d.isFolder path = true) : d.makeNext path = .ok d := by
  rw [makeNext, makeFolder_of_isFolder h]
  dsimp only
  rw [if_pos h]

theorem isFolder_of_makeNext (h : d.makeNext path = .ok d') :
    d'.here = d.here ∧ d.root.KeepsFolders d'.root ∧ d'.isFolder path = true := by
  unfold makeNext at h
  split at h
  next d₁ hmake =>
    cases h
    exact isFolder_of_makeFolder hmake
  next e hmake =>
    split at h
    next hfolder =>
      cases h
      exact ⟨rfl, .refl _, hfolder⟩
    next => cases h

theorem isFolder_of_foldlM : ∀ {ps : List String} {d d' : Disk}, ps.foldlM makeNext d = .ok d' →
    d'.here = d.here ∧ d.root.KeepsFolders d'.root ∧ ∀ p ∈ ps, d'.isFolder p = true
  | [], d, d', h => by
    cases h
    exact ⟨rfl, .refl _, by simp⟩
  | p :: ps, d, d', h => by
    rw [List.foldlM_cons] at h
    cases hstep : d.makeNext p with
    | error e => rw [hstep] at h; cases h
    | ok d₁ =>
      rw [hstep] at h
      obtain ⟨hhere₁, hkeeps₁, hp⟩ := isFolder_of_makeNext hstep
      obtain ⟨hhere₂, hkeeps₂, hps⟩ := isFolder_of_foldlM h
      refine ⟨hhere₂.trans hhere₁, hkeeps₁.trans hkeeps₂, fun q hq => ?_⟩
      rcases List.mem_cons.1 hq with rfl | hq
      · exact isFolder_of_keepsFolders hhere₂ hkeeps₂ hp
      · exact hps q hq

theorem foldlM_makeNext_self : ∀ {ps : List String}, (∀ p ∈ ps, d.isFolder p = true) →
    ps.foldlM makeNext d = .ok d
  | [], _ => rfl
  | p :: ps, h => by
    rw [List.foldlM_cons, makeNext_self (h p List.mem_cons_self)]
    exact foldlM_makeNext_self fun q hq => h q (List.mem_cons_of_mem _ hq)

/-- All paths that lead to a path are folders. -/
def Leads (d : Disk) (path : String) : Prop := ∀ p ∈ ancestors path, d.isFolder p = true

theorem Leads.of_keepsFolders (h : d.Leads path) (hhere : d'.here = d.here)
    (hkeeps : d.root.KeepsFolders d'.root) : d'.Leads path := fun p hp =>
  isFolder_of_keepsFolders hhere hkeeps (h p hp)

theorem mem_ancestors_self (hpath : path ≠ "") : path ∈ ancestors path := by
  refine List.mem_filter.2 ⟨List.mem_map.2 ⟨(Path.parts path).length - 1, ?_, ?_⟩, by simpa using hpath⟩
  · have hpos : 0 < (Path.parts path).length := by
      rw [Path.parts, List.length_map]
      exact List.length_pos_of_ne_nil (List.splitOn_ne_nil _ _)
    exact List.mem_range.2 (by omega)
  · rw [List.take_of_length_le (by omega), Path.intercalate_parts]

theorem Leads.isFolder (h : d.Leads path) (hpath : path ≠ "") : d.isFolder path = true :=
  h path (mem_ancestors_self hpath)

theorem ancestors_subset {p q : String} (h : Path.parts p <+: Path.parts q) :
    ancestors p ⊆ ancestors q := by
  intro x hx
  obtain ⟨hmem, hne⟩ := List.mem_filter.1 hx
  obtain ⟨i, hi, rfl⟩ := List.mem_map.1 hmem
  have hi := List.mem_range.1 hi
  obtain ⟨rest, hrest⟩ := h
  refine List.mem_filter.2 ⟨List.mem_map.2 ⟨i, ?_, ?_⟩, hne⟩
  · rw [← hrest, List.mem_range, List.length_append]
    omega
  · rw [← hrest, List.take_append_of_le_length (by omega)]

/-- Once a folder was made, all that leads to it is there. -/
theorem leads_of_makeFolders (h : d.makeFolders path = .ok d') :
    path ≠ "" ∧ d'.here = d.here ∧ d.root.KeepsFolders d'.root ∧ d'.Leads path := by
  have hpath : path ≠ "" := by
    rintro rfl
    cases h
  rw [makeFolders_eq hpath] at h
  split at h
  next d₁ hgo =>
    cases h
    exact ⟨hpath, isFolder_of_foldlM hgo⟩
  next => cases h

theorem makeFolders_self (hpath : path ≠ "") (h : d.Leads path) : d.makeFolders path = .ok d := by
  rw [makeFolders_eq hpath, foldlM_makeNext_self h]

/-- The folder of a file in a folder that is there need not be made. -/
theorem makeFolders_dirName_join (hpath : path ≠ "") (hname : '/' ∉ name.toList) (h : d.Leads path) :
    d.makeFolders (Path.dirName (Path.join path name)) = .ok d := by
  obtain ⟨hne, n, hn⟩ := Path.dirName_join hpath hname
  exact makeFolders_self hne fun p hp => h p (ancestors_subset (Path.parts_append_slashes n hn) hp)

end Disk

/-! ## Files in a folder -/

/-- A file that is set makes no folder. -/
theorem Node.KeepsFolders.of_set_file {n : Node} {p : List String} {c : Content} :
    (n.set p (.file c)).KeepsFolders n := by
  induction p generalizing n with
  | nil => exact .file c n
  | cons k ks ih =>
    cases n with
    | file c' =>
      have hset : (Node.file c').set (k :: ks) (.file c) = .file c' := by cases ks <;> rfl
      rw [hset]
      exact .refl _
    | folder es =>
      cases ks with
      | nil =>
        refine entry (k := k) (fun k' hk => by rw [child?_setEntry, if_neg hk]) fun n hn hfolder => ?_
        rw [child?_setEntry, if_pos rfl] at hn
        cases hn
        cases hfolder
      | cons k' ks =>
        rw [set_cons (by simp)]
        cases hm : child? k es with
        | none => exact .refl _
        | some m =>
          refine entry (k := k) (fun k' hk => by rw [child?_setEntry, if_neg hk]) fun n hn _ => ?_
          rw [child?_setEntry, if_pos rfl] at hn
          cases hn
          exact ⟨m, hm, ih⟩

namespace Disk

variable {d d' d'' : Disk} {path name : String} {ps : List String} {es : List (String × Node)} {c : Content}

/-- The same places are folders. -/
structure SameFolders (d d' : Disk) : Prop where
  here : d'.here = d.here
  keeps : d.root.KeepsFolders d'.root
  kept : d'.root.KeepsFolders d.root

theorem SameFolders.refl (d : Disk) : d.SameFolders d := ⟨rfl, .refl _, .refl _⟩

theorem SameFolders.trans (h : d.SameFolders d') (h' : d'.SameFolders d'') : d.SameFolders d'' :=
  ⟨h'.here.trans h.here, h.keeps.trans h'.keeps, h'.kept.trans h.kept⟩

theorem sameFolders_of_write (h : d.write path c = .ok d') : d.SameFolders d' := by
  have hset : ∀ p, (∀ fs, d.root.get? p ≠ some (.folder fs)) →
      d.SameFolders { d with root := d.root.set p (.file c) } := fun p hp =>
    ⟨rfl, .set hp, .of_set_file⟩
  unfold write at h
  split at h
  next => cases h
  next p hp =>
    split at h
    next => cases h
    next c' hc' =>
      split at h
      next => cases h
      next =>
        cases h
        exact hset p fun fs hfs => by rw [hc'] at hfs; cases hfs
    next hnone =>
      split at h
      next => cases h
      next =>
        split at h
        next =>
          cases h
          exact hset p fun fs hfs => by rw [hnone] at hfs; cases hfs
        next => cases h

/-- A file at the path can be opened for writing. -/
def opens (d : Disk) (path : String) : Bool := (d.write path (.text "")).isOk

theorem entry_join (hname : Path.IsName name) (hps : d.locate path = .ok ps)
    (hroot : d.root.get? ps = some (.folder es)) :
    d.Entry (Path.join path name) ps name fun k => Node.child? k es := by
  have hpath : path ≠ "" := by
    rintro rfl
    cases hps
  obtain ⟨cs, hjoin, -⟩ := Path.toList_join hpath hname.slash_notMem
  exact ⟨⟨_, Path.parts_eq_append hname.slash_notMem hjoin⟩, hname, locate_join hname hps hroot, es,
    hroot, fun _ => rfl⟩

/-- What leads to a folder are folders. -/
theorem exists_folder_of_append {root : Node} {qs : List String}
    (h : root.get? (ps ++ qs) = some (.folder es)) : ∃ fs, root.get? ps = some (.folder fs) := by
  rw [Node.get?_append] at h
  obtain ⟨n, hn, hqs⟩ := Option.bind_eq_some_iff.1 h
  cases n with
  | folder fs => exact ⟨fs, hn⟩
  | file c => cases qs <;> cases hqs

/-- In a folder, a file can be opened exactly if its name is one and not that of a folder. -/
theorem opens_join_iff (hname : '/' ∉ name.toList) (hps : d.locate path = .ok ps)
    (hroot : d.root.get? ps = some (.folder es)) :
    d.opens (Path.join path name) = true ↔
      Path.IsName name ∧ ∀ fs, d.root.get? (ps ++ [name]) ≠ some (.folder fs) := by
  constructor
  · intro h
    have hplace : ∀ p fs, d.locate (Path.join path name) = .ok p →
        d.root.get? p ≠ some (.folder fs) := by
      intro p fs hp hfs
      simp only [opens, write, hp, hfs] at h
      cases h
    have hbelow := locate_below hname hps hroot
    have hname' : Path.IsName name := by
      refine ⟨?_, ?_, ?_, hname⟩
      · rintro rfl
        exact hplace ps es (by rw [hbelow]; simp [follow]) hroot
      · rintro rfl
        exact hplace ps es (by rw [hbelow]; simp [follow]) hroot
      · rintro rfl
        have hup : d.root.get? ((ps.reverse.drop 1).reverse ++ (ps.reverse.take 1).reverse) =
            some (.folder es) := by
          rwa [← List.reverse_append, List.take_append_drop, List.reverse_reverse]
        obtain ⟨fs, hfs⟩ := exists_folder_of_append hup
        exact hplace _ fs (by rw [hbelow]; rfl) hfs
    exact ⟨hname', fun fs => hplace _ fs (locate_join hname' hps hroot)⟩
  · rintro ⟨hname', hfile⟩
    have he := entry_join hname' hps hroot
    obtain ⟨d', hwrite, -⟩ := he.write (fun fs => by rw [← he.get?]; exact hfile fs) (.text "")
    rw [opens, hwrite]
    rfl

end Disk

end ReportMigration
