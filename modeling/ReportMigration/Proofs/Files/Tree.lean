import Mathlib.Data.List.Nodup
import ReportMigration.Files.Disk
/-!
Paths into a tree of folders.

* `Path.IsName s`: the text `s` can be the name of a file or folder;
* `Node.WellFormed n`: names in every folder are such, and differ;
* `Disk.HasFolder d path es`: the path leads to a folder with the entries `es`. If so, the path joined
  with the name of an entry leads to that entry (`HasFolder.folder`, `HasFolder.read_file`).
-/
namespace ReportMigration

/-! ## Names -/

/-- A name that a file or folder can have. -/
structure Path.IsName (s : String) : Prop where
  ne_empty : s ≠ ""
  ne_dot : s ≠ "."
  ne_dots : s ≠ ".."
  slash_notMem : '/' ∉ s.toList

namespace Path

variable {path name s : String}

instance : Decidable (IsName s) :=
  decidable_of_iff (s ≠ "" ∧ s ≠ "." ∧ s ≠ ".." ∧ '/' ∉ s.toList)
    ⟨fun ⟨h₁, h₂, h₃, h₄⟩ => ⟨h₁, h₂, h₃, h₄⟩, fun ⟨h₁, h₂, h₃, h₄⟩ => ⟨h₁, h₂, h₃, h₄⟩⟩

theorem toList_slash : "/".toList = ['/'] := by decide

theorem startsWith_slash_iff : s.startsWith "/" = true ↔ s.toList.head? = some '/' := by
  rw [String.startsWith_string_iff, toList_slash]
  cases s.toList with
  | nil => simp
  | cons c cs => simp [eq_comm]

theorem endsWith_slash_iff : s.endsWith "/" = true ↔ ∃ cs, s.toList = cs ++ ['/'] := by
  have h : s.endsWith "/" = s.toSlice.endsWith "/" := rfl
  rw [h, String.Slice.endsWith_string_iff, String.copy_toSlice, toList_slash]
  exact ⟨fun ⟨cs, h⟩ => ⟨cs, h.symm⟩, fun ⟨cs, h⟩ => ⟨cs, h.symm⟩⟩

theorem IsName.toList_ne_nil (h : IsName name) : name.toList ≠ [] := fun he =>
  h.ne_empty (String.toList_eq_nil_iff.1 he)

/-- What stands between the slashes of a path that ends after a slash and a text without one. -/
theorem parts_eq_append {cs : List Char} (hname : '/' ∉ name.toList)
    (h : s.toList = cs ++ '/' :: name.toList) : parts s = parts (.ofList cs) ++ [name] := by
  rw [parts, h, List.splitOn_append_cons_self, List.map_append,
    List.splitOn_eq_singleton hname, List.map_singleton, String.ofList_toList, parts,
    String.toList_ofList]

/-- A path joined with a name is the path up to its last slash, if it ends with one, and the name. -/
theorem toList_join (hpath : path ≠ "") (hname : '/' ∉ name.toList) :
    ∃ cs, (join path name).toList = cs ++ '/' :: name.toList ∧
      (path.toList = cs ∧ path.endsWith "/" = false ∨ path.toList = cs ++ ['/']) := by
  have hstart : name.startsWith "/" = false := by
    rw [← Bool.not_eq_true, startsWith_slash_iff]
    exact fun h => hname (List.mem_of_head? h)
  have hempty : path.isEmpty = false := String.isEmpty_eq_false_iff.2 hpath
  unfold join
  rw [hstart, hempty, Bool.false_or, if_neg (by simp)]
  by_cases hend : path.endsWith "/" = true
  · obtain ⟨cs, hcs⟩ := endsWith_slash_iff.1 hend
    refine ⟨cs, ?_, .inr hcs⟩
    rw [if_pos hend, String.toList_append, hcs, List.append_assoc, List.singleton_append]
  · refine ⟨path.toList, ?_, .inl ⟨rfl, by simpa using hend⟩⟩
    rw [if_neg hend, String.toList_append, String.toList_append, toList_slash, List.append_assoc,
      List.singleton_append]

theorem startsWith_join (hpath : path ≠ "") (hname : '/' ∉ name.toList) :
    (join path name).startsWith "/" = path.startsWith "/" := by
  rw [Bool.eq_iff_iff, startsWith_slash_iff, startsWith_slash_iff]
  obtain ⟨cs, hjoin, ⟨hcs, -⟩ | hcs⟩ := toList_join hpath hname
  · have hne : cs ≠ [] := hcs ▸ fun he => hpath (String.toList_eq_nil_iff.1 he)
    rw [hjoin, hcs, List.head?_append_of_ne_nil _ hne]
  · rw [hjoin, hcs, List.head?_append, List.head?_append]
    rfl

theorem endsWith_join (hpath : path ≠ "") (hname : IsName name) :
    (join path name).endsWith "/" = false := by
  rw [← Bool.not_eq_true, endsWith_slash_iff]
  rintro ⟨xs, hxs⟩
  obtain ⟨cs, hjoin, -⟩ := toList_join hpath hname.slash_notMem
  have hlast := congrArg List.getLast? (hjoin.symm.trans hxs)
  rw [List.getLast?_concat, List.getLast?_append_of_ne_nil _ (by simp),
    List.getLast?_cons_of_ne_nil hname.toList_ne_nil] at hlast
  exact hname.slash_notMem (List.mem_of_getLast? hlast)

end Path

/-! ## Trees -/

namespace Node

variable {n m : Node} {name : String} {es : List (String × Node)}

/-- In every folder the names are such and differ. -/
inductive WellFormed : Node → Prop where
  | file (c : Content) : WellFormed (.file c)
  | folder {es : List (String × Node)} (distinct : (es.map (·.1)).Nodup)
      (names : ∀ e ∈ es, Path.IsName e.1) (entries : ∀ e ∈ es, WellFormed e.2) :
      WellFormed (.folder es)

theorem get?_append (n : Node) (p q : List String) :
    n.get? (p ++ q) = (n.get? p).bind fun m => m.get? q := by
  induction p generalizing n with
  | nil => rfl
  | cons k ks ih =>
    cases n with
    | file c => rfl
    | folder es =>
      simp only [List.cons_append, get?]
      cases child? k es with
      | none => rfl
      | some m => exact ih m

theorem child?_eq_some_iff (hd : (es.map (·.1)).Nodup) :
    child? name es = some n ↔ (name, n) ∈ es := by
  unfold child?
  constructor
  · intro h
    obtain ⟨e, he, rfl⟩ := Option.map_eq_some_iff.1 h
    have hname : e.1 = name := by simpa using List.find?_some he
    exact hname ▸ List.mem_of_find?_eq_some he
  · intro h
    cases hf : es.find? fun e => e.1 = name with
    | none => exact absurd (List.find?_eq_none.1 hf _ h) (by simp)
    | some e =>
      have hname : e.1 = name := by simpa using List.find?_some hf
      rw [List.inj_on_of_nodup_map hd (List.mem_of_find?_eq_some hf) h hname]
      rfl

theorem WellFormed.get? (h : n.WellFormed) {p : List String} (hm : n.get? p = some m) :
    m.WellFormed := by
  induction p generalizing n with
  | nil =>
    cases hm
    exact h
  | cons k ks ih =>
    cases h with
    | file c => cases hm
    | folder hd hnames hentries =>
      obtain ⟨x, hx, hxm⟩ := Option.bind_eq_some_iff.1 hm
      exact ih (hentries _ ((child?_eq_some_iff hd).1 hx)) hxm

end Node

/-! ## Following a path -/

namespace Disk

variable {root : Node} {ps : List String} {es : List (String × Node)} {name path : String}

section
variable {here rest : List String} {x : String}

theorem follow_skip (hx : (decide (x = "") || decide (x = ".")) = true) :
    follow root here (x :: rest) = follow root here rest := by
  cases rest <;> simp only [follow, if_pos hx]

theorem follow_up : follow root here (".." :: rest) = follow root (here.drop 1) rest := by
  cases rest <;> rfl

theorem follow_pass (hx : ¬ (decide (x = "") || decide (x = ".")) = true) (hup : x ≠ "..")
    (hrest : rest ≠ []) :
    follow root here (x :: rest) = match root.get? (x :: here).reverse with
      | some (.folder _) => follow root (x :: here) rest
      | some (.file _) => .error .notFolder
      | none => if rest.all (· = "") then .ok (x :: here).reverse else .error .missing := by
  cases rest with
  | nil => exact absurd rfl hrest
  | cons y ys =>
    rcases hget : root.get? (x :: here).reverse with _ | (_ | _) <;>
      simp only [follow, if_neg hx, if_neg hup, hget]

theorem follow_last (hname : Path.IsName name) :
    follow root here [name] = .ok (here.reverse ++ [name]) := by
  simp [follow, hname.ne_empty, hname.ne_dot, hname.ne_dots]

end

/-- Where names lead to a folder, further names lead on from there. -/
theorem follow_append {xs ys here : List String} (hroot : root.get? ps = some (.folder es))
    (h : follow root here xs = .ok ps) : follow root here (xs ++ ys) = follow root ps.reverse ys := by
  fun_induction follow root here xs with
  | case1 here =>
    cases h
    rw [List.nil_append, List.reverse_reverse]
  | case2 here x rest hx ih => rw [List.cons_append, follow_skip hx, ih h]
  | case3 here rest hx ih => rw [List.cons_append, follow_up, ih h]
  | case4 here x hx hup =>
    cases h
    rw [List.reverse_reverse, List.cons_append, List.nil_append]
    cases ys with
    | nil => simp only [follow, if_neg hx, if_neg hup]
    | cons y ys => rw [follow_pass hx hup (by simp), hroot]
  | case5 here x rest hx hup es' hget hrest ih =>
    rw [List.cons_append, follow_pass hx hup fun he => hrest (List.append_eq_nil_iff.1 he).1, hget]
    exact ih h
  | case6 => cases h
  | case7 here x rest hx hup hnone hall hrest =>
    -- a place that does not exist is no folder
    rw [if_pos hall] at h
    cases h
    rw [hnone] at hroot
    cases hroot
  | case8 here x rest hx hup hnone hall hrest =>
    rw [if_neg hall] at h
    cases h

/-- A slash at the end of a path does not change the place it leads to. -/
theorem follow_of_append_empty {xs here : List String}
    (h : follow root here (xs ++ [""]) = .ok ps) : follow root here xs = .ok ps := by
  fun_induction follow root here xs with
  | case1 here => exact h
  | case2 here x rest hx ih =>
    rw [List.cons_append, follow_skip hx] at h
    exact ih h
  | case3 here rest hx ih =>
    rw [List.cons_append, follow_up] at h
    exact ih h
  | case4 here x hx hup =>
    rw [List.cons_append, List.nil_append, follow_pass hx hup (by simp)] at h
    cases hget : root.get? (x :: here).reverse with
    | none => rw [hget] at h; simpa using h
    | some n =>
      cases n with
      | file c => rw [hget] at h; cases h
      | folder es => rw [hget] at h; exact h
  | case5 here x rest hx hup es' hget hrest ih =>
    rw [List.cons_append, follow_pass hx hup (by simp), hget] at h
    exact ih h
  | case6 here x rest hx hup c hget hrest =>
    rw [List.cons_append, follow_pass hx hup (by simp), hget] at h
    exact h
  | case7 here x rest hx hup hnone hall hrest =>
    rw [List.cons_append, follow_pass hx hup (by simp), hnone] at h
    simpa [hall] using h
  | case8 here x rest hx hup hnone hall hrest =>
    rw [List.cons_append, follow_pass hx hup (by simp), hnone] at h
    simp [hall] at h

/-! ## Folders and what is in them -/

/-- The path leads to a folder with the entries `es`. -/
def HasFolder (d : Disk) (path : String) (es : List (String × Node)) : Prop :=
  ∃ ps, d.locate path = .ok ps ∧ d.root.get? ps = some (.folder es)

variable {d : Disk}

theorem hasFolder_of_list (h : d.list path = .ok es) : d.HasFolder path es := by
  unfold list at h
  split at h
  · cases h
  · rename_i ps hps
    refine ⟨ps, hps, ?_⟩
    split at h
    · cases h
      assumption
    · cases h
    · cases h

/-- A path below a folder leads on from the folder. -/
theorem locate_below (hname : '/' ∉ name.toList) (hps : d.locate path = .ok ps)
    (hroot : d.root.get? ps = some (.folder es)) :
    d.locate (Path.join path name) = follow d.root ps.reverse [name] := by
  have hpath : path ≠ "" := by
    rintro rfl
    cases hps
  have hempty : path.isEmpty = false := String.isEmpty_eq_false_iff.2 hpath
  obtain ⟨cs, hjoin, hcs⟩ := Path.toList_join hpath hname
  have hempty' : (Path.join path name).isEmpty = false := by
    refine String.isEmpty_eq_false_iff.2 fun he => ?_
    rw [String.toList_eq_nil_iff.2 he] at hjoin
    simp at hjoin
  rw [locate, hempty, if_neg (by simp)] at hps
  rw [locate, hempty', if_neg (by simp), Path.startsWith_join hpath hname,
    Path.parts_eq_append hname hjoin]
  refine follow_append hroot ?_
  rcases hcs with ⟨hcs, -⟩ | hcs
  · rwa [← hcs, String.ofList_toList]
  · have hparts : Path.parts path = Path.parts (.ofList cs) ++ [""] :=
      Path.parts_eq_append (by simp) hcs
    rw [hparts] at hps
    exact follow_of_append_empty hps

/-- The path of an entry of a folder. -/
theorem locate_join (hname : Path.IsName name) (hps : d.locate path = .ok ps)
    (hroot : d.root.get? ps = some (.folder es)) :
    d.locate (Path.join path name) = .ok (ps ++ [name]) := by
  rw [locate_below hname.slash_notMem hps hroot, follow_last hname, List.reverse_reverse]

namespace HasFolder

theorem wellFormed (hd : d.root.WellFormed) (h : d.HasFolder path es) :
    (Node.folder es).WellFormed := by
  obtain ⟨ps, -, hroot⟩ := h
  exact hd.get? hroot

/-- What a folder has under a name. -/
theorem locate_entry {n : Node} (hd : d.root.WellFormed) (h : d.HasFolder path es)
    (hn : (name, n) ∈ es) :
    ∃ ps, d.locate (Path.join path name) = .ok ps ∧ d.root.get? ps = some n := by
  have hwf := h.wellFormed hd
  obtain ⟨ps, hps, hroot⟩ := h
  cases hwf with
  | folder hdistinct hnames hentries =>
    refine ⟨ps ++ [name], locate_join (hnames _ hn) hps hroot, ?_⟩
    rw [Node.get?_append, hroot]
    show (Node.child? name es).bind (fun n => n.get? []) = some n
    rw [(Node.child?_eq_some_iff hdistinct).2 hn]
    rfl

/-- An entry that is a folder. -/
theorem folder {es' : List (String × Node)} (hd : d.root.WellFormed) (h : d.HasFolder path es)
    (hn : (name, Node.folder es') ∈ es) : d.HasFolder (Path.join path name) es' :=
  h.locate_entry hd hn

/-- An entry that is a file. -/
theorem read_file {c : Content} (hd : d.root.WellFormed) (h : d.HasFolder path es)
    (hn : (name, Node.file c) ∈ es) : d.read (Path.join path name) = .ok c := by
  obtain ⟨ps, hps, hget⟩ := h.locate_entry hd hn
  have hname : Path.IsName name := by
    cases h.wellFormed hd with
    | folder hdistinct hnames hentries => exact hnames _ hn
  have hpath : path ≠ "" := by
    obtain ⟨_, hlocate, -⟩ := h
    rintro rfl
    cases hlocate
  simp only [read, hps, hget, Path.endsWith_join hpath hname]
  rfl

end HasFolder

end Disk

end ReportMigration
