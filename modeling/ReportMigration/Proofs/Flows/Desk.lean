import ReportMigration.Flows.Extraction
import ReportMigration.Proofs.Files.Growth
import ReportMigration.Proofs.Files.Paths
import ReportMigration.Proofs.Storage.Transfer
/-!
The folder of working files.

An extraction writes into one folder below the working folder. Seen from outside, the disk is that of
the start with a tree in the place of this folder:

* `Flow.desk base n`: the disk `base`, whose working folder was empty, with the tree `n` in the place
  of the working files; `Flow.swept base` is the disk after they were removed;
* `Flow.inner qs`: the path of the names `qs` below the folder of working files;
* `Flow.Stays base f`: the step `f` changes nothing but the tree, and lets it grow. This holds of
  writing and of making folders;
* `Flow.Holds base disk n`: an extraction that starts on `disk` finds the working files `n`
  (`Flow.makeFolders_outputFolder`);
* `Flow.write_inner_cases`: where an upload can be written if there are none.
-/
namespace ReportMigration.Flow

open Disk

/-- The working folder is empty. -/
def Vacant (d : Disk) : Prop := d.root.get? d.here = some (.folder [])

/-- The names of the folder of working files. -/
def outputNames : List String := ["storage", "Prep_file_outputs"]

/-- The working folder with the tree `n` in the place of the working files and nothing else. -/
def deskTree (n : Node) : Node := .folder [("storage", .folder [("Prep_file_outputs", n)])]

/-- The disk with the tree `n` in the place of the working files. -/
def desk (base : Disk) (n : Node) : Disk :=
  { base with root := base.root.set base.here (deskTree n) }

/-- The disk after the working files were removed. -/
def swept (base : Disk) : Disk :=
  { base with root := base.root.set base.here (.folder [("storage", .folder [])]) }

/-- The place of the working files. -/
def place (base : Disk) : List String := base.here ++ outputNames

/-- The path of some names below the folder of working files. -/
def inner (qs : List String) : String := "/".intercalate (outputNames ++ qs)

variable {base d' : Disk} {n : Node} {qs : List String} {path : String}

/-! ## Paths -/

theorem isName_outputNames : ∀ x ∈ outputNames, Path.IsName x := by decide

theorem outputFolder_eq : outputFolder = inner [] := by decide +kernel

theorem isName_inner (hqs : ∀ q ∈ qs, Path.IsName q) : ∀ x ∈ outputNames ++ qs, Path.IsName x :=
  fun x hx => (List.mem_append.1 hx).elim (isName_outputNames x) (hqs x)

theorem outputNames_append_ne : outputNames ++ qs ≠ [] := by simp [outputNames]

theorem below_inner (hqs : ∀ q ∈ qs, Path.IsName q) {b : String} (hb : b.startsWith "/" = false) :
    Path.below (inner qs) b = inner (qs ++ Path.names b) := by
  rw [inner, Path.below_intercalate outputNames_append_ne (isName_inner hqs) hb, List.append_assoc,
    inner]

theorem below_outputFolder {b : String} (hb : b.startsWith "/" = false) :
    Path.below outputFolder b = inner (Path.names b) := by
  rw [outputFolder_eq, below_inner (by simp) hb, List.nil_append]

theorem below_outputFolder_name {k : String} (hk : Path.IsName k) :
    Path.below outputFolder k = inner [k] := by
  have hks : ∀ x ∈ [k], Path.IsName x := by simpa using hk
  have hempty := Path.empty_notMem_parts (List.cons_ne_nil k []) hks
  have hnames := Path.names_intercalate (List.cons_ne_nil k []) hks
  rw [String.intercalate_singleton] at hempty hnames
  rw [below_outputFolder (Path.startsWith_slash_of_parts hempty), hnames]

theorem inner_ne_empty (hqs : ∀ q ∈ qs, Path.IsName q) : inner qs ≠ "" :=
  Path.intercalate_ne_empty outputNames_append_ne (isName_inner hqs)

theorem endsWith_inner (hqs : ∀ q ∈ qs, Path.IsName q) : (inner qs).endsWith "/" = false :=
  Path.endsWith_slash_of_parts (Path.empty_notMem_parts outputNames_append_ne (isName_inner hqs))

/-- Another suffix of a path below the folder. -/
theorem withSuffix_inner {q ext : String} (hqs : ∀ x ∈ qs ++ [q], Path.IsName x)
    (hext : '/' ∉ ext.toList) :
    Path.withSuffix (inner (qs ++ [q])) ext = inner (qs ++ [Path.stem q ++ ext]) := by
  have hnames := isName_inner hqs
  rw [← List.append_assoc] at hnames
  rw [inner, ← List.append_assoc, Path.withSuffix_intercalate outputNames_append_ne hnames hext,
    List.append_assoc, inner]

theorem withSuffix_inner_name {k ext : String} (hk : Path.IsName k) (hext : '/' ∉ ext.toList) :
    Path.withSuffix (inner [k]) ext = inner [Path.stem k ++ ext] := by
  have hks : ∀ x ∈ [] ++ [k], Path.IsName x := by simpa using hk
  have hsuffix := withSuffix_inner hks hext
  simpa only [List.nil_append] using hsuffix

/-- A path of names is followed from the working folder. -/
theorem locate_names {d : Disk} {xs : List String} (hne : xs ≠ []) (hxs : ∀ x ∈ xs, Path.IsName x) :
    d.locate ("/".intercalate xs) = follow d.root d.here.reverse xs := by
  have hstart := Path.startsWith_slash_of_parts (Path.empty_notMem_parts hne hxs)
  rw [locate, if_neg (by simpa using Path.intercalate_ne_empty hne hxs), hstart,
    Path.parts_of_names hne hxs]
  rfl

/-- A path below the folder of working files leads there, if it leads anywhere. -/
theorem eq_of_locate_inner {d : Disk} (hqs : ∀ q ∈ qs, Path.IsName q) {p : List String}
    (h : d.locate (inner qs) = .ok p) : p = place d ++ qs := by
  rw [inner, locate_names outputNames_append_ne (isName_inner hqs)] at h
  rw [eq_of_follow_names (isName_inner hqs) h, List.reverse_reverse, place, List.append_assoc]

theorem locate_inner_eq_ok (hqs : ∀ q ∈ qs, Path.IsName q) {p : List String}
    (h : (desk base n).locate (inner qs) = .ok p) : p = place base ++ qs :=
  eq_of_locate_inner (d := desk base n) hqs h

/-! ## Below the working folder -/

section
variable {d : Disk} {t : Node} (xs : List String) (x : String) {es fs : List (String × Node)}
  (ht : d.root.get? d.here = some t) (hxs : ∀ y ∈ xs ++ [x], Path.IsName y)
  (hes : t.get? xs = some (.folder es))
include ht hxs hes

/-- What a path of names leads to below a folder of the working folder. -/
theorem locate_child :
    d.locate ("/".intercalate (xs ++ [x])) = .ok (d.here ++ (xs ++ [x])) := by
  have hfolder : d.root.get? (d.here.reverse.reverse ++ xs) = some (.folder es) := by
    rw [List.reverse_reverse, Node.get?_append, ht]
    exact hes
  rw [locate_names (by simp) hxs, follow_names hxs hfolder, List.reverse_reverse]

/-- A folder that is made below one of the working folder. -/
theorem makeFolder_child (hx : Node.child? x es = none) :
    d.makeFolder ("/".intercalate (xs ++ [x])) =
      .ok { d with root := d.root.set d.here (t.set (xs ++ [x]) (.folder [])) } := by
  have hnone : d.root.get? (d.here ++ (xs ++ [x])) = none := by
    rw [Node.get?_append, ht, Option.bind_some, Node.get?_append, hes, Option.bind_some, Node.get?, hx]
    rfl
  have hupper : d.root.get? (d.here ++ (xs ++ [x])).dropLast = some (.folder es) := by
    rw [← List.append_assoc, List.dropLast_concat, Node.get?_append, ht]
    exact hes
  rw [makeFolder, locate_child xs x ht hxs hes]
  dsimp only
  rw [hnone, hupper, Node.set_append ht]

theorem isFolder_child (hx : Node.child? x es = some (.folder fs)) :
    d.isFolder ("/".intercalate (xs ++ [x])) = true := by
  refine isFolder_iff.2 ⟨fs, d.here ++ (xs ++ [x]), locate_child xs x ht hxs hes, ?_⟩
  rw [Node.get?_append, ht, Option.bind_some, Node.get?_append, hes, Option.bind_some, Node.get?, hx]
  rfl

end

/-! ## The tree on the disk -/

section
variable (hb : Vacant base)
include hb

theorem get?_desk (n : Node) (q : List String) :
    (desk base n).root.get? (place base ++ q) = n.get? q := by
  rw [place, List.append_assoc, Node.get?_append, desk, Node.get?_set_self hb]
  simp [deskTree, outputNames, Node.get?, Node.child?]

theorem get?_place (es : List (String × Node)) :
    (desk base (.folder es)).root.get? (place base) = some (.folder es) := by
  rw [← List.append_nil (place base), get?_desk hb]
  rfl

theorem get?_here_desk (n : Node) : (desk base n).root.get? base.here = some (deskTree n) :=
  Node.get?_set_self hb _

theorem set_desk (n : Node) (q : List String) (new : Node) :
    { desk base n with root := (desk base n).root.set (place base ++ q) new } =
      desk base (n.set q new) := by
  have htree : (deskTree n).set (outputNames ++ q) new = deskTree (n.set q new) := by
    rw [deskTree, outputNames, List.cons_append, Node.set_of_child rfl, List.cons_append,
      Node.set_of_child rfl]
    simp [Node.setEntry, deskTree]
  rw [place, List.append_assoc, Node.set_append (get?_here_desk hb n), htree, desk,
    Node.set_set hb, desk]

/-! ## Steps that stay inside -/

/-- The step changes the tree of working files only, and lets it grow. -/
def Stays {ε : Type} (base : Disk) (f : Disk → Except ε Disk) : Prop :=
  ∀ n d', f (desk base n) = .ok d' → ∃ n', n.Grows n' ∧ d' = desk base n'

omit hb in
theorem Stays.ok {ε : Type} : Stays base (Except.ok (ε := ε)) := fun n _ h =>
  ⟨n, .refl n, (Except.ok.inj h).symm⟩

omit hb in
theorem Stays.bind {ε : Type} {f g : Disk → Except ε Disk} (hf : Stays base f) (hg : Stays base g) :
    Stays base fun d => f d >>= g := by
  intro n d' h
  obtain ⟨d₁, hf₁, hg₁⟩ := exists_of_bind_eq_ok h
  obtain ⟨n₁, hn₁, rfl⟩ := hf n d₁ hf₁
  obtain ⟨n₂, hn₂, rfl⟩ := hg n₁ d' hg₁
  exact ⟨n₂, hn₁.trans hn₂, rfl⟩

omit hb in
theorem Stays.foldlM {ε α : Type} {f : Disk → α → Except ε Disk} : ∀ {xs : List α},
    (∀ x ∈ xs, Stays base fun d => f d x) → Stays base (xs.foldlM f)
  | [], _ => .ok
  | x :: xs, h => by
    have hstep : Stays base fun d => f d x >>= xs.foldlM f :=
      (h x List.mem_cons_self).bind (.foldlM fun y hy => h y (List.mem_cons_of_mem _ hy))
    intro n d' hd
    exact hstep n d' (List.foldlM_cons.symm.trans hd)

theorem stays_write (hqs : ∀ q ∈ qs, Path.IsName q) (c : Content) :
    Stays base (·.write (inner qs) c) := by
  intro n d' h
  obtain ⟨p, hp, hfile, rfl⟩ := write_eq_ok h
  obtain rfl := locate_inner_eq_ok hqs hp
  refine ⟨n.set qs (.file c), .set fun x hx => ⟨hfile x ?_, rfl⟩, set_desk hb n qs _⟩
  rw [get?_desk hb, hx]

theorem stays_makeFolder (hqs : ∀ q ∈ qs, Path.IsName q) :
    Stays base (·.makeFolder (inner qs)) := by
  intro n d' h
  obtain ⟨p, hp, hnone, rfl⟩ := makeFolder_eq_ok h
  obtain rfl := locate_inner_eq_ok hqs hp
  refine ⟨n.set qs (.folder []), .set fun x hx => ?_, set_desk hb n qs _⟩
  rw [get?_desk hb, hx] at hnone
  cases hnone

/-- The folder in which that of the working files lies is there. -/
theorem isFolder_storage (n : Node) : (desk base n).isFolder "storage" = true :=
  isFolder_child [] "storage" (get?_here_desk hb n) (by decide) rfl rfl

/-- So does the making of one of the folders that lead to a path. -/
theorem stays_makeNext (hqs : ∀ q ∈ qs, Path.IsName q) {p : String} (hp : p ∈ ancestors (inner qs)) :
    Stays base (·.makeNext p) := by
  intro n d' h
  dsimp only at h
  obtain ⟨i, rfl⟩ := Path.mem_ancestors outputNames_append_ne (isName_inner hqs) hp
  cases i with
  | zero =>
    have hfirst : "/".intercalate ((outputNames ++ qs).take 1) = "storage" := by
      simp [outputNames]
    rw [hfirst, makeNext_self (isFolder_storage hb n)] at h
    exact ⟨n, .refl n, (Except.ok.inj h).symm⟩
  | succ i =>
    have hinner : "/".intercalate ((outputNames ++ qs).take (i + 1 + 1)) = inner (qs.take i) := by
      simp [outputNames, inner]
    rw [hinner, makeNext] at h
    split at h
    next hmake =>
      cases h
      exact stays_makeFolder hb (fun q hq => hqs q (List.mem_of_mem_take hq)) n _ hmake
    next =>
      split at h
      · cases h
        exact ⟨n, .refl n, rfl⟩
      · cases h

theorem stays_makeFolders (hqs : ∀ q ∈ qs, Path.IsName q) : Stays base (·.makeFolders (inner qs)) := by
  intro n d' h
  dsimp only at h
  rw [makeFolders_eq (inner_ne_empty hqs)] at h
  split at h
  next hgo =>
    cases h
    exact Stays.foldlM (fun p hp => stays_makeNext hb hqs hp) n _ hgo
  next => cases h

/-! ## Opening and sweeping -/

/-- The working files on a disk: on that of the start and on a swept one there are none. -/
def Holds (base disk : Disk) (n : Node) : Prop :=
  disk = desk base n ∨ n = .folder [] ∧ (disk = base ∨ disk = swept base)

omit hb in
theorem ancestors_outputFolder : ancestors outputFolder = ["storage", outputFolder] := by
  decide +kernel

theorem makeNext_storage : base.makeNext "storage" = .ok (swept base) := by
  rw [makeNext, show base.makeFolder "storage" = .ok (swept base) from
    makeFolder_child [] "storage" hb (by decide) rfl rfl]

theorem makeNext_storage_swept : (swept base).makeNext "storage" = .ok (swept base) :=
  makeNext_self (isFolder_child [] "storage" (Node.get?_set_self hb _) (by decide)
    rfl rfl)

theorem makeNext_outputFolder : (swept base).makeNext outputFolder = .ok (desk base (.folder [])) := by
  have hmake := makeFolder_child (d := swept base) ["storage"] "Prep_file_outputs"
    (Node.get?_set_self hb _) (by decide) rfl rfl
  rw [List.singleton_append, ← outputNames, ← List.append_nil outputNames, ← inner, ← outputFolder_eq]
    at hmake
  rw [makeNext, hmake]
  dsimp only [swept]
  rw [Node.set_set hb]
  rfl

theorem isFolder_outputFolder (hn : n.isFolder = true) : (desk base n).isFolder outputFolder = true := by
  cases n with
  | file c => cases hn
  | folder es =>
    rw [outputFolder_eq]
    exact isFolder_child ["storage"] "Prep_file_outputs" (get?_here_desk hb _)
      (by decide) rfl rfl

/-- An extraction starts with the folder of working files and what is left in it. -/
theorem makeFolders_outputFolder {disk : Disk} (h : Holds base disk n) (hn : n.isFolder = true) :
    disk.makeFolders outputFolder = .ok (desk base n) := by
  have hgo : ∀ {d₁ : Disk}, disk.makeNext "storage" = .ok d₁ →
      d₁.makeNext outputFolder = .ok (desk base n) → disk.makeFolders outputFolder = .ok (desk base n) := by
    intro d₁ hfirst hsecond
    rw [makeFolders_eq (by decide +kernel), ancestors_outputFolder]
    simp only [List.foldlM, hfirst, hsecond, bind, Except.bind, pure, Except.pure]
  obtain rfl | ⟨rfl, rfl | rfl⟩ := h
  · exact hgo (makeNext_self (isFolder_storage hb n)) (makeNext_self (isFolder_outputFolder hb hn))
  · exact hgo (makeNext_storage hb) (makeNext_outputFolder hb)
  · exact hgo (makeNext_storage_swept hb) (makeNext_outputFolder hb)

/-- The folder of working files is where its names say. -/
theorem locate_outputFolder (n : Node) : (desk base n).locate outputFolder = .ok (place base) := by
  rw [outputFolder_eq]
  exact locate_child ["storage"] "Prep_file_outputs" (get?_here_desk hb n) (by decide)
    rfl

theorem clear_outputFolder (hn : n.isFolder = true) : (desk base n).clear outputFolder = swept base := by
  have herase : (desk base n).root.erase (place base) = (swept base).root := by
    rw [place, Node.erase_append (get?_here_desk hb n) (by decide), desk, Node.set_set hb]
    simp [deskTree, outputNames, Node.erase, Node.child?, Node.setEntry, swept]
  rw [clear, removeFolder, locate_outputFolder hb]
  dsimp only
  cases n with
  | file c => cases hn
  | folder es =>
    rw [get?_place hb]
    dsimp only
    rw [herase]
    rfl

/-! ## Writing the upload -/

/-- Names below the folder of working files are followed from there. -/
theorem locate_inner (hqs : ∀ q ∈ qs, Path.IsName q) (hn : n.isFolder = true) :
    (desk base n).locate (inner qs) = follow (desk base n).root (place base).reverse qs := by
  cases n with
  | file c => cases hn
  | folder es =>
    have hplace := locate_outputFolder hb (.folder es)
    rw [outputFolder_eq, inner, List.append_nil,
      locate_names (by decide) isName_outputNames] at hplace
    rw [inner, locate_names outputNames_append_ne (isName_inner hqs), follow_append (get?_place hb es) hplace]

/-- A file in the folder itself can be written where nothing is. -/
theorem write_inner_name {k : String} (hk : Path.IsName k) (c : Content) :
    (desk base (.folder [])).write (inner [k]) c = .ok (desk base (.folder [(k, .file c)])) := by
  have hqs : ∀ q ∈ [k], Path.IsName q := by simpa using hk
  have hnone : (desk base (.folder [])).root.get? (place base ++ [k]) = none := get?_desk hb _ _
  have hupper : (desk base (.folder [])).root.get? (place base ++ [k]).dropLast = some (.folder []) := by
    rw [List.dropLast_concat, get?_place hb]
  rw [write, locate_inner hb hqs rfl, follow_last hk, List.reverse_reverse]
  dsimp only
  rw [hnone, hupper, endsWith_inner hqs, set_desk hb]
  rfl

/-- The folder itself is no file. -/
theorem write_inner_nil (c : Content) : (desk base (.folder [])).write (inner []) c =
    .error (PathError.isFolder.fault (inner [])) := by
  rw [write, locate_inner hb (by simp) rfl, follow, List.reverse_reverse]
  dsimp only
  rw [get?_place hb]

/-- Nothing can be written below a name that is not there. -/
theorem write_inner_missing {k l : String} (hqs : ∀ q ∈ k :: l :: qs, Path.IsName q) (c : Content) :
    (desk base (.folder [])).write (inner (k :: l :: qs)) c =
      .error (PathError.missing.fault (inner (k :: l :: qs))) := by
  have hk := hqs k (by simp)
  have hl := hqs l (by simp)
  have hnone : (desk base (.folder [])).root.get? (k :: (place base).reverse).reverse = none := by
    rw [List.reverse_cons, List.reverse_reverse]
    exact get?_desk hb _ _
  rw [write, locate_inner hb hqs rfl,
    follow_pass (by simp [hk.ne_empty, hk.ne_dot]) hk.ne_dots (by simp), hnone]
  simp [hl.ne_empty]

/-- In an empty folder of working files exactly a single name can be written. -/
theorem write_inner_cases (hqs : ∀ q ∈ qs, Path.IsName q) (c : Content) :
    (∃ k, qs = [k] ∧ Path.IsName k ∧ (desk base (.folder [])).write (inner qs) c =
      .ok (desk base (.folder [(k, .file c)]))) ∨
    qs.length ≠ 1 ∧ ∃ f, (desk base (.folder [])).write (inner qs) c = .error f := by
  match qs, hqs with
  | [], _ => exact .inr ⟨by simp, _, write_inner_nil hb c⟩
  | [k], hqs => exact .inl ⟨k, rfl, hqs k (by simp), write_inner_name hb (hqs k (by simp)) c⟩
  | k :: l :: ks, hqs => exact .inr ⟨by simp, _, write_inner_missing hb hqs c⟩

/-- Nothing can be written below a file. -/
theorem write_inner_file {k l : String} {c' : Content} (hk : Path.IsName k) (hl : Path.IsName l)
    (h : n.get? [k] = some (.file c')) (c : Content) :
    (desk base n).write (inner [k, l]) c = .error (PathError.notFolder.fault (inner [k, l])) := by
  have hqs : ∀ q ∈ [k, l], Path.IsName q := by simp [hk, hl]
  have hn : n.isFolder = true := by
    cases n with
    | file => cases h
    | folder => rfl
  have hget : (desk base n).root.get? (k :: (place base).reverse).reverse = some (.file c') := by
    rw [List.reverse_cons, List.reverse_reverse, get?_desk hb, h]
  rw [write, locate_inner hb hqs hn,
    follow_pass (by simp [hk.ne_empty, hk.ne_dot]) hk.ne_dots (by simp), hget]

end

end ReportMigration.Flow
