import Mathlib.Data.List.Nodup
import Mathlib.Data.List.Perm.Basic
import ReportMigration.Projects.Upload
import ReportMigration.Proofs.Files.Tree
import ReportMigration.Proofs.Identifier
/-!
What an upload makes of a tree.

`Upload.plan` lists the projects and reports that an upload makes of a tree, with the places they are
made for, as a function of the tree and of how many identifiers were drawn before.

* `Upload.ids_plan`: the identifiers are those drawn next, each of them once;
* `Upload.placed_planEntries`: everything is placed in the project of the folder around it;
* `Upload.shows_planEntries`: there is one project for each folder and one report for each file;
* `Upload.mirrors_plan`: the plan mirrors the tree.
-/
namespace ReportMigration

namespace Upload

/-! ## Rows -/

/-- The project of a folder. -/
def folderRow (u : Upload) (parent : Option Id) (name : String) (id : Id) : Project :=
  (u.folderForm parent name id).row id name u.userId

/-- The report of a workbook. -/
def reportRow (u : Upload) (project : Id) (name : String) (id reportId : Id) : Report :=
  let kept := WorkbookName.normalize name
  (u.reportForm project kept id reportId).row id kept reportId project

/-- A project and the place in the tree that it was made for. -/
structure MadeFolder where
  path : List String
  project : Project

/-- A report and the file that it was made for. -/
structure MadeFile where
  path : List String
  name : String
  report : Report
  content : Content

/-- What is made of a part of a tree. -/
structure Made where
  folders : List MadeFolder := []
  files : List MadeFile := []

namespace Made

instance : Append Made := ⟨fun a b => ⟨a.folders ++ b.folders, a.files ++ b.files⟩⟩

/-- The same for the entry of a name. -/
def under (name : String) (m : Made) : Made where
  folders := m.folders.map fun f => { f with path := name :: f.path }
  files := m.files.map fun f => { f with path := name :: f.path }

/-- The same with the project of the folder around it. -/
def withRoot (p : Project) (m : Made) : Made := { m with folders := ⟨[], p⟩ :: m.folders }

/-- How many identifiers are drawn for it. -/
def draws (m : Made) : Nat := m.folders.length + 2 * m.files.length

/-- The identifiers that are drawn for it. -/
def ids (m : Made) : List Id :=
  m.folders.map (·.project.id) ++ (m.files.map (·.report.id) ++ m.files.map (·.report.reportId))

section
variable {a b m : Made} {name : String} {p : Project}

@[simp] theorem folders_append : (a ++ b).folders = a.folders ++ b.folders := rfl

@[simp] theorem files_append : (a ++ b).files = a.files ++ b.files := rfl

@[simp] theorem folders_withRoot : (m.withRoot p).folders = ⟨[], p⟩ :: m.folders := rfl

@[simp] theorem files_withRoot : (m.withRoot p).files = m.files := rfl

theorem mem_folders_under {f : MadeFolder} :
    f ∈ (m.under name).folders ↔ ∃ g ∈ m.folders, f = { g with path := name :: g.path } := by
  simp [under, eq_comm]

theorem mem_files_under {f : MadeFile} :
    f ∈ (m.under name).files ↔ ∃ g ∈ m.files, f = { g with path := name :: g.path } := by
  simp [under, eq_comm]

theorem draws_append : (a ++ b).draws = a.draws + b.draws := by
  simp [draws]
  omega

theorem draws_under : (m.under name).draws = m.draws := by
  simp [draws, under]

theorem draws_withRoot : (m.withRoot p).draws = m.draws + 1 := by
  simp [draws]
  omega

theorem ids_under : (m.under name).ids = m.ids := by
  simp [ids, under, Function.comp_def]

theorem ids_append_perm : (a ++ b).ids.Perm (a.ids ++ b.ids) := by
  refine List.perm_iff_count.2 fun i => ?_
  simp only [ids, folders_append, files_append, List.map_append, List.count_append]
  omega

end

end Made

/-! ## The plan -/

/-- What is made of a file: nothing if the project has a report of its name already. -/
def planFile (u : Upload) (project : Id) (name : String) (n : Nat) (c : Content) : Made :=
  if u.before.hasReportNamed (some (WorkbookName.normalize name)) (some project) then {}
  else { files := [⟨[], name, u.reportRow project name (.drawn (n + 1)) (.drawn (n + 2)), c⟩] }

mutual

/-- What is made of the entries of a folder, if `n` identifiers were drawn before. -/
def planEntries (u : Upload) (project : Id) (n : Nat) : List (String × Node) → Made
  | [] => {}
  | (name, node) :: es =>
    let m := planNode u project name n node
    m.under name ++ planEntries u project (n + m.draws) es

/-- What is made of a file or folder. -/
def planNode (u : Upload) (project : Id) (name : String) (n : Nat) : Node → Made
  | .file c => u.planFile project name n c
  | .folder es =>
    let p := u.folderRow (some project) name (.drawn (n + 1))
    (planEntries u p.id (n + 1) es).withRoot p

end

/-- What is made of a folder with the entries `es` below a parent. -/
def plan (u : Upload) (parent : Option Id) (name : String) (n : Nat) (es : List (String × Node)) :
    Made :=
  let p := u.folderRow parent name (.drawn (n + 1))
  (u.planEntries p.id (n + 1) es).withRoot p

/-! ## Identifiers -/

theorem range'_map_append (n k l : Nat) :
    (List.range' (n + 1) (k + l)).map Id.drawn =
      (List.range' (n + 1) k).map Id.drawn ++ (List.range' (n + k + 1) l).map Id.drawn := by
  rw [← List.map_append, Nat.add_right_comm n k 1, List.range'_append_1]

theorem ids_withRoot {m : Made} {p : Project} {n : Nat} (hp : p.id = .drawn (n + 1))
    (hm : m.ids.Perm ((List.range' (n + 2) m.draws).map Id.drawn)) :
    (m.withRoot p).ids.Perm ((List.range' (n + 1) (m.withRoot p).draws).map Id.drawn) := by
  rw [Made.draws_withRoot, List.range'_succ, List.map_cons, ← hp]
  exact hm.cons _

theorem ids_planFile (u : Upload) (project : Id) (name : String) (n : Nat) (c : Content) :
    (u.planFile project name n c).ids.Perm
      ((List.range' (n + 1) (u.planFile project name n c).draws).map Id.drawn) := by
  unfold planFile
  split <;> exact .refl _

mutual

theorem ids_planEntries (u : Upload) (project : Id) (n : Nat) : ∀ es,
    (u.planEntries project n es).ids.Perm
      ((List.range' (n + 1) (u.planEntries project n es).draws).map Id.drawn)
  | [] => .refl _
  | (name, node) :: es => by
    have hnode := ids_planNode u project name n node
    have hes := ids_planEntries u project (n + (u.planNode project name n node).draws) es
    rw [planEntries, Made.draws_append, Made.draws_under, range'_map_append]
    refine Made.ids_append_perm.trans ?_
    rw [Made.ids_under]
    exact hnode.append hes

theorem ids_planNode (u : Upload) (project : Id) (name : String) (n : Nat) : ∀ node,
    (u.planNode project name n node).ids.Perm
      ((List.range' (n + 1) (u.planNode project name n node).draws).map Id.drawn)
  | .file c => ids_planFile u project name n c
  | .folder es => ids_withRoot rfl (ids_planEntries u _ (n + 1) es)

end

theorem ids_plan (u : Upload) (parent : Option Id) (name : String) (n : Nat)
    (es : List (String × Node)) :
    (u.plan parent name n es).ids.Perm
      ((List.range' (n + 1) (u.plan parent name n es).draws).map Id.drawn) :=
  ids_withRoot rfl (ids_planEntries u _ (n + 1) es)

/-- No identifier is drawn twice for an upload. -/
theorem nodup_ids_plan (u : Upload) (parent : Option Id) (name : String) (n : Nat)
    (es : List (String × Node)) : (u.plan parent name n es).ids.Nodup :=
  (ids_plan u parent name n es).nodup_iff.2 (.map Id.drawn_injective (List.nodup_range'))

/-! ## Places -/

namespace Made

/-- The identifier `i` is that of the project made for the place `q`; the place of the entries
    themselves has the project `project`. -/
def Owns (m : Made) (project : Id) (q : List String) (i : Id) : Prop :=
  q = [] ∧ i = project ∨ ∃ g ∈ m.folders, g.path = q ∧ g.project.id = i

/-- Everything is placed in the project of the folder around it. -/
structure Placed (u : Upload) (project : Id) (m : Made) : Prop where
  folders : ∀ f ∈ m.folders, ∃ q name i, f.path = q ++ [name] ∧ m.Owns project q i ∧
    f.project = u.folderRow (some i) name f.project.id
  files : ∀ f ∈ m.files, ∃ q i, f.path = q ++ [f.name] ∧ m.Owns project q i ∧
    f.report = u.reportRow i f.name f.report.id f.report.reportId

section
variable {u : Upload} {project i : Id} {q : List String} {m a b : Made} {p : Project} {name : String}

theorem Owns.mono (h : a.Owns project q i) (hsub : ∀ g ∈ a.folders, g ∈ m.folders) :
    m.Owns project q i := by
  rcases h with h | ⟨g, hg, hq, hi⟩
  · exact .inl h
  · exact .inr ⟨g, hsub g hg, hq, hi⟩

/-- Seen from the folder around it, the place of the entries is that of the folder. -/
theorem Owns.withRoot (h : m.Owns p.id q i) :
    ∃ g ∈ (m.withRoot p).folders, g.path = q ∧ g.project.id = i := by
  rcases h with ⟨rfl, rfl⟩ | ⟨g, hg, hq, hi⟩
  · exact ⟨_, List.mem_cons_self, rfl, rfl⟩
  · exact ⟨g, List.mem_cons_of_mem _ hg, hq, hi⟩

theorem Owns.under (h : ∃ g ∈ m.folders, g.path = q ∧ g.project.id = i) :
    (m.under name).Owns project (name :: q) i := by
  obtain ⟨g, hg, rfl, rfl⟩ := h
  exact .inr ⟨_, mem_folders_under.2 ⟨g, hg, rfl⟩, rfl, rfl⟩

theorem Placed.append (ha : a.Placed u project) (hb : b.Placed u project) :
    (a ++ b).Placed u project := by
  constructor
  · intro f hf
    rcases List.mem_append.1 hf with hf | hf
    · obtain ⟨q, name, i, hq, ho, hrow⟩ := ha.folders f hf
      exact ⟨q, name, i, hq, ho.mono fun g => List.mem_append_left _, hrow⟩
    · obtain ⟨q, name, i, hq, ho, hrow⟩ := hb.folders f hf
      exact ⟨q, name, i, hq, ho.mono fun g => List.mem_append_right _, hrow⟩
  · intro f hf
    rcases List.mem_append.1 hf with hf | hf
    · obtain ⟨q, i, hq, ho, hrow⟩ := ha.files f hf
      exact ⟨q, i, hq, ho.mono fun g => List.mem_append_left _, hrow⟩
    · obtain ⟨q, i, hq, ho, hrow⟩ := hb.files f hf
      exact ⟨q, i, hq, ho.mono fun g => List.mem_append_right _, hrow⟩

/-- A folder as an entry: its project is placed around, and the rest in its project. -/
theorem Placed.under_withRoot (hp : p = u.folderRow (some project) name p.id)
    (hm : m.Placed u p.id) : ((m.withRoot p).under name).Placed u project := by
  constructor
  · intro f hf
    obtain ⟨g, hg, rfl⟩ := mem_folders_under.1 hf
    rcases List.mem_cons.1 hg with rfl | hg
    · exact ⟨[], name, project, rfl, .inl ⟨rfl, rfl⟩, hp⟩
    · obtain ⟨q, k, i, hq, ho, hrow⟩ := hm.folders g hg
      exact ⟨name :: q, k, i, congrArg (name :: ·) hq, .under ho.withRoot, hrow⟩
  · intro f hf
    obtain ⟨g, hg, rfl⟩ := mem_files_under.1 hf
    obtain ⟨q, i, hq, ho, hrow⟩ := hm.files g hg
    exact ⟨name :: q, i, congrArg (name :: ·) hq, .under ho.withRoot, hrow⟩

end

end Made

theorem placed_planFile (u : Upload) (project : Id) (name : String) (n : Nat) (c : Content) :
    ((u.planFile project name n c).under name).Placed u project := by
  unfold planFile
  split
  · exact ⟨by simp [Made.under], by simp [Made.under]⟩
  · refine ⟨by simp [Made.under], fun f hf => ?_⟩
    obtain ⟨g, hg, rfl⟩ := Made.mem_files_under.1 hf
    cases List.mem_singleton.1 hg
    exact ⟨[], project, rfl, .inl ⟨rfl, rfl⟩, rfl⟩

mutual

theorem placed_planEntries (u : Upload) (project : Id) (n : Nat) : ∀ es,
    (u.planEntries project n es).Placed u project
  | [] => ⟨by simp [planEntries], by simp [planEntries]⟩
  | (name, node) :: es => by
    rw [planEntries]
    exact (placed_planNode u project name n node).append (placed_planEntries u project _ es)

theorem placed_planNode (u : Upload) (project : Id) (name : String) (n : Nat) : ∀ node,
    ((u.planNode project name n node).under name).Placed u project
  | .file c => placed_planFile u project name n c
  | .folder es => .under_withRoot rfl (placed_planEntries u _ (n + 1) es)

end

/-! ## One row for each part of the tree -/

/-- What the entries of a folder hold at a place other than the folder itself. -/
def inside? (es : List (String × Node)) : List String → Option Node
  | [] => none
  | k :: ks => (Node.child? k es).bind fun n => n.get? ks

namespace Made

/-- There is one project for each folder and one report for each file. -/
structure Shows (m : Made) (get? : List String → Option Node) : Prop where
  folders : ∀ q, (∃ f ∈ m.folders, f.path = q) ↔ ∃ es, get? q = some (.folder es)
  files : ∀ q c, (∃ f ∈ m.files, f.path = q ∧ f.content = c) ↔ get? q = some (.file c)
  folders_nodup : (m.folders.map (·.path)).Nodup
  files_nodup : (m.files.map (·.path)).Nodup

section
variable {m a b : Made} {p : Project} {name : String} {node : Node} {es : List (String × Node)}

theorem shows_nil : Shows {} (inside? []) where
  folders q := by cases q <;> simp [inside?, Node.child?]
  files q c := by cases q <;> simp [inside?, Node.child?]
  folders_nodup := List.nodup_nil
  files_nodup := List.nodup_nil

theorem shows_file (f : MadeFile) (h : f.path = []) :
    Shows { files := [f] } (Node.file f.content).get? where
  folders q := by cases q <;> simp [Node.get?]
  files q c := by cases q <;> simp [Node.get?, h]
  folders_nodup := List.nodup_nil
  files_nodup := List.nodup_singleton _

theorem Shows.withRoot (h : m.Shows (inside? es)) :
    (m.withRoot p).Shows (Node.folder es).get? where
  folders q := by
    cases q with
    | nil => simp [Node.get?]
    | cons k ks =>
      rw [show (Node.folder es).get? (k :: ks) = inside? es (k :: ks) from rfl, ← h.folders]
      simp
  files q c := by
    cases q with
    | nil =>
      have hnone := h.files [] c
      simpa [inside?, Node.get?] using hnone
    | cons k ks => exact h.files (k :: ks) c
  folders_nodup := by
    refine List.nodup_cons.2 ⟨fun hmem => ?_, h.folders_nodup⟩
    obtain ⟨f, hf, hp⟩ := List.mem_map.1 hmem
    obtain ⟨es', hes⟩ := (h.folders []).1 ⟨f, hf, hp⟩
    cases hes
  files_nodup := h.files_nodup

theorem ne_of_inside? {k : String} {ks : List String} {n : Node} (hname : name ∉ es.map (·.1))
    (h : inside? es (k :: ks) = some n) : name ≠ k := by
  rintro rfl
  obtain ⟨x, hx, -⟩ := Option.bind_eq_some_iff.1 h
  obtain ⟨e, he, -⟩ := Option.map_eq_some_iff.1 hx
  have hk : e.1 = name := by simpa using List.find?_some he
  exact hname (hk ▸ List.mem_map_of_mem (List.mem_of_find?_eq_some he))

/-- What a further entry adds. -/
theorem inside?_cons_eq_some_iff {q : List String} {n : Node} (hname : name ∉ es.map (·.1)) :
    inside? ((name, node) :: es) q = some n ↔
      (∃ r, q = name :: r ∧ node.get? r = some n) ∨ inside? es q = some n := by
  cases q with
  | nil => simp [inside?]
  | cons k ks =>
    by_cases hk : name = k
    · subst hk
      have hnone : inside? es (name :: ks) ≠ some n := fun h => ne_of_inside? hname h rfl
      simp [hnone, show inside? ((name, node) :: es) (name :: ks) = node.get? ks by
        simp [inside?, Node.child?]]
    · have hne : k ≠ name := fun h => hk h.symm
      simp [hne, show inside? ((name, node) :: es) (k :: ks) = inside? es (k :: ks) by
        simp [inside?, Node.child?, hk]]

theorem nodup_under_append {xs ys : List (List String)} (hx : xs.Nodup) (hy : ys.Nodup)
    (hne : ∀ q, name :: q ∉ ys) : (xs.map (name :: ·) ++ ys).Nodup := by
  refine List.nodup_append.2 ⟨hx.map fun p q h => (List.cons.inj h).2, hy, ?_⟩
  rintro _ ha q hb rfl
  obtain ⟨r, -, rfl⟩ := List.mem_map.1 ha
  exact hne r hb

/-- A further entry, whose name is new. -/
theorem Shows.under_append (hname : name ∉ es.map (·.1)) (ha : a.Shows node.get?)
    (hb : b.Shows (inside? es)) : (a.under name ++ b).Shows (inside? ((name, node) :: es)) where
  folders q := by
    simp only [inside?_cons_eq_some_iff hname, exists_or, ← hb.folders q, folders_append,
      List.mem_append, or_and_right]
    refine or_congr_left ⟨?_, ?_⟩
    · rintro ⟨f, hf, rfl⟩
      obtain ⟨g, hg, rfl⟩ := mem_folders_under.1 hf
      obtain ⟨es', hes⟩ := (ha.folders g.path).1 ⟨g, hg, rfl⟩
      exact ⟨es', g.path, rfl, hes⟩
    · rintro ⟨es', r, rfl, hes⟩
      obtain ⟨g, hg, rfl⟩ := (ha.folders r).2 ⟨es', hes⟩
      exact ⟨_, mem_folders_under.2 ⟨g, hg, rfl⟩, rfl⟩
  files q c := by
    simp only [inside?_cons_eq_some_iff hname, exists_or, ← hb.files q c, files_append,
      List.mem_append, or_and_right]
    refine or_congr_left ⟨?_, ?_⟩
    · rintro ⟨f, hf, rfl, rfl⟩
      obtain ⟨g, hg, rfl⟩ := mem_files_under.1 hf
      exact ⟨g.path, rfl, (ha.files g.path g.content).1 ⟨g, hg, rfl, rfl⟩⟩
    · rintro ⟨r, rfl, hfile⟩
      obtain ⟨g, hg, rfl, rfl⟩ := (ha.files r c).2 hfile
      exact ⟨_, mem_files_under.2 ⟨g, hg, rfl⟩, rfl, rfl⟩
  folders_nodup := by
    have hpaths : (a.under name ++ b).folders.map (·.path) =
        (a.folders.map (·.path)).map (name :: ·) ++ b.folders.map (·.path) := by
      simp [under, Function.comp_def]
    rw [hpaths]
    refine nodup_under_append ha.folders_nodup hb.folders_nodup fun q hq => ?_
    obtain ⟨f, hf, hpath⟩ := List.mem_map.1 hq
    obtain ⟨es', hes⟩ := (hb.folders _).1 ⟨f, hf, hpath⟩
    exact ne_of_inside? hname hes rfl
  files_nodup := by
    have hpaths : (a.under name ++ b).files.map (·.path) =
        (a.files.map (·.path)).map (name :: ·) ++ b.files.map (·.path) := by
      simp [under, Function.comp_def]
    rw [hpaths]
    refine nodup_under_append ha.files_nodup hb.files_nodup fun q hq => ?_
    obtain ⟨f, hf, hpath⟩ := List.mem_map.1 hq
    exact ne_of_inside? hname ((hb.files _ f.content).1 ⟨f, hf, hpath, rfl⟩) rfl

end

end Made

/-- No report of the catalogue belongs to the project. -/
def Vacant (db : Database) (i : Id) : Prop := ∀ r ∈ db.reports, r.projectId ≠ i

theorem Vacant.hasReportNamed {db : Database} {i : Id} (h : Vacant db i) (name : Option String) :
    db.hasReportNamed name (some i) = false := by
  refine List.any_eq_false.2 fun r hr => ?_
  simp [h r hr]

/-- A file is passed over only where its project had reports before. -/
theorem shows_planFile {u : Upload} {project : Id} {name : String} {n : Nat} {c : Content}
    (hproject : Vacant u.before project) :
    (u.planFile project name n c).Shows (Node.file c).get? := by
  rw [planFile, hproject.hasReportNamed, if_neg (by simp)]
  exact Made.shows_file _ rfl

mutual

theorem shows_planEntries {u : Upload} {project : Id} {n : Nat} : ∀ {es},
    (Node.folder es).WellFormed → Vacant u.before project →
      (∀ f ∈ (u.planEntries project n es).folders, Vacant u.before f.project.id) →
      (u.planEntries project n es).Shows (inside? es)
  | [], _, _, _ => Made.shows_nil
  | (name, node) :: es, .folder hdistinct hnames hentries, hproject, hvacant => by
    obtain ⟨hname, hdistinct⟩ := List.nodup_cons.1 hdistinct
    have hnode : node.WellFormed := hentries _ List.mem_cons_self
    have hes : (Node.folder es).WellFormed := .folder hdistinct
      (fun e he => hnames e (List.mem_cons_of_mem _ he))
      (fun e he => hentries e (List.mem_cons_of_mem _ he))
    rw [planEntries] at hvacant ⊢
    refine .under_append hname (shows_planNode hnode hproject fun f hf => ?_)
      (shows_planEntries hes hproject fun f hf => ?_)
    · exact hvacant { f with path := name :: f.path }
        (List.mem_append_left _ (Made.mem_folders_under.2 ⟨f, hf, rfl⟩))
    · exact hvacant f (List.mem_append_right _ hf)

theorem shows_planNode {u : Upload} {project : Id} {name : String} {n : Nat} : ∀ {node : Node},
    node.WellFormed → Vacant u.before project →
      (∀ f ∈ (u.planNode project name n node).folders, Vacant u.before f.project.id) →
      (u.planNode project name n node).Shows node.get?
  | .file _, _, hproject, _ => shows_planFile hproject
  | .folder _, hwf, _, hvacant =>
    (shows_planEntries hwf (hvacant _ List.mem_cons_self) fun f hf =>
      hvacant f (List.mem_cons_of_mem _ hf)).withRoot

end

/-! ## The whole tree -/

/-- The projects and reports mirror a tree below a parent, for a user. -/
structure Made.Mirrors (user : Id) (parent : Option Id) (name : String) (tree : Node) (m : Made) :
    Prop extends m.Shows tree.get? where
  root : ∀ f ∈ m.folders, f.path = [] → f.project.name = name ∧ f.project.parentId = parent
  folder : ∀ f ∈ m.folders, ∀ q k, f.path = q ++ [k] → f.project.name = k ∧
    ∃ g ∈ m.folders, g.path = q ∧ f.project.parentId = some g.project.id
  owned : ∀ f ∈ m.folders, f.project.userId = user ∧ f.project.isUpload = true
  file : ∀ f ∈ m.files, f.report.name = WorkbookName.normalize f.name ∧
    ∃ g ∈ m.folders, f.path = g.path ++ [f.name] ∧ f.report.projectId = g.project.id
  ids_nodup : m.ids.Nodup

/-- **An upload mirrors the tree**, if no report was in one of its projects before. -/
theorem mirrors_plan {u : Upload} {parent : Option Id} {name : String} {n : Nat}
    {es : List (String × Node)} (hwf : (Node.folder es).WellFormed)
    (hvacant : ∀ f ∈ (u.plan parent name n es).folders, Vacant u.before f.project.id) :
    (u.plan parent name n es).Mirrors u.userId parent name (.folder es) := by
  have hplaced := placed_planEntries u (u.folderRow parent name (.drawn (n + 1))).id (n + 1) es
  refine ⟨?_, ?_, ?_, ?_, ?_, nodup_ids_plan u parent name n es⟩
  · exact (shows_planEntries hwf (hvacant _ List.mem_cons_self) fun f hf =>
      hvacant f (List.mem_cons_of_mem _ hf)).withRoot
  · intro f hf hpath
    rcases List.mem_cons.1 hf with rfl | hf
    · exact ⟨rfl, rfl⟩
    · obtain ⟨q, k, i, hq, -, -⟩ := hplaced.folders f hf
      simp [hq] at hpath
  · intro f hf q k hpath
    rcases List.mem_cons.1 hf with rfl | hf
    · simp at hpath
    · obtain ⟨q', k', i, hq, ho, hrow⟩ := hplaced.folders f hf
      obtain ⟨rfl, rfl⟩ : q' = q ∧ k' = k := by simpa [hpath, eq_comm] using hq
      obtain ⟨g, hg, hgq, rfl⟩ := ho.withRoot
      exact ⟨by rw [hrow]; rfl, g, hg, hgq, by rw [hrow]; rfl⟩
  · intro f hf
    rcases List.mem_cons.1 hf with rfl | hf
    · exact ⟨rfl, rfl⟩
    · obtain ⟨q, k, i, -, -, hrow⟩ := hplaced.folders f hf
      rw [hrow]
      exact ⟨rfl, rfl⟩
  · intro f hf
    obtain ⟨q, i, hq, ho, hrow⟩ := hplaced.files f hf
    obtain ⟨g, hg, rfl, rfl⟩ := ho.withRoot
    exact ⟨by rw [hrow]; rfl, g, hg, hq, by rw [hrow]; rfl⟩

end Upload

end ReportMigration
