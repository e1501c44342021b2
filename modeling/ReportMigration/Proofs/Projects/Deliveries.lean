import ReportMigration.Proofs.Projects.Mirror
/-!
Uploads one after another.

A `Delivery` is an upload with everything around it but the catalogue, so that a sequence of uploads
is a list of them: each finds the catalogue that the one before it left, whatever else has changed.

* `Delivery.outcome_cases`: an upload fails and leaves the catalogue as it was, or enters its plan;
* `reportsApart_deliver_iff`: the reports of each project keep different names exactly if no upload
  that answered held two files of one folder that are kept under the same name;
* `projectsApart_deliver`: the projects at each place keep different names, and a second upload of
  the same name to the same place is refused.
-/
namespace ReportMigration

/-! ## Names -/

namespace Database

/-- The projects and names of the reports that are not marked as deleted. -/
def reportNames (db : Database) : List (Id × String) :=
  (db.reports.filter fun r => r.isDeleted = some false).map fun r => (r.projectId, r.name)

/-- The names, owners and parents of the projects that are not marked as deleted. -/
def projectNames (db : Database) : List (String × Id × Option Id) :=
  (db.projects.filter fun p => !p.audit.isDeleted).map fun p => (p.name, p.userId, p.parentId)

/-- No two reports of a project have the same name. -/
def ReportsApart (db : Database) : Prop := db.reportNames.Nodup

/-- No two projects of a user below the same parent have the same name. -/
def ProjectsApart (db : Database) : Prop := db.projectNames.Nodup

instance (db : Database) : Decidable db.ReportsApart := inferInstanceAs (Decidable (List.Nodup _))

instance (db : Database) : Decidable db.ProjectsApart := inferInstanceAs (Decidable (List.Nodup _))

/-- What projects and reports refer to as their project is one. -/
structure Linked (db : Database) : Prop where
  parents : ∀ p ∈ db.projects, ∀ i, p.parentId = some i → db.hasProject i = true
  reports : ∀ r ∈ db.reports, db.hasProject r.projectId = true

theorem hasProject_mono {db db' : Database} (h : db.projects ⊆ db'.projects) {i : Id}
    (hi : db.hasProject i = true) : db'.hasProject i = true := by
  obtain ⟨p, hp, hid⟩ := hasProject_iff.1 hi
  exact hasProject_iff.2 ⟨p, h hp, hid⟩

theorem hasProjectNamed_iff {db : Database} {name : String} {user : Id} {parent : Option Id} :
    db.hasProjectNamed (some name) user parent none = true ↔
      (name, user, parent) ∈ db.projectNames := by
  simp [hasProjectNamed, projectNames, and_assoc, and_left_comm]

end Database

/-- No two files of a folder are kept under the same name. -/
def Node.KeptApart (tree : Node) : Prop :=
  ∀ q k k' c c', tree.get? (q ++ [k]) = some (.file c) → tree.get? (q ++ [k']) = some (.file c') →
    WorkbookName.normalize k = WorkbookName.normalize k' → k = k'

/-! ## What an upload adds -/

namespace Upload

namespace Made

section
variable {m : Made} {user : Id} {parent : Option Id} {name : String} {tree : Node}

theorem Mirrors.eq_of_id (h : m.Mirrors user parent name tree) {f g : MadeFolder}
    (hf : f ∈ m.folders) (hg : g ∈ m.folders) (he : f.project.id = g.project.id) : f = g :=
  List.inj_on_of_nodup_map (List.nodup_append.1 h.ids_nodup).1 hf hg he

theorem Mirrors.eq_of_path (h : m.Mirrors user parent name tree) {f g : MadeFolder}
    (hf : f ∈ m.folders) (hg : g ∈ m.folders) (he : f.path = g.path) : f = g :=
  List.inj_on_of_nodup_map h.folders_nodup hf hg he

/-- The new reports of each project have different names exactly if the files of each folder do. -/
theorem Mirrors.nodup_names_iff (h : m.Mirrors user parent name tree) :
    (m.files.map fun f => (f.report.projectId, f.report.name)).Nodup ↔ tree.KeptApart := by
  constructor
  · intro hnodup q k k' c c' hk hk' hkept
    obtain ⟨f, hf, hpath, -⟩ := (h.files _ c).2 hk
    obtain ⟨f', hf', hpath', -⟩ := (h.files _ c').2 hk'
    obtain ⟨hname, g, hg, hfg, hproject⟩ := h.file f hf
    obtain ⟨hname', g', hg', hfg', hproject'⟩ := h.file f' hf'
    obtain ⟨hgq, hfk⟩ := List.append_inj' (hfg.symm.trans hpath) rfl
    obtain ⟨hgq', hfk'⟩ := List.append_inj' (hfg'.symm.trans hpath') rfl
    -- both files lie in one folder, so that their reports belong to one project
    have hgg' : g = g' := h.eq_of_path hg hg' (hgq.trans hgq'.symm)
    have hkey : (f.report.projectId, f.report.name) = (f'.report.projectId, f'.report.name) := by
      rw [hproject, hproject', hgg', hname, hname', List.singleton_inj.1 hfk,
        List.singleton_inj.1 hfk', hkept]
    have hff' : f = f' := List.inj_on_of_nodup_map hnodup hf hf' hkey
    rw [← List.singleton_inj.1 hfk, ← List.singleton_inj.1 hfk', hff']
  · intro hapart
    refine List.Nodup.map_on (fun f hf f' hf' hkey => ?_) (List.Nodup.of_map _ h.files_nodup)
    obtain ⟨hproject, hname⟩ := Prod.mk.inj hkey
    obtain ⟨hkept, g, hg, hfg, hgid⟩ := h.file f hf
    obtain ⟨hkept', g', hg', hfg', hgid'⟩ := h.file f' hf'
    have hgg' : g = g' := h.eq_of_id hg hg' (hgid.symm.trans (hproject.trans hgid'))
    have hfile := (h.files f.path f.content).1 ⟨f, hf, rfl, rfl⟩
    have hfile' := (h.files f'.path f'.content).1 ⟨f', hf', rfl, rfl⟩
    rw [hfg] at hfile
    rw [hfg', ← hgg'] at hfile'
    have hff' := hapart _ _ _ _ _ hfile hfile' (hkept.symm.trans (hname.trans hkept'))
    refine List.inj_on_of_nodup_map h.files_nodup hf hf' ?_
    rw [hfg, hfg', hgg', hff']

/-- The new projects at each place have different names, if the given parent is none of them. -/
theorem Mirrors.nodup_places (h : m.Mirrors user parent name tree)
    (hparent : ∀ g ∈ m.folders, parent ≠ some g.project.id) :
    (m.folders.map fun f => (f.project.name, f.project.userId, f.project.parentId)).Nodup := by
  refine List.Nodup.map_on (fun f hf f' hf' hkey => ?_) (List.Nodup.of_map _ h.folders_nodup)
  obtain ⟨hname, huser⟩ := Prod.mk.inj hkey
  have hplace : f.project.parentId = f'.project.parentId := (Prod.mk.inj huser).2
  refine h.eq_of_path hf hf' ?_
  rcases List.eq_nil_or_concat' f.path with hq | ⟨q, k, hq⟩
  · rcases List.eq_nil_or_concat' f'.path with hq' | ⟨q', k', hq'⟩
    · rw [hq, hq']
    · obtain ⟨-, g, hg, -, hgid⟩ := h.folder f' hf' q' k' hq'
      exact absurd ((h.root f hf hq).2.symm.trans (hplace.trans hgid)) (hparent g hg)
  · obtain ⟨hk, g, hg, hgq, hgid⟩ := h.folder f hf q k hq
    rcases List.eq_nil_or_concat' f'.path with hq' | ⟨q', k', hq'⟩
    · exact absurd ((h.root f' hf' hq').2.symm.trans (hplace.symm.trans hgid)) (hparent g hg)
    · obtain ⟨hk', g', hg', hgq', hgid'⟩ := h.folder f' hf' q' k' hq'
      have hgg' : g = g' :=
        h.eq_of_id hg hg' (Option.some.inj (hgid.symm.trans (hplace.trans hgid')))
      rw [hq, hq', ← hgq, ← hgq', hgg', ← hk, ← hk', hname]

end

/-- None of the projects and reports is marked as deleted. -/
structure Live (m : Made) : Prop where
  folders : ∀ f ∈ m.folders, f.project.audit.isDeleted = false
  files : ∀ f ∈ m.files, f.report.isDeleted = some false

theorem Live.reportNames_enter {m : Made} (h : m.Live) (db : Database) :
    (m.enter db).reportNames =
      db.reportNames ++ m.files.map fun f => (f.report.projectId, f.report.name) := by
  have hall : (m.files.map (·.report)).filter (fun r => r.isDeleted = some false) =
      m.files.map (·.report) := by
    simpa [List.filter_eq_self] using h.files
  simp only [Database.reportNames, enter, List.filter_append, hall, List.map_append, List.map_map]
  rfl

theorem Live.projectNames_enter {m : Made} (h : m.Live) (db : Database) :
    (m.enter db).projectNames = db.projectNames ++
      m.folders.map fun f => (f.project.name, f.project.userId, f.project.parentId) := by
  have hall : (m.folders.map (·.project)).filter (fun p => !p.audit.isDeleted) =
      m.folders.map (·.project) := by
    simpa [List.filter_eq_self] using h.folders
  simp only [Database.projectNames, enter, List.filter_append, hall, List.map_append, List.map_map]
  rfl

end Made

theorem live_plan (u : Upload) (parent : Option Id) (name : String) (n : Nat)
    (es : List (String × Node)) : (u.plan parent name n es).Live := by
  have hplaced := placed_planEntries u (u.folderRow parent name (.drawn (n + 1))).id (n + 1) es
  constructor
  · intro f hf
    rcases List.mem_cons.1 hf with rfl | hf
    · rfl
    · obtain ⟨q, k, i, -, -, hrow⟩ := hplaced.folders f hf
      rw [hrow]
      rfl
  · intro f hf
    obtain ⟨q, i, -, -, hrow⟩ := hplaced.files f hf
    rw [hrow]
    rfl

/-- The project of the whole upload has the name and the place that were asked for. -/
theorem mem_projectNames_plan (u : Upload) (parent : Option Id) (name : String) (n : Nat)
    (es : List (String × Node)) (db : Database) :
    (name, u.userId, parent) ∈ ((u.plan parent name n es).enter db).projectNames := by
  have hroot : ⟨[], u.folderRow parent name (.drawn (n + 1))⟩ ∈ (u.plan parent name n es).folders :=
    List.mem_cons_self
  rw [(u.live_plan parent name n es).projectNames_enter]
  exact List.mem_append_right _ (List.mem_map.2 ⟨_, hroot, rfl⟩)

/-- An upload that answers found its name free and its place there. -/
theorem admits_of_run {u : Upload} {folder name : String} {parent : Option Id} {d d' : Deployment}
    (h : (u.run folder name parent).exec d = (.ok (), d')) :
    u.before.hasProjectNamed (some name) u.userId parent none = false ∧
      d.db.Admits (u.folderRow parent name (.drawn (d.drawn + 1))) := by
  rcases u.addFolder_cases parent name d with ⟨e, d₁, hadd, -⟩ | ⟨p, rfl, hfree, hadmits, -⟩
  · rw [run, Op.exec_transaction_error (Op.exec_bind_error hadd)] at h
    cases h
  · exact ⟨hfree, hadmits⟩

/-- A name that is taken is refused before anything is done. -/
theorem exec_run_taken {u : Upload} {folder name : String} {parent : Option Id} (d : Deployment)
    (h : u.before.hasProjectNamed (some name) u.userId parent none = true) :
    (u.run folder name parent).exec d =
      (.error (.http 409 (.str ("Project '" ++ name ++ "' already exists."))), d) := by
  have hadd : (u.addFolder parent name).exec d =
      (.error (.http 409 (.str ("Project '" ++ name ++ "' already exists."))), d) := by
    unfold addFolder
    rw [if_pos h]
    rfl
  rw [run, Op.exec_transaction_error (Op.exec_bind_error hadd)]

end Upload

/-! ## One upload -/

/-- An upload and everything around it but the catalogue. -/
structure Delivery where
  around : Deployment
  wellFormed : around.disk.root.WellFormed
  folder : String
  archive : String
  parent : Option Id
  user : Id
  orgName : String
  provider : String
  storage : SettingsKind
  extracts : Bool

namespace Delivery

/-- The name of the project that is made for the folder. -/
def name (x : Delivery) : String := (Path.stemAndExtension x.archive).1

/-- How the upload ends where it finds the catalogue `db`. -/
def outcome (x : Delivery) (db : Database) : Except Fault Unit × Deployment :=
  (uploadArchive x.folder x.archive x.parent x.user x.orgName x.provider x.storage
    x.extracts).exec { x.around with db := db }

/-- The catalogue that it leaves. -/
def after (x : Delivery) (db : Database) : Database := (x.outcome db).2.db

/-- The upload as it starts from the catalogue `db`. -/
def upload (x : Delivery) (db : Database) : Upload :=
  ⟨db, x.user, x.orgName, x.provider, x.storage, x.extracts⟩

/-- What it makes of the entries of its folder. -/
def plan (x : Delivery) (db : Database) (es : List (String × Node)) : Upload.Made :=
  (x.upload db).plan x.parent x.name x.around.drawn es

/-- What is known of an upload that answers. -/
structure Enters (x : Delivery) (db : Database) (es : List (String × Node)) : Prop where
  list : x.around.disk.list x.folder = .ok es
  done : (x.upload db).Done (x.plan db es) { x.around with db := db } (x.outcome db).2
  unnamed : (x.name, x.user, x.parent) ∉ db.projectNames
  parent : ∀ i, x.parent = some i → i = .drawn (x.around.drawn + 1) ∨ db.hasProject i = true

variable {x : Delivery} {db : Database} {es : List (String × Node)}

theorem outcome_eq (x : Delivery) (db : Database) :
    x.outcome db = ((x.upload db).run x.folder x.name x.parent).exec { x.around with db := db } :=
  exec_uploadArchive x.folder x.archive x.parent x.user x.orgName x.provider x.storage x.extracts _

/-- **An upload fails and leaves the catalogue as it was, or enters what is planned.** -/
theorem outcome_cases (x : Delivery) (db : Database) :
    (∃ e, (x.outcome db).1 = .error e ∧ x.after db = db) ∨
      (x.outcome db).1 = .ok () ∧ ∃ es, x.Enters db es := by
  have hx := x.outcome_eq db
  rcases (x.upload db).run_cases x.folder x.name x.parent (d := { x.around with db := db })
    x.wellFormed with ⟨e, d', hrun, hdb, -⟩ | ⟨es, d', hlist, hrun, hdone⟩
  · rw [hrun] at hx
    exact .inl ⟨e, by rw [hx], by rw [after, hx]; exact hdb⟩
  · obtain ⟨hfree, hadmits⟩ := Upload.admits_of_run hrun
    rw [hrun] at hx
    refine .inr ⟨by rw [hx], es, hlist, by rw [hx]; exact hdone, fun hmem => ?_, hadmits.parent⟩
    exact absurd (Database.hasProjectNamed_iff.2 hmem) (Bool.eq_false_iff.1 hfree)

theorem Enters.after_eq (h : x.Enters db es) : x.after db = (x.plan db es).enter db := h.done.db

theorem Enters.mirrors (h : x.Enters db es)
    (hrefs : ∀ r ∈ db.reports, db.hasProject r.projectId = true) :
    (x.plan db es).Mirrors x.user x.parent x.name (.folder es) :=
  h.done.mirrors rfl ((Disk.hasFolder_of_list h.list).wellFormed x.wellFormed) hrefs

theorem live (x : Delivery) (db : Database) (es : List (String × Node)) : (x.plan db es).Live :=
  (x.upload db).live_plan x.parent x.name x.around.drawn es

/-- A project that was there before is none of the new ones. -/
theorem Enters.hasProject_ne (h : x.Enters db es) {i : Id} (hi : db.hasProject i = true) :
    ∀ g ∈ (x.plan db es).folders, g.project.id ≠ i := by
  rintro g hg rfl
  obtain ⟨p, hp, hid⟩ := Database.hasProject_iff.1 hi
  exact h.done.new.folders g hg p hp hid

/-- No project is ever lost. -/
theorem projects_subset_after (x : Delivery) (db : Database) :
    db.projects ⊆ (x.after db).projects := by
  rcases x.outcome_cases db with ⟨e, -, hdb⟩ | ⟨-, es, h⟩
  · rw [hdb]
    exact List.Subset.refl _
  · rw [h.after_eq]
    exact List.subset_append_left _ _

theorem Enters.hasProject_new (h : x.Enters db es) {g : Upload.MadeFolder}
    (hg : g ∈ (x.plan db es).folders) : (x.after db).hasProject g.project.id = true := by
  rw [h.after_eq]
  exact Database.hasProject_iff.2
    ⟨g.project, List.mem_append_right _ (List.mem_map.2 ⟨g, hg, rfl⟩), rfl⟩

/-- Every report still has its project. -/
theorem reports_after (hrefs : ∀ r ∈ db.reports, db.hasProject r.projectId = true) :
    ∀ r ∈ (x.after db).reports, (x.after db).hasProject r.projectId = true := by
  rcases x.outcome_cases db with ⟨e, -, hdb⟩ | ⟨-, es, h⟩
  · rwa [hdb]
  · intro r hr
    rw [h.after_eq] at hr
    rcases List.mem_append.1 hr with hr | hr
    · exact Database.hasProject_mono (x.projects_subset_after db) (hrefs r hr)
    · obtain ⟨f, hf, rfl⟩ := List.mem_map.1 hr
      obtain ⟨-, g, hg, -, hid⟩ := (h.mirrors hrefs).file f hf
      rw [hid]
      exact h.hasProject_new hg

/-! ### Reports -/

/-- The upload answers, though two files of a folder in it are kept under the same name. -/
def Clashes (x : Delivery) (db : Database) : Prop :=
  (x.outcome db).1 = .ok () ∧
    ∃ es, x.around.disk.list x.folder = .ok es ∧ ¬ (Node.folder es).KeptApart

/-- The new reports lie in new projects, so that they can only clash with each other. -/
theorem Enters.reportsApart_iff (h : x.Enters db es)
    (hrefs : ∀ r ∈ db.reports, db.hasProject r.projectId = true) :
    (x.after db).ReportsApart ↔ db.ReportsApart ∧ (Node.folder es).KeptApart := by
  have hmirrors := h.mirrors hrefs
  have hdisjoint : ∀ a ∈ db.reportNames, ∀ b ∈ (x.plan db es).files.map
      (fun f => (f.report.projectId, f.report.name)), a ≠ b := by
    intro a ha b hb hab
    obtain ⟨r, hr, rfl⟩ := List.mem_map.1 ha
    obtain ⟨f, hf, rfl⟩ := List.mem_map.1 hb
    obtain ⟨-, g, hg, -, hid⟩ := hmirrors.file f hf
    have hproject := hrefs r (List.mem_filter.1 hr).1
    exact h.hasProject_ne hproject g hg (hid.symm.trans (congrArg Prod.fst hab).symm)
  rw [Database.ReportsApart, h.after_eq, (x.live db es).reportNames_enter, List.nodup_append,
    hmirrors.nodup_names_iff]
  exact ⟨fun ⟨hold, hnew, _⟩ => ⟨hold, hnew⟩, fun ⟨hold, hnew⟩ => ⟨hold, hnew, hdisjoint⟩⟩

theorem reportsApart_after_iff (hrefs : ∀ r ∈ db.reports, db.hasProject r.projectId = true) :
    (x.after db).ReportsApart ↔ db.ReportsApart ∧ ¬ x.Clashes db := by
  rcases x.outcome_cases db with ⟨e, he, hdb⟩ | ⟨hok, es, h⟩
  · have hclash : ¬ x.Clashes db := fun ⟨hok, _⟩ => by rw [he] at hok; cases hok
    rw [hdb]
    simp only [hclash, not_false_eq_true, and_true]
  · have hclash : x.Clashes db ↔ ¬ (Node.folder es).KeptApart := by
      simp [Clashes, hok, h.list]
    rw [h.reportsApart_iff hrefs, hclash, not_not]

/-! ### Projects -/

/-- The parent, if any, is not an identifier that is yet to be drawn for the folder itself. -/
def NewBelow (x : Delivery) : Prop := x.parent ≠ some (.drawn (x.around.drawn + 1))

theorem Enters.hasProject_parent (h : x.Enters db es) (hnew : x.NewBelow) {i : Id}
    (hi : x.parent = some i) : db.hasProject i = true := by
  rcases h.parent i hi with rfl | hex
  · exact absurd hi hnew
  · exact hex

theorem linked_after (hlinked : db.Linked) (hnew : x.NewBelow) : (x.after db).Linked := by
  refine ⟨?_, reports_after hlinked.reports⟩
  rcases x.outcome_cases db with ⟨e, -, hdb⟩ | ⟨-, es, h⟩
  · rw [hdb]
    exact hlinked.parents
  · intro p hp i hi
    have hold : db.hasProject i = true → (x.after db).hasProject i = true :=
      Database.hasProject_mono (x.projects_subset_after db)
    rw [h.after_eq] at hp
    rcases List.mem_append.1 hp with hp | hp
    · exact hold (hlinked.parents p hp i hi)
    · obtain ⟨f, hf, rfl⟩ := List.mem_map.1 hp
      have hmirrors := h.mirrors hlinked.reports
      rcases List.eq_nil_or_concat' f.path with hq | ⟨q, k, hq⟩
      · exact hold (h.hasProject_parent hnew ((hmirrors.root f hf hq).2.symm.trans hi))
      · obtain ⟨-, g, hg, -, hgid⟩ := hmirrors.folder f hf q k hq
        rw [← Option.some.inj (hgid.symm.trans hi)]
        exact h.hasProject_new hg

/-- The first project was looked for before, and the others lie below new ones. -/
theorem projectsApart_after (hlinked : db.Linked) (hnew : x.NewBelow) (hapart : db.ProjectsApart) :
    (x.after db).ProjectsApart := by
  rcases x.outcome_cases db with ⟨e, -, hdb⟩ | ⟨-, es, h⟩
  · rwa [hdb]
  · have hmirrors := h.mirrors hlinked.reports
    have hparent : ∀ g ∈ (x.plan db es).folders, x.parent ≠ some g.project.id := fun g hg he =>
      h.hasProject_ne (h.hasProject_parent hnew he) g hg rfl
    rw [Database.ProjectsApart, h.after_eq, (x.live db es).projectNames_enter]
    refine List.nodup_append.2 ⟨hapart, hmirrors.nodup_places hparent, ?_⟩
    intro a ha b hb hab
    obtain ⟨f, hf, rfl⟩ := List.mem_map.1 hb
    rcases List.eq_nil_or_concat' f.path with hq | ⟨q, k, hq⟩
    · obtain ⟨hname, hplace⟩ := hmirrors.root f hf hq
      rw [hname, hplace, (hmirrors.owned f hf).1] at hab
      exact h.unnamed (hab ▸ ha)
    · obtain ⟨-, g, hg, -, hgid⟩ := hmirrors.folder f hf q k hq
      obtain ⟨p, hp, rfl⟩ := List.mem_map.1 ha
      have hplace : p.parentId = some g.project.id :=
        (congrArg (fun a => a.2.2) hab).trans hgid
      exact h.hasProject_ne (hlinked.parents p (List.mem_filter.1 hp).1 _ hplace) g hg rfl

/-- After an upload that answered its name is taken. -/
theorem Enters.mem_projectNames (h : x.Enters db es) :
    (x.name, x.user, x.parent) ∈ (x.after db).projectNames := by
  rw [h.after_eq]
  exact (x.upload db).mem_projectNames_plan x.parent x.name x.around.drawn es db

theorem projectNames_subset_after (x : Delivery) (db : Database) :
    db.projectNames ⊆ (x.after db).projectNames :=
  List.map_subset _ (List.filter_subset _ (x.projects_subset_after db))

/-- An upload whose name is taken is refused. -/
theorem outcome_taken (h : (x.name, x.user, x.parent) ∈ db.projectNames) :
    x.outcome db = (.error (.http 409 (.str ("Project '" ++ x.name ++ "' already exists."))),
      { x.around with db := db }) := by
  rw [outcome_eq]
  exact Upload.exec_run_taken _ (Database.hasProjectNamed_iff.2 h)

end Delivery

/-! ## A sequence of uploads -/

/-- The catalogue after some uploads, one after another. -/
def deliver (db : Database) (xs : List Delivery) : Database := xs.foldl (fun db x => x.after db) db

section
variable {db : Database}

theorem deliver_cons (x : Delivery) (xs : List Delivery) :
    deliver db (x :: xs) = deliver (x.after db) xs := rfl

theorem deliver_append (xs ys : List Delivery) :
    deliver db (xs ++ ys) = deliver (deliver db xs) ys :=
  List.foldl_append

theorem projectNames_subset_deliver (xs : List Delivery) :
    db.projectNames ⊆ (deliver db xs).projectNames := by
  induction xs generalizing db with
  | nil => exact List.Subset.refl _
  | cons x xs ih => exact List.Subset.trans (x.projectNames_subset_after db) ih

/-- **Reports of one project keep different names exactly if no upload clashes.** -/
theorem reportsApart_deliver_iff (hrefs : ∀ r ∈ db.reports, db.hasProject r.projectId = true)
    (xs : List Delivery) :
    (deliver db xs).ReportsApart ↔ db.ReportsApart ∧
      ∀ ys x zs, xs = ys ++ x :: zs → ¬ x.Clashes (deliver db ys) := by
  induction xs generalizing db with
  | nil => simp [deliver]
  | cons x xs ih =>
    rw [deliver_cons, ih (Delivery.reports_after hrefs), Delivery.reportsApart_after_iff hrefs,
      and_assoc]
    refine and_congr_right fun _ => ⟨?_, fun h => ⟨h [] x xs rfl, fun ys y zs he => ?_⟩⟩
    · rintro ⟨hx, hxs⟩ ys y zs he
      -- the upload is the first one or one of the others
      rcases List.cons_eq_append_iff.1 he with ⟨rfl, hy⟩ | ⟨ys', rfl, hys⟩
      · cases hy
        exact hx
      · exact hxs ys' y zs hys
    · exact h (x :: ys) y zs (by rw [he, List.cons_append])

end

/-- A folder with two files that are kept under the same name. -/
def twinDeployment : Deployment where
  db := { users := [Sample.user 0] }
  disk :=
    { root := .folder [("work", .folder [("up", .folder [("a .twb", .file (.text "x")),
        ("a.twb", .file (.text "y"))])])] }

theorem wellFormed_twins : twinDeployment.disk.root.WellFormed := by
  have hup : (Node.folder [("a .twb", .file (.text "x")),
      ("a.twb", .file (.text "y"))]).WellFormed :=
    .folder (by decide) (by decide)
      (List.forall_mem_cons.2 ⟨.file _, List.forall_mem_singleton.2 (.file _)⟩)
  exact .folder (by decide) (by decide) (List.forall_mem_singleton.2
    (.folder (by decide) (by decide) (List.forall_mem_singleton.2 hup)))

/-- The upload of that folder. -/
def twinDelivery : Delivery where
  around := twinDeployment
  wellFormed := wellFormed_twins
  folder := "up"
  archive := "up.zip"
  parent := none
  user := Sample.userId 0
  orgName := "Acme"
  provider := "aws"
  storage := .bucket
  extracts := false

/-- The upload makes two reports of the same name. -/
theorem reportsApart_deliver_iff_twins :
    (∀ r ∈ twinDeployment.db.reports, twinDeployment.db.hasProject r.projectId = true) ∧
      twinDeployment.db.ReportsApart ∧ twinDelivery.Clashes twinDeployment.db ∧
      (deliver twinDeployment.db [twinDelivery]).reportNames =
        [(.drawn 1, "a.twb"), (.drawn 1, "a.twb")] ∧
      ¬ (deliver twinDeployment.db [twinDelivery]).ReportsApart := by
  have hrefs : ∀ r ∈ twinDeployment.db.reports,
      twinDeployment.db.hasProject r.projectId = true := by
    decide +kernel
  have hbefore : twinDeployment.db.ReportsApart := by decide +kernel
  have hafter : ¬ (deliver twinDeployment.db [twinDelivery]).ReportsApart := by decide +kernel
  have hclash : twinDelivery.Clashes twinDeployment.db := by
    by_contra hno
    refine hafter ((reportsApart_deliver_iff hrefs [twinDelivery]).2 ⟨hbefore, ?_⟩)
    intro ys x zs he
    rcases List.cons_eq_append_iff.1 he with ⟨rfl, hx⟩ | ⟨ys', -, hys⟩
    · cases hx
      exact hno
    · simp at hys
  exact ⟨hrefs, hbefore, hclash, by decide +kernel, hafter⟩

section
variable {db : Database}

/-- What a sequence of uploads keeps. -/
theorem linked_projectsApart_deliver (hlinked : db.Linked) (hapart : db.ProjectsApart)
    {xs : List Delivery} (hnew : ∀ x ∈ xs, x.NewBelow) :
    (deliver db xs).Linked ∧ (deliver db xs).ProjectsApart := by
  induction xs generalizing db with
  | nil => exact ⟨hlinked, hapart⟩
  | cons x xs ih =>
    obtain ⟨hx, hxs⟩ := List.forall_mem_cons.1 hnew
    exact ih (Delivery.linked_after hlinked hx) (Delivery.projectsApart_after hlinked hx hapart) hxs

/-- **Projects at one place keep different names.** And once an upload has answered, another one by
    the same user, under the same parent and of the same name is refused, and leaves everything as
    it was. -/
theorem projectsApart_deliver (hlinked : db.Linked) (hapart : db.ProjectsApart) (xs : List Delivery)
    (hnew : ∀ x ∈ xs, x.NewBelow) :
    (deliver db xs).ProjectsApart ∧
      ∀ ys x zs, xs = ys ++ x :: zs → (x.outcome (deliver db ys)).1 = .ok () →
        ∀ y : Delivery, y.user = x.user → y.parent = x.parent → y.name = x.name →
          y.outcome (deliver db xs) =
            (.error (.http 409 (.str ("Project '" ++ y.name ++ "' already exists."))),
              { y.around with db := deliver db xs }) := by
  refine ⟨(linked_projectsApart_deliver hlinked hapart hnew).2, ?_⟩
  intro ys x zs hxs hok y huser hparent hname
  have hafter : deliver db xs = deliver (x.after (deliver db ys)) zs := by
    rw [hxs, deliver_append, deliver_cons]
  rcases x.outcome_cases (deliver db ys) with ⟨e, he, -⟩ | ⟨-, es, hx⟩
  · rw [he] at hok
    cases hok
  · refine Delivery.outcome_taken ?_
    rw [hname, huser, hparent, hafter]
    exact projectNames_subset_deliver zs hx.mem_projectNames

end

/-- The upload of the folder of `deliveryDeployment`, below its project. -/
def quarterDelivery : Delivery where
  around := deliveryDeployment
  wellFormed := wellFormed_delivery
  folder := "up"
  archive := "Q3.zip"
  parent := some (.ofNat 300)
  user := Sample.userId 0
  orgName := "Acme"
  provider := "aws"
  storage := .bucket
  extracts := false

/-- The second upload has another extension and goes to the other service. -/
theorem projectsApart_deliver_quarter :
    let again :=
      { quarterDelivery with archive := "Q3.tar", provider := "azure", storage := .container }
    let db := deliver deliveryDeployment.db [quarterDelivery]
    deliveryDeployment.db.Linked ∧ deliveryDeployment.db.ProjectsApart ∧ quarterDelivery.NewBelow ∧
      db.projectNames = [("root", Sample.userId 0, none),
        ("Q3", Sample.userId 0, some (.ofNat 300)), ("inner", Sample.userId 0, some (.drawn 1))] ∧
      db.ProjectsApart ∧
      again.outcome db = (.error (.http 409 (.str "Project 'Q3' already exists.")),
        { deliveryDeployment with db := db }) := by
  intro again db
  have hlinked : deliveryDeployment.db.Linked := by
    refine ⟨fun p hp i hi => ?_, by decide +kernel⟩
    cases List.mem_singleton.1 hp
    cases hi
  have hapart : deliveryDeployment.db.ProjectsApart := by decide +kernel
  have hnew : quarterDelivery.NewBelow := by
    have hne : some (Id.ofNat 300) ≠ some (.drawn 1) := by decide +kernel
    exact hne
  have hok : (quarterDelivery.outcome deliveryDeployment.db).1 = .ok () :=
    eq_ok_of_isOk (by decide +kernel)
  have hname : again.name = quarterDelivery.name := by decide +kernel
  have htext :
      "Project '" ++ again.name ++ "' already exists." = "Project 'Q3' already exists." := by
    decide +kernel
  obtain ⟨hkept, hagain⟩ := projectsApart_deliver hlinked hapart [quarterDelivery]
    (List.forall_mem_singleton.2 hnew)
  have hrefused := hagain [] quarterDelivery [] rfl hok again rfl rfl hname
  rw [htext] at hrefused
  exact ⟨hlinked, hapart, hnew, by decide +kernel, hkept, hrefused⟩

end ReportMigration
