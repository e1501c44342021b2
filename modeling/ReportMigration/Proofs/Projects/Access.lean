import ReportMigration.Projects.Access
import ReportMigration.Proofs.Projects.Walks
import ReportMigration.Sample.Catalogue
/-!
What a user sees by the name of a role.

All is said of the rows that are selected, before they are loaded for an answer; an answer has just these
rows, or one of them cannot be read back (`Gateway.exec_visibleProjects`, `Gateway.exec_visibleReports`).

Projects go by the name letter by letter, and reports by the name in any case, so that the two
differ for a manager or developer whose role is written in another way.

* `Database.mem_visibleProjects`, `Database.visibleReports_eq`: what is seen, in one condition each;
* `Database.AssignedWithin`: what a manager may see;
* `visibleReports_follow_iff`: for which role names the reports seen are those of the projects seen;
* `visible_assigned_iff`: for which role names only assigned projects are seen;
* `Database.SeenWithin`: whatever the role, only what was created in the user's own organisation is
  seen, and a developer sees no more than a manager, who sees no more than an administrator.
-/
namespace ReportMigration

/-! ## Role names -/

namespace Reach

variable {role : String}

theorem ofRoleName_eq_all_iff :
    ofRoleName role = .all ↔ ¬ (role = "Manager" ∨ role = "Developer") := by
  unfold ofRoleName
  split_ifs with hm hd <;> simp [*]

theorem ofAnyCase_eq_all_iff :
    ofAnyCase role = .all ↔ ¬ (Text.lower role = "manager" ∨ Text.lower role = "developer") := by
  unfold ofAnyCase
  dsimp only
  split_ifs with hm hd <;> simp [*]

theorem lower_manager : Text.lower "Manager" = "manager" := by decide +kernel

theorem lower_developer : Text.lower "Developer" = "developer" := by decide +kernel

theorem lower_admin : ¬ (Text.lower "Admin" = "manager" ∨ Text.lower "Admin" = "developer") := by
  decide +kernel

theorem ofAnyCase_eq_ofRoleName (h : role = "Manager" ∨ role = "Developer") :
    ofAnyCase role = ofRoleName role := by
  rcases h with rfl | rfl
  · simp [ofAnyCase, ofRoleName, lower_manager]
  · simp [ofAnyCase, ofRoleName, lower_developer]

/-- The reach is the same in both ways unless the role is a manager's or developer's and written in
    another way. -/
theorem ofAnyCase_eq_ofRoleName_iff :
    ofAnyCase role = ofRoleName role ↔ (Text.lower role = "manager" → role = "Manager") ∧
      (Text.lower role = "developer" → role = "Developer") := by
  by_cases h : role = "Manager" ∨ role = "Developer"
  · refine iff_of_true (ofAnyCase_eq_ofRoleName h) ?_
    rcases h with rfl | rfl
    · simp [lower_manager]
    · simp [lower_developer]
  · rw [ofRoleName_eq_all_iff.2 h, ofAnyCase_eq_all_iff]
    simp only [not_or] at h ⊢
    simp only [h.1, h.2, imp_false]

end Reach

/-! ## What is seen -/

namespace Database

variable {db : Database} {v : Viewer} {role : String} {p : Project} {r : Report} {user : Id}

/-- The project is assigned to the user or to someone they manage. -/
def AssignedWithin (db : Database) (user : Id) (p : Project) : Prop :=
  ∃ i, p.assignedTo = some i ∧ (i = user ∨ ∃ u ∈ db.users, u.id = i ∧ u.managerId = some user)

theorem reaches_team_iff : db.reaches user p .team = true ↔ db.AssignedWithin user p := by
  simp [reaches, AssignedWithin, Option.any_eq_true]

theorem assignedWithin_of_reaches {reach : Reach} (hreach : reach ≠ .all)
    (h : db.reaches user p reach = true) : db.AssignedWithin user p := by
  cases reach with
  | all => exact absurd rfl hreach
  | team => exact reaches_team_iff.1 h
  | own => exact ⟨user, by simpa [reaches] using h, .inl rfl⟩

theorem sees_eq_true_iff {reach : Reach} :
    db.sees v reach p = true ↔
      db.createdIn v.organizationId p = true ∧ db.reaches v.id p reach = true := by
  simp [sees]

theorem mem_visibleProjects :
    p ∈ db.visibleProjects v role ↔ p ∈ db.projects ∧ db.sees v (.ofRoleName role) p = true := by
  simp [visibleProjects]

theorem mem_visibleReports :
    (r, p) ∈ db.visibleReports v role ↔ r ∈ db.reports ∧ db.findProject? r.projectId = some p ∧
      db.sees v (.ofAnyCase role) p = true := by
  unfold visibleReports
  rw [List.mem_filterMap]
  constructor
  · rintro ⟨r', hr, h⟩
    split at h
    · split_ifs at h with hsees
      cases h
      exact ⟨hr, ‹_›, hsees⟩
    · cases h
  · rintro ⟨hr, hp, hsees⟩
    exact ⟨r, hr, by simp [hp, hsees]⟩

/-- The reports that are seen, by a condition on their projects. -/
theorem visibleReports_eq :
    (db.visibleReports v role).map (·.1) = db.reports.filter fun r =>
      (db.findProject? r.projectId).any (db.sees v (.ofAnyCase role)) := by
  unfold visibleReports
  induction db.reports with
  | nil => rfl
  | cons r rs ih =>
    cases hp : db.findProject? r.projectId with
    | none => simp [hp, ih]
    | some p => cases hsees : db.sees v (.ofAnyCase role) p <;> simp [hp, hsees, ih]

/-- The report belongs to a project that is seen. -/
def inVisibleProject (db : Database) (v : Viewer) (role : String) (r : Report) : Bool :=
  (db.visibleProjects v role).any (·.id = r.projectId)

theorem inVisibleProject_eq (hids : (db.projects.map (·.id)).Nodup) :
    db.inVisibleProject v role r =
      (db.findProject? r.projectId).any (db.sees v (.ofRoleName role)) := by
  rw [Bool.eq_iff_iff, inVisibleProject, List.any_eq_true, Option.any_eq_true]
  constructor
  · rintro ⟨p, hp, hid⟩
    obtain ⟨hmem, hsees⟩ := mem_visibleProjects.1 hp
    exact ⟨p, of_decide_eq_true hid ▸ findProject?_of_mem hids hmem, hsees⟩
  · rintro ⟨p, hfind, hsees⟩
    obtain ⟨hmem, hid⟩ := mem_of_findProject? hfind
    exact ⟨p, mem_visibleProjects.2 ⟨hmem, hsees⟩, decide_eq_true hid⟩

/-- The reports that are seen are those of the projects that are seen, as far as these also lie
    within reach of the role in any case. -/
theorem visibleReports_eq_filter (hids : (db.projects.map (·.id)).Nodup) :
    (db.visibleReports v role).map (·.1) = db.reports.filter fun r =>
      db.inVisibleProject v role r &&
        (db.findProject? r.projectId).any fun p => db.reaches v.id p (.ofAnyCase role) := by
  rw [visibleReports_eq]
  refine List.filter_congr fun r _ => ?_
  rw [inVisibleProject_eq hids]
  cases db.findProject? r.projectId with
  | none => rfl
  | some p =>
    simp only [Option.any_some, sees]
    by_cases hrole : role = "Manager" ∨ role = "Developer"
    · rw [Reach.ofAnyCase_eq_ofRoleName hrole, Bool.and_assoc, Bool.and_self]
    · simp [Reach.ofRoleName_eq_all_iff.2 hrole, reaches]

end Database

/-! ## Which role names are guarded -/

/-- A project that is assigned to nobody. -/
def unassignedProject : Project :=
  { Sample.projectAt (.ofNat 300) none none none with assignedTo := none }

/-- A report of that project. -/
def unassignedReport : Report := Sample.reportAt (.ofNat 400) (.ofNat 500) (.ofNat 300)

/-- A catalogue with the two, and with an administrator and a manager. -/
def unassignedCatalogue : Database where
  users := [Sample.user 0, Sample.user 1]
  projects := [unassignedProject]
  reports := [unassignedReport]

/-- The manager, who works for the organisation that the project was created in. -/
def colleague : Viewer := ⟨Sample.userId 1, some Sample.organizationId⟩

/-- Only who sees everything sees the project. -/
theorem sees_unassigned_iff (reach : Reach) :
    unassignedCatalogue.sees colleague reach unassignedProject = true ↔ reach = .all := by
  cases reach with
  | all => exact iff_of_true (by decide +kernel) rfl
  | team => exact iff_of_false (by decide +kernel) (by simp)
  | own => exact iff_of_false (by decide +kernel) (by simp)

theorem findProject?_unassigned :
    unassignedCatalogue.findProject? unassignedReport.projectId = some unassignedProject := rfl

theorem not_assignedWithin_unassigned (user : Id) :
    ¬ unassignedCatalogue.AssignedWithin user unassignedProject := by
  rintro ⟨i, hi, -⟩
  cases hi

/-- **Which reports are seen, compared with projects.** They are those of the projects that are
    seen, as far as these lie within reach of the role in any case. That is all of them, whatever
    the catalogue holds, exactly if the role of a manager or developer is written as such. -/
theorem visibleReports_follow_iff (role : String) :
    (∀ (db : Database) (v : Viewer), (db.projects.map (·.id)).Nodup →
      (db.visibleReports v role).map (·.1) = db.reports.filter fun r =>
        db.inVisibleProject v role r &&
          (db.findProject? r.projectId).any fun p => db.reaches v.id p (.ofAnyCase role)) ∧
    ((∀ (db : Database) (v : Viewer), (db.projects.map (·.id)).Nodup →
        (db.visibleReports v role).map (·.1) = db.reports.filter (db.inVisibleProject v role)) ↔
      (Text.lower role = "manager" → role = "Manager") ∧
        (Text.lower role = "developer" → role = "Developer")) := by
  refine ⟨fun db v hids => Database.visibleReports_eq_filter hids, ?_⟩
  rw [← Reach.ofAnyCase_eq_ofRoleName_iff]
  constructor
  · intro h
    by_cases hall : Reach.ofRoleName role = .all
    · have hids : (unassignedCatalogue.projects.map (·.id)).Nodup := List.nodup_singleton _
      -- the report of a project that is seen is seen, so that its reach is everything as well
      have hproject :
          unassignedCatalogue.inVisibleProject colleague role unassignedReport = true := by
        rw [Database.inVisibleProject_eq hids, findProject?_unassigned, Option.any_some]
        exact (sees_unassigned_iff _).2 hall
      have hreport :
          unassignedReport ∈ (unassignedCatalogue.visibleReports colleague role).map (·.1) := by
        rw [h unassignedCatalogue colleague hids]
        exact List.mem_filter.2 ⟨List.mem_singleton_self _, hproject⟩
      rw [Database.visibleReports_eq, List.mem_filter, findProject?_unassigned,
        Option.any_some] at hreport
      rw [hall]
      exact (sees_unassigned_iff _).1 hreport.2
    · exact Reach.ofAnyCase_eq_ofRoleName (not_not.1 (mt Reach.ofRoleName_eq_all_iff.2 hall))
  · intro hreach db v hids
    rw [Database.visibleReports_eq, hreach]
    exact List.filter_congr fun r _ => (Database.inVisibleProject_eq hids).symm

/-- **Which role names are guarded.** Only what is assigned to the user or to someone they manage is
    seen, whatever the catalogue holds, exactly if the role is a manager's or developer's: for
    projects written as such, for reports in any case. -/
theorem visible_assigned_iff (role : String) :
    ((∀ (db : Database) (v : Viewer), ∀ p ∈ db.visibleProjects v role, db.AssignedWithin v.id p) ↔
      role = "Manager" ∨ role = "Developer") ∧
    ((∀ (db : Database) (v : Viewer), ∀ e ∈ db.visibleReports v role, db.AssignedWithin v.id e.2) ↔
      Text.lower role = "manager" ∨ Text.lower role = "developer") := by
  constructor
  · constructor
    · intro h
      by_contra hrole
      have hsees := (sees_unassigned_iff _).2 (Reach.ofRoleName_eq_all_iff.2 hrole)
      have hmem : unassignedProject ∈ unassignedCatalogue.visibleProjects colleague role :=
        Database.mem_visibleProjects.2 ⟨List.mem_singleton_self _, hsees⟩
      exact not_assignedWithin_unassigned _ (h _ _ _ hmem)
    · intro hrole db v p hp
      have hsees := Database.sees_eq_true_iff.1 (Database.mem_visibleProjects.1 hp).2
      have hguarded : Reach.ofRoleName role ≠ .all := fun hall =>
        Reach.ofRoleName_eq_all_iff.1 hall hrole
      exact Database.assignedWithin_of_reaches hguarded hsees.2
  · constructor
    · intro h
      by_contra hrole
      have hsees := (sees_unassigned_iff _).2 (Reach.ofAnyCase_eq_all_iff.2 hrole)
      have hmem : (unassignedReport, unassignedProject) ∈
          unassignedCatalogue.visibleReports colleague role :=
        Database.mem_visibleReports.2 ⟨List.mem_singleton_self _, findProject?_unassigned, hsees⟩
      exact not_assignedWithin_unassigned _ (h _ _ _ hmem)
    · rintro hrole db v ⟨r, p⟩ he
      have hsees := Database.sees_eq_true_iff.1 (Database.mem_visibleReports.1 he).2.2
      have hguarded : Reach.ofAnyCase role ≠ .all := fun hall =>
        Reach.ofAnyCase_eq_all_iff.1 hall hrole
      exact Database.assignedWithin_of_reaches hguarded hsees.2

/-! ## Organisations and ranks -/

namespace Database

variable {db : Database} {v : Viewer} {p : Project} {organization : Option Id}

/-- The project was created by a user of the organisation. -/
def CreatedWithin (db : Database) (organization : Option Id) (p : Project) : Prop :=
  ∃ u ∈ db.users, u.id = p.userId ∧ some u.organizationId = organization

theorem createdIn_iff : db.createdIn organization p = true ↔ db.CreatedWithin organization p := by
  simp [createdIn, CreatedWithin]

theorem sees_all_iff : db.sees v .all p = true ↔ db.CreatedWithin v.organizationId p := by
  rw [sees_eq_true_iff, createdIn_iff]
  exact and_iff_left rfl

theorem sees_all_of_sees {reach : Reach} (h : db.sees v reach p = true) :
    db.sees v .all p = true :=
  sees_eq_true_iff.2 ⟨(sees_eq_true_iff.1 h).1, rfl⟩

theorem sees_team_of_own (h : db.sees v .own p = true) : db.sees v .team p = true := by
  obtain ⟨hin, hown⟩ := sees_eq_true_iff.1 h
  refine sees_eq_true_iff.2 ⟨hin, reaches_team_iff.2 ?_⟩
  exact assignedWithin_of_reaches (by simp) hown

/-- The reports that have a project, with it. -/
def placedReports (db : Database) : List (Report × Project) :=
  db.reports.filterMap fun r => (db.findProject? r.projectId).map (r, ·)

theorem visibleReports_eq_placed (db : Database) (v : Viewer) (role : String) :
    db.visibleReports v role = db.placedReports.filter fun e => db.sees v (.ofAnyCase role) e.2 := by
  unfold visibleReports placedReports
  rw [List.filter_filterMap]
  refine List.filterMap_congr fun r _ => ?_
  cases db.findProject? r.projectId with
  | none => rfl
  | some p => simp [Option.filter]

theorem visibleProjects_sublist {role role' : String}
    (h : ∀ p, db.sees v (.ofRoleName role) p = true → db.sees v (.ofRoleName role') p = true) :
    (db.visibleProjects v role).Sublist (db.visibleProjects v role') :=
  List.monotone_filter_right _ h

theorem visibleReports_sublist {role role' : String}
    (h : ∀ p, db.sees v (.ofAnyCase role) p = true → db.sees v (.ofAnyCase role') p = true) :
    (db.visibleReports v role).Sublist (db.visibleReports v role') := by
  rw [visibleReports_eq_placed, visibleReports_eq_placed]
  exact List.monotone_filter_right _ fun e => h e.2

/-- What a user sees stays within their organisation, nothing is seen twice, and who stands higher
    sees more. -/
structure SeenWithin (db : Database) (v : Viewer) : Prop where
  project_created : ∀ role, ∀ p ∈ db.visibleProjects v role,
    p ∈ db.projects ∧ db.CreatedWithin v.organizationId p
  report_created : ∀ role, ∀ e ∈ db.visibleReports v role,
    e.1 ∈ db.reports ∧ e.2 ∈ db.projects ∧ e.2.id = e.1.projectId ∧
      db.CreatedWithin v.organizationId e.2
  project_once : ∀ role, ((db.visibleProjects v role).map (·.id)).Nodup
  report_once : ∀ role, ((db.visibleReports v role).map (·.1.id)).Nodup
  developer_projects :
    (db.visibleProjects v "Developer").Sublist (db.visibleProjects v "Manager")
  manager_projects : (db.visibleProjects v "Manager").Sublist (db.visibleProjects v "Admin")
  admin_projects : ∀ p, p ∈ db.visibleProjects v "Admin" ↔
    p ∈ db.projects ∧ db.CreatedWithin v.organizationId p
  developer_reports : (db.visibleReports v "Developer").Sublist (db.visibleReports v "Manager")
  manager_reports : (db.visibleReports v "Manager").Sublist (db.visibleReports v "Admin")
  admin_reports : ∀ r p, (r, p) ∈ db.visibleReports v "Admin" ↔
    r ∈ db.reports ∧ p ∈ db.projects ∧ p.id = r.projectId ∧ db.CreatedWithin v.organizationId p

end Database

/-- **Organisations are kept apart, and rank widens what is seen.** Where identifiers are distinct,
    this holds of every catalogue and every user, whoever is assigned to a project, manages or is
    managed across organisations. -/
theorem seenWithin_of_distinct (db : Database) (v : Viewer)
    (hprojects : (db.projects.map (·.id)).Nodup) (hreports : (db.reports.map (·.id)).Nodup) :
    db.SeenWithin v where
  project_created role p hp := by
    obtain ⟨hmem, hsees⟩ := Database.mem_visibleProjects.1 hp
    exact ⟨hmem, Database.sees_all_iff.1 (Database.sees_all_of_sees hsees)⟩
  report_created role e he := by
    obtain ⟨hmem, hfind, hsees⟩ := Database.mem_visibleReports.1 he
    obtain ⟨hproject, hid⟩ := Database.mem_of_findProject? hfind
    exact ⟨hmem, hproject, hid, Database.sees_all_iff.1 (Database.sees_all_of_sees hsees)⟩
  project_once role := hprojects.sublist (List.filter_sublist.map _)
  report_once role := by
    have hmap : (db.visibleReports v role).map (·.1.id) =
        ((db.visibleReports v role).map (·.1)).map (·.id) := by
      rw [List.map_map]
      rfl
    rw [hmap, Database.visibleReports_eq]
    exact hreports.sublist (List.filter_sublist.map _)
  developer_projects := Database.visibleProjects_sublist fun _ => Database.sees_team_of_own
  manager_projects := Database.visibleProjects_sublist fun _ => Database.sees_all_of_sees
  admin_projects p := by
    rw [Database.mem_visibleProjects, Reach.ofRoleName_eq_all_iff.2 (by decide),
      Database.sees_all_iff]
  developer_reports := by
    refine Database.visibleReports_sublist fun p => ?_
    rw [Reach.ofAnyCase_eq_ofRoleName (.inl rfl), Reach.ofAnyCase_eq_ofRoleName (.inr rfl)]
    exact Database.sees_team_of_own
  manager_reports := by
    refine Database.visibleReports_sublist fun p => ?_
    rw [Reach.ofAnyCase_eq_all_iff.2 Reach.lower_admin]
    exact Database.sees_all_of_sees
  admin_reports r p := by
    rw [Database.mem_visibleReports, Reach.ofAnyCase_eq_all_iff.2 Reach.lower_admin,
      Database.sees_all_iff]
    constructor
    · rintro ⟨hr, hfind, hin⟩
      obtain ⟨hp, hid⟩ := Database.mem_of_findProject? hfind
      exact ⟨hr, hp, hid, hin⟩
    · rintro ⟨hr, hp, hid, hin⟩
      exact ⟨hr, hid ▸ Database.findProject?_of_mem hprojects hp, hin⟩

/-- A project that someone made, perhaps assigned to someone. -/
def madeProject (n maker : Nat) (assignee : Option Nat) : Project :=
  { Sample.projectAt (Sample.projectId n) none none none with
    userId := Sample.userId maker, assignedTo := assignee.map Sample.userId }

/-- Two organisations: the manager manages someone of the other one, who has a project of the first
    to work on, and is to work on a project of the other one. -/
def mingledCatalogue : Database where
  users := [Sample.user 0, Sample.user 1, { Sample.user 2 with organizationId := .ofNat 2 }]
  projects := [madeProject 0 0 (some 1), madeProject 1 0 (some 2), madeProject 2 0 none,
    madeProject 3 2 (some 1)]
  reports := [0, 1, 2, 3].map fun n => Sample.report (Sample.projectId n) n

theorem seenWithin_of_distinct_mingled :
    (mingledCatalogue.projects.map (·.id)).Nodup ∧ (mingledCatalogue.reports.map (·.id)).Nodup ∧
      ["Developer", "Manager", "Admin"].map (fun role =>
        (mingledCatalogue.visibleReports colleague role).map (·.1.id)) =
        [[Sample.reportId 0], [Sample.reportId 0, Sample.reportId 1],
          [Sample.reportId 0, Sample.reportId 1, Sample.reportId 2]] ∧
      mingledCatalogue.SeenWithin colleague := by
  have hprojects : (mingledCatalogue.projects.map (·.id)).Nodup := by decide +kernel
  have hreports : (mingledCatalogue.reports.map (·.id)).Nodup := by decide +kernel
  exact ⟨hprojects, hreports, by decide +kernel,
    seenWithin_of_distinct mingledCatalogue colleague hprojects hreports⟩

end ReportMigration
