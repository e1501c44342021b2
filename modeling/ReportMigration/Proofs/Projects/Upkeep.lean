import ReportMigration.Proofs.Catalogue.Frame
import ReportMigration.Proofs.Projects.Walks
/-!
Operations that keep the projects a forest.

* `Database.IsForest.addProject`, `IsForest.setProject` and `IsForest.removeProjects`: the three kinds
  of writes to the projects lead from forests to forests;
* `Database.EnduresRemoval J`: what `J` says also outlasts changed and removed projects, and so all
  operations on projects that add none, whether they answer or fail (lemmas `preserves_…`);
* where a project is added, it must not be named as its own parent (`leads_addProject`); in an upload
  only the first project can be, since the others are placed below a project that is there already
  (`isForest_uploadArchive`).
-/
namespace ReportMigration

open Op Relation

namespace Database

variable {db db' : Database} {p q : Project} {i j : Id}

/-! ## A new project -/

namespace IsForest

/-- Nothing lies below a new project, which is not its own parent. -/
theorem not_parentOf_new (hf : db.IsForest) (ha : db.Admits p) (hne : p.parentId ≠ some p.id) :
    ¬ ({ db with projects := db.projects ++ [p] } : Database).ParentOf p.id j := by
  rintro ⟨q, hq, -, hpar⟩
  rcases List.mem_append.1 hq with hq | hq
  · obtain ⟨r, hr, hid⟩ := hf.parents q hq _ hpar
    exact ha.fresh r hr hid
  · rw [List.mem_singleton.1 hq] at hpar
    exact hne hpar

/-- A way from a project to another that has a child does not come by the new project. -/
theorem transGen_of_new (hf : db.IsForest) (ha : db.Admits p) (hne : p.parentId ≠ some p.id)
    (h : TransGen ({ db with projects := db.projects ++ [p] } : Database).ParentOf i j)
    (hj : ∃ k, ({ db with projects := db.projects ++ [p] } : Database).ParentOf j k) :
    TransGen db.ParentOf i j := by
  have hedge : ∀ {a b : Id}, ({ db with projects := db.projects ++ [p] } : Database).ParentOf a b →
      (∃ k, ({ db with projects := db.projects ++ [p] } : Database).ParentOf b k) →
      db.ParentOf a b := by
    rintro a b ⟨q, hq, rfl, hpar⟩ ⟨k, hk⟩
    rcases List.mem_append.1 hq with hq | hq
    · exact ⟨q, hq, rfl, hpar⟩
    · rw [List.mem_singleton.1 hq] at hk
      exact absurd hk (hf.not_parentOf_new ha hne)
  induction h with
  | single h => exact .single (hedge h hj)
  | tail h hlast ih => exact .tail (ih ⟨_, hlast⟩) (hedge hlast hj)

/-- A forest with a new project that is not its own parent is a forest. -/
theorem addProject (hf : db.IsForest) (h : db.addProject p = .ok db')
    (hne : p.parentId ≠ some p.id) : db'.IsForest := by
  obtain ⟨ha, rfl⟩ := addProject_eq_ok h
  constructor
  · exact nodup_map_append hf.distinct ha.fresh
  · intro q hq i hi
    have hold : (∃ r ∈ db.projects, r.id = i) → ∃ r ∈ db.projects ++ [p], r.id = i :=
      fun ⟨r, hr, hid⟩ => ⟨r, List.mem_append_left _ hr, hid⟩
    rcases List.mem_append.1 hq with hq | hq
    · exact hold (hf.parents q hq i hi)
    · rw [List.mem_singleton.1 hq] at hi
      rcases ha.parent i hi with rfl | hex
      · exact absurd hi hne
      · exact hold (hasProject_iff.1 hex)
  · intro i hi
    obtain ⟨j, hij, -⟩ := TransGen.head'_iff.1 hi
    exact hf.acyclic i (hf.transGen_of_new ha hne hi ⟨j, hij⟩)

/-! ## A changed project and removed projects -/

/-- The forest depends on the identifiers and parents alone. -/
theorem of_links (hf : db.IsForest)
    (h : (db'.projects.map fun p => (p.id, p.parentId)) =
      db.projects.map fun p => (p.id, p.parentId)) : db'.IsForest := by
  have hids : db'.projects.map (·.id) = db.projects.map (·.id) := by
    simpa [Function.comp_def] using congrArg (List.map Prod.fst) h
  have hmem : ∀ q ∈ db'.projects, ∃ p ∈ db.projects, p.id = q.id ∧ p.parentId = q.parentId := by
    intro q hq
    have hl : (q.id, q.parentId) ∈ db.projects.map fun p => (p.id, p.parentId) :=
      h ▸ List.mem_map_of_mem hq
    obtain ⟨p, hp, he⟩ := List.mem_map.1 hl
    exact ⟨p, hp, congrArg Prod.fst he, congrArg Prod.snd he⟩
  refine ⟨hids ▸ hf.distinct, fun q hq i hi => ?_, fun i hi => ?_⟩
  · obtain ⟨p, hp, -, hpar⟩ := hmem q hq
    obtain ⟨r, hr, hid⟩ := hf.parents p hp i (hpar.trans hi)
    have : i ∈ db'.projects.map (·.id) := hids ▸ hid ▸ List.mem_map_of_mem hr
    simpa using this
  · refine hf.acyclic i (TransGen.mono ?_ _ _ hi)
    rintro a b ⟨q, hq, rfl, hpar⟩
    obtain ⟨p, hp, hid, hp'⟩ := hmem q hq
    exact ⟨p, hp, hid, hp'.trans hpar⟩

/-- A project may be changed, but for its identifier and its parent. -/
theorem setProject (hf : db.IsForest) (hp : p ∈ db.projects) (hid : q.id = p.id)
    (hpar : q.parentId = p.parentId) : (db.setProject q).IsForest :=
  hf.of_links (map_replace hf.distinct hp hid (by rw [hid, hpar]))

/-- Projects can be removed if nothing is left below them. -/
theorem removeProjects {gone : List Id} (hf : db.IsForest)
    (h : db.removeProjects gone = .ok db') : db'.IsForest := by
  obtain ⟨hcheck, h⟩ := eq_ok_of_check h
  cases h
  have hkept : ∀ p ∈ db.projects.filter (fun p => !gone.contains p.id), p ∈ db.projects :=
    fun p hp => (List.mem_filter.1 hp).1
  refine ⟨hf.distinct.sublist (List.filter_sublist.map _), fun p hp i hi => ?_,
    hf.acyclic.of_subset hkept⟩
  obtain ⟨q, hq, rfl⟩ := hf.parents p (hkept p hp) i hi
  have hleft := List.all_eq_true.1 (Bool.and_eq_true_iff.1 (resolved_eq_ok hcheck)).2 p hp
  have hhas : db.hasProject q.id = true := hasProject_iff.2 ⟨q, hq, rfl⟩
  simp only [hi, Option.all_some, hhas, Bool.and_true] at hleft
  exact ⟨q, List.mem_filter.2 ⟨hq, hleft⟩, rfl⟩

end IsForest

/-- The projects form a forest, and the given ones are among them. -/
structure ForestWith (db : Database) (is : List Id) : Prop where
  forest : db.IsForest
  present : ∀ i ∈ is, db.hasProject i

theorem aboutProjects_isForest : AboutProjects IsForest := fun _ _ h hf =>
  hf.of_links (congrArg (List.map fun p => (p.id, p.parentId)) h)

theorem aboutProjects_forestWith (is : List Id) : AboutProjects (ForestWith · is) := by
  intro db db' h hf
  refine ⟨aboutProjects_isForest h hf.forest, fun i hi => ?_⟩
  rw [hasProject, h]
  exact hf.present i hi

/-- What `J` says also outlasts projects that are changed, but for their places, and removed. -/
structure EnduresRemoval (J : Database → Prop) : Prop extends Endures J where
  setProject : ∀ ⦃db : Database⦄ ⦃p q : Project⦄, p ∈ db.projects → q.id = p.id →
    q.parentId = p.parentId → J db → J (db.setProject q)
  removeProjects : ∀ ⦃db db' : Database⦄ ⦃gone : List Id⦄, db.removeProjects gone = .ok db' → J db → J db'

theorem enduresRemoval_isForest : EnduresRemoval IsForest where
  toEndures := aboutProjects_isForest.endures
  setProject _ _ _ hp hid hpar hf := hf.setProject hp hid hpar
  removeProjects _ _ _ h hf := hf.removeProjects h

end Database

/-! ## Operations on projects -/

section
variable {d : Deployment} {is : List Id} {J : Database → Prop}

/-- The identifier that a new project gets. -/
def ProjectForm.idIn (form : ProjectForm) (d : Deployment) : Id :=
  form.id.getD (.drawn (d.drawn + 1))

/-- A new project that is not its own parent leaves a forest. A parent that is there already is
    another project, since identifiers do not repeat. -/
theorem leads_addProject (form : ProjectForm) (is : List Id) :
    Leads (fun d => d.db.ForestWith is ∧ ∀ i, form.parentId = some i → i ∈ is ∨ i ≠ form.idIn d)
      (addProject form) fun p d => d.db.ForestWith (p.id :: is) := by
  rintro d p d' ⟨hf, hnew⟩ h
  obtain ⟨hp, hdb⟩ := exec_addProject_ok h
  obtain ⟨hid, hpar⟩ := ProjectForm.toProject_eq_ok hp
  obtain ⟨hadmits, hrows⟩ := Database.addProject_eq_ok hdb
  have hne : p.parentId ≠ some p.id := by
    intro he
    rcases hnew p.id (hpar ▸ he) with hmem | hne
    · obtain ⟨q, hq, hqid⟩ := Database.hasProject_iff.1 (hf.present _ hmem)
      exact hadmits.fresh q hq hqid
    · exact hne hid
  refine ⟨hf.forest.addProject hdb hne, fun i hi => Database.hasProject_iff.2 ?_⟩
  rw [hrows]
  rcases List.mem_cons.1 hi with rfl | hi
  · exact ⟨p, List.mem_append_right _ (List.mem_singleton_self p), rfl⟩
  · obtain ⟨q, hq, hqid⟩ := Database.hasProject_iff.1 (hf.present i hi)
    exact ⟨q, List.mem_append_left _ hq, hqid⟩

theorem isForest_addProject {form : ProjectForm} (hf : d.db.IsForest)
    (hne : form.parentId ≠ some (form.idIn d)) : ((addProject form).exec d).2.db.IsForest := by
  have hleads := (leads_addProject form []).weaken (fun _ h => h) fun _ _ h => h.forest
  refine hleads.after_transaction ⟨⟨hf, by simp⟩, fun i hi => .inr ?_⟩ hf
  rintro rfl
  exact hne hi

theorem Project.rename_eq_ok {p q : Project} {name : Option String} {updatedBy : Option Id}
    (h : p.rename name updatedBy = .ok q) : q.id = p.id ∧ q.parentId = p.parentId := by
  unfold Project.rename at h
  split at h
  · cases h
    exact ⟨rfl, rfl⟩
  · cases name with
    | none => cases h
    | some n =>
      cases h
      exact ⟨rfl, rfl⟩

theorem Database.assignProject_eq_ok {db : Database} {p q : Project} {user : Option Id}
    (h : db.assignProject p user = .ok q) : q.id = p.id ∧ q.parentId = p.parentId := by
  unfold Database.assignProject at h
  split at h
  · cases h
    exact ⟨rfl, rfl⟩
  · obtain ⟨-, h⟩ := eq_ok_of_check h
    cases h
    exact ⟨rfl, rfl⟩

/-- A project that was looked up is replaced by one with its identifier and its parent. -/
theorem holds_replace (hJ : Database.EnduresRemoval J) {α : Type} {p : Project}
    {r : Except Fault Project} {k : Project → Op α} (hd : J d.db) (hp : p ∈ d.db.projects)
    (hr : ∀ q, r = .ok q → q.id = p.id ∧ q.parentId = p.parentId) (hk : ∀ q, Preserves J (k q)) :
    J ((do let q ← Op.ofExcept r; Op.change (·.setProject q); k q : Op α).exec d).2.db := by
  cases r with
  | error e => exact hd
  | ok q =>
    obtain ⟨hid, hpar⟩ := hr q rfl
    rw [exec_bind_ok (exec_ofExcept _ d), exec_bind_ok (exec_change _ d)]
    exact hk q _ (hJ.setProject hp hid hpar hd)

theorem preserves_renameProject (hJ : Database.EnduresRemoval J) (project : Option Id)
    (name : Option String) (updatedBy : Option Id) :
    Preserves J (renameProject project name updatedBy) := by
  refine .bind_db fun d hd => ?_
  cases hp : d.db.projects.find? fun p => some p.id = project with
  | none => exact hd
  | some p =>
    exact holds_replace hJ hd (List.mem_of_find?_eq_some hp) (fun q => Project.rename_eq_ok)
      fun _ => .pure _

theorem preserves_assignProject (hJ : Database.EnduresRemoval J) (project user : Option Id) :
    Preserves J (assignProject project user) := by
  refine .bind_db fun d hd => ?_
  cases hp : d.db.projects.find? fun p => some p.id = project && !p.audit.isDeleted with
  | none => exact hd
  | some p =>
    exact holds_replace hJ hd (List.mem_of_find?_eq_some hp)
      (fun q => Database.assignProject_eq_ok) fun _ => .pure _

theorem preserves_removeProject (hJ : Database.EnduresRemoval J) (project : Id) (orgName : String) :
    Preserves J (removeProject project orgName) :=
  .bind .db fun _ => .bind (.ofExcept _) fun _ => .bind (.ofExcept _) fun _ =>
    .bind (preserves_removeReports hJ.toEndures orgName _) fun _ =>
      .write fun _ _ hd h => hJ.removeProjects h hd

theorem preserves_removeProjects (hJ : Database.EnduresRemoval J) (orgName : String) :
    ∀ is, Preserves J (removeProjects orgName is)
  | [] => .pure _
  | i :: is =>
    .bind (preserves_removeProject hJ i orgName) fun _ => preserves_removeProjects hJ orgName is

theorem preserves_removeServer (hJ : Database.EnduresRemoval J) (server : Id) (orgName : String) :
    Preserves J (removeServer server orgName) := by
  refine .bind .db fun db => ?_
  cases db.findServer? server with
  | none => exact .throw _
  | some s =>
    refine .bind (.ofExcept _) fun _ => .bind (preserves_removeProjects hJ orgName _) fun _ => ?_
    refine .bind .db fun _ => .bind (.ofExcept _) fun credentials => ?_
    have hserver : Preserves J (Op.write (·.removeServer server)) :=
      preserves_write hJ.toEndures fun _ => .check (.ok rfl)
    refine .ite hserver ?_
    exact .bind (preserves_removeSites hJ.toEndures _) fun _ =>
      .bind (preserves_removeCredentials hJ.toEndures _) fun _ => hserver

/-! ## Uploads -/

theorem preserves_storeFile {J : Database → Prop} (u : Upload) (path key : String) :
    Preserves J (u.storeFile path key) := by
  have hbucket : Preserves J (Bucket.uploadFile path key) :=
    .of_keeps (.succeeds (.bind (.connect _ _ _) fun _ => .bind (.ofDisk _) fun _ =>
      .bind (.reach _ _ _) fun _ _ => rfl))
  have hcontainer : Preserves J (Container.uploadFile path key) :=
    .of_keeps (.succeeds (.bind (.bind (.succeeds (.connect _ _ _)) fun _ => .ite (.throw _) (.pure _))
      fun _ => .bind (.ofDisk _) fun _ => .bind (.reach _ _ _) fun _ _ => rfl))
  unfold Upload.storeFile
  refine .ite ?_ ?_
  · cases u.storage with
    | container => exact .bind hcontainer fun _ => .pure _
    | _ => exact .throw _
  · cases u.storage with
    | bucket => exact .bind hbucket fun _ => .pure _
    | _ => exact .throw _

theorem preserves_addWorkbook {J : Database → Prop} (hJ : Database.Endures J) (u : Upload)
    (project : Id) (name path rel : String) :
    Preserves J (u.addWorkbook project name path rel) := by
  have hreport : ∀ kept, Preserves J (u.enterReport project kept) := fun kept =>
    .bind .drawId fun _ => .bind .drawId fun _ => preserves_addReport hJ _
  refine .check fun _ => .ite (.pure _) (.bind (hreport _) fun _ => ?_)
  exact .bind (preserves_storeFile u _ _) fun _ => .ite (.record _) (.pure _)

/-- The project of a folder lies below one that is there already or has another identifier. -/
theorem leads_addFolder (u : Upload) (parent : Option Id) (name : String) (is : List Id) :
    Leads (fun d => d.db.ForestWith is ∧
        ∀ i, parent = some i → i ∈ is ∨ i ≠ .drawn (d.drawn + 1))
      (u.addFolder parent name) fun p d => d.db.ForestWith (p.id :: is) := by
  rintro d p d' hd h
  unfold Upload.addFolder at h
  dsimp only at h
  split at h
  · cases h
  · rw [exec_bind_ok (exec_drawId d)] at h
    exact leads_addProject _ is _ p d' hd h

mutual

theorem leads_addEntries (u : Upload) (project : Id) (path rel : String) (is : List Id)
    (hp : project ∈ is) : ∀ es, Leads (fun d => d.db.ForestWith is)
      (u.addEntries project path rel es) fun _ d => d.db.ForestWith is
  | [] => fun _ _ _ hd h => by
    cases h
    exact hd
  | (name, node) :: rest =>
    (leads_addNode u project name _ _ is hp node).bind fun _ =>
      leads_addEntries u project path rel is hp rest

theorem leads_addNode (u : Upload) (project : Id) (name path rel : String) (is : List Id)
    (hp : project ∈ is) : ∀ n, Leads (fun d => d.db.ForestWith is)
      (u.addNode project name path rel n) fun _ d => d.db.ForestWith is
  | .file _ => (preserves_addWorkbook (Database.aboutProjects_forestWith is).endures u _ _ _ _).leads
  | .folder entries => by
    have hfolder := (leads_addFolder u (some project) name is).weaken
      (fun d (hd : d.db.ForestWith is) => ⟨hd, by rintro i ⟨⟩; exact .inl hp⟩) fun _ _ h => h
    refine hfolder.bind fun p => ?_
    exact (leads_addEntries u p.id path rel (p.id :: is) List.mem_cons_self entries).weaken
      (fun _ h => h) fun _ d h => ⟨h.forest, fun i hi => h.present i (List.mem_cons_of_mem _ hi)⟩

end

theorem isForest_uploadArchive {folder archive : String} {parent : Option Id} {user : Id}
    {orgName provider : String} {storage : SettingsKind} {extracts : Bool} (hf : d.db.IsForest)
    (hnew : parent ≠ some (.drawn (d.drawn + 1))) :
    ((uploadArchive folder archive parent user orgName provider storage extracts).exec
      d).2.db.IsForest := by
  rw [uploadArchive, exec_bind_ok (exec_db d)]
  refine Leads.after_transaction (P := fun e => e = d) (.transaction ?_) rfl hf
  have hfirst := leads_addFolder ⟨d.db, user, orgName, provider, storage, extracts⟩ parent
    (Path.stemAndExtension archive).1 []
  refine (hfirst.weaken (fun e (he : e = d) => ?_) fun _ _ h => h).bind fun p => ?_
  · subst he
    exact ⟨⟨hf, by simp⟩, fun i hi => .inr fun heq => hnew (heq ▸ hi)⟩
  · have hlist : Preserves (Database.ForestWith · [p.id]) (Op.ofDisk (·.list folder)) :=
      .of_keeps (.ofDisk _)
    refine hlist.leads.bind fun entries => ?_
    exact (leads_addEntries _ p.id folder "" [p.id] List.mem_cons_self entries).weaken
      (fun _ h => h) fun _ _ h => h.forest

end

end ReportMigration
