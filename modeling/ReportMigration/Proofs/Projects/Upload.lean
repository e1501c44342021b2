import ReportMigration.Proofs.Catalogue.Entry
import ReportMigration.Proofs.Projects.Plan
import ReportMigration.Proofs.Storage.Transfer
/-!
The walk of an upload through a tree.

* `Upload.Done u m d d'`: what is planned was done, from the deployment `d` to `d'`;
* `Upload.Ends u m d x`: an upload for which `m` is planned ends with `x`. Either all of it was done, or
  it failed when the files of a beginning of the plan were stored;
* `Upload.ends_addEntries`, `Upload.ends_addNode`: the walk keeps to the plan;
* `Upload.run_cases`: so does an upload as a whole, and a failed one leaves the catalogue as it was.
-/
namespace ReportMigration

namespace Upload

open Op

/-! ## What an upload leaves behind -/

/-- The key of a report's file. -/
def keyOf (u : Upload) (r : Report) : String := fileKey u.orgName r.reportId r.name

/-- The store with a file, if it can be stored. -/
def storeWith (u : Upload) (o : Outages) (s : ObjectStore) (f : MadeFile) : ObjectStore :=
  if o.refuses (u.keyOf f.report) then s else s.put (u.keyOf f.report) f.content

/-- The store with some files, as far as they can be stored. -/
def stored (u : Upload) (o : Outages) (fs : List MadeFile) (s : ObjectStore) : ObjectStore :=
  fs.foldl (u.storeWith o) s

/-- The catalogue with the projects and reports. -/
def Made.enter (m : Made) (db : Database) : Database :=
  { db with
    projects := db.projects ++ m.folders.map (·.project)
    reports := db.reports ++ m.files.map (·.report) }

/-- The deployment after a project was entered under an identifier that was drawn for it. -/
def founded (d : Deployment) (p : Project) : Deployment :=
  { d with db := { d.db with projects := d.db.projects ++ [p] }, drawn := d.drawn + 1 }

/-- The deployment after a report was entered under identifiers that were drawn for it. -/
def filed (d : Deployment) (r : Report) : Deployment :=
  { d with db := { d.db with reports := d.db.reports ++ [r] }, drawn := d.drawn + 2 }

/-- No project or report of the catalogue has the identifier of one of these. -/
structure Made.New (m : Made) (db : Database) : Prop where
  folders : ∀ f ∈ m.folders, ∀ p ∈ db.projects, p.id ≠ f.project.id
  files : ∀ f ∈ m.files, ∀ r ∈ db.reports, r.id ≠ f.report.id

/-- What is planned was done. -/
structure Done (u : Upload) (m : Made) (d d' : Deployment) : Prop where
  db : d'.db = m.enter d.db
  drawn : d'.drawn = d.drawn + m.draws
  store : d'.store = u.stored d.outages m.files d.store
  disk : d'.disk = d.disk
  outages : d'.outages = d.outages
  new : m.New d.db
  workbooks : ∀ f ∈ m.files, WorkbookName.isWorkbook f.name = true

/-- How an upload ends for which `m` is planned. -/
inductive Ends (u : Upload) (m : Made) (d : Deployment) : Except Fault Unit × Deployment → Prop where
  | done {d' : Deployment} (h : u.Done m d d') : Ends u m d (.ok (), d')
  | broken {e : Fault} {d' : Deployment} (fs : List MadeFile) (hfs : fs <+: m.files)
      (hstore : d'.store = u.stored d.outages fs d.store) : Ends u m d (.error e, d')

section
variable {u : Upload} {a b m : Made} {d d' d'' : Deployment} {name : String} {p : Project}

theorem stored_append (o : Outages) (fs gs : List MadeFile) (s : ObjectStore) :
    u.stored o (fs ++ gs) s = u.stored o gs (u.stored o fs s) :=
  List.foldl_append

theorem stored_under (o : Outages) (fs : List MadeFile) (s : ObjectStore) :
    u.stored o (fs.map fun f => { f with path := name :: f.path }) s = u.stored o fs s :=
  List.foldl_map

theorem Made.enter_append (db : Database) : (a ++ b).enter db = b.enter (a.enter db) := by
  simp [Made.enter]

theorem Made.enter_under (db : Database) : (m.under name).enter db = m.enter db := by
  simp [Made.enter, Made.under, Function.comp_def]

theorem Made.enter_withRoot (db : Database) :
    (m.withRoot p).enter db = m.enter { db with projects := db.projects ++ [p] } := by
  simp [Made.enter]

theorem Made.New.append {db : Database} (ha : a.New db) (hb : b.New (a.enter db)) :
    (a ++ b).New db where
  folders f hf q hq := by
    rcases List.mem_append.1 hf with hf | hf
    · exact ha.folders f hf q hq
    · exact hb.folders f hf q (List.mem_append_left _ hq)
  files f hf r hr := by
    rcases List.mem_append.1 hf with hf | hf
    · exact ha.files f hf r hr
    · exact hb.files f hf r (List.mem_append_left _ hr)

theorem Made.New.under {db : Database} (h : m.New db) : (m.under name).New db where
  folders f hf := by
    obtain ⟨g, hg, rfl⟩ := Made.mem_folders_under.1 hf
    exact h.folders g hg
  files f hf := by
    obtain ⟨g, hg, rfl⟩ := Made.mem_files_under.1 hf
    exact h.files g hg

theorem Done.nil (h : d'.db = d.db) (hdrawn : d'.drawn = d.drawn) (hstore : d'.store = d.store)
    (hdisk : d'.disk = d.disk) (houtages : d'.outages = d.outages) : u.Done {} d d' where
  db := by simp [h, Made.enter]
  drawn := hdrawn
  store := hstore
  disk := hdisk
  outages := houtages
  new := ⟨by simp, by simp⟩
  workbooks := by simp

theorem Done.append (ha : u.Done a d d') (hb : u.Done b d' d'') : u.Done (a ++ b) d d'' where
  db := by rw [hb.db, ha.db, Made.enter_append]
  drawn := by rw [hb.drawn, ha.drawn, Made.draws_append, Nat.add_assoc]
  store := by rw [hb.store, ha.store, ha.outages, Made.files_append, stored_append]
  disk := hb.disk.trans ha.disk
  outages := hb.outages.trans ha.outages
  new := ha.new.append (ha.db ▸ hb.new)
  workbooks f hf := by
    rcases List.mem_append.1 hf with hf | hf
    · exact ha.workbooks f hf
    · exact hb.workbooks f hf

theorem Done.under (h : u.Done m d d') : u.Done (m.under name) d d' where
  db := by rw [h.db, Made.enter_under]
  drawn := by rw [h.drawn, Made.draws_under]
  store := h.store.trans (stored_under _ _ _).symm
  disk := h.disk
  outages := h.outages
  new := h.new.under
  workbooks f hf := by
    obtain ⟨g, hg, rfl⟩ := Made.mem_files_under.1 hf
    exact h.workbooks g hg

/-- The project of the folder around was made first. -/
theorem Done.withRoot (hp : ∀ q ∈ d.db.projects, q.id ≠ p.id)
    (h : u.Done m (founded d p) d') : u.Done (m.withRoot p) d d' where
  db := h.db.trans (Made.enter_withRoot d.db).symm
  drawn := by
    rw [h.drawn, Made.draws_withRoot, Nat.add_comm m.draws, ← Nat.add_assoc]
    rfl
  store := h.store
  disk := h.disk
  outages := h.outages
  new := by
    refine ⟨fun f hf q hq => ?_, h.new.files⟩
    rcases List.mem_cons.1 hf with rfl | hf
    · exact hp q hq
    · exact h.new.folders f hf q (List.mem_append_left _ hq)
  workbooks := h.workbooks

/-- One part of an upload after another. -/
theorem Ends.bind {x : Op Unit} {k : Unit → Op Unit} (hx : u.Ends a d (x.exec d))
    (hk : ∀ d', u.Done a d d' → u.Ends b d' ((k ()).exec d')) :
    u.Ends (a ++ b) d ((x >>= k).exec d) := by
  rw [exec_bind]
  generalize x.exec d = r at hx
  cases hx with
  | broken fs hfs hstore =>
    exact .broken fs (hfs.trans (List.prefix_append _ _)) hstore
  | @done d' hdone =>
    have hend := hk d' hdone
    show u.Ends (a ++ b) d ((k ()).exec d')
    generalize (k ()).exec d' = r at hend
    cases hend with
    | done h => exact .done (hdone.append h)
    | broken fs hfs hstore =>
      refine .broken (a.files ++ fs) ((List.prefix_append_right_inj _).2 hfs) ?_
      rw [hstore, hdone.store, hdone.outages, stored_append]

theorem Ends.under {x : Except Fault Unit × Deployment} (h : u.Ends m d x) :
    u.Ends (m.under name) d x := by
  cases h with
  | done h => exact .done h.under
  | broken fs hfs hstore =>
    exact .broken _ (hfs.map _) (hstore.trans (stored_under _ _ _).symm)

theorem Ends.withRoot {x : Except Fault Unit × Deployment} (hp : ∀ q ∈ d.db.projects, q.id ≠ p.id)
    (h : u.Ends m (founded d p) x) : u.Ends (m.withRoot p) d x := by
  cases h with
  | done h => exact .done (h.withRoot hp)
  | broken fs hfs hstore => exact .broken fs hfs hstore

/-- A failure before anything was stored. -/
theorem Ends.failed {e : Fault} (h : d'.store = d.store) : u.Ends m d (.error e, d') :=
  .broken [] List.nil_prefix h

end

/-! ## One folder, one file -/

/-- The project of a folder is made, with the identifier drawn next, or nothing is. It is made only
    where its name was not taken. -/
theorem addFolder_cases (u : Upload) (parent : Option Id) (name : String) (d : Deployment) :
    (∃ e d', (u.addFolder parent name).exec d = (.error e, d') ∧ d'.store = d.store) ∨
      ∃ p, p = u.folderRow parent name (.drawn (d.drawn + 1)) ∧
        u.before.hasProjectNamed (some name) u.userId parent none = false ∧ d.db.Admits p ∧
        (u.addFolder parent name).exec d = (.ok p, founded d p) := by
  unfold addFolder
  dsimp only
  split
  · exact .inl ⟨_, _, rfl, rfl⟩
  · rename_i hfree
    rw [exec_bind_ok (exec_drawId d)]
    set p := u.folderRow parent name (.drawn (d.drawn + 1))
    have hrow : (u.folderForm parent name p.id).toProject p.id = .ok p := rfl
    have hadd := exec_addProject_row rfl hrow { d with drawn := d.drawn + 1 }
    cases hdb : d.db.addProject p with
    | error e =>
      rw [hdb] at hadd
      exact .inl ⟨e, _, hadd, rfl⟩
    | ok db =>
      rw [hdb] at hadd
      obtain ⟨hadmits, rfl⟩ := Database.addProject_eq_ok hdb
      exact .inr ⟨p, rfl, Bool.eq_false_iff.2 hfree, hadmits, hadd⟩

/-- A file that can be read is stored, if that is not refused; or the service has no such call. -/
theorem storeFile_cases (u : Upload) {path : String} {c : Content} {d : Deployment}
    (hread : d.disk.read path = .ok c) (key : String) :
    (∃ e, (u.storeFile path key).exec d = (.error e, d)) ∨
      (u.storeFile path key).exec d = (.ok (), { d with
        store := if d.outages.refuses key then d.store else d.store.put key c }) := by
  have hbucket := exec_sendFile key 0 hread ⟨_, exec_connect .upload key 0 d⟩
  have hcontainer := exec_sendFile key 0 hread ⟨_, Container.exec_opened .upload key 0 d⟩
  unfold storeFile
  split
  · cases u.storage with
    | container => exact .inr (exec_bind_ok hcontainer)
    | _ => exact .inl ⟨_, rfl⟩
  · cases u.storage with
    | bucket => exact .inr (exec_bind_ok hbucket)
    | _ => exact .inl ⟨_, rfl⟩

/-- The unpacking of a packed workbook is noted, and nothing else is done. -/
theorem Done.after_note {u : Upload} {m : Made} {d d' : Deployment} (c : Prop) [Decidable c]
    (call : Call) (h : u.Done m d d') :
    u.Ends m d ((if c then record call else pure () : Op Unit).exec d') := by
  split
  · exact .done ⟨h.db, h.drawn, h.store, h.disk, h.outages, h.new, h.workbooks⟩
  · exact .done h

/-- The report of a workbook is made, with the identifiers drawn next, or nothing is. -/
theorem enterReport_cases (u : Upload) (project : Id) (name : String) (d : Deployment) :
    (∃ e d', (u.enterReport project (WorkbookName.normalize name)).exec d = (.error e, d') ∧
      d'.store = d.store) ∨
      ∃ r, r = u.reportRow project name (.drawn (d.drawn + 1)) (.drawn (d.drawn + 2)) ∧
        (∀ x ∈ d.db.reports, x.id ≠ r.id) ∧
        (u.enterReport project (WorkbookName.normalize name)).exec d = (.ok r, filed d r) := by
  set r := u.reportRow project name (.drawn (d.drawn + 1)) (.drawn (d.drawn + 2))
  have hrow : (u.reportForm project (WorkbookName.normalize name) r.id r.reportId).toReport r.id =
    .ok r := rfl
  have hadd := exec_addReport_row rfl hrow { d with drawn := d.drawn + 2 }
  rw [enterReport, exec_bind_ok (exec_drawId d), exec_bind_ok (exec_drawId _)]
  cases hdb : d.db.addReport r with
  | error e =>
    rw [hdb] at hadd
    exact .inl ⟨e, _, hadd, rfl⟩
  | ok db =>
    rw [hdb] at hadd
    obtain ⟨hnew, rfl⟩ := Database.addReport_eq_ok hdb
    exact .inr ⟨r, rfl, hnew, hadd⟩

/-- A report that was entered, with its file stored if that is not refused. -/
theorem done_file {u : Upload} {f : MadeFile} {d : Deployment}
    (hname : WorkbookName.isWorkbook f.name = true) (hnew : ∀ x ∈ d.db.reports, x.id ≠ f.report.id) :
    u.Done { files := [f] } d
      { filed d f.report with store := u.storeWith d.outages d.store f } where
  db := by simp [Made.enter, filed]
  drawn := rfl
  store := rfl
  disk := rfl
  outages := rfl
  new := ⟨by simp, by simpa using hnew⟩
  workbooks := by simpa using hname

/-- A file of the tree is uploaded as planned. -/
theorem ends_addWorkbook (u : Upload) (project : Id) (name : String) {path : String} (rel : String)
    {c : Content} {d : Deployment} (hread : d.disk.read path = .ok c) :
    u.Ends (u.planFile project name d.drawn c) d ((u.addWorkbook project name path rel).exec d) := by
  unfold addWorkbook
  by_cases hname : WorkbookName.isWorkbook name = true
  · simp only [hname, Bool.not_true, Bool.false_eq_true, if_false]
    by_cases hold : u.before.hasReportNamed (some (WorkbookName.normalize name)) (some project) = true
    · rw [planFile, if_pos hold, if_pos hold]
      exact .done (.nil rfl rfl rfl rfl rfl)
    · rw [planFile, if_neg hold, if_neg hold]
      rcases u.enterReport_cases project name d with ⟨e, d', hadd, hstore⟩ | ⟨r, hr, hnew, hadd⟩
      · rw [exec_bind_error hadd]
        exact .failed hstore
      · rw [exec_bind_ok hadd, ← hr]
        have hkey : fileKey u.orgName r.reportId (WorkbookName.normalize name) = u.keyOf r := by
          rw [hr]
          rfl
        rw [hkey]
        have hread' : (filed d r).disk.read path = .ok c := hread
        rcases u.storeFile_cases hread' (u.keyOf r) with ⟨e, hstore⟩ | hstore
        · rw [exec_bind_error hstore]
          exact .failed rfl
        · rw [exec_bind_ok hstore]
          exact Done.after_note _ _ (done_file (f := ⟨[], name, r, c⟩) hname hnew)
  · simp only [hname, Bool.not_false, if_true]
    exact .failed rfl

/-! ## The walk -/

mutual

/-- **The entries of a folder are uploaded as planned.** -/
theorem ends_addEntries (u : Upload) (project : Id) {path : String} (rel : String)
    {all : List (String × Node)} : ∀ (es : List (String × Node)) {d : Deployment},
    d.disk.root.WellFormed → d.disk.HasFolder path all → es ⊆ all →
      u.Ends (u.planEntries project d.drawn es) d ((u.addEntries project path rel es).exec d)
  | [], _, _, _, _ => .done (.nil rfl rfl rfl rfl rfl)
  | (name, node) :: es, d, hwf, hfolder, hsub => by
    obtain ⟨hmem, hsub⟩ := List.cons_subset.1 hsub
    rw [planEntries, addEntries]
    -- the rest of the plan starts with the identifiers that the first entry left
    refine (ends_addNode u project name _ node hwf hfolder hmem).under.bind fun d' hdone => ?_
    have hdrawn : d'.drawn = d.drawn + (u.planNode project name d.drawn node).draws := by
      rw [hdone.drawn, Made.draws_under]
    rw [← hdrawn]
    exact ends_addEntries u project rel es (hdone.disk ▸ hwf) (hdone.disk ▸ hfolder) hsub

/-- A file or folder is uploaded as planned. -/
theorem ends_addNode (u : Upload) (project : Id) (name : String) {path : String} (rel : String)
    {all : List (String × Node)} : ∀ (node : Node) {d : Deployment},
    d.disk.root.WellFormed → d.disk.HasFolder path all → (name, node) ∈ all →
      u.Ends (u.planNode project name d.drawn node) d
        ((u.addNode project name (Path.join path name) rel node).exec d)
  | .file _, _, hwf, hfolder, hmem => ends_addWorkbook u project name rel (hfolder.read_file hwf hmem)
  | .folder es, d, hwf, hfolder, hmem => by
    rw [addNode]
    rcases u.addFolder_cases (some project) name d with
      ⟨e, d', hadd, hstore⟩ | ⟨p, rfl, -, hadmits, hadd⟩
    · rw [exec_bind_error hadd]
      exact .failed hstore
    · rw [exec_bind_ok hadd]
      exact .withRoot hadmits.fresh (ends_addEntries u _ rel es (d := founded d _) hwf
        (hfolder.folder hwf hmem) (List.Subset.refl es))

end

/-- **An upload keeps to the plan.** If it fails before the folder is read, nothing is stored. -/
theorem run_cases (u : Upload) (folder name : String) (parent : Option Id) {d : Deployment}
    (hwf : d.disk.root.WellFormed) :
    (∃ e d', (u.run folder name parent).exec d = (.error e, d') ∧ d'.db = d.db ∧
      (d'.store = d.store ∨ ∃ es fs, d.disk.list folder = .ok es ∧
        fs <+: (u.plan parent name d.drawn es).files ∧ d'.store = u.stored d.outages fs d.store)) ∨
      ∃ es d', d.disk.list folder = .ok es ∧ (u.run folder name parent).exec d = (.ok (), d') ∧
        u.Done (u.plan parent name d.drawn es) d d' := by
  rcases u.addFolder_cases parent name d with
    ⟨e, d', hadd, hstore⟩ | ⟨p, hp, -, hadmits, hadd⟩
  · exact .inl ⟨e, _, exec_transaction_error (exec_bind_error hadd), rfl, .inl hstore⟩
  · have hdisk : (ofDisk (·.list folder)).exec (founded d p) = (d.disk.list folder, founded d p) :=
      exec_ofDisk _ _
    cases hlist : d.disk.list folder with
    | error e =>
      rw [hlist] at hdisk
      exact .inl ⟨e, _, exec_transaction_error ((exec_bind_ok hadd).trans (exec_bind_error hdisk)),
        rfl, .inl rfl⟩
    | ok es =>
      rw [hlist] at hdisk
      have hends := Ends.withRoot hadmits.fresh (ends_addEntries u p.id "" es (d := founded d p) hwf
        (Disk.hasFolder_of_list hlist) (List.Subset.refl es))
      have hplan : (u.planEntries p.id (founded d p).drawn es).withRoot p =
          u.plan parent name d.drawn es := by
        rw [hp]
        rfl
      rw [hplan] at hends
      cases hx : (u.addEntries p.id folder "" es).exec (founded d p) with
      | mk r d' =>
        have hwalk : (do
            let p ← u.addFolder parent name
            let entries ← ofDisk (·.list folder)
            u.addEntries p.id folder "" entries).exec d = (r, d') :=
          (exec_bind_ok hadd).trans ((exec_bind_ok hdisk).trans hx)
        rw [hx] at hends
        cases hends with
        | done hdone => exact .inr ⟨es, d', rfl, exec_transaction_ok hwalk, hdone⟩
        | broken fs hfs hstore =>
          exact .inl ⟨_, _, exec_transaction_error hwalk, rfl, .inr ⟨es, fs, rfl, hfs, hstore⟩⟩

end Upload

end ReportMigration
