import Mathlib.Data.List.Basic
import ReportMigration.Proofs.Projects.Upload
import ReportMigration.Proofs.Storage.Folder
import ReportMigration.Sample.Catalogue
/-!
What an upload leaves in the catalogue and in object storage.

* `Upload.eq_of_fileKey_eq`: files of different reports have different keys;
* `Upload.get?_stored`, `Upload.isSome_get?_stored`: what the store holds after some files;
* `uploadArchive_mirrors`: an upload that answers mirrors the tree, and one that fails leaves the
  catalogue as it was;
* `uploadArchive_keys`: the keys that an upload adds are those of reports it made.
-/
namespace ReportMigration

namespace Upload

/-! ## Keys -/

theorem fileKey_eq (orgName : String) (i : Id) (name : String) :
    fileKey orgName i name = (ReportFolder.mk orgName i).source ++ ("tableau_file/" ++ name) := by
  have hfolder : "/tableau_file/" = "/" ++ "tableau_file/" := by decide
  have happend : ∀ s : String, s ++ "/tableau_file/" ++ name = s ++ "/" ++ ("tableau_file/" ++ name) :=
    fun s => (congrArg (s ++ · ++ name) hfolder).trans (by simp only [String.append_assoc])
  exact happend _

theorem takeWhile_slash {cs r : List Char} (h : '/' ∉ cs) :
    (cs ++ '/' :: r).takeWhile (· ≠ '/') = cs := by
  have hall : ∀ c ∈ cs, decide (c ≠ '/') = true := fun c hc => by
    simpa using ne_of_mem_of_not_mem hc h
  rw [List.takeWhile_append_of_pos hall, List.takeWhile_cons_of_neg (by simp), List.append_nil]

/-- Files of different reports have different keys, since no identifier has a slash. -/
theorem eq_of_fileKey_eq {orgName name name' : String} {i j : Id} (hi : '/' ∉ i.text.toList)
    (hj : '/' ∉ j.text.toList) (h : fileKey orgName i name = fileKey orgName j name') : i = j := by
  have hl := congrArg String.toList h
  rw [fileKey_eq, fileKey_eq] at hl
  simp only [String.toList_append, ReportFolder.toList_source, ReportFolder.trail,
    List.append_assoc, List.cons_append, List.nil_append, List.append_cancel_left_eq,
    List.cons.injEq, true_and] at hl
  -- both identifiers end at the first slash
  have htext := congrArg (List.takeWhile (· ≠ '/')) hl
  rw [takeWhile_slash hi, takeWhile_slash hj] at htext
  cases i
  cases j
  exact congrArg Id.mk (String.toList_inj.1 htext)

section
variable {u : Upload} {o : Outages} {fs : List MadeFile} {s : ObjectStore} {k : String}

theorem get?_storeWith (f : MadeFile) :
    (u.storeWith o s f).get? k =
      if k = u.keyOf f.report ∧ o.refuses k = false then some f.content else s.get? k := by
  unfold storeWith
  by_cases hr : o.refuses (u.keyOf f.report) = true
  · rw [if_pos hr, if_neg]
    rintro ⟨rfl, hk⟩
    simp [hr] at hk
  · rw [if_neg hr, ObjectStore.get?_put]
    by_cases hk : k = u.keyOf f.report
    · subst hk
      simp [hr]
    · simp [hk]

/-- A key of none of the files holds what it held. -/
theorem get?_stored_of_ne (h : ∀ f ∈ fs, k ≠ u.keyOf f.report) :
    (u.stored o fs s).get? k = s.get? k := by
  induction fs generalizing s with
  | nil => rfl
  | cons f fs ih =>
    obtain ⟨hf, hfs⟩ := List.forall_mem_cons.1 h
    show (u.stored o fs (u.storeWith o s f)).get? k = s.get? k
    rw [ih hfs, get?_storeWith, if_neg fun hk => hf hk.1]

/-- **Each file is stored, if that is not refused.** -/
theorem get?_stored (hkeys : (fs.map fun f => u.keyOf f.report).Nodup) {f : MadeFile}
    (hf : f ∈ fs) :
    (u.stored o fs s).get? (u.keyOf f.report) =
      if o.refuses (u.keyOf f.report) then s.get? (u.keyOf f.report) else some f.content := by
  induction fs generalizing s with
  | nil => cases hf
  | cons g fs ih =>
    obtain ⟨hg, hkeys⟩ := List.nodup_cons.1 hkeys
    show (u.stored o fs (u.storeWith o s g)).get? (u.keyOf f.report) = _
    have hne : ∀ f ∈ fs, u.keyOf g.report ≠ u.keyOf f.report := fun f hf he =>
      hg (List.mem_map.2 ⟨f, hf, he.symm⟩)
    rcases List.mem_cons.1 hf with rfl | hf
    · rw [get?_stored_of_ne hne, get?_storeWith]
      cases o.refuses (u.keyOf f.report) <;> simp
    · have hold : (u.storeWith o s g).get? (u.keyOf f.report) = s.get? (u.keyOf f.report) := by
        rw [get?_storeWith, if_neg fun hk => hne f hf hk.1.symm]
      rw [ih hkeys hf, hold]

/-- **The keys after some files were stored.** -/
theorem isSome_get?_stored :
    ((u.stored o fs s).get? k).isSome ↔
      (s.get? k).isSome ∨ ∃ f ∈ fs, k = u.keyOf f.report ∧ o.refuses k = false := by
  induction fs generalizing s with
  | nil => simp [stored]
  | cons f fs ih =>
    show ((u.stored o fs (u.storeWith o s f)).get? k).isSome ↔ _
    rw [ih, get?_storeWith]
    by_cases hk : k = u.keyOf f.report ∧ o.refuses k = false
    · rw [if_pos hk]
      exact iff_of_true (.inl rfl) (.inr ⟨f, List.mem_cons_self, hk⟩)
    · rw [if_neg hk]
      simp only [List.exists_mem_cons_iff, hk, false_or]

end

/-- The files of an upload have different keys. -/
theorem nodup_keys_plan (u : Upload) (parent : Option Id) (name : String) (n : Nat)
    (es : List (String × Node)) :
    ((u.plan parent name n es).files.map fun f => u.keyOf f.report).Nodup := by
  have hids := nodup_ids_plan u parent name n es
  have hnodup : ((u.plan parent name n es).files.map (·.report.reportId)).Nodup :=
    (List.nodup_append.1 (List.nodup_append.1 hids).2.1).2.1
  have hslash : ∀ f ∈ (u.plan parent name n es).files, '/' ∉ f.report.reportId.text.toList := by
    intro f hf
    have hid : f.report.reportId ∈ (u.plan parent name n es).ids :=
      List.mem_append_right _ (List.mem_append_right _ (List.mem_map.2 ⟨f, hf, rfl⟩))
    obtain ⟨k, -, hk⟩ := List.mem_map.1 ((ids_plan u parent name n es).mem_iff.1 hid)
    rw [← hk]
    exact Id.slash_notMem_drawn k
  refine List.Nodup.map_on (fun f hf g hg he => ?_) (List.Nodup.of_map _ hnodup)
  exact List.inj_on_of_nodup_map hnodup hf hg (eq_of_fileKey_eq (hslash f hf) (hslash g hg) he)

/-! ## What was added -/

/-- The projects, reports and files are what was added to the deployment `d`. -/
structure Made.AddedTo (m : Made) (orgName : String) (d d' : Deployment) : Prop where
  new : m.New d.db
  rows : d'.db = m.enter d.db
  stored : ∀ f ∈ m.files, ∀ k, k = fileKey orgName f.report.reportId f.report.name →
    d'.store.get? k = if d.outages.refuses k then d.store.get? k else some f.content
  others : ∀ k, (∀ f ∈ m.files, k ≠ fileKey orgName f.report.reportId f.report.name) →
    d'.store.get? k = d.store.get? k

/-- The keys that were added are those of the files of these reports, as far as they could be
    stored. -/
def KeysAdded (orgName : String) (rows : List Report) (d d' : Deployment) : Prop :=
  ∀ k, (d'.store.get? k).isSome ↔ (d.store.get? k).isSome ∨
    ∃ r ∈ rows, k = fileKey orgName r.reportId r.name ∧ d.outages.refuses k = false

theorem keysAdded_stored {u : Upload} {fs : List MadeFile} {d d' : Deployment}
    (h : d'.store = u.stored d.outages fs d.store) :
    KeysAdded u.orgName (fs.map (·.report)) d d' := by
  intro k
  rw [h, isSome_get?_stored]
  simp only [List.mem_map, exists_exists_and_eq_and]
  rfl

/-- The reports that an upload is to make, in the order of the walk. -/
def reportsOf (u : Upload) (folder name : String) (parent : Option Id) (d : Deployment) :
    List Report :=
  match d.disk.list folder with
  | .ok es => (u.plan parent name d.drawn es).files.map (·.report)
  | .error _ => []

section
variable {u : Upload} {parent : Option Id} {name : String} {n : Nat} {es : List (String × Node)}
  {d d' : Deployment}

theorem Done.addedTo (h : u.Done (u.plan parent name n es) d d') :
    (u.plan parent name n es).AddedTo u.orgName d d' where
  new := h.new
  rows := h.db
  stored f hf k hk := by
    subst hk
    rw [h.store]
    exact get?_stored (nodup_keys_plan u parent name n es) hf
  others k hk := by
    rw [h.store]
    exact get?_stored_of_ne hk

/-- New projects have no reports, where every report of the catalogue has its project. -/
theorem Done.mirrors (h : u.Done (u.plan parent name n es) d d') (hu : u.before = d.db)
    (hwf : (Node.folder es).WellFormed)
    (hrefs : ∀ r ∈ d.db.reports, d.db.hasProject r.projectId = true) :
    (u.plan parent name n es).Mirrors u.userId parent name (.folder es) := by
  refine mirrors_plan hwf fun f hf r hr he => ?_
  rw [hu] at hr
  obtain ⟨p, hp, hid⟩ := Database.hasProject_iff.1 (hrefs r hr)
  exact h.new.folders f hf p hp (hid.trans he)

end

theorem Made.Mirrors.isWorkbook {user : Id} {parent : Option Id} {name : String} {tree : Node}
    {m : Made} (h : m.Mirrors user parent name tree)
    (hm : ∀ f ∈ m.files, WorkbookName.isWorkbook f.name = true) {q : List String} {k : String}
    {c : Content} (hc : tree.get? (q ++ [k]) = some (.file c)) :
    WorkbookName.isWorkbook k = true := by
  obtain ⟨f, hf, hpath, -⟩ := (h.files (q ++ [k]) c).2 hc
  obtain ⟨-, g, -, hg, -⟩ := h.file f hf
  obtain ⟨-, hk⟩ := List.append_inj' (hg.symm.trans hpath) rfl
  exact List.singleton_inj.1 hk ▸ hm f hf

end Upload

section
variable (folder archive : String) (parent : Option Id) (user : Id) (orgName provider : String)
  (storage : SettingsKind) (extracts : Bool) (d : Deployment)

theorem exec_uploadArchive :
    (uploadArchive folder archive parent user orgName provider storage extracts).exec d =
      ((Upload.mk d.db user orgName provider storage extracts).run folder
        (Path.stemAndExtension archive).1 parent).exec d :=
  Op.exec_bind_ok (Op.exec_db d)

/-- **An upload mirrors the folder**, where packed workbooks are not unpacked as well. If it answers, every
    file was a workbook, there is a new project for each folder and a new report for each file, each in the
    project of the folder around it, and the files are stored as far as that was not refused; nothing else
    changed. If it fails, the catalogue is as before. -/
theorem uploadArchive_mirrors (hdisk : d.disk.root.WellFormed)
    (hrefs : ∀ r ∈ d.db.reports, d.db.hasProject r.projectId = true) :
    let x := (uploadArchive folder archive parent user orgName provider storage false).exec d
    (∀ e, x.1 = .error e → x.2.db = d.db) ∧
      (x.1 = .ok () → ∃ es m, d.disk.list folder = .ok es ∧
        Upload.Made.Mirrors user parent (Path.stemAndExtension archive).1 (.folder es) m ∧
        m.AddedTo orgName d x.2 ∧
        ∀ q k c, (Node.folder es).get? (q ++ [k]) = some (.file c) →
          WorkbookName.isWorkbook k = true) := by
  intro x
  have hx : x = _ := exec_uploadArchive folder archive parent user orgName provider storage false d
  rcases (Upload.mk d.db user orgName provider storage false).run_cases folder
    (Path.stemAndExtension archive).1 parent hdisk with
    ⟨e, d', hrun, hdb, -⟩ | ⟨es, d', hlist, hrun, hdone⟩
  · rw [hx, hrun]
    exact ⟨fun _ _ => hdb, fun h => by cases h⟩
  · have hwf := (Disk.hasFolder_of_list hlist).wellFormed hdisk
    have hmirrors := hdone.mirrors rfl hwf hrefs
    rw [hx, hrun]
    exact ⟨fun _ h => (by cases h), fun _ => ⟨es, _, hlist, hmirrors, hdone.addedTo,
      fun _ _ _ => hmirrors.isWorkbook hdone.workbooks⟩⟩

end

/-- A project with a report, and a folder to be uploaded below it, with a workbook and a folder that
    holds another one. The second workbook cannot be stored. -/
def deliveryDeployment : Deployment where
  db :=
    { users := [Sample.user 0], projects := [Sample.projectAt (.ofNat 300) none none none]
      reports := [Sample.reportAt (.ofNat 400) (.ofNat 500) (.ofNat 300)] }
  outages := { keys := [(.upload, [Upload.fileKey "Acme" (.drawn 6) "c d.twbx"])] }
  disk :=
    { root := .folder [("work", .folder [("up", .folder [("a.twb", .file (.text "A")),
        ("inner", .folder [("c  d .twbx", .file (.text "C"))])])])] }

theorem wellFormed_delivery : deliveryDeployment.disk.root.WellFormed := by
  have hinner : (Node.folder [("c  d .twbx", .file (.text "C"))]).WellFormed :=
    .folder (by decide) (by decide) (List.forall_mem_singleton.2 (.file _))
  have hup : (Node.folder [("a.twb", .file (.text "A")),
      ("inner", .folder [("c  d .twbx", .file (.text "C"))])]).WellFormed :=
    .folder (by decide) (by decide)
      (List.forall_mem_cons.2 ⟨.file _, List.forall_mem_singleton.2 hinner⟩)
  exact .folder (by decide) (by decide) (List.forall_mem_singleton.2
    (.folder (by decide) (by decide) (List.forall_mem_singleton.2 hup)))

theorem uploadArchive_mirrors_delivery :
    let x := (uploadArchive "up" "Q3.zip" (some (.ofNat 300)) (Sample.userId 0) "Acme" "aws" .bucket
      false).exec deliveryDeployment
    x.2.db.projects.map (fun p => (p.id, p.name, p.parentId)) =
        [(.ofNat 300, "root", none), (.drawn 1, "Q3", some (.ofNat 300)),
          (.drawn 4, "inner", some (.drawn 1))] ∧
      x.2.db.reports.map (fun r => (r.id, r.name, r.projectId)) =
        [(.ofNat 400, "rep0.twb", .ofNat 300), (.drawn 2, "a.twb", .drawn 1),
          (.drawn 5, "c d.twbx", .drawn 4)] ∧
      x.2.store.entries = [(Upload.fileKey "Acme" (.drawn 3) "a.twb", .text "A")] ∧
      ∃ es m, deliveryDeployment.disk.list "up" = .ok es ∧
        Upload.Made.Mirrors (Sample.userId 0) (some (.ofNat 300)) "Q3" (.folder es) m ∧
        m.AddedTo "Acme" deliveryDeployment x.2 := by
  intro x
  have hrefs : ∀ r ∈ deliveryDeployment.db.reports,
      deliveryDeployment.db.hasProject r.projectId = true := by
    decide +kernel
  have hanswer : x.1.isOk = true := by decide +kernel
  have hname : (Path.stemAndExtension "Q3.zip").1 = "Q3" := by decide +kernel
  refine ⟨by decide +kernel, by decide +kernel, by decide +kernel, ?_⟩
  have h := uploadArchive_mirrors "up" "Q3.zip" (some (.ofNat 300)) (Sample.userId 0) "Acme" "aws"
    .bucket deliveryDeployment wellFormed_delivery hrefs
  rw [hname] at h
  cases hx : x.1 with
  | error e =>
    rw [hx] at hanswer
    cases hanswer
  | ok u =>
    obtain ⟨es, m, hlist, hmirrors, hadded, -⟩ := h.2 hx
    exact ⟨es, m, hlist, hmirrors, hadded⟩

/-! ## The catalogue and the store -/

/-- A folder to be uploaded, with a workbook and a file that is none. -/
def mixedDeployment : Deployment where
  db := { users := [Sample.user 0] }
  disk :=
    { root := .folder [("work", .folder [("up", .folder [("a.twb", .file (.text "A")),
        ("b.txt", .file (.text "B"))])])] }

/-- The upload of that folder fails, and no report is left, but the workbook stays stored. -/
theorem uploadArchive_leaves_file :
    let x := (uploadArchive "up" "up.zip" none (Sample.userId 0) "Acme" "aws" .bucket
      false).exec mixedDeployment
    x.1.isOk = false ∧ x.2.db.reports.length = 0 ∧ mixedDeployment.store.entries = [] ∧
      x.2.store.entries = [(Upload.fileKey "Acme" (.drawn 3) "a.twb", .text "A")] := by
  decide +kernel

/-- **The keys that an upload adds are those of reports it made**, where packed workbooks are not unpacked
    as well. If it answers, these are the new reports of the catalogue, as far as their files could be
    stored. If it fails, the catalogue is as before, and what was stored until then stays. -/
theorem uploadArchive_keys (folder archive : String) (parent : Option Id) (user : Id)
    (orgName provider : String) (storage : SettingsKind) (d : Deployment)
    (hdisk : d.disk.root.WellFormed) :
    let x := (uploadArchive folder archive parent user orgName provider storage false).exec d
    (x.1 = .ok () → ∃ rows, x.2.db.reports = d.db.reports ++ rows ∧
        Upload.KeysAdded orgName rows d x.2) ∧
      ∀ e, x.1 = .error e → x.2.db = d.db ∧
        ∃ rows, rows <+: (Upload.mk d.db user orgName provider storage false).reportsOf folder
          (Path.stemAndExtension archive).1 parent d ∧ Upload.KeysAdded orgName rows d x.2 := by
  intro x
  have hx : x = _ := exec_uploadArchive folder archive parent user orgName provider storage false d
  rcases (Upload.mk d.db user orgName provider storage false).run_cases folder
    (Path.stemAndExtension archive).1 parent hdisk with
    ⟨e, d', hrun, hdb, hstore⟩ | ⟨es, d', hlist, hrun, hdone⟩
  · rw [hx, hrun]
    refine ⟨fun h => (by cases h), fun _ _ => ⟨hdb, ?_⟩⟩
    rcases hstore with hstore | ⟨es, fs, hlist, hfs, hstore⟩
    · exact ⟨[], List.nil_prefix, fun k => by simp [hstore]⟩
    · have hplan := hfs.map (·.report)
      refine ⟨fs.map (·.report), ?_, Upload.keysAdded_stored hstore⟩
      simpa only [Upload.reportsOf, hlist] using hplan
  · rw [hx, hrun]
    have hkeys := Upload.keysAdded_stored hdone.store
    have hrows := congrArg (·.reports) hdone.db
    exact ⟨fun _ => ⟨_, hrows, hkeys⟩, fun _ h => (by cases h)⟩

theorem uploadArchive_keys_mixed :
    let x := (uploadArchive "up" "up.zip" none (Sample.userId 0) "Acme" "aws" .bucket
      false).exec mixedDeployment
    (x.2.store.get? (Upload.fileKey "Acme" (.drawn 3) "a.twb")).isSome ∧
      x.2.db = mixedDeployment.db ∧
      ∃ rows, rows <+: (Upload.mk mixedDeployment.db (Sample.userId 0) "Acme" "aws" .bucket
          false).reportsOf "up" "up" none mixedDeployment ∧
        Upload.KeysAdded "Acme" rows mixedDeployment x.2 := by
  intro x
  have hup : (Node.folder [("a.twb", .file (.text "A")), ("b.txt", .file (.text "B"))]).WellFormed :=
    .folder (by decide) (by decide)
      (List.forall_mem_cons.2 ⟨.file _, List.forall_mem_singleton.2 (.file _)⟩)
  have hdisk : mixedDeployment.disk.root.WellFormed :=
    .folder (by decide) (by decide) (List.forall_mem_singleton.2
      (.folder (by decide) (by decide) (List.forall_mem_singleton.2 hup)))
  have hname : (Path.stemAndExtension "up.zip").1 = "up" := by decide +kernel
  have hfails : x.1.isOk = false := by decide +kernel
  have h := uploadArchive_keys "up" "up.zip" none (Sample.userId 0) "Acme" "aws" .bucket
    mixedDeployment hdisk
  rw [hname] at h
  refine ⟨by decide +kernel, ?_⟩
  cases hx : x.1 with
  | error e => exact h.2 e hx
  | ok u =>
    rw [hx] at hfails
    cases hfails

end ReportMigration
