import ReportMigration.Gateway.Accounts
import ReportMigration.Gateway.Reports
import ReportMigration.Gateway.Servers
import ReportMigration.Proofs.Catalogue.Entry
import ReportMigration.Proofs.Reports.Removal
import ReportMigration.Proofs.Reports.Stages
/-!
Operations that leave the projects alone.

* `Database.AboutProjects J`: what `J` says of a catalogue is about its projects alone;
* `Database.Endures J`: what `J` says outlasts every kind of write to reports and analyses, and is not
  about other tables than these and the projects. What is about the projects alone does so;
* what endures still holds after any operation on accounts, servers, reports, analyses, logs and
  visuals, whether it answers or fails: for each there is a lemma `preserves_…`.
-/
namespace ReportMigration

open Op

namespace Database

/-- What `J` says is about the projects alone. -/
def AboutProjects (J : Database → Prop) : Prop :=
  ∀ ⦃db db' : Database⦄, db'.projects = db.projects → J db → J db'

/-- The projects, the reports and the analyses. -/
def content (db : Database) : List Project × List Report × List Analysis :=
  (db.projects, db.reports, db.analyses)

/-- What `J` says outlasts the writes to reports and analyses, and is not about other tables than these
    and the projects. Reports stay in their projects and analyses with their reports, and an analysis
    is added only to a report without one. -/
structure Endures (J : Database → Prop) : Prop where
  elsewhere : ∀ ⦃db db' : Database⦄, db'.content = db.content → J db → J db'
  addReport : ∀ ⦃db db' : Database⦄ ⦃r : Report⦄, db.addReport r = .ok db' → J db → J db'
  setReport : ∀ ⦃db : Database⦄ ⦃r q : Report⦄, r ∈ db.reports → q.id = r.id →
    q.projectId = r.projectId → J db → J (db.setReport q)
  updateReports : ∀ ⦃db : Database⦄ ⦃f : Report → Report⦄,
    (∀ r, (f r).id = r.id ∧ (f r).projectId = r.projectId) → J db →
      J { db with reports := db.reports.map f }
  removeReport : ∀ ⦃db : Database⦄ (i : Id), J db → J (db.removeReport i)
  addAnalysis : ∀ ⦃db db' : Database⦄ ⦃a : Analysis⦄, (∀ x ∈ db.analyses, x.reportId ≠ a.reportId) →
    db.addAnalysis a = .ok db' → J db → J db'
  setAnalysis : ∀ ⦃db : Database⦄ ⦃a b : Analysis⦄, a ∈ db.analyses → b.id = a.id →
    b.reportId = a.reportId → J db → J (db.setAnalysis b)
  updateAnalyses : ∀ ⦃db : Database⦄ ⦃f : Analysis → Analysis⦄,
    (∀ a, (f a).id = a.id ∧ (f a).reportId = a.reportId) → J db →
      J { db with analyses := db.analyses.map f }

theorem addAnalysis_eq_ok {db db' : Database} {a : Analysis} (h : db.addAnalysis a = .ok db') :
    (∀ x ∈ db.analyses, x.id ≠ a.id) ∧ db' = { db with analyses := db.analyses ++ [a] } := by
  obtain ⟨hid, h⟩ := eq_ok_of_check h
  obtain ⟨-, h⟩ := eq_ok_of_check h
  exact ⟨unrepeated_eq_ok hid, by cases h; rfl⟩

theorem AboutProjects.endures {J : Database → Prop} (hJ : AboutProjects J) : Endures J where
  elsewhere _ _ h := hJ (congrArg Prod.fst h)
  addReport _ _ _ h := hJ (by rw [(addReport_eq_ok h).2])
  setReport _ _ _ _ _ _ := hJ rfl
  updateReports _ _ _ := hJ rfl
  removeReport _ _ := hJ rfl
  addAnalysis _ _ _ _ h := hJ (by rw [(addAnalysis_eq_ok h).2])
  setAnalysis _ _ _ _ _ _ := hJ rfl
  updateAnalyses _ _ _ := hJ rfl

/-- The catalogue that is given, if any, has the same projects, reports and analyses. -/
def LeavesContent (db : Database) (x : Except Fault Database) : Prop :=
  ∀ db', x = .ok db' → db'.content = db.content

namespace LeavesContent

variable {db db' : Database}

theorem ok (h : db'.content = db.content) : LeavesContent db (.ok db') := by
  rintro _ ⟨⟩
  exact h

theorem check {c : Except Fault Unit} {x : Except Fault Database} (h : LeavesContent db x) :
    LeavesContent db (do c; x) := fun _ hx => h _ (eq_ok_of_check hx).2

end LeavesContent

theorem leavesContent_removeCredentials (db : Database) (server : Option Id) :
    LeavesContent db (db.removeCredentials server) := by
  intro db' h
  unfold removeCredentials at h
  dsimp only at h
  split at h
  · cases h
  · cases h
    rfl

theorem content_nameStaleSite (db : Database) (server : Option Id) (name : Option String) :
    (db.nameStaleSite server name).content = db.content := by
  unfold nameStaleSite
  split <;> rfl

end Database

theorem Analysis.read_eq_ok_iff {a x : Analysis} :
    a.read = .ok x ↔ x = a ∧ ∀ c, a.complexity = some c → c.Known :=
  Coded.checked_eq_ok_iff

/-- An edit leaves an analysis with its report. -/
theorem Analysis.edit_links (a : Analysis) (e : AnalysisEdit) :
    (a.edit e).1.id = a.id ∧ (a.edit e).1.reportId = a.reportId := by
  obtain ⟨c, m, p⟩ := e
  unfold Analysis.edit
  cases c <;> cases m <;> cases p <;> dsimp only <;> (try split_ifs) <;> exact ⟨rfl, rfl⟩

theorem Database.mem_of_analysisOf? {db : Database} {i : Option Id} {a : Analysis}
    (h : db.analysisOf? i = .ok (some a)) : a ∈ db.analyses := by
  obtain ⟨hf, -⟩ := (mapM_read?_iff fun _ _ => Analysis.read_eq_ok_iff).1 h
  exact List.mem_of_find?_eq_some hf.symm

section
variable {J : Database → Prop} (hJ : Database.Endures J)
include hJ

theorem preserves_write {f : Database → Except Fault Database}
    (h : ∀ db : Database, db.LeavesContent (f db)) : Preserves J (Op.write f) :=
  .write fun db db' hdb hf => hJ.elsewhere (h db db' hf) hdb

theorem preserves_change {f : Database → Database} (h : ∀ db, (f db).content = db.content) :
    Preserves J (Op.change f) :=
  .change fun db hdb => hJ.elsewhere (h db) hdb

omit hJ in
/-- What follows once an identifier is given or drawn. -/
theorem preserves_idOrDrawn {α : Type} {i : Option Id} {k : Id → Op α}
    (hk : ∀ i, Preserves J (k i)) :
    Preserves J (match i with
      | some i => do let i ← pure i; k i
      | none => do let i ← Op.drawId; k i) := by
  cases i with
  | none => exact .bind .drawId hk
  | some i => exact .bind (.pure i) hk

omit hJ in
theorem preserves_provider : Preserves J Op.provider :=
  .of_keeps fun d => by
    rw [exec_provider]
    split <;> rfl

omit hJ in
theorem preserves_archiveInTime (p : Provider) (f : ReportFolder) :
    Preserves J (archiveInTime p f) :=
  .of_keeps fun d => by
    rw [exec_archiveInTime]
    exact Deployment.archived_db p f .now d

/-! ## Accounts -/

theorem preserves_createRole (name : Option String) : Preserves J (createRole name) := by
  refine .bind (.transaction ?_) fun _ => .ofExcept _
  refine .bind .drawId fun _ => .bind (.ofExcept _) fun _ => .bind ?_ fun _ => .pure _
  exact preserves_write hJ fun _ => .check (.check (.ok rfl))

theorem preserves_createOrganization (form : OrganizationForm) :
    Preserves J (createOrganization form) := by
  refine .transaction (preserves_idOrDrawn fun _ => .bind (.ofExcept _) fun _ => ?_)
  exact .bind (preserves_write hJ fun _ => .check (.check (.ok rfl))) fun _ => .pure _

theorem preserves_signIn (email : Option String) (password : String) :
    Preserves J (signIn email password) := by
  refine .bind .db fun db => ?_
  cases db.userByEmail? email with
  | none => exact .throw _
  | some u =>
    refine .bind .get fun _ => .ite (.bind .now fun _ => .bind ?_ fun _ => .pure _) (.throw _)
    exact preserves_change hJ fun _ => rfl

theorem preserves_register (v : Value) : Preserves J (register v) := by
  refine .bind .drawId fun _ => .bind (.ofExcept _) fun _ => .transaction (.bind .get fun _ => ?_)
  refine .bind (.ofExcept _) fun _ => .bind ?_ fun _ => .pure _
  exact preserves_write hJ fun _ => .check (.check (.check (.check (.ok rfl))))

omit hJ in
theorem preserves_registerPlain (email phoneNumber : Option String) :
    Preserves J (registerPlain email phoneNumber) := by
  refine .bind .db fun db => ?_
  cases db.users.find? fun u => some u.email = email || some u.phoneNumber = phoneNumber with
  | none => exact .throw _
  | some u => exact .ite (.throw _) (.throw _)

theorem preserves_updateUser (target : Id) (changes : UserChanges) (actor : Id) :
    Preserves J (updateUser target changes actor) := by
  refine .bind .db fun db => ?_
  cases db.findUser? target with
  | none => exact .throw _
  | some u =>
    exact .check fun _ => .bind (.ofExcept _) fun _ => preserves_change hJ fun _ => rfl

/-! ## Servers -/

theorem preserves_addServer (form : ServerForm) : Preserves J (addServer form) := by
  refine .bind .drawId fun _ => .bind (.transaction (.bind (.ofExcept _) fun _ => ?_)) fun _ =>
    .pure _
  exact preserves_write hJ fun _ => .check (.check (.ok rfl))

theorem preserves_setServerStatus (server : Option Id) (status : Value) :
    Preserves J (setServerStatus server status) := by
  refine .bind .db fun db => .bind (.ofExcept _) fun found => ?_
  cases found with
  | none => exact .throw _
  | some s =>
    refine .bind (.ofExcept _) fun _ => .bind (.ofExcept _) fun _ => ?_
    exact preserves_change hJ fun _ => rfl

theorem preserves_addCredential (form : CredentialForm) : Preserves J (addCredential form) := by
  refine .bind .drawId fun _ => .bind (.transaction ?_) fun _ => .ofExcept _
  refine .bind (.ofExcept _) fun _ => .bind ?_ fun _ => .pure _
  exact preserves_write hJ fun _ => .check (.check (.ok rfl))

theorem preserves_removeCredentials (server : Option Id) :
    Preserves J (removeCredentials server) :=
  .bind .db fun _ => .bind (.ofExcept _) fun _ =>
    preserves_write hJ fun db => db.leavesContent_removeCredentials server

theorem preserves_addSite (form : SiteForm) : Preserves J (addSite form) := by
  refine .transaction (preserves_idOrDrawn fun _ => .bind (.ofExcept _) fun _ => ?_)
  exact .bind (preserves_write hJ fun _ => .check (.check (.ok rfl))) fun _ => .pure _

theorem preserves_removeSites (credentials : List Id) : Preserves J (removeSites credentials) :=
  preserves_write hJ fun _ => .check (.ok rfl)

theorem preserves_addStaleCredential (form : StaleCredentialForm) :
    Preserves J (addStaleCredential form) := by
  unfold addStaleCredential
  cases form.tokenSecret with
  | none => exact .throw _
  | some secret =>
    refine .transaction (preserves_idOrDrawn fun _ => .bind (.ofExcept _) fun _ => ?_)
    exact .bind (preserves_write hJ fun _ => .check (.ok rfl)) fun _ => .pure _

/-! ## Reports -/

theorem preserves_addReport (form : ReportForm) : Preserves J (addReport form) := by
  refine .transaction (preserves_idOrDrawn fun _ => .bind (.ofExcept _) fun _ => ?_)
  exact .bind (.write fun _ _ hdb h => hJ.addReport h hdb) fun _ => .pure _

theorem preserves_updateStoredAs (i : Id) {f : Report → Report}
    (hf : ∀ r, (f r).id = r.id ∧ (f r).projectId = r.projectId) :
    Preserves J (Op.change (·.updateStoredAs i f)) := by
  refine .change fun db hdb => hJ.updateReports (fun r => ?_) hdb
  split
  · exact hf r
  · exact ⟨rfl, rfl⟩

section
variable {α : Type} (f : UseFigure α)

theorem preserves_note (item : Value) : Preserves J (f.note item) := by
  refine .bind (.ofExcept _) fun report => .bind (.ofExcept _) fun given => ?_
  cases if report.isTruthy then f.read? given else none with
  | none => exact .pure _
  | some a =>
    refine .bind (.ofExcept _) fun _ => .bind .db fun _ => .bind ?_ fun _ => .pure _
    exact preserves_updateStoredAs hJ _ fun r => ⟨(f.put_keys a r).1, (f.put_keys a r).2.1⟩

theorem preserves_noteAll : ∀ items, Preserves J (f.noteAll items)
  | [] => .pure _
  | item :: items =>
    .bind (preserves_note hJ f item) fun _ => .bind (preserves_noteAll items) fun _ => .pure _

end

theorem preserves_markStage (report : Option Id) (s : StageName) (b : Bool) :
    Preserves J (Op.change (·.markStage report s b)) := by
  refine .change fun db hdb => ?_
  unfold Database.markStage
  split
  next r hr =>
    have hsame := r.sameButStages_mark s b
    exact hJ.setReport (Database.report?_eq_ok_some hr).1 hsame.id_eq hsame.projectId_eq hdb
  next => exact hdb

theorem preserves_renameReport (report : Option Id) (name : Option String) :
    Preserves J (renameReport report name) := by
  refine .bind_db fun d hd => ?_
  cases hr : d.db.report? report with
  | error e => exact hd
  | ok found =>
    rw [exec_bind_ok (exec_ofExcept _ d)]
    cases found with
    | none => exact hd
    | some r =>
      dsimp only
      split
      · exact hd
      · cases hn : required "report_details" "name" name with
        | error e => exact hd
        | ok n =>
          rw [exec_bind_ok (exec_ofExcept _ d), exec_bind_ok (exec_change _ d)]
          exact hJ.setReport (Database.report?_eq_ok_some hr).1 rfl rfl hd

theorem preserves_removeReport (report : Option Id) (orgName : String) (time : ArchiveTime) :
    Preserves J (removeReport report orgName time) := by
  refine .bind .db fun _ => .bind (.ofExcept _) fun found => ?_
  cases found with
  | none => exact .pure _
  | some r =>
    refine .bind (preserves_change hJ fun _ => rfl) fun _ => .bind preserves_provider fun p => ?_
    have hrow : Preserves J (do Op.change (·.removeReport r.id); return true) :=
      .bind (.change fun _ hdb => hJ.removeReport r.id hdb) fun _ => .pure _
    cases time with
    | now => exact .bind (preserves_archiveInTime p _) fun _ => hrow
    | later => exact .bind (.later _) fun _ => hrow

theorem preserves_removeReports (orgName : String) : ∀ is, Preserves J (removeReports orgName is)
  | [] => .pure _
  | i :: is =>
    .bind (preserves_removeReport hJ (some i) orgName .now) fun _ =>
      preserves_removeReports orgName is

/-! ## Analyses, logs and visuals -/

/-- Counts are entered for a report without an analysis, or into the one it has. -/
theorem preserves_writeCounts (report : Id) (c : AnalysisCounts) (complexity : Option String) :
    Preserves J (writeCounts report c complexity) := by
  refine .bind_db fun d hd => ?_
  cases ha : d.db.analyses.find? (·.reportId = report) with
  | none =>
    have hnew : ∀ x ∈ d.db.analyses, x.reportId ≠ report := by simpa using ha
    dsimp only
    rw [exec_bind_ok (exec_drawId d)]
    cases hc : c.toList.mapM storable with
    | error e => exact hd
    | ok _ =>
      rw [exec_bind_ok (exec_ofExcept _ _), exec_write]
      dsimp only
      split
      next db hdb => exact hJ.addAnalysis hnew hdb hd
      next => exact hd
  | some a =>
    have hmem := List.mem_of_find?_eq_some ha
    dsimp only
    cases hread : a.read with
    | error e => exact hd
    | ok b =>
      obtain ⟨rfl, -⟩ := Analysis.read_eq_ok_iff.1 hread
      rw [exec_bind_ok (exec_ofExcept _ d)]
      cases hc : c.toList.mapM storable with
      | error e => exact hd
      | ok _ =>
        rw [exec_bind_ok (exec_ofExcept _ d)]
        split
        · exact hd
        · exact hJ.setAnalysis hmem rfl rfl hd

theorem preserves_updateCounts (report : Option Id) (c : AnalysisCounts)
    (complexity : Option String) : Preserves J (updateCounts report c complexity) := by
  unfold updateCounts
  cases report.filter (!·.text.isEmpty) with
  | none => exact .throw _
  | some report =>
    refine .bind (.attempt (.transaction (preserves_writeCounts hJ _ _ _))) fun r => ?_
    cases r <;> exact .pure _

theorem preserves_setMigration (report : Option Id) (answer : String) :
    Preserves J (setMigration report answer) := by
  refine .bind .db fun _ => .bind (.change fun db hdb => hJ.updateAnalyses (fun a => ?_) hdb) fun _ => .pure _
  split <;> exact ⟨rfl, rfl⟩

theorem preserves_editAnalysis (report : Option Id) (edit : Except Fault AnalysisEdit) :
    Preserves J (editAnalysis report edit) := by
  refine .bind_db fun d hd => ?_
  cases ha : d.db.analysisOf? report with
  | error e => exact hd
  | ok found =>
    rw [exec_bind_ok (exec_ofExcept _ d)]
    cases found with
    | none => exact hd
    | some a =>
      dsimp only
      cases edit with
      | error e => exact hd
      | ok e =>
        obtain ⟨hid, hreport⟩ := a.edit_links e
        rw [exec_bind_ok (exec_ofExcept _ d)]
        split
        · exact hd
        · rw [exec_bind_ok (exec_change _ d)]
          refine Preserves.ofExcept _ _ ?_
          exact hJ.setAnalysis (Database.mem_of_analysisOf? ha) hid hreport hd

theorem preserves_hideAnalyses (reports : List Id) : Preserves J (Op.change (·.hideAnalyses reports)) := by
  refine .change fun db hdb => hJ.updateAnalyses (fun a => ?_) hdb
  split <;> exact ⟨rfl, rfl⟩

theorem preserves_addLog (report : Option Id) (status message : Option String)
    (user : Option Id) : Preserves J (addLog report status message user) := by
  refine .bind .now fun _ => .transaction (.bind .drawId fun _ => .bind (.ofExcept _) fun _ => ?_)
  exact preserves_write hJ fun _ => .check (.check (.ok rfl))

theorem preserves_addVisual (form : VisualForm) : Preserves J (addVisual form) := by
  refine .transaction (preserves_idOrDrawn fun _ => .bind (.ofExcept _) fun _ => ?_)
  exact .bind (preserves_write hJ fun _ => .check (.ok rfl)) fun _ => .pure _

end

end ReportMigration
