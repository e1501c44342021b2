import ReportMigration.Proofs.Projects.Upkeep
import ReportMigration.Sample.Catalogue
/-!
The projects after any sequence of requests.

* `Gateway.Request`: the requests that write to the catalogue, each with its handler;
* `Request.NewBelow`: a request that makes a project does not place it below itself. Identifiers are
  drawn anew, so that only a caller who names an identifier before it is drawn could do that;
* `Gateway.preserves_request`: what endures holds after every request that adds no project;
* `Gateway.Step`: one request is answered or fails, or something else than the catalogue changes;
* `Gateway.isForest_of_reaches`: from a forest only forests are reached, and all walks over them end.
-/
namespace ReportMigration.Gateway

open Op

/-- The requests that write to the catalogue. -/
inductive Request where
  | newRole
  | newOrganization
  | login
  | newUser
  | newPlainUser
  | changeUser
  | newServer
  | serverStatus
  | newCredential
  | dropCredentials
  | newSite
  | dropSites
  | newStaleCredential
  | dropStaleCredentials
  | nameStaleSite
  | dropServer
  | newProject
  | newFolder
  | upload
  | assign
  | projectName
  | dropProject
  | dropProjectsOn
  | newReport
  | lastViewed
  | userCounts
  | mark (s : StageName)
  | reportName
  | dropReport
  | dropReportsOf
  | counts
  | migration
  | analysisEdit
  | hideAnalyses
  | newLog
  | newPlainLog
  | started (activity : Activity)
  | completed (activity : Activity)
  | failed (activity : Activity)
  | progressed (activity : Activity)
  | hideLogs
  | newVisual
  | dropVisuals

namespace Request

/-- What answers a request. -/
def handler : Request → Handler
  | newRole => Gateway.newRole
  | newOrganization => Gateway.newOrganization
  | login => Gateway.login
  | newUser => Gateway.newUser
  | newPlainUser => Gateway.newPlainUser
  | changeUser => Gateway.changeUser
  | newServer => Gateway.newServer
  | serverStatus => Gateway.serverStatus
  | newCredential => Gateway.newCredential
  | dropCredentials => Gateway.dropCredentials
  | newSite => Gateway.newSite
  | dropSites => Gateway.dropSites
  | newStaleCredential => Gateway.newStaleCredential
  | dropStaleCredentials => Gateway.dropStaleCredentials
  | nameStaleSite => Gateway.nameStaleSite
  | dropServer => Gateway.dropServer
  | newProject => Gateway.newProject
  | newFolder => Gateway.newFolder
  | upload => Gateway.upload
  | assign => Gateway.assign
  | projectName => Gateway.projectName
  | dropProject => Gateway.dropProject
  | dropProjectsOn => Gateway.dropProjectsOn
  | newReport => Gateway.newReport
  | lastViewed => Gateway.lastViewed
  | userCounts => Gateway.userCounts
  | mark s => Gateway.mark s
  | reportName => Gateway.reportName
  | dropReport => Gateway.dropReport
  | dropReportsOf => Gateway.dropReportsOf
  | counts => Gateway.counts
  | migration => Gateway.migration
  | analysisEdit => Gateway.analysisEdit
  | hideAnalyses => Gateway.hideAnalyses
  | newLog => Gateway.newLog
  | newPlainLog => Gateway.newPlainLog
  | started activity => Gateway.started activity
  | completed activity => Gateway.completed activity
  | failed activity => Gateway.failed activity
  | progressed activity => Gateway.progressed activity
  | hideLogs => Gateway.hideLogs
  | newVisual => Gateway.newVisual
  | dropVisuals => Gateway.dropVisuals

/-- The request may add projects. -/
def AddsProjects : Request → Prop
  | newProject | newFolder | upload => True
  | _ => False

/-- The request places no new project below itself: where it names a parent, the new project has
    another identifier. -/
def NewBelow (r : Request) (a : Arguments) (d : Deployment) : Prop :=
  match r with
  | newProject | newFolder => a.id? "parent_id" ≠ some ((a.id? "id").getD (.drawn (d.drawn + 1)))
  | upload => a.id? "project_id" ≠ some (.drawn (d.drawn + 1))
  | _ => True

end Request

/-- One thing happens: a request is answered or fails, or the catalogue stays as it is. -/
inductive Step : Deployment → Deployment → Prop where
  | request {d : Deployment} (r : Request) (a : Arguments) (h : r.NewBelow a d) :
      Step d ((r.handler a).exec d).2
  | outside {d d' : Deployment} (h : d'.db = d.db) : Step d d'

/-- One thing after the other happens. -/
def Reaches : Deployment → Deployment → Prop := Relation.ReflTransGen Step

section
variable {J : Database → Prop} (hJ : Database.Endures J)
include hJ

theorem preserves_logged (activity : Activity) (e : Event) (a : Arguments) :
    Preserves J (logged activity e a) :=
  .bind (preserves_addLog hJ _ _ _ _) fun _ => .pure _

theorem preserves_newReport (a : Arguments) : Preserves J (newReport a) := by
  unfold newReport inSession
  exact .ite (.discarding _) (.bind (preserves_addReport hJ _) fun _ => .pure _)

theorem preserves_migration (a : Arguments) : Preserves J (migration a) := by
  unfold migration
  cases a.text? "migration_status" with
  | none => exact .throw _
  | some s => exact .bind (preserves_setMigration hJ _ _) fun _ => .pure _

theorem preserves_dropVisuals (a : Arguments) : Preserves J (dropVisuals a) := by
  unfold dropVisuals
  cases a.id? "report_id" with
  | none => exact .pure _
  | some r => exact .bind (preserves_change hJ fun _ => rfl) fun _ => .pure _

end

/-- What endures holds after every request that adds no project, whether it is answered or fails. -/
theorem preserves_request {J : Database → Prop} (hJ : Database.EnduresRemoval J) (r : Request)
    (hr : ¬ r.AddsProjects) (a : Arguments) : Preserves J (r.handler a) := by
  have hJ' := hJ.toEndures
  cases r with
  | newProject | newFolder | upload => exact absurd trivial hr
  | newRole => exact (preserves_createRole hJ' _).bind fun _ => .pure _
  | newOrganization => exact (preserves_createOrganization hJ' _).bind fun _ => .pure _
  | login => exact (preserves_signIn hJ' _ _).bind fun _ => .pure _
  | newUser => exact (preserves_register hJ' _).bind fun _ => .pure _
  | newPlainUser => exact (preserves_registerPlain _ _).bind fun _ => .pure _
  | changeUser =>
    exact .bind (.ofExcept _) fun _ => (preserves_updateUser hJ' _ _ _).bind fun _ => .pure _
  | newServer => exact (preserves_addServer hJ' _).bind fun _ => .pure _
  | serverStatus => exact (preserves_setServerStatus hJ' _ _).bind fun _ => .pure _
  | newCredential => exact (preserves_addCredential hJ' _).bind fun _ => .pure _
  | dropCredentials => exact (preserves_removeCredentials hJ' _).bind fun _ => .pure _
  | newSite => exact (preserves_addSite hJ' _).bind fun _ => .pure _
  | dropSites => exact (preserves_removeSites hJ' _).bind fun _ => .pure _
  | newStaleCredential => exact (preserves_addStaleCredential hJ' _).bind fun _ => .pure _
  | dropStaleCredentials => exact .bind (preserves_change hJ' fun _ => rfl) fun _ => .pure _
  | nameStaleSite =>
    exact (preserves_change hJ' fun db => db.content_nameStaleSite _ _).bind fun _ => .pure _
  | dropServer => exact (preserves_removeServer hJ _ _).bind fun _ => .pure _
  | assign =>
    refine (preserves_assignProject hJ _ _).bind fun found => ?_
    cases found <;> exact .pure _
  | projectName => exact (preserves_renameProject hJ _ _ _).bind fun _ => .pure _
  | dropProject => exact (preserves_removeProject hJ _ _).bind fun _ => .pure _
  | dropProjectsOn =>
    exact .bind (.bind .db fun _ => .ite (.throw _) (.pure _)) fun _ => .pure _
  | newReport => exact preserves_newReport hJ' a
  | lastViewed => exact (preserves_noteAll hJ' _ _).transaction.bind fun _ => .pure _
  | userCounts => exact (preserves_noteAll hJ' _ _).transaction.bind fun _ => .pure _
  | mark s => exact (preserves_markStage hJ' _ _ _).bind fun _ => .pure _
  | reportName => exact (preserves_renameReport hJ' _ _).bind fun _ => .pure _
  | dropReport => exact (preserves_removeReport hJ' _ _ _).bind fun _ => .pure _
  | dropReportsOf => exact .check fun _ => .pure _
  | counts => exact (preserves_updateCounts hJ' _ _ _).bind fun _ => .pure _
  | migration => exact preserves_migration hJ' a
  | analysisEdit =>
    exact .bind (.ofExcept _) fun _ => (preserves_editAnalysis hJ' _ _).bind fun _ => .pure _
  | hideAnalyses => exact (preserves_hideAnalyses hJ' _).bind fun _ => .pure _
  | newLog => exact (preserves_addLog hJ' _ _ _ _).bind fun _ => .pure _
  | newPlainLog => exact (preserves_addLog hJ' _ _ _ _).bind fun _ => .pure _
  | started activity => exact preserves_logged hJ' activity _ a
  | completed activity => exact preserves_logged hJ' activity _ a
  | failed activity => exact preserves_logged hJ' activity _ a
  | progressed activity => exact preserves_logged hJ' activity _ a
  | hideLogs => exact .bind (preserves_change hJ' fun _ => rfl) fun _ => .pure _
  | newVisual => exact (preserves_addVisual hJ' _).bind fun _ => .pure _
  | dropVisuals => exact preserves_dropVisuals hJ' a

section
variable {d d' : Deployment} {a : Arguments}

theorem isForest_newProject (hf : d.db.IsForest) (h : Request.newProject.NewBelow a d) :
    ((newProject a).exec d).2.db.IsForest := by
  rw [newProject, exec_map_snd]
  exact isForest_addProject hf h

theorem isForest_newFolder (hf : d.db.IsForest) (h : Request.newFolder.NewBelow a d) :
    ((newFolder a).exec d).2.db.IsForest := by
  unfold newFolder inSession
  split
  · exact Preserves.discarding _ d hf
  · rw [exec_map_snd]
    exact isForest_addProject hf h

theorem isForest_upload (hf : d.db.IsForest) (h : Request.upload.NewBelow a d) :
    ((upload a).exec d).2.db.IsForest := by
  unfold upload
  cases hu : (a.get "user").attr "id" with
  | error e =>
    rw [exec_bind_error (by rw [exec_ofExcept])]
    exact hf
  | ok user =>
    rw [exec_bind_ok (by rw [exec_ofExcept]), exec_map_snd]
    exact isForest_uploadArchive hf h

/-- **A request leads from a forest to a forest**, whether it is answered or fails. -/
theorem isForest_request (r : Request) (hf : d.db.IsForest) (h : r.NewBelow a d) :
    ((r.handler a).exec d).2.db.IsForest := by
  by_cases hr : r.AddsProjects
  · cases r with
    | newProject => exact isForest_newProject hf h
    | newFolder => exact isForest_newFolder hf h
    | upload => exact isForest_upload hf h
    | _ => cases hr
  · exact preserves_request Database.enduresRemoval_isForest r hr a d hf

theorem Step.isForest (h : Step d d') (hf : d.db.IsForest) : d'.db.IsForest := by
  cases h with
  | request r a hnew => exact isForest_request r hf hnew
  | outside heq => exact heq ▸ hf

/-- **The projects always form a forest.** After any sequence of requests every parent exists, the way
    up from every project ends at one without a parent, and the walks over the projects come to an end
    by themselves. -/
theorem isForest_of_reaches (hf : d.db.IsForest) (h : Reaches d d') :
    d'.db.IsForest ∧ (∀ p ∈ d'.db.projects, d'.db.Rooted p) ∧ d'.db.WalksEnd := by
  have hforest : d'.db.IsForest := by
    induction h with
    | refl => exact hf
    | tail _ hstep ih => exact hstep.isForest ih
  exact ⟨hforest, fun _ hp => hforest.rooted hp, hforest.walksEnd⟩

end

/-- A deployment with a user and a folder to be uploaded, and no projects yet. -/
def nurseryDeployment : Deployment where
  db := { users := [Sample.user 0] }
  disk := { root := .folder [("work", .folder [("up", .folder [("inner", .folder [])])])] }

/-- The upload of that folder. -/
def nurseryUpload : Arguments where
  fields := [("extract_dir", .text "up"), ("filename", .text "up.zip"), ("org_name", .text "Acme"),
    ("cloud_provider", .text "aws"), ("cloud_storage", .settings "S3Config"),
    ("user", .record [("id", .text (Sample.userId 0).text)])]

/-- A further folder in the inner one. -/
def nurseryFolder : Arguments where
  fields := [("id", .id (.ofNat 7)), ("name", .text "more"), ("user_id", .id (Sample.userId 0)),
    ("parent_id", .id (.drawn 2))]

/-- The last request repeats the one before it, and fails. -/
theorem isForest_of_reaches_nursery :
    ∃ d', Reaches nurseryDeployment d' ∧
      d'.db.projects.map (fun p => (p.id, p.parentId)) =
        [(.drawn 1, none), (.drawn 2, some (.drawn 1)), (.ofNat 7, some (.drawn 2))] ∧
      d'.db.IsForest ∧ (∀ p ∈ d'.db.projects, d'.db.Rooted p) ∧ d'.db.WalksEnd := by
  have hempty : nurseryDeployment.db.IsForest :=
    ⟨List.nodup_nil, by simp [nurseryDeployment], Database.acyclic_iff.2 rfl⟩
  have h₁ := Step.request .upload nurseryUpload (d := nurseryDeployment)
    (show nurseryUpload.id? "project_id" ≠ _ by decide +kernel)
  have hfolder : ∀ d : Deployment, Request.newFolder.NewBelow nurseryFolder d := by
    intro d
    have hid : nurseryFolder.id? "id" = some (.ofNat 7) := by decide +kernel
    have hparent : nurseryFolder.id? "parent_id" ≠ some (.ofNat 7) := by decide +kernel
    simpa only [Request.NewBelow, hid, Option.getD_some] using hparent
  have hagain : ∀ d, Step d ((Request.newFolder.handler nurseryFolder).exec d).2 := fun d =>
    .request .newFolder nurseryFolder (hfolder d)
  have hreach := ((Relation.ReflTransGen.single h₁).tail (hagain _)).tail (hagain _)
  exact ⟨_, hreach, by decide +kernel, isForest_of_reaches hempty hreach⟩

end ReportMigration.Gateway
