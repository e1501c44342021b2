import ReportMigration.Proofs.Projects.Reachable
/-!
The one analysis of a report, and the listing of reports with their analyses.

* `Database.Tidy`: identifiers do not repeat, every report lies in a project, and no report has two
  analyses. All kinds of writes keep a catalogue tidy (`Database.enduresAll_tidy`);
* `Gateway.Move`: any request is answered or fails, or something else than the catalogue changes;
  `Gateway.tidy_of_moves`: from a tidy catalogue only tidy ones are reached;
* `Database.contextsOf`: the rows of the listing for a report, of which a tidy catalogue gives one;
* `Gateway.reportContexts_of_moves`: the listing can be read exactly if the complexities of its analyses
  are among the known ones, and then has each of the reports below the parents once.
-/
namespace ReportMigration

open Op Relation

namespace Database

variable {db db' : Database}

/-! ## Tidy catalogues -/

/-- Identifiers of reports and of analyses do not repeat, every report lies in a project that is there,
    and no report has two analyses. -/
structure Tidy (db : Database) : Prop where
  reports : (db.reports.map (·.id)).Nodup
  placed : ∀ r ∈ db.reports, db.hasProject r.projectId
  analyses : (db.analyses.map (·.id)).Nodup
  single : (db.analyses.map (·.reportId)).Nodup

namespace Tidy

/-- It is enough to know which reports are in which projects, and which analyses are of which reports. -/
theorem of_links (h : db.Tidy) (hprojects : ∀ i, db.hasProject i → db'.hasProject i)
    (hreports : (db'.reports.map fun r => (r.id, r.projectId)) =
      db.reports.map fun r => (r.id, r.projectId))
    (hanalyses : (db'.analyses.map fun a => (a.id, a.reportId)) =
      db.analyses.map fun a => (a.id, a.reportId)) : db'.Tidy where
  reports := by
    have hids := congrArg (List.map Prod.fst) hreports
    simp only [List.map_map, Function.comp_def] at hids
    exact hids ▸ h.reports
  placed r hr := by
    have hmem : (r.id, r.projectId) ∈ db.reports.map fun r => (r.id, r.projectId) :=
      hreports ▸ List.mem_map_of_mem hr
    obtain ⟨q, hq, he⟩ := List.mem_map.1 hmem
    have hplace : q.projectId = r.projectId := congrArg Prod.snd he
    exact hprojects _ (hplace ▸ h.placed q hq)
  analyses := by
    have hids := congrArg (List.map Prod.fst) hanalyses
    simp only [List.map_map, Function.comp_def] at hids
    exact hids ▸ h.analyses
  single := by
    have hids := congrArg (List.map Prod.snd) hanalyses
    simp only [List.map_map, Function.comp_def] at hids
    exact hids ▸ h.single

theorem addReport {r : Report} (hr : db.addReport r = .ok db') (h : db.Tidy) : db'.Tidy := by
  obtain ⟨hfresh, rfl⟩ := addReport_eq_ok hr
  obtain ⟨-, hr⟩ := eq_ok_of_check hr
  obtain ⟨-, hr⟩ := eq_ok_of_check hr
  have hplaced := resolved_eq_ok (eq_ok_of_check hr).1
  simp only [Bool.and_eq_true] at hplaced
  refine ⟨nodup_map_append h.reports hfresh, fun q hq => ?_, h.analyses, h.single⟩
  rcases List.mem_append.1 hq with hq | hq
  · exact h.placed q hq
  · exact List.mem_singleton.1 hq ▸ hplaced.1.1

theorem addAnalysis {a : Analysis} (hnew : ∀ x ∈ db.analyses, x.reportId ≠ a.reportId)
    (ha : db.addAnalysis a = .ok db') (h : db.Tidy) : db'.Tidy := by
  obtain ⟨hfresh, rfl⟩ := addAnalysis_eq_ok ha
  exact ⟨h.reports, h.placed, nodup_map_append h.analyses hfresh, nodup_map_append h.single hnew⟩

theorem removeReport (i : Id) (h : db.Tidy) : (db.removeReport i).Tidy where
  reports := h.reports.sublist (List.filter_sublist.map _)
  placed r hr := h.placed r (List.mem_filter.1 hr).1
  analyses := h.analyses.sublist (List.filter_sublist.map _)
  single := h.single.sublist (List.filter_sublist.map _)

theorem addProject {p : Project} (hp : db.addProject p = .ok db') (h : db.Tidy) : db'.Tidy := by
  obtain ⟨-, rfl⟩ := addProject_eq_ok hp
  refine h.of_links (fun i hi => ?_) rfl rfl
  obtain ⟨q, hq, hid⟩ := hasProject_iff.1 hi
  exact hasProject_iff.2 ⟨q, List.mem_append_left _ hq, hid⟩

theorem setProject (q : Project) (h : db.Tidy) : (db.setProject q).Tidy := by
  refine h.of_links (fun i hi => ?_) rfl rfl
  obtain ⟨x, hx, rfl⟩ := hasProject_iff.1 hi
  refine hasProject_iff.2 ⟨_, List.mem_map_of_mem hx, ?_⟩
  split
  next he => exact he.symm
  next => rfl

/-- A project can be removed only if no report is left in it. -/
theorem removeProjects {gone : List Id} (hgone : db.removeProjects gone = .ok db') (h : db.Tidy) :
    db'.Tidy := by
  obtain ⟨hcheck, hgone⟩ := eq_ok_of_check hgone
  cases hgone
  refine ⟨h.reports, fun r hr => ?_, h.analyses, h.single⟩
  have hkept := List.all_eq_true.1 (Bool.and_eq_true_iff.1 (resolved_eq_ok hcheck)).1 r hr
  dsimp only at hkept
  rw [h.placed r hr, Bool.and_true] at hkept
  obtain ⟨p, hp, hid⟩ := hasProject_iff.1 (h.placed r hr)
  exact hasProject_iff.2 ⟨p, List.mem_filter.2 ⟨hp, by rwa [hid]⟩, hid⟩

end Tidy

/-- What `J` says outlasts every kind of write, also of a new project. -/
structure EnduresAll (J : Database → Prop) : Prop extends EnduresRemoval J where
  addProject : ∀ ⦃db db' : Database⦄ ⦃p : Project⦄, db.addProject p = .ok db' → J db → J db'

theorem enduresAll_tidy : EnduresAll Tidy where
  elsewhere db db' hcontent h := by
    obtain ⟨hprojects, hreports, hanalyses⟩ : db'.projects = db.projects ∧ db'.reports = db.reports ∧
        db'.analyses = db.analyses := by simpa [content] using hcontent
    refine h.of_links (fun i hi => ?_) (by rw [hreports]) (by rw [hanalyses])
    rwa [hasProject, hprojects]
  addReport _ _ _ := Tidy.addReport
  setReport _ _ _ hr hid hproject h :=
    h.of_links (fun _ hi => hi) (map_replace h.reports hr hid (by rw [hid, hproject])) rfl
  updateReports _ f hf h := by
    refine h.of_links (fun _ hi => hi) ?_ rfl
    rw [List.map_map]
    exact List.map_congr_left fun r _ => Prod.ext (hf r).1 (hf r).2
  removeReport _ := Tidy.removeReport
  addAnalysis _ _ _ := Tidy.addAnalysis
  setAnalysis _ _ _ ha hid hreport h :=
    h.of_links (fun _ hi => hi) rfl (map_replace h.analyses ha hid (by rw [hid, hreport]))
  updateAnalyses _ f hf h := by
    refine h.of_links (fun _ hi => hi) rfl ?_
    rw [List.map_map]
    exact List.map_congr_left fun a _ => Prod.ext (hf a).1 (hf a).2
  setProject _ _ q _ _ _ h := h.setProject q
  removeProjects _ _ _ := Tidy.removeProjects
  addProject _ _ _ := Tidy.addProject

end Database

/-! ## New projects -/

section
variable {J : Database → Prop}

theorem preserves_addProject (hJ : Database.EnduresAll J) (form : ProjectForm) :
    Preserves J (addProject form) := by
  refine .transaction (preserves_idOrDrawn fun _ => .bind (.ofExcept _) fun _ => ?_)
  exact .bind (.write fun _ _ hdb h => hJ.addProject h hdb) fun _ => .pure _

theorem preserves_addFolder (hJ : Database.EnduresAll J) (u : Upload) (parent : Option Id)
    (name : String) : Preserves J (u.addFolder parent name) := by
  unfold Upload.addFolder
  dsimp only
  split
  · exact .throw _
  · exact .bind .drawId fun _ => preserves_addProject hJ _

mutual

theorem preserves_addEntries (hJ : Database.EnduresAll J) (u : Upload) (project : Id)
    (path rel : String) : ∀ es, Preserves J (u.addEntries project path rel es)
  | [] => .pure _
  | (name, node) :: rest =>
    (preserves_addNode hJ u project name _ _ node).bind fun _ =>
      preserves_addEntries hJ u project path rel rest

theorem preserves_addNode (hJ : Database.EnduresAll J) (u : Upload) (project : Id)
    (name path rel : String) : ∀ n, Preserves J (u.addNode project name path rel n)
  | .file _ => preserves_addWorkbook hJ.toEndures u _ _ _ _
  | .folder entries =>
    (preserves_addFolder hJ u (some project) name).bind fun p =>
      preserves_addEntries hJ u p.id path rel entries

end

theorem preserves_uploadArchive (hJ : Database.EnduresAll J) (folder archive : String)
    (parent : Option Id) (user : Id) (orgName provider : String) (storage : SettingsKind)
    (extracts : Bool) :
    Preserves J (uploadArchive folder archive parent user orgName provider storage extracts) := by
  refine .bind .db fun db => .transaction ((preserves_addFolder hJ _ _ _).bind fun p => ?_)
  exact .bind (.of_keeps (.ofDisk _)) fun entries => preserves_addEntries hJ _ _ _ _ entries

end

namespace Gateway

variable {d d' : Deployment}

/-- What outlasts every kind of write holds after every request, whether it is answered or fails. -/
theorem preserves_anyRequest {J : Database → Prop} (hJ : Database.EnduresAll J) (r : Request)
    (a : Arguments) : Preserves J (r.handler a) := by
  by_cases hr : r.AddsProjects
  · cases r with
    | newProject => exact (preserves_addProject hJ _).bind fun _ => .pure _
    | newFolder =>
      show Preserves J (newFolder a)
      unfold newFolder inSession
      exact .ite (.discarding _) ((preserves_addProject hJ _).bind fun _ => .pure _)
    | upload =>
      exact .bind (.ofExcept _) fun _ =>
        (preserves_uploadArchive hJ _ _ _ _ _ _ _ _).bind fun _ => .pure _
    | _ => cases hr
  · exact preserves_request hJ.toEnduresRemoval r hr a

/-- One thing happens: a request is answered or fails, or the catalogue stays as it is. -/
inductive Move : Deployment → Deployment → Prop where
  | request {d : Deployment} (r : Request) (a : Arguments) : Move d ((r.handler a).exec d).2
  | outside {d d' : Deployment} (h : d'.db = d.db) : Move d d'

/-- From a tidy catalogue only tidy ones are reached. -/
theorem tidy_of_moves (h : d.db.Tidy) (hmoves : ReflTransGen Move d d') : d'.db.Tidy := by
  induction hmoves with
  | refl => exact h
  | tail _ hmove ih =>
    cases hmove with
    | request r a => exact preserves_anyRequest Database.enduresAll_tidy r a _ ih
    | outside heq => exact heq ▸ ih

end Gateway

/-! ## The listing -/

namespace Database

variable {db : Database}

/-- The rows of a report in the listing: one for each analysis, or one without. -/
def contextsOf (db : Database) (r : Report) : List ReportContext :=
  match db.findProject? r.projectId with
  | none => []
  | some p =>
    let site := p.siteId.bind fun i => db.sites.find? (·.id = i)
    let row : Option Analysis → ReportContext := fun a =>
      ⟨r, p, (site.map (·.siteName)).getD "N/A", (db.assignee db.standIn p).name, a⟩
    match db.analyses.filter (·.reportId = r.id) with
    | [] => [row none]
    | as => as.map fun a => row (some a)

theorem reportContexts_eq {parents : List Id} (h : parents ≠ []) :
    db.reportContexts parents = ((db.reportsBelow parents).flatMap db.contextsOf).mapM fun c => do
      let _ ← (c.analysis.bind (·.complexity)).mapM Coded.read
      return c := by
  unfold reportContexts
  rw [if_neg (by simpa using h)]
  rfl

/-- Of rows that differ in a column at most one has a given value. -/
theorem filter_eq_find? {α β : Type} [DecidableEq β] {f : α → β} {rows : List α}
    (h : (rows.map f).Nodup) (v : β) :
    rows.filter (fun x => f x = v) = (rows.find? fun x => f x = v).toList := by
  induction rows with
  | nil => rfl
  | cons x rows ih =>
    obtain ⟨hx, h⟩ := List.nodup_cons.1 h
    by_cases he : f x = v
    · have hnone : rows.filter (fun y => f y = v) = [] :=
        List.filter_eq_nil_iff.2 fun y hy hyv =>
          hx (List.mem_map.2 ⟨y, hy, (of_decide_eq_true hyv).trans he.symm⟩)
      simp [he, hnone]
    · simpa [he] using ih h

/-- In a tidy catalogue a report has one row, with its analysis if there is one. -/
theorem Tidy.exists_contextsOf (h : db.Tidy) {r : Report} (hr : r ∈ db.reports) :
    ∃ c, db.contextsOf r = [c] ∧ c.report = r ∧
      c.analysis = db.analyses.find? (·.reportId = r.id) := by
  obtain ⟨p, hp⟩ : ∃ p, db.findProject? r.projectId = some p := by
    rw [← Option.isSome_iff_exists, findProject?, List.find?_isSome]
    simpa using hasProject_iff.1 (h.placed r hr)
  unfold contextsOf
  rw [hp, filter_eq_find? h.single]
  cases ha : db.analyses.find? (·.reportId = r.id) with
  | none => exact ⟨_, rfl, rfl, rfl⟩
  | some a => exact ⟨_, rfl, rfl, rfl⟩

/-- The rows of some reports are these reports, in their order. -/
theorem Tidy.contexts (h : db.Tidy) (rs : List Report) (hrs : ∀ r ∈ rs, r ∈ db.reports) :
    (rs.flatMap db.contextsOf).map (·.report) = rs ∧
      ∀ c ∈ rs.flatMap db.contextsOf, c.analysis = db.analyses.find? (·.reportId = c.report.id) := by
  induction rs with
  | nil => exact ⟨rfl, by simp⟩
  | cons r rs ih =>
    obtain ⟨c, hc, rfl, hanalysis⟩ := h.exists_contextsOf (hrs r List.mem_cons_self)
    obtain ⟨hreports, hanalyses⟩ := ih fun q hq => hrs q (List.mem_cons_of_mem _ hq)
    rw [List.flatMap_cons, hc]
    refine ⟨by rw [List.singleton_append, List.map_cons, hreports], fun x hx => ?_⟩
    rcases List.mem_cons.1 hx with rfl | hx
    · exact hanalysis
    · exact hanalyses x hx

/-- The complexities of the analyses of some reports are among the known ones. -/
def KnownComplexities (db : Database) (rs : List Report) : Prop :=
  ∀ r ∈ rs, ∀ a ∈ db.analyses, a.reportId = r.id → ∀ c, a.complexity = some c → c.Known

theorem Tidy.knownComplexities_iff (h : db.Tidy) {rs : List Report} (hrs : ∀ r ∈ rs, r ∈ db.reports) :
    db.KnownComplexities rs ↔ ∀ c ∈ rs.flatMap db.contextsOf,
      ∀ y, c.analysis.bind (·.complexity) = some y → y.Known := by
  obtain ⟨hreports, hanalyses⟩ := h.contexts rs hrs
  constructor
  · intro hall c hc y hy
    obtain ⟨a, ha, hy⟩ := Option.bind_eq_some_iff.1 hy
    rw [hanalyses c hc] at ha
    have hr : c.report ∈ rs := hreports ▸ List.mem_map_of_mem hc
    exact hall c.report hr a (List.mem_of_find?_eq_some ha) (by simpa using List.find?_some ha) y hy
  · intro hall r hr a ha hra y hy
    rw [← hreports] at hr
    obtain ⟨c, hc, rfl⟩ := List.mem_map.1 hr
    have hanalysis : c.analysis = some a := by
      rw [hanalyses c hc, ← Option.mem_toList, ← filter_eq_find? h.single]
      exact List.mem_filter.2 ⟨ha, decide_eq_true hra⟩
    exact hall c hc y (by rw [hanalysis, Option.bind_some, hy])

/-- The listing of a tidy catalogue fails, where a complexity cannot be read, or has a row for each of
    the reports below the parents. -/
theorem Tidy.reportContexts_cases (h : db.Tidy) {parents : List Id} (hparents : parents ≠ []) :
    (∃ e, db.reportContexts parents = .error e ∧ ¬ db.KnownComplexities (db.reportsBelow parents)) ∨
      ∃ cs, db.reportContexts parents = .ok cs ∧ cs.map (·.report) = db.reportsBelow parents ∧
        (∀ c ∈ cs, c.analysis = db.analyses.find? (·.reportId = c.report.id)) ∧
        db.KnownComplexities (db.reportsBelow parents) := by
  have hbelow : ∀ r ∈ db.reportsBelow parents, r ∈ db.reports := fun r hr => (List.mem_filter.1 hr).1
  obtain ⟨hreports, hanalyses⟩ := h.contexts _ hbelow
  have hread : ∀ c x : ReportContext,
      (do let _ ← (c.analysis.bind (·.complexity)).mapM Coded.read; return c : Except Fault _) = .ok x ↔
        x = c ∧ ∀ y, c.analysis.bind (·.complexity) = some y → y.Known :=
    fun _ _ => Coded.checked_eq_ok_iff
  rw [reportContexts_eq hparents, h.knownComplexities_iff hbelow]
  rcases mapM_read hread ((db.reportsBelow parents).flatMap db.contextsOf) with
    ⟨e, he, c, hc, hbad⟩ | ⟨hok, hall⟩
  · exact .inl ⟨e, he, fun hall => hbad (hall c hc)⟩
  · exact .inr ⟨_, hok, hreports, hanalyses, hall⟩

theorem Tidy.nodup_reportsBelow (h : db.Tidy) (parents : List Id) :
    ((db.reportsBelow parents).map (·.id)).Nodup :=
  h.reports.sublist (List.filter_sublist.map _)

end Database

namespace Gateway

variable {d d' : Deployment}

/-- **No report ever has two analyses, and the listing of reports with their analyses has every report
    once.** After any sequence of requests it lists the reports below the parents, each with its analysis,
    provided that their complexities are among the known ones; otherwise it fails. Neither this listing nor
    the plain one asks for an order. Here both have that of the table, so that they agree in it; from a
    database that gives the rows in another order they agree up to order. -/
theorem reportContexts_of_moves (h : d.db.Tidy) (hmoves : ReflTransGen Move d d') :
    (d'.db.analyses.map (·.reportId)).Nodup ∧ ∀ parents, parents ≠ [] →
      ((d'.db.reportsBelow parents).map (·.id)).Nodup ∧
      ((∃ cs, d'.db.reportContexts parents = .ok cs) ↔
        d'.db.KnownComplexities (d'.db.reportsBelow parents)) ∧
      ∀ cs, d'.db.reportContexts parents = .ok cs →
        cs.map (·.report) = d'.db.reportsBelow parents ∧
        ∀ c ∈ cs, c.analysis = d'.db.analyses.find? (·.reportId = c.report.id) := by
  have htidy := tidy_of_moves h hmoves
  refine ⟨htidy.single, fun parents hparents => ⟨htidy.nodup_reportsBelow parents, ?_⟩⟩
  rcases htidy.reportContexts_cases hparents with ⟨e, he, hunknown⟩ | ⟨cs, hcs, hreports, hanalyses, hknown⟩
  · rw [he]
    exact ⟨⟨nofun, fun hknown => absurd hknown hunknown⟩, nofun⟩
  · rw [hcs]
    refine ⟨⟨fun _ => hknown, fun _ => ⟨cs, rfl⟩⟩, ?_⟩
    rintro _ ⟨⟩
    exact ⟨hreports, hanalyses⟩

/-- A project with a report, and one below it with another. -/
def listedDeployment : Deployment where
  db := {
    users := [Sample.user 0]
    projects := [Sample.projectAt (.ofNat 300) none none none,
      Sample.projectAt (.ofNat 301) none none (some (.ofNat 300))]
    reports := [Sample.reportAt (.ofNat 1) (.ofNat 500) (.ofNat 300),
      Sample.reportAt (.ofNat 2) (.ofNat 501) (.ofNat 301)] }

theorem tidy_listedDeployment : listedDeployment.db.Tidy where
  reports := by decide +kernel
  placed := by decide +kernel
  analyses := List.nodup_nil
  single := List.nodup_nil

/-- The deployment once the second report was given counts and a complexity. -/
def counted (complexity : String) (d : Deployment) : Deployment :=
  ((Request.counts.handler
    ⟨[("report_id", .id (.ofNat 2)), ("complexity_type", .text complexity)], none⟩).exec d).2

theorem move_counted (complexity : String) (d : Deployment) : Move d (counted complexity d) :=
  .request .counts _

/-- A complexity outside the set is accepted, and then the reports cannot be listed with it. -/
theorem reportContexts_stray :
    Move listedDeployment (counted "BOGUS" listedDeployment) ∧
      ((counted "BOGUS" listedDeployment).db.reportContexts [.ofNat 300]).toOption.isNone = true ∧
      ((counted "BOGUS" listedDeployment).db.reportsBelow [.ofNat 300]).map (·.id) =
        [.ofNat 1, .ofNat 2] :=
  ⟨move_counted _ _, by decide +kernel, by decide +kernel⟩

/-- Counts that are given again go into the analysis that is there. -/
theorem reportContexts_of_moves_again :
    ∃ d' cs, ReflTransGen Move listedDeployment d' ∧ d'.db.analyses.map (·.reportId) = [.ofNat 2] ∧
      d'.db.reportContexts [.ofNat 300] = .ok cs ∧ cs.map (·.report) = d'.db.reportsBelow [.ofNat 300] ∧
      (d'.db.reportsBelow [.ofNat 300]).map (·.id) = [.ofNat 1, .ofNat 2] := by
  have hmoves : ReflTransGen Move listedDeployment (counted "MEDIUM" (counted "SIMPLE" listedDeployment)) :=
    (ReflTransGen.single (move_counted _ _)).tail (move_counted _ _)
  have hlisted : ((counted "MEDIUM" (counted "SIMPLE" listedDeployment)).db.reportContexts
      [.ofNat 300]).toOption.isSome = true := by decide +kernel
  obtain ⟨-, hlists⟩ := reportContexts_of_moves tidy_listedDeployment hmoves
  obtain ⟨-, -, hreports⟩ := hlists [.ofNat 300] (by simp)
  cases hcs : (counted "MEDIUM" (counted "SIMPLE" listedDeployment)).db.reportContexts [.ofNat 300] with
  | error e =>
    rw [hcs] at hlisted
    cases hlisted
  | ok cs => exact ⟨_, cs, hmoves, by decide +kernel, hcs, (hreports cs hcs).1, by decide +kernel⟩

end Gateway

end ReportMigration
