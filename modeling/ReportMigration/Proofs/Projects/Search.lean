import ReportMigration.Gateway.Projects
import ReportMigration.Proofs.Projects.Access
import ReportMigration.Proofs.Reports.Removal
import ReportMigration.Proofs.Text.Matching
/-!
Which projects a keyword finds.

* `Database.Legible db p`: the reports of the project can be read back, without which the project cannot
  be shown (`Database.mapM_entry_cases`);
* `Gateway.exec_visibleProjects`, `Gateway.exec_visibleReports`: a request for what a user sees gives it
  out, or part of it cannot be shown;
* `Database.exists_keptRow_iff`: the projects of the joined rows that a search keeps;
* `Database.Finds db organization word p`: the project was created in the organisation, and the word
  occurs in its name or in that of one of its reports;
* `searchEntries_finds`: a search for a keyword without wildcards shows exactly these projects, each
  once, where they can be shown.
-/
namespace ReportMigration

/-! ## Each project once -/

namespace Project

variable {ps qs : List Project} {p q : Project}

theorem mem_of_mem_addNew (h : q ∈ addNew ps p) : q ∈ ps ∨ q = p := by
  unfold addNew at h
  split at h
  · exact .inl h
  · simpa using h

theorem subset_addNew (h : q ∈ ps) : q ∈ addNew ps p := by
  unfold addNew
  split
  · exact h
  · exact List.mem_append_left _ h

theorem exists_mem_addNew (ps : List Project) (p : Project) : ∃ q ∈ addNew ps p, q.id = p.id := by
  unfold addNew
  split
  next h => simpa using h
  next => exact ⟨p, by simp, rfl⟩

theorem nodup_addNew (h : (ps.map (·.id)).Nodup) : ((addNew ps p).map (·.id)).Nodup := by
  unfold addNew
  split
  · exact h
  next hnew =>
    rw [List.map_append, List.nodup_append]
    refine ⟨h, by simp, ?_⟩
    rintro _ hi j hj rfl
    obtain ⟨q, hq, rfl⟩ := List.mem_map.1 hi
    exact hnew (List.any_eq_true.2 ⟨q, hq, by simpa using hj⟩)

theorem mem_of_mem_foldl_addNew (h : q ∈ ps.foldl addNew qs) : q ∈ qs ∨ q ∈ ps := by
  induction ps generalizing qs with
  | nil => exact .inl h
  | cons p ps ih =>
    rcases ih h with h | h
    · rcases mem_of_mem_addNew h with h | rfl
      · exact .inl h
      · exact .inr List.mem_cons_self
    · exact .inr (List.mem_cons_of_mem _ h)

theorem subset_foldl_addNew (h : q ∈ qs) : q ∈ ps.foldl addNew qs := by
  induction ps generalizing qs with
  | nil => exact h
  | cons p ps ih => exact ih (subset_addNew h)

theorem exists_mem_foldl_addNew (h : p ∈ ps) : ∃ q ∈ ps.foldl addNew qs, q.id = p.id := by
  induction ps generalizing qs with
  | nil => cases h
  | cons x ps ih =>
    rcases List.mem_cons.1 h with rfl | h
    · obtain ⟨q, hq, hid⟩ := exists_mem_addNew qs p
      rw [List.foldl_cons]
      exact ⟨q, subset_foldl_addNew hq, hid⟩
    · exact ih h

theorem nodup_foldl_addNew (h : (qs.map (·.id)).Nodup) : ((ps.foldl addNew qs).map (·.id)).Nodup := by
  induction ps generalizing qs with
  | nil => exact h
  | cons p ps ih => exact ih (nodup_addNew h)

end Project

/-! ## Projects with their reports -/

namespace Database

variable {db : Database} {p : Project} {e : ProjectEntry} {organization : Option Id}
  {keyword pattern word : String}

/-- The reports of the project can be read back. -/
def Legible (db : Database) (p : Project) : Prop :=
  ∀ r ∈ db.reports, r.projectId = p.id → r.Readable

theorem mem_reportsOf {r : Report} : r ∈ db.reportsOf p ↔ r ∈ db.reports ∧ r.projectId = p.id := by
  simp [reportsOf]

theorem entry_eq_ok_iff : db.entry p = .ok e ↔ e = ⟨p, db.reportsOf p⟩ ∧ db.Legible p := by
  have hall : (∀ r ∈ db.reportsOf p, r.Readable) ↔ db.Legible p := by simp [mem_reportsOf, Legible]
  unfold entry
  rcases mapM_read (fun _ _ => Report.read_eq_ok_iff) (db.reportsOf p) with
    ⟨f, hr, r, hmem, hbad⟩ | ⟨hr, hread⟩
  · rw [hr]
    constructor
    · intro h
      cases h
    · rintro ⟨-, h⟩
      exact absurd (hall.2 h r hmem) hbad
  · rw [hr]
    constructor
    · intro h
      cases h
      exact ⟨rfl, hall.1 hread⟩
    · rintro ⟨rfl, -⟩
      rfl

/-- The projects are shown with all their reports, or the reports of one of them cannot be read. -/
theorem mapM_entry_cases (ps : List Project) :
    (∃ f, ps.mapM db.entry = .error f ∧ ∃ p ∈ ps, ¬ db.Legible p) ∨
      ps.mapM db.entry = .ok (ps.map fun p => ⟨p, db.reportsOf p⟩) ∧ ∀ p ∈ ps, db.Legible p :=
  mapM_answers (fun _ _ => entry_eq_ok_iff) ps

theorem exists_mapM_entry_iff {ps : List Project} :
    (∃ es, ps.mapM db.entry = .ok es) ↔ ∀ p ∈ ps, db.Legible p := by
  rcases db.mapM_entry_cases ps with ⟨f, hps, p, hp, hbad⟩ | ⟨hps, hall⟩
  · refine iff_of_false ?_ fun h => hbad (h p hp)
    rintro ⟨es, h⟩
    rw [hps] at h
    cases h
  · exact iff_of_true ⟨_, hps⟩ hall

theorem eq_of_mapM_entry {ps : List Project} {es : List ProjectEntry}
    (h : ps.mapM db.entry = .ok es) : es = ps.map fun p => ⟨p, db.reportsOf p⟩ := by
  rcases db.mapM_entry_cases ps with ⟨f, hps, -⟩ | ⟨hps, -⟩
  · rw [h] at hps
    cases hps
  · rw [h] at hps
    exact Except.ok.inj hps

end Database

namespace Gateway

variable {a : Arguments} {v : Viewer} {d : Deployment}

theorem exec_ask (f : Database → Except Fault Json) (d : Deployment) : (ask f).exec d = (f d.db, d) := by
  rw [ask, Op.exec_bind_ok (Op.exec_db d), Op.exec_ofExcept]

/-- The projects that are seen are given out with all their reports, or the reports of one of them cannot
    be read back. -/
theorem exec_visibleProjects (hv : viewer a = .ok v) :
    let seen := d.db.visibleProjects v (a.text "role_name")
    (∃ f, (visibleProjects a).exec d = (.error f, d) ∧ ∃ p ∈ seen, ¬ d.db.Legible p) ∨
      (visibleProjects a).exec d = (.ok (Answer.rowSet projectEntryColumns
        (seen.map fun p => ⟨p, d.db.reportsOf p⟩)), d) ∧ ∀ p ∈ seen, d.db.Legible p := by
  intro seen
  have hanswer : (visibleProjects a).exec d =
      (do return Answer.rowSet projectEntryColumns (← seen.mapM d.db.entry), d) := by
    rw [visibleProjects, exec_ask, bind_of_eq_ok hv]
  rw [hanswer]
  rcases d.db.mapM_entry_cases seen with ⟨f, hseen, hbad⟩ | ⟨hseen, hall⟩
  · rw [hseen]
    exact .inl ⟨f, rfl, hbad⟩
  · rw [hseen]
    exact .inr ⟨rfl, hall⟩

/-- The reports that are seen are given out with their projects, or one of them cannot be read back. -/
theorem exec_visibleReports (hv : viewer a = .ok v) :
    let seen := d.db.visibleReports v (a.text "role_name")
    (∃ f, (visibleReports a).exec d = (.error f, d) ∧ ∃ e ∈ seen, ¬ e.1.Readable) ∨
      (visibleReports a).exec d = (.ok (Answer.rowSet (fun (r, p) =>
        r.toColumns ++ [("+project", Answer.row p.toColumns)]) seen), d) ∧ ∀ e ∈ seen, e.1.Readable := by
  intro seen
  have hread : ∀ e e' : Report × Project, (do return (← e.1.read, e.2) : Except Fault _) = .ok e' ↔
      e' = id e ∧ e.1.Readable := by
    rintro ⟨r, p⟩ e'
    constructor
    · intro h
      obtain ⟨r', hr, h⟩ := exists_of_bind_eq_ok h
      cases h
      obtain ⟨rfl, hreadable⟩ := Report.read_eq_ok_iff.1 hr
      exact ⟨rfl, hreadable⟩
    · rintro ⟨rfl, hreadable⟩
      exact bind_of_eq_ok (Report.read_eq_ok_iff.2 ⟨rfl, hreadable⟩)
  rw [visibleReports, exec_ask, bind_of_eq_ok hv]
  rcases mapM_answers hread seen with ⟨f, hseen, hbad⟩ | ⟨hseen, hall⟩
  · rw [hseen]
    exact .inl ⟨f, rfl, hbad⟩
  · rw [hseen, List.map_id]
    exact .inr ⟨rfl, hall⟩

end Gateway

namespace Database

variable {db : Database} {p : Project} {e : ProjectEntry} {organization : Option Id}
  {keyword pattern word : String}

/-! ## The joined rows -/

theorem mem_searchReports {o : Option Report} :
    o ∈ db.searchReports p ↔ o = none ∧ db.reportsOf p = [] ∨ ∃ r ∈ db.reportsOf p, o = some r := by
  unfold searchReports
  cases db.reportsOf p with
  | nil => simp
  | cons r rs => simp [eq_comm]

theorem mem_searchRows {row : SearchRow} :
    row ∈ db.searchRows ↔ row.project ∈ db.projects ∧ row.report ∈ db.searchReports row.project ∧
      row.maker ∈ db.users ∧ row.maker.id = row.project.userId := by
  obtain ⟨p, r, u⟩ := row
  simp only [searchRows, List.mem_flatMap, List.mem_map, List.mem_filter, decide_eq_true_eq]
  constructor
  · rintro ⟨_, hp, _, hr, _, ⟨hu, hid⟩, ⟨⟩⟩
    exact ⟨hp, hr, hu, hid⟩
  · rintro ⟨hp, hr, hu, hid⟩
    exact ⟨p, hp, r, hr, u, ⟨hu, hid⟩, rfl⟩

/-- A project stands beside a name that the pattern matches, exactly if the pattern matches its own name
    or that of one of its reports. -/
theorem exists_mentions_iff (u : User) :
    (∃ o ∈ db.searchReports p, (⟨p, o, u⟩ : SearchRow).mentions pattern = true) ↔
      Text.like p.name pattern = true ∨
        ∃ r ∈ db.reports, r.projectId = p.id ∧ Text.like r.name pattern = true := by
  simp only [SearchRow.mentions, Bool.or_eq_true, Option.any_eq_true]
  constructor
  · rintro ⟨o, ho, h | ⟨r, rfl, h⟩⟩
    · exact .inl h
    · rcases mem_searchReports.1 ho with ⟨⟨⟩, -⟩ | ⟨r', hr, ⟨⟩⟩
      obtain ⟨hmem, hid⟩ := mem_reportsOf.1 hr
      exact .inr ⟨r, hmem, hid, h⟩
  · rintro (h | ⟨r, hmem, hid, h⟩)
    · -- the project stands in some row, whether it has reports or not
      obtain ⟨o, ho⟩ : ∃ o, o ∈ db.searchReports p := by
        cases hrs : db.reportsOf p with
        | nil => exact ⟨none, mem_searchReports.2 (.inl ⟨rfl, hrs⟩)⟩
        | cons r rs => exact ⟨some r, mem_searchReports.2 (.inr ⟨r, by simp [hrs], rfl⟩)⟩
      exact ⟨o, ho, .inl h⟩
    · exact ⟨some r, mem_searchReports.2 (.inr ⟨r, mem_reportsOf.2 ⟨hmem, hid⟩, rfl⟩),
        .inr ⟨r, rfl, h⟩⟩

/-- The rows in which a keyword occurs for an organisation. -/
def keptRows (db : Database) (keyword : String) (organization : Option Id) : List SearchRow :=
  db.searchRows.filter fun row =>
    row.mentions ("%" ++ Text.trim keyword ++ "%") && some row.maker.organizationId = organization

theorem search_eq : db.search keyword organization =
    ((db.keptRows keyword organization).map (·.project)).foldl Project.addNew [] := rfl

theorem mem_keptRows {row : SearchRow} : row ∈ db.keptRows keyword organization ↔
    row ∈ db.searchRows ∧ row.mentions ("%" ++ Text.trim keyword ++ "%") = true ∧
      some row.maker.organizationId = organization := by
  simp [keptRows]

/-! ## The search -/

/-- The project was created in the organisation, and the word occurs in its name or in that of one of
    its reports. -/
structure Finds (db : Database) (organization : Option Id) (word : String) (p : Project) : Prop where
  mem : p ∈ db.projects
  created : db.CreatedWithin organization p
  mentioned : Text.OccursIn word p.name ∨
    ∃ r ∈ db.reports, r.projectId = p.id ∧ Text.OccursIn word r.name

/-- The projects of the rows that are kept are those that the keyword finds. -/
theorem exists_keptRow_iff (hkeyword : ∀ c ∈ keyword.toList, ¬ Text.IsWildcard c) :
    (∃ row ∈ db.keptRows keyword organization, row.project = p) ↔
      db.Finds organization (Text.trim keyword) p := by
  have hword : ∀ c ∈ (Text.trim keyword).toList, ¬ Text.IsWildcard c := fun c hc =>
    hkeyword c (Text.mem_of_mem_trim hc)
  have hmentions : ∀ u, (∃ o ∈ db.searchReports p,
      (⟨p, o, u⟩ : SearchRow).mentions ("%" ++ Text.trim keyword ++ "%") = true) ↔
        Text.OccursIn (Text.trim keyword) p.name ∨
          ∃ r ∈ db.reports, r.projectId = p.id ∧ Text.OccursIn (Text.trim keyword) r.name := by
    intro u
    simp only [exists_mentions_iff, Text.like_within_iff hword]
  constructor
  · rintro ⟨⟨p', o, u⟩, hrow, rfl⟩
    obtain ⟨hjoin, hname, horg⟩ := mem_keptRows.1 hrow
    obtain ⟨hp, ho, hu, hid⟩ := mem_searchRows.1 hjoin
    exact ⟨hp, ⟨u, hu, hid, horg⟩, (hmentions u).1 ⟨o, ho, hname⟩⟩
  · rintro ⟨hp, ⟨u, hu, hid, horg⟩, hname⟩
    obtain ⟨o, ho, hname⟩ := (hmentions u).2 hname
    exact ⟨⟨p, o, u⟩, mem_keptRows.2 ⟨mem_searchRows.2 ⟨hp, ho, hu, hid⟩, hname, horg⟩, rfl⟩

theorem nodup_search (db : Database) (keyword : String) (organization : Option Id) :
    ((db.search keyword organization).map (·.id)).Nodup :=
  Project.nodup_foldl_addNew List.nodup_nil

theorem mem_of_mem_search (h : p ∈ db.search keyword organization) : p ∈ db.projects := by
  rw [search_eq] at h
  rcases Project.mem_of_mem_foldl_addNew h with h | h
  · cases h
  · obtain ⟨row, hrow, rfl⟩ := List.mem_map.1 h
    exact (mem_searchRows.1 (mem_keptRows.1 hrow).1).1

/-- **A search finds the projects that mention the keyword.** -/
theorem mem_search_iff (hids : (db.projects.map (·.id)).Nodup)
    (hkeyword : ∀ c ∈ keyword.toList, ¬ Text.IsWildcard c) :
    p ∈ db.search keyword organization ↔ db.Finds organization (Text.trim keyword) p := by
  rw [← exists_keptRow_iff hkeyword]
  constructor
  · intro h
    rw [search_eq] at h
    rcases Project.mem_of_mem_foldl_addNew h with h | h
    · cases h
    · exact List.mem_map.1 h
  · rintro ⟨row, hrow, rfl⟩
    -- the row's project is left out only for another one of its identifier, which is itself
    obtain ⟨q, hq, hid⟩ : ∃ q ∈ db.search keyword organization, q.id = row.project.id :=
      Project.exists_mem_foldl_addNew (List.mem_map_of_mem hrow)
    have hmem := (mem_searchRows.1 (mem_keptRows.1 hrow).1).1
    rwa [List.inj_on_of_nodup_map hids (mem_of_mem_search hq) hmem hid] at hq

theorem search_trim : db.search (Text.trim keyword) organization = db.search keyword organization := by
  rw [search, Text.trim_trim, search]

end Database

/-- **A keyword search is a search for a substring.** The word is the keyword without the blanks around
    it. The projects that it finds are shown exactly if their reports can be read back, and then each of
    them once and with its reports, and no other project. -/
theorem searchEntries_finds (db : Database) (hids : (db.projects.map (·.id)).Nodup)
    (organization : Option Id) (keyword : String)
    (hkeyword : ∀ c ∈ keyword.toList, ¬ Text.IsWildcard c) :
    ∃ word, Text.IsTrimmed keyword word ∧
      ((∃ es, db.searchEntries keyword organization = .ok es) ↔
        ∀ p, db.Finds organization word p → db.Legible p) ∧
      ∀ es, db.searchEntries keyword organization = .ok es →
        (∀ p, p ∈ es.map (·.project) ↔ db.Finds organization word p) ∧
        (es.map (·.project.id)).Nodup ∧ ∀ e ∈ es, e.reports = db.reportsOf e.project := by
  refine ⟨Text.trim keyword, Text.isTrimmed_trim keyword, ?_, ?_⟩
  · rw [Database.searchEntries, Database.exists_mapM_entry_iff]
    simp only [Database.mem_search_iff hids hkeyword]
  · intro es hes
    obtain rfl := Database.eq_of_mapM_entry hes
    refine ⟨fun p => ?_, ?_, ?_⟩
    · rw [← Database.mem_search_iff hids hkeyword, List.map_map]
      exact iff_of_eq (congrArg (p ∈ ·) (List.map_id _))
    · rw [List.map_map]
      exact db.nodup_search keyword organization
    · intro e he
      obtain ⟨p, -, rfl⟩ := List.mem_map.1 he
      rfl

/-- A project of a name that someone made. -/
def namedProject (n maker : Nat) (name : String) : Project :=
  { madeProject n maker none with name := name }

/-- A report of a name in a project. -/
def namedReport (project n : Nat) (name : String) : Report :=
  { Sample.report (Sample.projectId project) n with name := name }

/-- The first project mentions sales three times, the second in a report, the third in another
    organisation and the last nowhere. -/
def salesCatalogue : Database where
  users := [Sample.user 0, { Sample.user 1 with organizationId := .ofNat 2 }]
  projects := [namedProject 0 0 "Sales", namedProject 1 0 "Plan", namedProject 2 1 "sales",
    namedProject 3 0 "Stock"]
  reports := [namedReport 0 0 "sales north", namedReport 0 1 "SALES south",
    namedReport 1 2 "presales.twb", namedReport 3 3 "sal es"]

theorem searchEntries_finds_sales :
    (salesCatalogue.projects.map (·.id)).Nodup ∧
      (∀ c ∈ "\t sAlEs ".toList, ¬ Text.IsWildcard c) ∧
      (salesCatalogue.search "\t sAlEs " (some Sample.organizationId)).map (·.id) =
        [Sample.projectId 0, Sample.projectId 1] ∧
      ∃ word, Text.IsTrimmed "\t sAlEs " word ∧
        ((∃ es, salesCatalogue.searchEntries "\t sAlEs " (some Sample.organizationId) = .ok es) ↔
          ∀ p, salesCatalogue.Finds (some Sample.organizationId) word p → salesCatalogue.Legible p) ∧
        ∀ es, salesCatalogue.searchEntries "\t sAlEs " (some Sample.organizationId) = .ok es →
          (∀ p, p ∈ es.map (·.project) ↔ salesCatalogue.Finds (some Sample.organizationId) word p) ∧
          (es.map (·.project.id)).Nodup ∧ ∀ e ∈ es, e.reports = salesCatalogue.reportsOf e.project := by
  have hids : (salesCatalogue.projects.map (·.id)).Nodup := by decide +kernel
  have hplain : ("\t sAlEs ".toList.all fun c => decide (¬ Text.IsWildcard c)) = true := by decide +kernel
  have hkeyword : ∀ c ∈ "\t sAlEs ".toList, ¬ Text.IsWildcard c := fun c hc =>
    of_decide_eq_true (List.all_eq_true.1 hplain c hc)
  exact ⟨hids, hkeyword, by decide +kernel,
    searchEntries_finds salesCatalogue hids (some Sample.organizationId) "\t sAlEs " hkeyword⟩

/-- A report with a status outside the set. -/
def illegibleReport : Report :=
  { Sample.report (Sample.projectId 0) 0 with status := some (.stray "BOGUS") }

/-- A catalogue to which it was admitted. -/
def illegibleCatalogue : Database where
  roles := [Sample.role .admin]
  organizations := [Sample.organization]
  users := [Sample.user 0]
  projects := [namedProject 0 0 "Sales"]
  reports := [illegibleReport]

/-- A project is found and cannot be shown, because a report of it cannot be read back. -/
theorem searchEntries_illegible :
    (do
      let db ← ({} : Database).addRole (Sample.role .admin)
      let db ← db.addOrganization Sample.organization
      let db ← db.addUser (Sample.user 0)
      let db ← db.addProject (namedProject 0 0 "Sales")
      db.addReport illegibleReport) = .ok illegibleCatalogue ∧
      illegibleCatalogue.Finds (some Sample.organizationId) "Sales" (namedProject 0 0 "Sales") ∧
      ∀ es, illegibleCatalogue.searchEntries "Sales" (some Sample.organizationId) ≠ .ok es := by
  refine ⟨by rfl, ⟨List.mem_singleton_self _, ?_, .inl (by decide +kernel)⟩, fun es hes => ?_⟩
  · exact Database.createdIn_iff.1 (by decide +kernel)
  · have hfails : (illegibleCatalogue.searchEntries "Sales" (some Sample.organizationId)).isOk = false := by
      decide +kernel
    rw [hes] at hfails
    cases hfails

end ReportMigration
