import ReportMigration.Projects.Access
import ReportMigration.Text.Like
/-!
Finding projects by a keyword.

* a search joins the projects with their reports and with who made them, keeps the rows in which the
  keyword occurs in the name of the project or of the report, and gives each project once;
* a hierarchy adds everything above what was found. The projects come in batches: each batch is the
  parents of the one before, and a project that came before is passed over. So a batch finds a project
  that was unseen, or nothing is pending after it, and the search ends also where parents form a cycle.
-/
namespace ReportMigration

/-! ## Search -/

/-- A project beside one of its reports, or beside none, and beside who made it. -/
structure SearchRow where
  project : Project
  report : Option Report
  maker : User

/-- Whether a pattern matches the name of the project or of the report. -/
def SearchRow.mentions (row : SearchRow) (pattern : String) : Bool :=
  Text.like row.project.name pattern || row.report.any fun r => Text.like r.name pattern

/-- The projects with one more, unless one of its identifier is among them. -/
def Project.addNew (ps : List Project) (p : Project) : List Project :=
  if ps.any (·.id = p.id) then ps else ps ++ [p]

namespace Database

/-- What a project stands beside in a search: each of its reports, or none if it has none. -/
def searchReports (db : Database) (p : Project) : List (Option Report) :=
  match db.reportsOf p with
  | [] => [none]
  | rs => rs.map some

/-- The projects joined with their reports and makers. -/
def searchRows (db : Database) : List SearchRow :=
  db.projects.flatMap fun p => (db.searchReports p).flatMap fun r =>
    (db.users.filter (·.id = p.userId)).map fun u => ⟨p, r, u⟩

/-- The projects created in an organisation that mention a keyword. -/
def search (db : Database) (keyword : String) (organization : Option Id) : List Project :=
  let found := db.searchRows.filter fun row =>
    row.mentions ("%" ++ Text.trim keyword ++ "%") && some row.maker.organizationId = organization
  (found.map (·.project)).foldl Project.addNew []

/-- The projects that a search finds, with their reports. -/
def searchEntries (db : Database) (keyword : String) (organization : Option Id) :
    Except Fault (List ProjectEntry) :=
  (db.search keyword organization).mapM db.entry

/-- The projects with the given identifiers. -/
def projectsWith (db : Database) (is : List Id) : List Project :=
  db.projects.filter fun p => is.contains p.id

/-- The projects with the given identifiers, with their reports. -/
def entriesWith (db : Database) (is : List Id) : Except Fault (List ProjectEntry) :=
  (db.projectsWith is).mapM db.entry

end Database

/-! ## Hierarchies -/

/-- Projects, and the same projects by their parents. -/
structure Hierarchy where
  projects : List ProjectEntry := []
  /-- The projects below each parent; those without one are below none. -/
  children : List (Option Id × List ProjectEntry) := []

namespace Hierarchy

/-- Whether a project of an identifier is there. -/
def has (h : Hierarchy) (i : Id) : Bool := h.projects.any (·.project.id = i)

/-- Enters a project after those that are below the same parent. -/
def enter (e : ProjectEntry) :
    List (Option Id × List ProjectEntry) → List (Option Id × List ProjectEntry)
  | [] => [(e.project.parentId, [e])]
  | (i, es) :: rest =>
    if i = e.project.parentId then (i, es ++ [e]) :: rest else (i, es) :: enter e rest

/-- The hierarchy with one more project. -/
def add (h : Hierarchy) (e : ProjectEntry) : Hierarchy :=
  ⟨h.projects ++ [e], enter e h.children⟩

/-- Takes one project of a batch, and notes its parent for the next batch. -/
def visit (s : Hierarchy × List Id) (e : ProjectEntry) : Hierarchy × List Id :=
  if s.1.has e.project.id then s else (s.1.add e, s.2 ++ e.project.parentId.toList)

/-- Takes a batch, and gives the identifiers of the next one. -/
def takeBatch (h : Hierarchy) (es : List ProjectEntry) : Hierarchy × List Id :=
  es.foldl visit (h, [])

theorem has_add (h : Hierarchy) (e : ProjectEntry) (i : Id) :
    (h.add e).has i = (h.has i || e.project.id = i) := by
  simp [has, add]

end Hierarchy

namespace Database

variable {db : Database}

theorem project_of_entry {p : Project} {e : ProjectEntry} (h : db.entry p = .ok e) :
    e.project = p := by
  unfold entry at h
  cases hr : (db.reportsOf p).mapM Report.read with
  | error f => rw [hr] at h; cases h
  | ok rs => rw [hr] at h; cases h; rfl

/-- The entries of some projects are about these projects, in their order. -/
theorem map_project_of_mapM : ∀ {ps : List Project} {es : List ProjectEntry},
    ps.mapM db.entry = .ok es → es.map (·.project) = ps
  | [], es, h => by cases h; rfl
  | p :: ps, es, h => by
    rw [List.mapM_cons] at h
    cases hp : db.entry p with
    | error f => rw [hp] at h; cases h
    | ok e =>
      cases hr : ps.mapM db.entry with
      | error f => rw [hp, hr] at h; cases h
      | ok rest =>
        rw [hp, hr] at h
        cases h
        rw [List.map_cons, project_of_entry hp, map_project_of_mapM hr]

/-- The projects that are not in a hierarchy. -/
def unseen (db : Database) (h : Hierarchy) : List Project :=
  db.projects.filter fun p => !h.has p.id

theorem length_unseen_add {h : Hierarchy} {e : ProjectEntry} (he : e.project ∈ db.projects)
    (hnew : h.has e.project.id = false) :
    (db.unseen (h.add e)).length < (db.unseen h).length := by
  have hfilter : db.unseen (h.add e) = (db.unseen h).filter fun p => e.project.id ≠ p.id := by
    unfold unseen
    rw [List.filter_filter]
    refine List.filter_congr fun p _ => ?_
    rw [Hierarchy.has_add]
    cases h.has p.id <;> simp
  rw [hfilter, List.length_filter_lt_length_iff_exists]
  exact ⟨e.project, List.mem_filter.2 ⟨he, by simp [hnew]⟩, by simp⟩

/-- A batch passes over all its projects, or one of them was unseen. -/
theorem visit_cases : ∀ {es : List ProjectEntry} (h : Hierarchy) (next : List Id),
    (∀ e ∈ es, e.project ∈ db.projects) →
      es.foldl Hierarchy.visit (h, next) = (h, next) ∨
        (db.unseen (es.foldl Hierarchy.visit (h, next)).1).length < (db.unseen h).length
  | [], h, next, _ => .inl rfl
  | e :: es, h, next, hes => by
    have hrest : ∀ x ∈ es, x.project ∈ db.projects := fun x hx => hes x (List.mem_cons_of_mem _ hx)
    rw [List.foldl_cons]
    by_cases he : h.has e.project.id = true
    · rw [Hierarchy.visit, if_pos he]
      exact visit_cases h next hrest
    · rw [Hierarchy.visit, if_neg he]
      have hlt := length_unseen_add (hes e List.mem_cons_self) (Bool.eq_false_iff.2 he)
      rcases visit_cases (h.add e) (next ++ e.project.parentId.toList) hrest with hs | hs
      · rw [hs]
        exact .inr hlt
      · exact .inr (Nat.lt_trans hs hlt)

theorem mem_of_entriesWith {is : List Id} {es : List ProjectEntry} {e : ProjectEntry}
    (hes : db.entriesWith is = .ok es) (he : e ∈ es) : e.project ∈ db.projects := by
  have hp : e.project ∈ db.projectsWith is := map_project_of_mapM hes ▸ List.mem_map_of_mem he
  exact (List.mem_filter.1 hp).1

/-- With each batch fewer projects are unseen, or as many and nothing is pending any more. -/
theorem takeBatch_lt (h : Hierarchy) {pending : List Id} {es : List ProjectEntry}
    (hpending : pending ≠ []) (hes : db.entriesWith pending = .ok es) :
    Prod.Lex (· < ·) (· < ·) ((db.unseen (h.takeBatch es).1).length, (h.takeBatch es).2.length)
      ((db.unseen h).length, pending.length) := by
  rcases visit_cases h [] fun _ => mem_of_entriesWith hes with hs | hs
  · rw [Hierarchy.takeBatch, hs]
    exact .right _ (List.length_pos_iff.2 hpending)
  · exact .left _ _ hs

/-- Adds the projects with the identifiers `pending`, then their parents, and so on until nothing is
    pending. -/
def closeUpwards (db : Database) (h : Hierarchy) (pending : List Id) : Except Fault Hierarchy :=
  if hpending : pending = [] then .ok h
  else match hes : db.entriesWith pending with
    | .error f => .error f
    | .ok es =>
      have := takeBatch_lt h hpending hes
      db.closeUpwards (h.takeBatch es).1 (h.takeBatch es).2
termination_by ((db.unseen h).length, pending.length)
decreasing_by exact this

/-- The projects found by a keyword and everything above them. -/
def searchHierarchy (db : Database) (keyword : String) (organization : Option Id) :
    Except Fault Hierarchy := do
  let matched ← db.searchEntries (Text.trim keyword) organization
  db.closeUpwards {} (matched.map (·.project.id))

end Database

end ReportMigration
