import ReportMigration.Proofs.Projects.Forest
import ReportMigration.Reports.Removal
/-!
The catalogue without some of its projects.

* `Database.dropReports db dead`: without the reports `dead`, their logs, analyses and visuals;
* `Database.prune db gone`: without the projects `gone`, their reports and what belongs to those;
* `Database.pruneBelow db is`: without everything that lies below one of the projects `is`.

Pruning twice is pruning once (`Database.prune_prune`, `Database.pruneBelow_append`), although what
lies below a project is asked of the smaller catalogue the second time.
-/
namespace ReportMigration

/-! ## Rows -/

section
variable {α : Type} {rows : List α} {key : α → Id} {A B : Set Id}

open Classical in
/-- The rows without those that are, or belong to, something in `gone`. -/
noncomputable def without (rows : List α) (key : α → Id) (gone : Set Id) : List α :=
  rows.filter (key · ∉ gone)

@[simp] theorem mem_without {x : α} : x ∈ without rows key A ↔ x ∈ rows ∧ key x ∉ A := by
  simp [without]

theorem without_eq_self (h : ∀ x ∈ rows, key x ∉ A) : without rows key A = rows := by
  simpa [without] using h

@[simp] theorem without_empty : without rows key ∅ = rows :=
  without_eq_self fun _ _ => Set.notMem_empty _

theorem without_without : without (without rows key A) key B = without rows key (A ∪ B) := by
  unfold without
  rw [List.filter_filter]
  refine List.filter_congr fun x _ => ?_
  rw [Bool.eq_iff_iff]
  simp [and_comm]

/-- A test for some identifiers removes the rows that have them. -/
theorem filter_eq_without {f : α → Bool} (h : ∀ x ∈ rows, f x = true ↔ key x ∉ A) :
    rows.filter f = without rows key A := by
  unfold without
  refine List.filter_congr fun x hx => ?_
  rw [Bool.eq_iff_iff, h x hx]
  simp

end

namespace Database

open Relation

variable {db : Database} {i j : Id} {is js : List Id} {A B : Set Id}

/-! ## Reports -/

/-- The catalogue without some reports, and what belongs to them. -/
noncomputable def dropReports (db : Database) (dead : Set Id) : Database :=
  { db with
    reports := without db.reports (·.id) dead
    logs := without db.logs (·.reportId) dead
    analyses := without db.analyses (·.reportId) dead
    visuals := without db.visuals (·.reportId) dead }

theorem mem_dropReports {r : Report} :
    r ∈ (db.dropReports A).reports ↔ r ∈ db.reports ∧ r.id ∉ A := by
  simp [dropReports]

@[simp] theorem dropReports_empty : db.dropReports ∅ = db := by
  simp [dropReports]

theorem dropReports_dropReports : (db.dropReports A).dropReports B = db.dropReports (A ∪ B) := by
  simp only [dropReports, without_without]

/-- One report after the other is all at once. -/
theorem dropReports_cons (r : Report) (rs : List Report) :
    (db.dropReports {r.id}).dropReports {i | i ∈ rs.map (·.id)} =
      db.dropReports {i | i ∈ (r :: rs).map (·.id)} := by
  rw [dropReports_dropReports]
  congr 1
  ext i
  simp

/-- Removing a report with its visuals leaves the catalogue without it. -/
theorem removeReport_removeVisuals : (db.removeVisuals i).removeReport i = db.dropReports {i} := by
  unfold removeReport removeVisuals dropReports
  congr 1 <;> exact filter_eq_without fun x _ => by simp

/-! ## Projects -/

/-- The reports in some projects. -/
def reportsIn (reports : List Report) (gone : Set Id) : Set Id :=
  {i | ∃ r ∈ reports, r.projectId ∈ gone ∧ r.id = i}

/-- The catalogue without some projects, their reports and what belongs to those. -/
noncomputable def prune (db : Database) (gone : Set Id) : Database :=
  { db with
    projects := without db.projects (·.id) gone
    reports := without db.reports (·.projectId) gone
    logs := without db.logs (·.reportId) (reportsIn db.reports gone)
    analyses := without db.analyses (·.reportId) (reportsIn db.reports gone)
    visuals := without db.visuals (·.reportId) (reportsIn db.reports gone) }

@[simp] theorem prune_empty : db.prune ∅ = db := by
  simp [prune, reportsIn]

theorem reportsIn_union (reports : List Report) (A B : Set Id) :
    reportsIn reports A ∪ reportsIn (without reports (·.projectId) A) B =
      reportsIn reports (A ∪ B) := by
  ext i
  constructor
  · rintro (⟨r, hr, hA, hi⟩ | ⟨r, hr, hB, hi⟩)
    · exact ⟨r, hr, .inl hA, hi⟩
    · exact ⟨r, (mem_without.1 hr).1, .inr hB, hi⟩
  · rintro ⟨r, hr, hAB, hi⟩
    by_cases hA : r.projectId ∈ A
    · exact .inl ⟨r, hr, hA, hi⟩
    · exact .inr ⟨r, mem_without.2 ⟨hr, hA⟩, hAB.resolve_left hA, hi⟩

theorem prune_prune : (db.prune A).prune B = db.prune (A ∪ B) := by
  simp only [prune, without_without, reportsIn_union]

/-- Where identifiers of reports do not repeat, the reports of some projects go by identifier. -/
theorem without_reportsIn (hn : (db.reports.map (·.id)).Nodup) :
    without db.reports (·.id) (reportsIn db.reports A) = without db.reports (·.projectId) A := by
  unfold without
  refine List.filter_congr fun r hr => ?_
  have h : r.id ∈ reportsIn db.reports A ↔ r.projectId ∈ A := by
    constructor
    · rintro ⟨r', hr', hA, he⟩
      exact List.inj_on_of_nodup_map hn hr' hr he ▸ hA
    · exact fun hA => ⟨r, hr, hA, rfl⟩
  simp [h]

/-- The catalogue without the reports of some projects, and then without the projects. -/
theorem prune_eq_dropReports (hn : (db.reports.map (·.id)).Nodup) :
    db.prune A = { db.dropReports (reportsIn db.reports A) with
      projects := without db.projects (·.id) A } := by
  rw [prune, ← without_reportsIn hn]
  rfl

theorem nodup_prune (hn : (db.reports.map (·.id)).Nodup) :
    ((db.prune A).reports.map (·.id)).Nodup :=
  hn.sublist (List.filter_sublist.map _)

/-! ## What lies below -/

theorem parentOf_prune : (db.prune A).ParentOf i j ↔ j ∉ A ∧ db.ParentOf i j := by
  constructor
  · rintro ⟨p, hp, rfl, hpi⟩
    exact ⟨(mem_without.1 hp).2, p, (mem_without.1 hp).1, rfl, hpi⟩
  · rintro ⟨hj, p, hp, rfl, hpi⟩
    exact ⟨p, mem_without.2 ⟨hp, hj⟩, rfl, hpi⟩

theorem parentOf_prune_le : (db.prune A).ParentOf ≤ db.ParentOf :=
  fun _ _ h => (parentOf_prune.1 h).2

theorem below_of_prune (h : (db.prune A).Below i j) : db.Below i j :=
  ReflTransGen.mono parentOf_prune_le _ _ h

theorem Acyclic.prune (ha : db.Acyclic) : (db.prune A).Acyclic :=
  fun i h => ha i (TransGen.mono parentOf_prune_le _ _ h)

/-- What lies below some projects. -/
def belowAny (db : Database) (is : List Id) : Set Id := {j | ∃ i ∈ is, db.Below i j}

/-- A way down to a project that stays leads through projects that stay. -/
theorem below_prune_iff (hj : j ∉ db.belowAny is) :
    (db.prune (db.belowAny is)).Below i j ↔ db.Below i j := by
  refine ⟨below_of_prune, fun h => ?_⟩
  induction h with
  | refl => exact .refl
  | tail _ hkj ih =>
    refine .tail (ih fun hk => ?_) (parentOf_prune.2 ⟨hj, hkj⟩)
    obtain ⟨i', hi', hk⟩ := hk
    exact hj ⟨i', hi', hk.tail hkj⟩

/-- The catalogue without some projects and everything below them. -/
noncomputable def pruneBelow (db : Database) (is : List Id) : Database := db.prune (db.belowAny is)

@[simp] theorem pruneBelow_nil : db.pruneBelow [] = db := by
  have h : db.belowAny [] = ∅ := by ext j; simp [belowAny]
  rw [pruneBelow, h, prune_empty]

theorem belowAny_append :
    db.belowAny is ∪ (db.pruneBelow is).belowAny js = db.belowAny (is ++ js) := by
  ext j
  by_cases hj : j ∈ db.belowAny is
  · obtain ⟨i, hi, hij⟩ := hj
    exact iff_of_true (.inl ⟨i, hi, hij⟩) ⟨i, List.mem_append_left _ hi, hij⟩
  · constructor
    · rintro (h | ⟨i, hi, hij⟩)
      · exact absurd h hj
      · exact ⟨i, List.mem_append_right _ hi, below_of_prune hij⟩
    · rintro ⟨i, hi, hij⟩
      rcases List.mem_append.1 hi with hi | hi
      · exact absurd ⟨i, hi, hij⟩ hj
      · exact .inr ⟨i, hi, (below_prune_iff hj).2 hij⟩

/-- **Pruning one project after the other is pruning all at once.** -/
theorem pruneBelow_append : (db.pruneBelow is).pruneBelow js = db.pruneBelow (is ++ js) := by
  calc (db.pruneBelow is).pruneBelow js
      = db.prune (db.belowAny is ∪ (db.pruneBelow is).belowAny js) := prune_prune
    _ = db.pruneBelow (is ++ js) := by rw [belowAny_append, pruneBelow]

end Database

end ReportMigration
