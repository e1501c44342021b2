import ReportMigration.Proofs.Projects.Pruning
import ReportMigration.Proofs.Reports.Removal
import ReportMigration.Sample.Catalogue
/-!
Removing projects.

* `Deployment.filed` is the deployment after the folders of some reports were archived one after the
  other, and `Deployment.InTime` says that none of them took too long;
* `Deployment.Broken`: how the removal of some reports breaks off, and what it leaves of the catalogue;
* `Deployment.Halted`: the same for the removal of a project, which either prunes everything below the
  project or halts (`exec_removeProject`).

From this, by induction, `exec_removeProjects` says the same of a list of projects: what was pruned
before the halt stays pruned. Without cycles and with a known provider two causes are left: a report that
cannot be read, which leaves no trace, and an archive that takes too long (`removeProject_ok_iff`).
-/
namespace ReportMigration

/-! ## Folders one after the other -/

namespace Deployment

variable {d : Deployment} {orgName : String} {r : Report} {rs rs' : List Report}

/-- The deployment after the folder of a report was archived, if there is someone to do it. -/
def fileAway (orgName : String) (d : Deployment) (r : Report) : Deployment :=
  match d.provider? with
  | some p => d.archived p ⟨orgName, r.reportId⟩ .now
  | none => d

/-- Whether the folder of a report is waited for in vain. -/
def late (orgName : String) (d : Deployment) (r : Report) : Bool :=
  match d.provider? with
  | some p => d.overdue p ⟨orgName, r.reportId⟩ .now
  | none => false

/-- The deployment after the folders of some reports were archived, one after the other. -/
def filed (orgName : String) : List Report → Deployment → Deployment
  | [], d => d
  | r :: rs, d => filed orgName rs (d.fileAway orgName r)

/-- The folders of some reports, one after the other, are all archived in time. -/
def InTime (orgName : String) : List Report → Deployment → Prop
  | [], _ => True
  | r :: rs, d => d.late orgName r = false ∧ InTime orgName rs (d.fileAway orgName r)

theorem provider?_fileAway (orgName : String) (d : Deployment) (r : Report) :
    (d.fileAway orgName r).provider? = d.provider? := by
  refine provider?_congr ?_
  unfold fileAway
  cases d.provider? with
  | some p => exact archived_env p _ _ d
  | none => rfl

theorem fileAway_withDb (orgName : String) (d : Deployment) (r : Report) (db : Database) :
    (d.withDb db).fileAway orgName r = (d.fileAway orgName r).withDb db := by
  unfold fileAway
  rw [provider?_withDb]
  cases d.provider? with
  | some p => exact archived_withDb p _ _ d db
  | none => rfl

theorem late_withDb (orgName : String) (d : Deployment) (r : Report) (db : Database) :
    (d.withDb db).late orgName r = d.late orgName r := by
  unfold late
  rw [provider?_withDb]
  cases d.provider? with
  | some p => exact overdue_withDb p _ _ d db
  | none => rfl

theorem filed_withDb (orgName : String) (rs : List Report) (d : Deployment) (db : Database) :
    (d.withDb db).filed orgName rs = (d.filed orgName rs).withDb db := by
  induction rs generalizing d with
  | nil => rfl
  | cons r rs ih => rw [filed, filed, fileAway_withDb, ih]

theorem provider?_filed (orgName : String) (rs : List Report) (d : Deployment) :
    (d.filed orgName rs).provider? = d.provider? := by
  induction rs generalizing d with
  | nil => rfl
  | cons r rs ih => rw [filed, ih, provider?_fileAway]

theorem filed_append (orgName : String) (rs rs' : List Report) (d : Deployment) :
    d.filed orgName (rs ++ rs') = (d.filed orgName rs).filed orgName rs' := by
  induction rs generalizing d with
  | nil => rfl
  | cons r rs ih => rw [List.cons_append, filed, filed, ih]

theorem inTime_withDb (orgName : String) (rs : List Report) (d : Deployment) (db : Database) :
    (d.withDb db).InTime orgName rs ↔ d.InTime orgName rs := by
  induction rs generalizing d with
  | nil => exact Iff.rfl
  | cons r rs ih => rw [InTime, InTime, late_withDb, fileAway_withDb, ih]

theorem inTime_append :
    d.InTime orgName (rs ++ rs') ↔
      d.InTime orgName rs ∧ (d.filed orgName rs).InTime orgName rs' := by
  induction rs generalizing d with
  | nil => simp [InTime, filed]
  | cons r rs ih => rw [List.cons_append, InTime, InTime, filed, ih, and_assoc]

/-- Where no archive takes longer than it is waited for, all are in time. -/
theorem inTime_of_seconds (h : ∀ f slept, d.archiveSeconds f slept ≤ archiveLimit) :
    d.InTime orgName rs := by
  induction rs generalizing d with
  | nil => trivial
  | cons r rs ih =>
    refine ⟨?_, ih ?_⟩
    · unfold late
      cases d.provider? with
      | some p => exact decide_eq_false (Nat.not_lt.2 (h _ _))
      | none => rfl
    · unfold fileAway
      cases d.provider? with
      | some p =>
        have hseconds : (d.archived p ⟨orgName, r.reportId⟩ .now).archiveSeconds = d.archiveSeconds :=
          congrArg (·.2.2) (records_archived p _ _ d)
        simpa only [hseconds] using h
      | none => exact h

/-- How the removal of the reports `rs` breaks off, with what fault, and what it leaves of the
    catalogue. -/
inductive Broken (d : Deployment) (orgName : String) (time : ArchiveTime) (rs : List Report) :
    Fault → Database → Prop where
  /-- There is a report to be archived and no one to do it. Its visuals are gone. -/
  | unsupported {r : Report} {rest : List Report} (hrs : rs = r :: rest) (hp : d.provider? = none) :
      Broken d orgName time rs (unknownProvider d) (d.db.removeVisuals r.id)
  /-- The folder of a report is waited for in vain. Its visuals are gone, and so are the reports before
      it. -/
  | late {done : List Report} {r : Report} {rest : List Report} (hrs : rs = done ++ r :: rest)
      (htime : time = .now) (hdone : d.InTime orgName done)
      (hlate : (d.filed orgName done).late orgName r = true) :
      Broken d orgName time rs (ReportMigration.overdue r.reportId)
        ((d.db.dropReports {i | i ∈ done.map (·.id)}).removeVisuals r.id)

/-- A removal that breaks off at its first report. -/
theorem Broken.first (rs : List Report) (h : d.late orgName r = true) :
    d.Broken orgName .now (r :: rs) (ReportMigration.overdue r.reportId)
      ((d.db.dropReports {i | i ∈ ([] : List Report).map (·.id)}).removeVisuals r.id) :=
  .late rfl rfl trivial h

/-- A removal that breaks off after its first report. -/
theorem Broken.cons {e : Fault} {db' : Database}
    (h : ((d.fileAway orgName r).withDb (d.db.dropReports {r.id})).Broken orgName .now rs e db')
    (hp : d.provider? ≠ none) (hl : d.late orgName r = false) :
    d.Broken orgName .now (r :: rs) e db' := by
  cases h with
  | unsupported _ hnone =>
    rw [provider?_withDb, provider?_fileAway] at hnone
    exact absurd hnone hp
  | @late done x rest hrs _ hdone hx =>
    rw [filed_withDb, late_withDb] at hx
    rw [withDb_db, Database.dropReports_cons]
    exact .late (by rw [hrs, List.cons_append]) rfl ⟨hl, (inTime_withDb ..).1 hdone⟩ hx

/-- Where the provider is known, the removal breaks off for want of time only. -/
theorem Broken.not_inTime {time : ArchiveTime} {e : Fault} {db' : Database}
    (h : d.Broken orgName time rs e db') (hp : d.provider? ≠ none) : ¬ d.InTime orgName rs := by
  cases h with
  | unsupported _ hnone => exact absurd hnone hp
  | late hrs _ _ hlate =>
    rw [hrs, inTime_append]
    rintro ⟨-, hr, -⟩
    rw [hlate] at hr
    cases hr

end Deployment

namespace Database

variable {db : Database} {i : Id} {is : List Id}

/-- The reports below some projects can be read back. -/
def ReadableBelow (db : Database) (is : List Id) : Prop :=
  ∀ r ∈ db.reports, r.projectId ∈ db.belowAny is → r.Readable

open Classical in
/-- The reports in a project or below it, in the order of their rows. -/
noncomputable def reportsUnder (db : Database) (i : Id) : List Report :=
  db.reports.filter fun r => db.Below i r.projectId

/-- The reports below some projects, in the order in which they go with these. -/
noncomputable def removalOrder (db : Database) : List Id → List Report
  | [] => []
  | i :: is => db.reportsUnder i ++ (db.pruneBelow [i]).removalOrder is

theorem mem_reportsUnder {r : Report} :
    r ∈ db.reportsUnder i ↔ r ∈ db.reports ∧ db.Below i r.projectId := by
  simp [reportsUnder]

theorem removalOrder_append (js : List Id) :
    db.removalOrder (is ++ js) = db.removalOrder is ++ (db.pruneBelow is).removalOrder js := by
  induction is generalizing db with
  | nil => simp [removalOrder]
  | cons i is ih =>
    rw [List.cons_append, removalOrder, removalOrder, ih, pruneBelow_append, List.singleton_append,
      List.append_assoc]

/-- Projects may go if no report is left in them and no project below them. -/
theorem removeProjects_eq (hr : ∀ r ∈ db.reports, r.projectId ∉ is)
    (hp : ∀ i ∈ is, ∀ j, db.ParentOf i j → j ∈ is) :
    db.removeProjects is = .ok { db with projects := without db.projects (·.id) {i | i ∈ is} } := by
  have hkept : (db.projects.filter fun p => !is.contains p.id) =
      without db.projects (·.id) {i | i ∈ is} := filter_eq_without fun p _ => by simp
  have hreports : (db.reports.all fun r =>
      !(is.contains r.projectId && db.hasProject r.projectId)) = true :=
    List.all_eq_true.2 fun r hm => by simp [hr r hm]
  have hparents : ((without db.projects (·.id) {i | i ∈ is}).all fun p =>
      p.parentId.all fun i => !(is.contains i && db.hasProject i)) = true := by
    refine List.all_eq_true.2 fun p hm => ?_
    obtain ⟨hpm, hpi⟩ := mem_without.1 hm
    cases hq : p.parentId with
    | none => rfl
    | some q =>
      have hqi : q ∉ is := fun hqi => hpi (hp q hqi p.id ⟨p, hpm, rfl, hq⟩)
      simp [hqi]
  simp only [removeProjects, hkept, hreports, hparents, resolved, Bool.and_self, if_true]
  rfl

theorem mem_belowAny_singleton {j : Id} : j ∈ db.belowAny [i] ↔ db.Below i j := by
  simp [belowAny]

/-- Once the reports below a project are gone, the projects below it go, and that is all. -/
theorem removeProjects_dropReports (hn : (db.reports.map (·.id)).Nodup)
    (hs : db.subtree i = .ok is) :
    (db.dropReports (reportsIn db.reports (db.belowAny [i]))).removeProjects is =
      .ok (db.pruneBelow [i]) := by
  have his : {j | j ∈ is} = db.belowAny [i] := by
    ext j
    rw [mem_belowAny_singleton]
    exact mem_of_subtree hs
  rw [removeProjects_eq, his, pruneBelow, prune_eq_dropReports hn]
  · rfl
  · intro r hr hj
    obtain ⟨hr, hdead⟩ := mem_dropReports.1 hr
    exact hdead ⟨r, hr, his ▸ hj, rfl⟩
  · rintro j hj k hjk
    exact (mem_of_subtree hs).2 (((mem_of_subtree hs).1 hj).tail hjk)

end Database

/-! ## Reports one after the other -/

section
variable (orgName : String) {d : Deployment}

open Deployment (Broken)

/-- Where identifiers do not repeat, a row that can be read is found by its own. -/
theorem Database.report?_row {db : Database} {r : Report} (hn : (db.reports.map (·.id)).Nodup)
    (hm : r ∈ db.reports) (hr : r.Readable) : db.report? (some r.id) = .ok (some r) := by
  have hsame : ∀ x ∈ db.reports, x.id = r.id → x = r := fun x hx he =>
    List.inj_on_of_nodup_map hn hx hm he
  obtain ⟨x, hfind, he⟩ := exists_report? ⟨r, hm, rfl⟩ fun x hx he => hsame x hx he ▸ hr
  rwa [hsame x (report?_eq_ok_some hfind).1 he] at hfind

/-- With a known provider, a readable row goes or is waited for in vain. -/
theorem exec_removeReport_row {r : Report} (hn : (d.db.reports.map (·.id)).Nodup)
    (hm : r ∈ d.db.reports) (hr : r.Readable) (hp : d.provider? ≠ none) :
    (removeReport (some r.id) orgName .now).exec d =
      if d.late orgName r then
        (.error (overdue r.reportId), (d.fileAway orgName r).withDb (d.db.removeVisuals r.id))
      else (.ok true, (d.fileAway orgName r).withDb (d.db.dropReports {r.id})) := by
  obtain ⟨p, hp⟩ := Option.ne_none_iff_exists'.1 hp
  have hexec := exec_removeReport_some orgName .now
    (Database.report?_row hn hm hr) hp
  rw [Database.removeReport_removeVisuals] at hexec
  simpa only [Deployment.late, Deployment.fileAway, hp] using hexec

/-- **Removing reports one after the other**: readable rows of the catalogue all go, or the removal
    breaks off. -/
theorem exec_removeReports (rs : List Report) (hn : (d.db.reports.map (·.id)).Nodup)
    (hids : (rs.map (·.id)).Nodup) (hm : ∀ r ∈ rs, r ∈ d.db.reports) (hr : ∀ r ∈ rs, r.Readable) :
    ((removeReports orgName (rs.map (·.id))).exec d = (.ok (),
        (d.filed orgName rs).withDb (d.db.dropReports {i | i ∈ rs.map (·.id)})) ∧
        d.InTime orgName rs) ∨
      ∃ e d', (removeReports orgName (rs.map (·.id))).exec d = (.error e, d') ∧
        d.Broken orgName .now rs e d'.db := by
  induction rs generalizing d with
  | nil =>
    refine .inl ⟨?_, trivial⟩
    have hnone : {i : Id | i ∈ ([] : List Report).map (·.id)} = ∅ := by
      ext i
      simp
    rw [hnone, Database.dropReports_empty]
    rfl
  | cons r rs ih =>
    obtain ⟨hi, hids'⟩ := List.nodup_cons.1 hids
    have hrm := hm r List.mem_cons_self
    have hread := hr r List.mem_cons_self
    rw [List.map_cons, removeReports]
    by_cases hp : d.provider? = none
    · have hexec := exec_removeReport_unsupported orgName .now
        (Database.report?_row hn hrm hread) hp
      exact .inr ⟨_, _, Op.exec_bind_error hexec, .unsupported rfl hp⟩
    · have hexec := exec_removeReport_row orgName hn hrm hread hp
      cases hl : d.late orgName r with
      | true =>
        rw [if_pos hl] at hexec
        refine .inr ⟨_, _, Op.exec_bind_error hexec, ?_⟩
        simpa using Broken.first rs hl
      | false =>
        rw [if_neg (by simp [hl])] at hexec
        rw [Op.exec_bind_ok hexec]
        have hmem : ∀ x ∈ rs, x ∈ (d.db.dropReports {r.id}).reports := fun x hx =>
          Database.mem_dropReports.2 ⟨hm x (List.mem_cons_of_mem _ hx), fun he =>
            hi (List.mem_map.2 ⟨x, hx, he⟩)⟩
        rcases ih (d := (d.fileAway orgName r).withDb (d.db.dropReports {r.id}))
          (hn.sublist (List.filter_sublist.map _)) hids' hmem
          fun x hx => hr x (List.mem_cons_of_mem _ hx) with ⟨hrest, hin⟩ | ⟨e, d', hrest, hbroken⟩
        · refine .inl ⟨hrest.trans ?_, hl, (Deployment.inTime_withDb ..).1 hin⟩
          rw [Deployment.filed_withDb, Deployment.withDb_withDb, Deployment.withDb_db,
            Database.dropReports_cons, Deployment.filed, List.map_cons]
        · exact .inr ⟨e, d', hrest, hbroken.cons hp hl⟩

/-! ## Projects -/

namespace Deployment

/-- The deployment after some projects were removed. -/
noncomputable def passed (orgName : String) (is : List Id) (d : Deployment) : Deployment :=
  (d.filed orgName (d.db.removalOrder is)).withDb (d.db.pruneBelow is)

@[simp] theorem passed_db (is : List Id) : (d.passed orgName is).db = d.db.pruneBelow is := rfl

theorem passed_nil : d.passed orgName [] = d := by
  rw [passed, Database.pruneBelow_nil]
  rfl

theorem passed_append (is js : List Id) :
    (d.passed orgName is).passed orgName js = d.passed orgName (is ++ js) := by
  rw [passed, passed_db, passed, filed_withDb, ← filed_append, withDb_withDb,
    ← Database.removalOrder_append, Database.pruneBelow_append, passed]

theorem provider?_passed (is : List Id) : (d.passed orgName is).provider? = d.provider? := by
  rw [passed, provider?_withDb, provider?_filed]

/-- Why the removal of the project `i` halts, with what fault, and what it leaves of the catalogue. -/
inductive Halted (d : Deployment) (orgName : String) (i : Id) : Fault → Database → Prop where
  /-- The way down does not end. -/
  | endless {e : Fault} (h : ¬ ∃ is, d.db.subtree i = .ok is) : Halted d orgName i e d.db
  /-- A report below the project cannot be read. -/
  | unreadable {e : Fault} (h : ¬ d.db.ReadableBelow [i]) : Halted d orgName i e d.db
  /-- The removal of the reports breaks off. -/
  | broken {e : Fault} {db' : Database} (hread : d.db.ReadableBelow [i])
      (h : d.Broken orgName .now (d.db.reportsUnder i) e db') : Halted d orgName i e db'

end Deployment

/-- **Removing a project** prunes everything below it, or halts. -/
theorem exec_removeProject {i : Id} (hn : (d.db.reports.map (·.id)).Nodup) :
    ((removeProject i orgName).exec d = (.ok (), d.passed orgName [i]) ∧
        d.db.ReadableBelow [i] ∧ d.InTime orgName (d.db.reportsUnder i)) ∨
      ∃ e d', (removeProject i orgName).exec d = (.error e, d') ∧ d.Halted orgName i e d'.db := by
  rw [removeProject, Op.exec_bind_ok (Op.exec_db d)]
  cases hs : d.db.subtree i with
  | error e =>
    refine .inr ⟨e, d, Op.exec_bind_error (by rw [Op.exec_ofExcept]), .endless ?_⟩
    rintro ⟨is, h⟩
    rw [hs] at h
    cases h
  | ok is =>
    rw [Op.exec_bind_ok (Op.exec_ofExcept _ d)]
    have hrs : (d.db.reports.filter fun r => is.contains r.projectId) = d.db.reportsUnder i := by
      unfold Database.reportsUnder
      refine List.filter_congr fun r _ => ?_
      rw [Bool.eq_iff_iff, List.contains_iff_mem, Database.mem_of_subtree hs]
      simp
    rw [hrs]
    rcases mapM_read (fun _ _ => Report.read_eq_ok_iff) (d.db.reportsUnder i) with
      ⟨e, hread, r, hr, hbad⟩ | ⟨hread, hreadable⟩
    · obtain ⟨hm, hi⟩ := Database.mem_reportsUnder.1 hr
      rw [hread]
      refine .inr ⟨e, d, Op.exec_bind_error (Op.exec_ofExcept _ d), .unreadable fun h => hbad ?_⟩
      exact h r hm (Database.mem_belowAny_singleton.2 hi)
    · have hbelow : d.db.ReadableBelow [i] := fun r hm hi =>
        hreadable r (Database.mem_reportsUnder.2 ⟨hm, Database.mem_belowAny_singleton.1 hi⟩)
      rw [hread, Op.exec_bind_ok (Op.exec_ofExcept _ d)]
      rcases exec_removeReports orgName (d.db.reportsUnder i) hn
          (hn.sublist (List.filter_sublist.map _)) (fun r hr => (Database.mem_reportsUnder.1 hr).1)
          hreadable with
        ⟨hexec, hin⟩ | ⟨e, d', hexec, hbroken⟩
      · have hdead : {j | j ∈ (d.db.reportsUnder i).map (·.id)} =
            Database.reportsIn d.db.reports (d.db.belowAny [i]) := by
          ext j
          simp [Database.reportsIn, Database.mem_belowAny_singleton, Database.mem_reportsUnder,
            and_assoc]
        refine .inl ⟨?_, hbelow, hin⟩
        rw [Op.exec_bind_ok hexec, hdead]
        refine (Op.exec_write_ok (Database.removeProjects_dropReports hn hs)).trans ?_
        rw [Deployment.passed, Database.removalOrder, Database.removalOrder, List.append_nil]
        rfl
      · exact .inr ⟨e, d', Op.exec_bind_error hexec, .broken hbelow hbroken⟩

/-- **A project goes with all that lies below it**: the projects, their reports, and the logs,
    analyses and visuals of these. It does so exactly if the reports can be read and none of their
    folders takes too long to be archived, whichever calls of storage fail. If a report cannot be read
    the catalogue is as before; if a folder takes too long, the reports before it are gone. -/
theorem removeProject_ok_iff (i : Id) (hn : (d.db.reports.map (·.id)).Nodup) (ha : d.db.Acyclic)
    (hp : d.provider? ≠ none) :
    let r := (removeProject i orgName).exec d
    let rs := d.db.reportsUnder i
    (r.1 = .ok () ↔ d.db.ReadableBelow [i] ∧ d.InTime orgName rs) ∧
      (r.1 = .ok () → r.2.db = d.db.pruneBelow [i]) ∧
      (¬ d.db.ReadableBelow [i] → r.2.db = d.db) ∧
      (d.db.ReadableBelow [i] → ¬ d.InTime orgName rs →
        ∃ e, r.1 = .error e ∧ d.Broken orgName .now rs e r.2.db) := by
  intro r rs
  rcases exec_removeProject orgName (i := i) hn with ⟨hr, hread, hin⟩ | ⟨e, d', hr, hhalt⟩
  · have hok : r.1 = .ok () := congrArg Prod.fst hr
    exact ⟨iff_of_true hok ⟨hread, hin⟩, fun _ => congrArg (·.2.db) hr, fun h => absurd hread h,
      fun _ h => absurd hin h⟩
  · have hdb : r.2.db = d'.db := congrArg (·.2.db) hr
    have herror : r.1 = .error e := congrArg Prod.fst hr
    have hfail : r.1 ≠ .ok () := by
      rw [herror]
      exact nofun
    rw [hdb]
    generalize d'.db = db' at hhalt ⊢
    cases hhalt with
    | endless hend => exact absurd (ha.exists_subtree i) hend
    | unreadable hbad =>
      exact ⟨iff_of_false hfail fun h => hbad h.1, fun hok => absurd hok hfail, fun _ => rfl,
        fun h => absurd h hbad⟩
    | broken hread hbroken =>
      exact ⟨iff_of_false hfail fun h => hbroken.not_inTime hp h.2, fun hok => absurd hok hfail,
        fun h => absurd hread h, fun _ _ => ⟨e, herror, hbroken⟩⟩

/-- Three projects one below the other, of which the second is marked as deleted, a report with all
    that belongs to it in the lowest and another one elsewhere. Storage cannot be reached. -/
def nestedDeployment : Deployment where
  db :=
    { projects :=
        [Sample.projectAt (.ofNat 300) none none none,
          { Sample.projectAt (.ofNat 301) none none (some (.ofNat 300)) with
            audit := { isDeleted := true } },
          Sample.projectAt (.ofNat 302) none none (some (.ofNat 301)),
          Sample.projectAt (.ofNat 303) none none none]
      reports :=
        [Sample.reportAt (.ofNat 400) (.ofNat 500) (.ofNat 302),
          Sample.reportAt (.ofNat 401) (.ofNat 501) (.ofNat 303)]
      analyses := [Sample.analysis 0, Sample.analysis 1]
      visuals :=
        [Sample.visualOf (.ofNat 700) (.ofNat 400), Sample.visualOf (.ofNat 701) (.ofNat 401)] }
  outages := { keys := [(.connect, ["*"])] }

theorem removeProject_ok_iff_nested :
    let d := nestedDeployment
    ((removeProject (.ofNat 300) "Acme").exec d).2.db.projects.map (·.id) = [.ofNat 303] ∧
      ((removeProject (.ofNat 300) "Acme").exec d).1 = .ok () ∧
      ((removeProject (.ofNat 300) "Acme").exec d).2.db = d.db.pruneBelow [.ofNat 300] := by
  intro d
  have hread : d.db.ReadableBelow [.ofNat 300] := by
    intro x hx _
    simp only [d, nestedDeployment, List.mem_cons, List.not_mem_nil, or_false] at hx
    rcases hx with rfl | rfl <;> exact nofun
  have hin : d.InTime "Acme" (d.db.reportsUnder (.ofNat 300)) :=
    Deployment.inTime_of_seconds fun _ _ => Nat.zero_le _
  have hn : (d.db.reports.map (·.id)).Nodup := by decide +kernel
  have h := removeProject_ok_iff "Acme" (.ofNat 300) hn (by decide +kernel) (by decide +kernel)
  exact ⟨by decide +kernel, h.1.2 ⟨hread, hin⟩, h.2.1 (h.1.2 ⟨hread, hin⟩)⟩

/-- A report with a status that does not exist. -/
def strayReport : Report :=
  { Sample.reportAt (.ofNat 400) (.ofNat 500) (.ofNat 300) with status := some (.stray "BOGUS") }

/-- A catalogue to which it was admitted. -/
def strayReportDeployment : Deployment where
  db :=
    { roles := [Sample.role .admin]
      organizations := [Sample.organization]
      users := [Sample.user 0]
      projects := [Sample.projectAt (.ofNat 300) none none none]
      reports := [strayReport] }

/-- The project of such a report cannot be removed, although every reference leads somewhere. -/
theorem removeProject_stray :
    let d := strayReportDeployment
    (do
      let db ← ({} : Database).addRole (Sample.role .admin)
      let db ← db.addOrganization Sample.organization
      let db ← db.addUser (Sample.user 0)
      let db ← db.addProject (Sample.projectAt (.ofNat 300) none none none)
      db.addReport strayReport) = .ok d.db ∧
      d.db.Acyclic ∧ d.provider? = some .aws ∧
      ((removeProject (.ofNat 300) "Acme").exec d).1 ≠ .ok () := by
  intro d
  refine ⟨by rfl, by decide +kernel, by decide +kernel, ?_⟩
  have h : ((removeProject (.ofNat 300) "Acme").exec d).1.isOk = false := by decide +kernel
  intro hok
  rw [hok] at h
  cases h

theorem Database.ReadableBelow.append {db : Database} {is js : List Id} (h : db.ReadableBelow is)
    (h' : (db.pruneBelow is).ReadableBelow js) : db.ReadableBelow (is ++ js) := by
  intro r hr hi
  by_cases his : r.projectId ∈ db.belowAny is
  · exact h r hr his
  · rw [← Database.belowAny_append] at hi
    exact h' r (mem_without.2 ⟨hr, his⟩) (hi.resolve_left his)

/-- **Removing projects one after the other** prunes everything below them, or prunes what is below
    the first of them and halts at the next. -/
theorem exec_removeProjects (is : List Id) (hn : (d.db.reports.map (·.id)).Nodup) :
    ((removeProjects orgName is).exec d = (.ok (), d.passed orgName is) ∧
        d.db.ReadableBelow is ∧ d.InTime orgName (d.db.removalOrder is)) ∨
      ∃ e d' done i rest, (removeProjects orgName is).exec d = (.error e, d') ∧
        is = done ++ i :: rest ∧ (d.passed orgName done).Halted orgName i e d'.db := by
  induction is generalizing d with
  | nil =>
    refine .inl ⟨by rw [Deployment.passed_nil]; rfl, ?_, trivial⟩
    rintro r - ⟨i, hi, -⟩
    cases hi
  | cons i is ih =>
    rw [removeProjects]
    rcases exec_removeProject orgName (i := i) hn with
      ⟨hexec, hread, hin⟩ | ⟨e, d₁, hexec, hhalt⟩
    · rw [Op.exec_bind_ok hexec]
      rcases ih (d := d.passed orgName [i]) (Database.nodup_prune hn) with
        ⟨hexec₂, hread₂, hin₂⟩ | ⟨e, d₂, done, j, rest, hexec₂, his, hhalt⟩
      · refine .inl ⟨?_, hread.append hread₂, ?_⟩
        · rw [hexec₂, Deployment.passed_append, List.singleton_append]
        · refine Deployment.inTime_append.2 ⟨hin, ?_⟩
          rw [Deployment.passed, Deployment.withDb_db, Deployment.inTime_withDb, Database.removalOrder,
            Database.removalOrder, List.append_nil] at hin₂
          exact hin₂
      · refine .inr ⟨e, d₂, i :: done, j, rest, hexec₂, by rw [his, List.cons_append], ?_⟩
        rwa [Deployment.passed_append, List.singleton_append] at hhalt
    · refine .inr ⟨e, d₁, [], i, is, Op.exec_bind_error hexec, rfl, ?_⟩
      rwa [Deployment.passed_nil]

end

end ReportMigration
