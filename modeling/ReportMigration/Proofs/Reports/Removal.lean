import ReportMigration.Proofs.Execution
import ReportMigration.Reports.Removal
/-!
Removing one report.

* `Database.report?_eq_ok_some`: which row is found, and that it is found as it stands;
* `Op.Apart`: an operation neither looks at the records nor changes them, as `apart_archiveFolder` says
  of archiving;
* `Deployment.archived` is what archiving a folder leaves behind, and `Deployment.overdue` whether it
  takes longer than it is waited for;
* `exec_removeReport_error` and its companions: what the removal of a report answers and leaves behind,
  case by case: the row cannot be read, there is none, the provider is unknown, the archive is overdue, or
  the report goes.
-/
namespace ReportMigration

/-! ## Reading rows -/

/-- The column holds a value of its set. -/
def Coded.Known {α : Type} : Coded α → Prop
  | known _ => True
  | stray _ => False

theorem Coded.known_of_read {α : Type} [Labelled α] {c : Coded α} {a : α} (h : c.read = .ok a) :
    c.Known := by
  cases c with
  | known a => trivial
  | stray t => cases h

theorem Coded.Known.exists_read {α : Type} [Labelled α] {c : Coded α} (h : c.Known) :
    ∃ a, c.read = .ok a := by
  cases c with
  | known a => exact ⟨a, rfl⟩
  | stray t => cases h

/-- What is given back only if a column can be read. -/
theorem Coded.checked_eq_ok_iff {α β : Type} [Labelled α] {c : Option (Coded α)} {b x : β} :
    (do let _ ← c.mapM Coded.read; return b : Except Fault β) = .ok x ↔
      x = b ∧ ∀ y, c = some y → y.Known := by
  cases c with
  | none => exact ⟨fun h => by cases h; simp, fun h => by rw [h.1]; rfl⟩
  | some c =>
    rw [Option.mapM_some]
    constructor
    · intro h
      cases hc : c.read with
      | error e => rw [hc] at h; cases h
      | ok a =>
        rw [hc] at h
        cases h
        exact ⟨rfl, fun c' hc' => Option.some.inj hc' ▸ Coded.known_of_read hc⟩
    · rintro ⟨rfl, h⟩
      obtain ⟨a, ha⟩ := (h c rfl).exists_read
      rw [ha]
      rfl

/-- The row can be read back: its status, if it has one, is among the known ones. -/
def Report.Readable (r : Report) : Prop := ∀ c, r.status = some c → c.Known

theorem Report.read_eq_ok_iff {r x : Report} : r.read = .ok x ↔ x = r ∧ r.Readable :=
  Coded.checked_eq_ok_iff

namespace Database

variable {db : Database} {i : Option Id} {r : Report}

/-- A report that is found is a row with the identifier asked for, as it stands. -/
theorem report?_eq_ok_some (h : db.report? i = .ok (some r)) :
    r ∈ db.reports ∧ some r.id = i ∧ r.Readable := by
  obtain ⟨hf, hr⟩ := (mapM_read?_iff fun _ _ => Report.read_eq_ok_iff).1 h
  exact ⟨List.mem_of_find?_eq_some hf.symm, by simpa using List.find?_some hf.symm, hr r hf.symm⟩

/-- Where all rows with an identifier can be read and there is one, the report is found. -/
theorem exists_report? {i : Id} (hi : ∃ r ∈ db.reports, r.id = i)
    (hr : ∀ r ∈ db.reports, r.id = i → r.Readable) :
    ∃ r, db.report? (some i) = .ok (some r) ∧ r.id = i := by
  obtain ⟨r, hm, rfl⟩ := hi
  cases hf : db.reports.find? fun x => some x.id = some r.id with
  | none => exact absurd (List.find?_eq_none.1 hf r hm) (by simp)
  | some x =>
    have hx : x.id = r.id := by simpa using List.find?_some hf
    refine ⟨x, ?_, hx⟩
    rw [report?, hf, mapM_read?_iff fun _ _ => Report.read_eq_ok_iff]
    refine ⟨rfl, ?_⟩
    rintro _ ⟨⟩
    exact hr x (List.mem_of_find?_eq_some hf) hx

end Database

/-! ## Archiving leaves the records alone -/

/-- What archiving neither looks at nor touches. -/
def Deployment.records (d : Deployment) :
    Database × List (String × String) × (ReportFolder → Nat → Nat) :=
  (d.db, d.env, d.archiveSeconds)

/-- The deployment with other records. -/
def Deployment.withRecords (d : Deployment)
    (x : Database × List (String × String) × (ReportFolder → Nat → Nat)) : Deployment :=
  { d with db := x.1, env := x.2.1, archiveSeconds := x.2.2 }

namespace Op

variable {α β : Type}

/-- The operation does the same whatever the records are, and leaves them as they are. -/
def Apart (x : Op α) : Prop :=
  ∀ d y, x.exec (d.withRecords y) = ((x.exec d).1, (x.exec d).2.withRecords y)

namespace Apart

theorem keeps {x : Op α} (h : Apart x) : Keeps Deployment.records x := by
  intro d
  have hd : x.exec d = ((x.exec d).1, (x.exec d).2.withRecords d.records) := h d d.records
  exact congrArg (fun y => y.2.records) hd

theorem pure (a : α) : Apart (Pure.pure a : Op α) := fun _ _ => rfl

theorem throw (f : Fault) : Apart (MonadExcept.throw f : Op α) := fun _ _ => rfl

theorem bind {x : Op α} {k : α → Op β} (hx : Apart x) (hk : ∀ a, Apart (k a)) :
    Apart (x >>= k) := by
  intro d y
  rw [exec_bind, exec_bind, hx]
  rcases x.exec d with ⟨r, d'⟩
  cases r with
  | error f => rfl
  | ok a => exact hk a d' y

theorem attempt {x : Op α} (hx : Apart x) : Apart (Op.attempt x) := fun d y => by
  rw [exec_attempt, exec_attempt, hx]

theorem succeeds {x : Op α} (hx : Apart x) : Apart (Op.succeeds x) := fun d y => by
  rw [exec_succeeds, exec_succeeds, hx]

theorem ite {c : Prop} [Decidable c] {x y : Op α} (hx : Apart x) (hy : Apart y) :
    Apart (if c then x else y) := by
  split
  · exact hx
  · exact hy

theorem reach (kind : OutageKind) (key : String) (turn : Nat) : Apart (Op.reach kind key turn) := by
  intro d y
  rw [exec_reach, exec_reach, show (d.withRecords y).outages = d.outages from rfl]
  cases d.outages.hits kind key turn <;> rfl

theorem connect (kind : OutageKind) (key : String) (turn : Nat) :
    Apart (Op.connect kind key turn) := by
  intro d y
  rw [exec_connect, exec_connect, show (d.withRecords y).outages = d.outages from rfl]
  cases d.outages.unreachable kind key turn <;> rfl

theorem object (key : String) (missing : Fault) : Apart (Op.object key missing) := by
  intro d y
  rw [exec_object, exec_object, show (d.withRecords y).store = d.store from rfl]
  cases d.store.get? key <;> rfl

theorem storeObject (key : String) (c : Content) : Apart (Op.storeObject key c) := fun _ _ => rfl

theorem dropObject (key : String) : Apart (Op.dropObject key) := fun _ _ => rfl

theorem sleep (n : Nat) : Apart (Op.sleep n) := fun _ _ => rfl

theorem pagesUnder (size : Nat) (start : String) : Apart (Op.pagesUnder size start) := fun _ _ => rfl

theorem foldPages {σ : Type} {start : String} {work : σ → List String → Op σ}
    (h : ∀ s page, Apart (work s page)) :
    ∀ (s : σ) (ps : List (Nat × List String)), Apart (Op.foldPages start work s ps)
  | s, [] => pure s
  | s, (_, page) :: ps => bind (reach _ _ _) fun _ => bind (h s page) fun s' => foldPages h s' ps

theorem properties (key : String) (look : Nat) : Apart (Container.properties key look) := by
  refine bind (reach _ _ _) fun _ => bind (object _ _) fun _ => fun d y => ?_
  rw [exec_bind_ok (exec_get _), exec_bind_ok (exec_get _),
    show (d.withRecords y).pendingCopies = d.pendingCopies from rfl]
  by_cases h : d.pendingCopies = 0
  · rw [if_pos h, if_pos h]
    rfl
  · rw [if_neg h, if_neg h]
    rfl

end Apart

end Op

section
open Op

theorem Bucket.apart_archiveKeys (f : ReportFolder) :
    ∀ keys, Apart (Bucket.archiveKeys f keys)
  | [] => .pure _
  | key :: keys => by
    refine .bind (.bind (.reach _ _ _) fun _ => .bind (.object _ _) fun _ => .storeObject _ _)
      fun _ => ?_
    exact .bind (.bind (.reach _ _ _) fun _ => .dropObject _) fun _ => apart_archiveKeys f keys

theorem Container.apart_copy (source target : String) : Apart (Container.copy source target) :=
  .bind (.reach _ _ _) fun _ => .bind (.object _ _) fun _ => fun _ _ => rfl

theorem Container.apart_awaitCopy (key : String) :
    ∀ looks n, Apart (Container.awaitCopy key looks n)
  | _, 0 => .pure _
  | looks, n + 1 =>
    .bind (.sleep 1) fun _ => .bind (.properties key looks) fun _ =>
      .ite (apart_awaitCopy key (looks + 1) n) (.pure _)

theorem Container.apart_archiveKey (f : ReportFolder) (key : String) :
    Apart (Container.archiveKey f key) := by
  refine .bind (.attempt ?_) fun _ => .succeeds ?_
  · exact .bind (Container.apart_copy _ _) fun _ => .bind (.properties _ _) fun _ =>
      .ite (Container.apart_awaitCopy _ _ _) (.pure _)
  · exact .bind (.reach _ _ _) fun _ => .bind (.object _ _) fun _ => .dropObject _

theorem Container.apart_archiveKeys (f : ReportFolder) :
    ∀ left keys, Apart (Container.archiveKeys f left keys)
  | left, [] => .pure left
  | _, key :: keys =>
    .bind (Container.apart_archiveKey f key) fun _ => apart_archiveKeys f _ keys

theorem apart_archiveFolder (p : Provider) (f : ReportFolder) : Apart (archiveFolder p f) := by
  cases p with
  | aws =>
    exact .bind (.connect _ _ _) fun _ => .bind (.pagesUnder _ _) fun _ =>
      .foldPages (fun _ page => Bucket.apart_archiveKeys f page) _ _
  | azure =>
    exact .bind (.connect _ _ _) fun _ => .bind (.pagesUnder _ _) fun _ =>
      .bind (.foldPages (Container.apart_archiveKeys f) _ _) fun _ => .ite (.throw _) (.pure _)

end

/-! ## The archive of a report -/

namespace Deployment

variable {d : Deployment} {p : Provider} {f : ReportFolder}

/-- The deployment with another catalogue. -/
def withDb (d : Deployment) (db : Database) : Deployment := { d with db := db }

@[simp] theorem withDb_db (d : Deployment) (db : Database) : (d.withDb db).db = db := rfl

@[simp] theorem withDb_withDb (d : Deployment) (db db' : Database) :
    (d.withDb db).withDb db' = d.withDb db' := rfl

@[simp] theorem provider?_withDb (d : Deployment) (db : Database) :
    (d.withDb db).provider? = d.provider? :=
  provider?_congr rfl

/-- The deployment after the objects of a removed report were archived or set down for it. -/
def archived (p : Provider) (f : ReportFolder) (time : ArchiveTime) (d : Deployment) : Deployment :=
  match time with
  | .now => ((archiveFolder p f).exec d).2
  | .later => { d with tasks := ⟨"run_storage_tasks", [], some (p, f)⟩ :: d.tasks }

/-- Whether the objects of a removed report are waited for in vain. -/
def overdue (p : Provider) (f : ReportFolder) (time : ArchiveTime) (d : Deployment) : Bool :=
  match time with
  | .now => archiveLimit < d.archiveSeconds f ((d.archived p f .now).slept - d.slept)
  | .later => false

theorem records_archived (p : Provider) (f : ReportFolder) (time : ArchiveTime) (d : Deployment) :
    (d.archived p f time).records = d.records := by
  cases time with
  | now => exact (apart_archiveFolder p f).keeps d
  | later => rfl

@[simp] theorem archived_db (p : Provider) (f : ReportFolder) (time : ArchiveTime)
    (d : Deployment) : (d.archived p f time).db = d.db :=
  congrArg (·.1) (records_archived p f time d)

@[simp] theorem archived_env (p : Provider) (f : ReportFolder) (time : ArchiveTime)
    (d : Deployment) : (d.archived p f time).env = d.env :=
  congrArg (·.2.1) (records_archived p f time d)

/-- What becomes of the objects of a report does not depend on the catalogue. -/
theorem archived_withDb (p : Provider) (f : ReportFolder) (time : ArchiveTime) (d : Deployment)
    (db : Database) :
    (d.withDb db).archived p f time = (d.archived p f time).withDb db := by
  cases time with
  | now =>
    have h := congrArg (·.2) (apart_archiveFolder p f d (db, d.env, d.archiveSeconds))
    have hrecords : (((archiveFolder p f).exec d).2).records = d.records :=
      (apart_archiveFolder p f).keeps d
    refine (show (d.withDb db).archived p f .now = _ from h).trans ?_
    rw [← show _ = d.env from congrArg (·.2.1) hrecords,
      ← show _ = d.archiveSeconds from congrArg (·.2.2) hrecords]
    rfl
  | later => rfl

@[simp] theorem overdue_withDb (p : Provider) (f : ReportFolder) (time : ArchiveTime)
    (d : Deployment) (db : Database) :
    (d.withDb db).overdue p f time = d.overdue p f time := by
  cases time with
  | now =>
    unfold overdue
    dsimp only
    rw [archived_withDb]
    rfl
  | later => rfl

end Deployment

theorem exec_archiveInTime (p : Provider) (f : ReportFolder) (d : Deployment) :
    (archiveInTime p f).exec d =
      (if d.overdue p f .now then .error (overdue f.reportId) else .ok (), d.archived p f .now) := by
  have hseconds : (d.archived p f .now).archiveSeconds = d.archiveSeconds :=
    congrArg (·.2.2) (Deployment.records_archived p f .now d)
  rw [archiveInTime, Op.exec_bind_ok (Op.exec_get d), Op.exec_bind_ok (Op.exec_attempt _ d),
    Op.exec_bind_ok (Op.exec_get _), Deployment.overdue, ← hseconds]
  simp only [decide_eq_true_eq]
  change (if archiveLimit < (d.archived p f .now).archiveSeconds f
    ((d.archived p f .now).slept - d.slept) then _ else _ : Op Unit).exec (d.archived p f .now) = _
  split <;> rfl

/-! ## The removal -/

section
variable {report : Option Id} {orgName : String} {time : ArchiveTime} {d : Deployment} {r : Report}
open Op

theorem exec_removeReport_error {e : Fault} (h : d.db.report? report = .error e) :
    (removeReport report orgName time).exec d = (.error e, d) := by
  rw [removeReport, exec_bind_ok (exec_db d)]
  exact exec_bind_error (by rw [exec_ofExcept, h])

theorem exec_removeReport_none (h : d.db.report? report = .ok none) :
    (removeReport report orgName time).exec d = (.ok false, d) := by
  rw [removeReport, exec_bind_ok (exec_db d), exec_bind_ok (by rw [exec_ofExcept, h])]
  rfl

/-- The fault of an unknown provider. -/
def unknownProvider (d : Deployment) : Fault :=
  .badValue ("Unsupported CLOUD_PROVIDER=" ++ d.providerName)

/-- With an unknown provider the visuals are gone and nothing else. -/
theorem exec_removeReport_unsupported (orgName : String) (time : ArchiveTime)
    (h : d.db.report? report = .ok (some r))
    (hp : d.provider? = none) :
    (removeReport report orgName time).exec d =
      (.error (unknownProvider d), d.withDb (d.db.removeVisuals r.id)) := by
  rw [removeReport, exec_bind_ok (exec_db d), exec_bind_ok (by rw [exec_ofExcept, h])]
  refine (exec_bind_ok (exec_change _ d)).trans (exec_bind_error ?_)
  have hp' := (d.provider?_withDb (d.db.removeVisuals r.id)).trans hp
  rw [Deployment.withDb] at hp'
  rw [exec_provider, hp']
  rfl

/-- With a known provider the objects are archived in any case. If they are waited for in vain, only the
    visuals are gone, else the report is. -/
theorem exec_removeReport_some {p : Provider} (orgName : String) (time : ArchiveTime)
    (h : d.db.report? report = .ok (some r))
    (hp : d.provider? = some p) :
    let f : ReportFolder := ⟨orgName, r.reportId⟩
    (removeReport report orgName time).exec d =
      if d.overdue p f time then
        (.error (overdue r.reportId), (d.archived p f time).withDb (d.db.removeVisuals r.id))
      else
        (.ok true,
          (d.archived p f time).withDb ((d.db.removeVisuals r.id).removeReport r.id)) := by
  intro f
  rw [removeReport, exec_bind_ok (exec_db d), exec_bind_ok (by rw [exec_ofExcept, h])]
  have hp' := (d.provider?_withDb (d.db.removeVisuals r.id)).trans hp
  rw [Deployment.withDb] at hp'
  refine (exec_bind_ok (exec_change _ d)).trans ?_
  refine (exec_bind_ok (by rw [exec_provider, hp'])).trans ?_
  cases time with
  | later => rfl
  | now =>
    have hexec := exec_archiveInTime p f (d.withDb (d.db.removeVisuals r.id))
    rw [Deployment.overdue_withDb, Deployment.archived_withDb] at hexec
    cases hlate : d.overdue p f .now with
    | true =>
      rw [hlate] at hexec
      exact exec_bind_error hexec
    | false =>
      rw [hlate] at hexec
      exact exec_bind_ok hexec

theorem exec_removeReport_snd {p : Provider} (orgName : String) (time : ArchiveTime)
    (h : d.db.report? report = .ok (some r))
    (hp : d.provider? = some p) :
    ∃ db, ((removeReport report orgName time).exec d).2 =
      (d.archived p ⟨orgName, r.reportId⟩ time).withDb db := by
  rw [exec_removeReport_some orgName time h hp]
  split
  · exact ⟨_, rfl⟩
  · exact ⟨_, rfl⟩

end

end ReportMigration
