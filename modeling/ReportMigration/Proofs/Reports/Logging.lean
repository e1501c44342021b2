import ReportMigration.Proofs.Catalogue.Entry
import ReportMigration.Reports.Log
import ReportMigration.Sample.Catalogue
/-!
The entries that events make in the log of a report.

An event has a status, a free word, and the kind of the entry is looked up in lists of words.

* `exec_addLog_eq_ok_iff`: when an entry is added, and that nothing else changes;
* `Event.level`: the kind that an event calls for, `Event.Unlisted`: the events whose word is in no list;
* `Event.ofJson_status_of_not_unlisted`: the words of the others are in the right list;
* `log_levels_iff`: an event adds one entry, of the kind that it calls for exactly if its word is listed.
-/
namespace ReportMigration

/-! ## Entries -/

theorem Database.addLog_eq_ok_iff {db db' : Database} {l : Log} : db.addLog l = .ok db' ↔
    ((∀ x ∈ db.logs, x.id ≠ l.id) ∧ db.hasReport l.reportId = true ∧ db.hasUser l.createdBy = true) ∧
      db' = { db with logs := db.logs ++ [l] } := by
  constructor
  · intro h
    obtain ⟨hid, h⟩ := eq_ok_of_check h
    obtain ⟨hplaced, h⟩ := eq_ok_of_check h
    cases h
    exact ⟨⟨unrepeated_eq_ok hid, Bool.and_eq_true_iff.1 (resolved_eq_ok hplaced)⟩, rfl⟩
  · rintro ⟨⟨hid, hreport, huser⟩, rfl⟩
    rw [addLog, unrepeated_of_forall _ _ hid, hreport, huser]
    rfl

section
variable {d d' : Deployment} {report user : Option Id} {status message : Option String}

/-- The entry that is made next. -/
def Deployment.nextLog (d : Deployment) (report : Id) (status message : String) (user : Id) : Log where
  id := .drawn (d.drawn + 1)
  reportId := report
  timestamp := d.nextTime
  status := status
  message := message
  createdBy := user
  isDeleted := some false

/-- The deployment once an entry was added. -/
def Deployment.withLog (d : Deployment) (l : Log) : Deployment :=
  { d with db := { d.db with logs := d.db.logs ++ [l] }, drawn := d.drawn + 1, ticks := d.ticks + 1 }

/-- Entries can be made for reports and users that there are, if the next identifier is free. -/
structure Deployment.TakesLog (d : Deployment) (report user : Id) : Prop where
  report : d.db.hasReport report = true
  user : d.db.hasUser user = true
  free : ∀ l ∈ d.db.logs, l.id ≠ .drawn (d.drawn + 1)

theorem Log.filled_eq_ok_iff {i : Id} {t : Timestamp} {l : Log} :
    Log.filled i t report status message user = .ok l ↔
      ∃ r s m u, report = some r ∧ status = some s ∧ message = some m ∧ user = some u ∧
        l = ⟨i, r, t, s, m, u, some false⟩ := by
  constructor
  · intro h
    obtain ⟨r, hr, h⟩ := exists_of_bind_eq_ok h
    obtain ⟨s, hs, h⟩ := exists_of_bind_eq_ok h
    obtain ⟨m, hm, h⟩ := exists_of_bind_eq_ok h
    obtain ⟨u, hu, h⟩ := exists_of_bind_eq_ok h
    cases h
    exact ⟨r, s, m, u, required_eq_ok hr, required_eq_ok hs, required_eq_ok hm, required_eq_ok hu, rfl⟩
  · rintro ⟨r, s, m, u, rfl, rfl, rfl, rfl, rfl⟩
    rfl

theorem exec_addLog_eq_ok_iff : (addLog report status message user).exec d = (.ok (), d') ↔
    ∃ r s m u, report = some r ∧ status = some s ∧ message = some m ∧ user = some u ∧ d.TakesLog r u ∧
      d' = d.withLog (d.nextLog r s m u) := by
  rw [addLog, Op.exec_bind_ok (Op.exec_now d), Op.exec_transaction_eq_ok_iff,
    Op.exec_bind_ok (Op.exec_drawId _)]
  constructor
  · intro h
    obtain ⟨l, d₁, hmade, h⟩ := Op.exists_of_exec_bind h
    rw [Op.exec_ofExcept] at hmade
    obtain ⟨hfilled, hd₁⟩ := Prod.mk.inj hmade
    obtain ⟨r, s, m, u, hr, hs, hm, hu, rfl⟩ := Log.filled_eq_ok_iff.1 hfilled
    obtain ⟨db, hdb, rfl⟩ := Op.exec_write_eq_ok_iff.1 h
    subst hd₁
    obtain ⟨⟨hfree, hreport, huser⟩, rfl⟩ := Database.addLog_eq_ok_iff.1 hdb
    exact ⟨r, s, m, u, hr, hs, hm, hu, ⟨hreport, huser, hfree⟩, rfl⟩
  · rintro ⟨r, s, m, u, rfl, rfl, rfl, rfl, htakes, rfl⟩
    have hfilled : Log.filled (.drawn (d.drawn + 1)) d.nextTime (some r) (some s) (some m) (some u) =
        .ok (d.nextLog r s m u) := rfl
    dsimp only
    rw [hfilled, Op.exec_bind_ok (Op.exec_ofExcept _ _)]
    exact Op.exec_write_ok (Database.addLog_eq_ok_iff.2 ⟨⟨htakes.free, htakes.report, htakes.user⟩, rfl⟩)

end

/-! ## Kinds -/

namespace Event

/-- The kind of entry that an event calls for. -/
def level : Event → LogLevel
  | start | progress _ => .info
  | success _ => .success
  | failure _ => .error

/-- The events whose word should be in a list, and is in none. -/
inductive Unlisted : Activity → Event → Prop
  | analysed (details : Option String) : Unlisted .analysis (.success details)
  | modelled (details : Option String) : Unlisted .semanticModel (.success details)
  | notModelled (message : String) : Unlisted .semanticModel (.failure message)

/-- The words of all events, with the kind that each stands for. -/
def words : List (String × LogLevel) := [
  ("MIGRATION_STARTED", .info), ("SUCCESS", .success), ("FAILURE", .error),
  ("DAX_CALCULATION_IN_PROGRESS", .info), ("DAX_CALCULATION_COMPLETED", .success),
  ("DAX_CALCULATION_FAILED", .error), ("ANALYSIS_STARTED", .info), ("ANALYSIS_COMPLETED", .info),
  ("ANALYSIS_FAILED", .error), ("SEMANTIC_MODEL_STARTED", .info), ("SEMANTIC_MODEL_COMPLETED", .info),
  ("SEMANTIC_MODEL_FAILED", .info), ("IN_PROGRESS", .info)]

theorem ofJson_of_mem_words {w : String × LogLevel} (h : w ∈ words) : LogLevel.ofJson (.str w.1) = w.2 := by
  have hwords : ∀ w ∈ words, LogLevel.ofJson (.str w.1) = w.2 := by decide +kernel
  exact hwords w h

/-- A word in no list stands for information. -/
theorem ofJson_status_of_unlisted {a : Activity} {e : Event} (h : Unlisted a e) :
    LogLevel.ofJson (.str (e.status a)) = .info := by
  have hmem : (e.status a, .info) ∈ words := by
    cases h <;> simp [words, status]
  exact ofJson_of_mem_words hmem

/-- The other words stand for what the event calls for. -/
theorem ofJson_status_of_not_unlisted {a : Activity} {e : Event} (h : ¬ Unlisted a e) :
    LogLevel.ofJson (.str (e.status a)) = e.level := by
  have hmem : (e.status a, e.level) ∈ words := by
    cases e with
    | start => cases a <;> simp [words, status, level]
    | progress message => cases a <;> simp [words, status, level]
    | success details =>
      cases a with
      | migration => simp [words, status, level]
      | conversion => simp [words, status, level]
      | analysis => exact absurd (.analysed details) h
      | semanticModel => exact absurd (.modelled details) h
    | failure message =>
      cases a with
      | semanticModel => exact absurd (.notModelled message) h
      | _ => simp [words, status, level]
  exact ofJson_of_mem_words hmem

theorem level_ne_info_of_unlisted {a : Activity} {e : Event} (h : Unlisted a e) : e.level.text ≠ "info" := by
  cases h <;> simp [level, LogLevel.text]

end Event

/-- An event adds one entry, for its report and user, wherever there are such, and changes nothing else but
    the identifiers and moments used up. The entry is of the kind that the event calls for exactly if its
    word is in a list; else the entry is information. -/
theorem log_levels_iff (a : Activity) (e : Event) (report user : Option Id) (d : Deployment) :
    (((logEvent a e report user).exec d).1 = .ok () ↔
      ∃ r u, report = some r ∧ user = some u ∧ d.TakesLog r u) ∧
    ∀ d', (logEvent a e report user).exec d = (.ok (), d') →
      ∃ r u l, report = some r ∧ user = some u ∧ d' = d.withLog l ∧
        l = d.nextLog r l.status (e.message a) u ∧
        (l.status = e.level.text ↔ ¬ Event.Unlisted a e) ∧
        (Event.Unlisted a e → l.status = LogLevel.info.text) := by
  have hexec : ∀ d', (logEvent a e report user).exec d = (.ok (), d') ↔
      ∃ r u, report = some r ∧ user = some u ∧ d.TakesLog r u ∧
        d' = d.withLog (d.nextLog r (LogLevel.ofJson (.str (e.status a))).text (e.message a) u) := by
    intro d'
    rw [logEvent, log, exec_addLog_eq_ok_iff]
    constructor
    · rintro ⟨r, s, m, u, hr, hs, hm, hu, htakes, rfl⟩
      cases hs
      cases hm
      exact ⟨r, u, hr, hu, htakes, rfl⟩
    · rintro ⟨r, u, hr, hu, htakes, rfl⟩
      exact ⟨r, _, _, u, hr, rfl, rfl, hu, htakes, rfl⟩
  refine ⟨⟨fun h => ?_, ?_⟩, fun d' h => ?_⟩
  · obtain ⟨r, u, hr, hu, htakes, -⟩ := (hexec _).1 (Prod.ext h rfl)
    exact ⟨r, u, hr, hu, htakes⟩
  · rintro ⟨r, u, hr, hu, htakes⟩
    rw [(hexec _).2 ⟨r, u, hr, hu, htakes, rfl⟩]
  · obtain ⟨r, u, hr, hu, -, rfl⟩ := (hexec d').1 h
    refine ⟨r, u, _, hr, hu, rfl, rfl, ⟨fun hlevel hunlisted => ?_, fun hlisted => ?_⟩, fun hunlisted => ?_⟩
    · rw [Deployment.nextLog, Event.ofJson_status_of_unlisted hunlisted] at hlevel
      exact Event.level_ne_info_of_unlisted hunlisted hlevel.symm
    · exact congrArg LogLevel.text (Event.ofJson_status_of_not_unlisted hlisted)
    · exact congrArg LogLevel.text (Event.ofJson_status_of_unlisted hunlisted)

/-- A finished analysis and a model that could not be made are both noted as mere information. -/
theorem log_levels_iff_unlisted :
    let d : Deployment := { db := { users := [Sample.user 0], reports := [Sample.report (Sample.projectId 0) 0] } }
    ∀ w ∈ [(Activity.analysis, Event.success none), (Activity.semanticModel, Event.failure "no table")],
      ∃ l, (logEvent w.1 w.2 (some (Sample.reportId 0)) (some (Sample.userId 0))).exec d =
        (.ok (), d.withLog l) ∧ l.status = "info" := by
  intro d w hw
  have hunlisted : Event.Unlisted w.1 w.2 := by
    simp only [List.mem_cons, List.not_mem_nil, or_false] at hw
    obtain rfl | rfl := hw
    · exact .analysed none
    · exact .notModelled "no table"
  have htakes : d.TakesLog (Sample.reportId 0) (Sample.userId 0) :=
    ⟨by decide +kernel, by decide +kernel, fun l hl => by cases hl⟩
  obtain ⟨hok, hrow⟩ := log_levels_iff w.1 w.2 (some (Sample.reportId 0)) (some (Sample.userId 0)) d
  obtain ⟨r, u, l, -, -, hd', -, -, hinfo⟩ := hrow _ (Prod.ext (hok.2 ⟨_, _, rfl, rfl, htakes⟩) rfl)
  refine ⟨l, ?_, hinfo hunlisted⟩
  rw [← hd']
  exact Prod.ext (hok.2 ⟨_, _, rfl, rfl, htakes⟩) rfl

end ReportMigration
