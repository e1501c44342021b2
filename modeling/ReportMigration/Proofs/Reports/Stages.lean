import Mathlib.Data.List.Induction
import Mathlib.Data.List.Nodup
import ReportMigration.Proofs.Catalogue.Entry
import ReportMigration.Proofs.Reports.Removal
import ReportMigration.Reports.Stage
import ReportMigration.Sample.Catalogue
/-!
What a report says of its stages after they were marked any number of times.

* `Mark`: a stage that is marked as succeeded or failed, `lastOutcome s ms`: how `s` was marked last;
* `Report.Follows ms r r'`: what `r'` keeps of `r`, and what it says after the marks `ms`;
* `follows_markAll`: every list of marks is followed, by induction from what one mark does;
* `markStages_iff`: in the catalogue only the report that is marked changes, and the flag of a stage
  and the status of the stage say the same exactly if the stage is the analysis or has succeeded.
-/
namespace ReportMigration

/-- A stage that is marked as succeeded or failed. -/
structure Mark where
  stage : StageName
  succeeded : Bool

/-- The status of a report that was marked last so. -/
def Mark.status (m : Mark) : ReportStatus := if m.succeeded then m.stage.completed else m.stage.failed

/-- How a stage was marked last, if it was. -/
def lastOutcome (s : StageName) (ms : List Mark) : Option Bool :=
  (ms.filter (·.stage = s)).getLast?.map (·.succeeded)

theorem lastOutcome_append (s : StageName) (ms : List Mark) (m : Mark) :
    lastOutcome s (ms ++ [m]) = if m.stage = s then some m.succeeded else lastOutcome s ms := by
  unfold lastOutcome
  rw [List.filter_append]
  by_cases h : m.stage = s <;> simp [h]

/-! ## One mark -/

namespace Report

variable (r : Report) (s : StageName) (b : Bool)

/-- The reports agree on everything but the stages, the status and the time of the last change. -/
def SameButStages (r r' : Report) : Prop :=
  r' = { r with
    analyzed := r'.analyzed, converted := r'.converted, migrated := r'.migrated,
    semantic := r'.semantic, status := r'.status, updatedAt := r'.updatedAt }

theorem SameButStages.refl : SameButStages r r := rfl

theorem SameButStages.trans {r r' r'' : Report} (h : SameButStages r r') (h' : SameButStages r' r'') :
    SameButStages r r'' := by
  unfold SameButStages at h h' ⊢
  rw [h', h]

theorem SameButStages.id_eq {r r' : Report} (h : SameButStages r r') : r'.id = r.id := by
  rw [h]

theorem SameButStages.projectId_eq {r r' : Report} (h : SameButStages r r') :
    r'.projectId = r.projectId := by
  rw [h]

theorem stage_setStage (x : Stage) (t : StageName) :
    (r.setStage x s).stage t = if t = s then x else r.stage t := by
  cases s <;> cases t <;> rfl

theorem sameButStages_setStage (x : Stage) : SameButStages r (r.setStage x s) := by
  cases s <;> rfl

/-- A mark makes a difference, or everything is as the mark would make it. -/
theorem mark_cases :
    r.mark s b = { r.setStage (s.record b) s with
        status := some (.known (Mark.status ⟨s, b⟩)), updatedAt := .epoch } ∨
      r.mark s b = r ∧ r.stage s = s.record b ∧
        r.status = some (.known (Mark.status ⟨s, b⟩)) := by
  by_cases h : (r.stage s).done = (s.record b).done ∧ (r.stage s).status = (s.record b).status ∧
      r.status = some (.known (Mark.status ⟨s, b⟩))
  · obtain ⟨hdone, hstage, hstatus⟩ := h
    refine .inr ⟨?_, ?_, hstatus⟩
    · exact if_pos (by simp [hdone, hstage, hstatus, Mark.status])
    · cases hs : r.stage s
      simp_all
  · refine .inl (if_neg ?_)
    simpa [Mark.status, and_assoc] using h

theorem stage_mark (t : StageName) :
    (r.mark s b).stage t = if t = s then s.record b else r.stage t := by
  rcases mark_cases r s b with h | ⟨h, hs, -⟩
  · rw [h, ← stage_setStage r s (s.record b) t]
    cases t <;> rfl
  · rw [h]
    split
    next ht => rw [ht, hs]
    next => rfl

theorem status_mark : (r.mark s b).status = some (.known (Mark.status ⟨s, b⟩)) := by
  rcases mark_cases r s b with h | ⟨h, -, hs⟩
  · rw [h]
  · rw [h, hs]

theorem sameButStages_mark : SameButStages r (r.mark s b) := by
  rcases mark_cases r s b with h | ⟨h, -⟩
  · rw [h]
    exact (sameButStages_setStage r s (s.record b)).trans rfl
  · rw [h]
    exact .refl r

theorem readable_mark : (r.mark s b).Readable := by
  intro c hc
  rw [status_mark] at hc
  cases hc
  trivial

/-! ## Many marks -/

/-- The report after some marks, the first of them first. -/
def markAll (r : Report) (ms : List Mark) : Report :=
  ms.foldl (fun r m => r.mark m.stage m.succeeded) r

theorem markAll_append (ms : List Mark) (m : Mark) :
    r.markAll (ms ++ [m]) = (r.markAll ms).mark m.stage m.succeeded := by
  simp [markAll]

/-- What the report `r` has become once it was marked. -/
structure Follows (ms : List Mark) (r r' : Report) : Prop where
  /-- A stage that was marked says how it was marked last. -/
  marked : ∀ s b, lastOutcome s ms = some b → r'.stage s = s.record b
  /-- A stage that was not marked is as it was. -/
  unmarked : ∀ s, lastOutcome s ms = none → r'.stage s = r.stage s
  /-- The status of the report is that of the last mark. -/
  status : r'.status = match ms.getLast? with
    | some m => some (.known m.status)
    | none => r.status
  /-- Everything else is as it was. -/
  rest : SameButStages r r'

theorem Follows.append {ms : List Mark} {r r' : Report} (h : Follows ms r r') (m : Mark) :
    Follows (ms ++ [m]) r (r'.mark m.stage m.succeeded) where
  marked s b hb := by
    rw [stage_mark]
    rw [lastOutcome_append] at hb
    by_cases hs : m.stage = s
    · rw [if_pos hs] at hb
      cases hb
      rw [if_pos hs.symm, hs]
    · rw [if_neg hs] at hb
      rw [if_neg (Ne.symm hs), h.marked s b hb]
  unmarked s hn := by
    rw [stage_mark]
    rw [lastOutcome_append] at hn
    by_cases hs : m.stage = s
    · rw [if_pos hs] at hn
      cases hn
    · rw [if_neg hs] at hn
      rw [if_neg (Ne.symm hs), h.unmarked s hn]
  status := by
    rw [status_mark, List.getLast?_append]
    rfl
  rest := h.rest.trans (sameButStages_mark r' m.stage m.succeeded)

theorem follows_markAll (ms : List Mark) : Follows ms r (r.markAll ms) := by
  induction ms using List.reverseRecOn with
  | nil => exact ⟨fun _ _ => nofun, fun _ _ => rfl, rfl, .refl r⟩
  | append_singleton ms m ih =>
    rw [markAll_append]
    exact ih.append m

end Report

/-! ## Flags and statuses of stages -/

namespace StageName

theorem failed_label_ne (s : StageName) : s.failed.label ≠ s.completed.label := by
  cases s <;> decide

/-- The flag of a stage and its status say the same, unless the stage failed and is not the
    analysis. -/
theorem record_agrees_iff (s : StageName) (b : Bool) :
    ((s.record b).done = some true ↔ (s.record b).status = some s.completed.label) ↔
      s = .analyzed ∨ b = true := by
  by_cases hs : s = .analyzed <;> cases b <;> simp [record, hs, failed_label_ne analyzed]

end StageName

/-! ## In the catalogue -/

namespace Database

variable {db : Database} {i : Id} {r : Report}

/-- The catalogue after some marks of one report, the first of them first. -/
def markStages (db : Database) (report : Option Id) (ms : List Mark) : Database :=
  ms.foldl (fun db m => db.markStage report m.stage m.succeeded) db

theorem markStages_append (db : Database) (report : Option Id) (ms : List Mark) (m : Mark) :
    db.markStages report (ms ++ [m]) =
      (db.markStages report ms).markStage report m.stage m.succeeded := by
  simp [markStages]

theorem setReport_setReport (db : Database) {r r' : Report} (h : r'.id = r.id) :
    (db.setReport r).setReport r' = db.setReport r' := by
  simp only [setReport, List.map_map]
  congr 1
  refine List.map_congr_left fun x _ => ?_
  by_cases hx : x.id = r.id <;> simp [h, hx]

/-- Where identifiers differ, a report that is found stands in its own place. -/
theorem setReport_self (hid : (db.reports.map (·.id)).Nodup) (hr : r ∈ db.reports) :
    db.setReport r = db := by
  unfold setReport
  rw [map_replace_self hid hr]

/-- A report that was put in the place of another is found there. -/
theorem report?_setReport {r' : Report} (hr : db.report? (some r'.id) = .ok (some r))
    (hr' : r'.Readable) : (db.setReport r').report? (some r'.id) = .ok (some r') := by
  obtain ⟨hmem, hri, -⟩ := report?_eq_ok_some hr
  have hmem' : r' ∈ (db.setReport r').reports :=
    List.mem_map.2 ⟨r, hmem, if_pos (Option.some.inj hri)⟩
  have hall : ∀ x ∈ (db.setReport r').reports, x.id = r'.id → x = r' := by
    intro x hx hxi
    obtain ⟨y, -, rfl⟩ := List.mem_map.1 hx
    split
    next => rfl
    next h => exact absurd (by rwa [if_neg h] at hxi) h
  have hreadable : ∀ x ∈ (db.setReport r').reports, x.id = r'.id → x.Readable := fun x hx hxi =>
    hall x hx hxi ▸ hr'
  obtain ⟨x, hx, -⟩ := exists_report? ⟨r', hmem', rfl⟩ hreadable
  obtain ⟨hxm, hxi, -⟩ := report?_eq_ok_some hx
  rw [hx, hall x hxm (Option.some.inj hxi)]

/-- Marks of a report that can be read change it alone. -/
theorem markStages_eq_setReport (hid : (db.reports.map (·.id)).Nodup)
    (hr : db.report? (some i) = .ok (some r)) (ms : List Mark) :
    db.markStages (some i) ms = db.setReport (r.markAll ms) ∧
      (db.markStages (some i) ms).report? (some i) = .ok (some (r.markAll ms)) := by
  obtain ⟨hmem, hri, -⟩ := report?_eq_ok_some hr
  obtain rfl := Option.some.inj hri
  induction ms using List.reverseRecOn with
  | nil => exact ⟨(setReport_self hid hmem).symm, hr⟩
  | append_singleton ms m ih =>
    obtain ⟨heq, hfound⟩ := ih
    have hidm := (r.follows_markAll ms).rest.id_eq
    have hidm' := (r.follows_markAll (ms ++ [m])).rest.id_eq
    have hstep : db.markStages (some r.id) (ms ++ [m]) = db.setReport (r.markAll (ms ++ [m])) := by
      rw [markStages_append, markStage, hfound]
      dsimp only
      rw [heq, Report.markAll_append,
        setReport_setReport db (Report.sameButStages_mark _ m.stage m.succeeded).id_eq]
    refine ⟨hstep, ?_⟩
    rw [hstep, ← hidm']
    refine report?_setReport (by rw [hidm', hr]) ?_
    rw [Report.markAll_append]
    exact Report.readable_mark _ _ _

/-- Marks of a report that is not there or cannot be read change nothing. -/
theorem markStages_of_not_found {report : Option Id} (h : ∀ r, db.report? report ≠ .ok (some r))
    (ms : List Mark) : db.markStages report ms = db := by
  induction ms with
  | nil => rfl
  | cons m ms ih =>
    have hstep : db.markStage report m.stage m.succeeded = db := by
      unfold markStage
      split
      next r hr => exact absurd hr (h r)
      next => rfl
    rw [markStages, List.foldl_cons, hstep]
    exact ih

end Database

/-- **The flag of a stage is how the stage was marked last; the status of the stage is not.** After
    any marks of a report that can be read, the report is what the marks say and nothing else has
    changed. The flag of a stage that was marked is raised exactly if the stage's status is the
    completed one, unless the last mark was a failure and the stage is not the analysis. A report
    that cannot be read is never changed. -/
theorem markStages_iff {db : Database} (hid : (db.reports.map (·.id)).Nodup) (i : Id)
    (ms : List Mark) :
    (∀ r, db.report? (some i) = .ok (some r) → ∃ r', Report.Follows ms r r' ∧
      db.markStages (some i) ms =
        { db with reports := db.reports.map fun x => if x.id = i then r' else x } ∧
      ∀ s b, lastOutcome s ms = some b →
        (r'.stage s).done = some b ∧
          (((r'.stage s).done = some true ↔ (r'.stage s).status = some s.completed.label) ↔
            s = .analyzed ∨ b = true)) ∧
      ((∀ r, db.report? (some i) ≠ .ok (some r)) → db.markStages (some i) ms = db) := by
  refine ⟨fun r hr => ?_, fun h => Database.markStages_of_not_found h ms⟩
  have hfollows := r.follows_markAll ms
  obtain ⟨-, hri, -⟩ := Database.report?_eq_ok_some hr
  have hi : (r.markAll ms).id = i := hfollows.rest.id_eq.trans (Option.some.inj hri)
  refine ⟨r.markAll ms, hfollows, ?_, fun s b hb => ?_⟩
  · rw [(Database.markStages_eq_setReport hid hr ms).1, Database.setReport, hi]
  · rw [hfollows.marked s b hb]
    exact ⟨rfl, s.record_agrees_iff b⟩

/-- Two reports. -/
def stagedDatabase : Database where
  reports := [Sample.reportAt (.ofNat 1) (.ofNat 500) (.ofNat 300),
    Sample.reportAt (.ofNat 2) (.ofNat 501) (.ofNat 300)]

/-- The second report is analysed at the second attempt, its conversion succeeds and fails later. -/
def stagedMarks : List Mark :=
  [⟨.analyzed, false⟩, ⟨.converted, true⟩, ⟨.analyzed, true⟩, ⟨.converted, false⟩]

theorem markStages_iff_converted :
    (stagedDatabase.reports.map (·.id)).Nodup ∧
      ∃ r', Report.Follows stagedMarks (Sample.reportAt (.ofNat 2) (.ofNat 501) (.ofNat 300)) r' ∧
        (stagedDatabase.markStages (some (.ofNat 2)) stagedMarks).reports =
          [Sample.reportAt (.ofNat 1) (.ofNat 500) (.ofNat 300), r'] ∧
        r'.converted.done = some false ∧
        ¬ (r'.converted.done = some true ↔
          r'.converted.status = some "DAX Calculation Completed") := by
  have hid : (stagedDatabase.reports.map (·.id)).Nodup := by decide +kernel
  obtain ⟨r', hfollows, heq, hstage⟩ := (markStages_iff hid (.ofNat 2) stagedMarks).1
    (Sample.reportAt (.ofNat 2) (.ofNat 501) (.ofNat 300)) rfl
  obtain ⟨hdone, hiff⟩ := hstage .converted false rfl
  refine ⟨hid, r', hfollows, ?_, hdone, fun h => ?_⟩
  · rw [heq]
    rfl
  · exact absurd (hiff.1 h) (by decide)

end ReportMigration
