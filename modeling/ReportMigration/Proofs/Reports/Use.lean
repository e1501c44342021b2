import ReportMigration.Proofs.Execution
import ReportMigration.Reports.Report
import ReportMigration.Sample.Catalogue
/-!
Batches of figures on the use of reports.

An item of a batch is a map that names reports, by their name in object storage, and gives a figure for
them. Many reports may go by one name, and many items may give the same name.

* `UseFigure.noteOf? f fs`: the name and the figure that an item gives;
* `lastFigure? notes i`: the figure of the last note for a name;
* `Database.noted db set notes`: the catalogue in which every report that is noted has the figure of
  the last note for its name;
* `UseFigure.exec_note_some` and its companions say what one item does, `UseFigure.exec_noteAll` and
  `UseFigure.exec_noteAll_error` what a batch does, by induction on its items;
* `exec_updateUse`: what the two batches answer and leave.
-/
namespace ReportMigration

variable {α : Type} {notes : List (Id × α)} {i : Id}

/-! ## Notes -/

/-- The figure of the last note for a name. -/
def lastFigure? (notes : List (Id × α)) (i : Id) : Option α :=
  (notes.filter (·.1 = i)).getLast?.map (·.2)

theorem lastFigure?_cons (note : Id × α) (notes : List (Id × α)) (i : Id) :
    lastFigure? (note :: notes) i =
      (lastFigure? notes i).or (if note.1 = i then some note.2 else none) := by
  unfold lastFigure?
  by_cases h : note.1 = i
  · rw [List.filter_cons_of_pos (by simpa using h), List.getLast?_cons, if_pos h]
    cases (notes.filter (·.1 = i)).getLast? <;> rfl
  · rw [List.filter_cons_of_neg (by simpa using h), if_neg h, Option.or_none]

namespace Database

/-- How many rows some notes are written to, one note after the other. -/
def rowsNoted (db : Database) (notes : List (Id × α)) : Nat :=
  (notes.map fun note => (db.reports.filter (·.reportId = note.1)).length).foldr (· + ·) 0

/-- The catalogue in which `set` has put into every report the figure of the last note for its name. -/
def noted (db : Database) (set : α → Report → Report) (notes : List (Id × α)) : Database :=
  { db with reports := db.reports.map fun r =>
      match lastFigure? notes r.reportId with
      | some a => set a r
      | none => r }

theorem noted_nil (db : Database) (set : α → Report → Report) : db.noted set [] = db := by
  simp [noted, lastFigure?]

end Database

namespace UseFigure

variable {f : UseFigure α} {fs : List (String × Value)} {items : List (List (String × Value))}
  {d : Deployment} {a : α}

/-- The name and the figure that an item gives, if it gives both and the column takes the figure. -/
def noteOf? (f : UseFigure α) (fs : List (String × Value)) : Option (Id × α) :=
  let report := (Value.field? "report_id" fs).getD .null
  let given := (Value.field? f.entry fs).getD .null
  if report.isTruthy then (f.read? given).map (⟨report.display⟩, ·) else none

/-- The row of a report once a figure was written to it. -/
def written (f : UseFigure α) (a : α) (r : Report) : Report := { f.put a r with updatedAt := .epoch }

theorem reportId_written (f : UseFigure α) (a : α) (r : Report) :
    (f.written a r).reportId = r.reportId := (f.put_keys a r).2.2

theorem written_written (f : UseFigure α) (a b : α) (r : Report) :
    f.written b (f.written a r) = f.written b r := f.put_put a b r .epoch

/-! ## One item -/

theorem updateStoredAs_eq (db : Database) (i : Id) (f : UseFigure α) (a : α) :
    (db.updateStoredAs i (f.put a)).reports =
      db.reports.map fun r => if r.reportId = i then f.written a r else r := rfl

/-- A figure that is written leaves the names of all reports as they are. -/
theorem rowsNoted_updateStoredAs (db : Database) (i : Id) (f : UseFigure α) (a : α)
    (notes : List (Id × α)) :
    (db.updateStoredAs i (f.put a)).rowsNoted notes = db.rowsNoted notes := by
  have hid : ∀ r : Report, (if r.reportId = i then f.written a r else r).reportId = r.reportId := by
    intro r
    split
    · exact f.reportId_written a r
    · rfl
  unfold Database.rowsNoted
  congr 1
  refine List.map_congr_left fun note _ => ?_
  rw [updateStoredAs_eq, List.filter_map, List.length_map]
  congr 1
  refine List.filter_congr fun r _ => ?_
  simp only [Function.comp_apply, hid]

/-- The notes after the first one overwrite it. -/
theorem noted_updateStoredAs (db : Database) (i : Id) (f : UseFigure α) (a : α)
    (notes : List (Id × α)) :
    (db.updateStoredAs i (f.put a)).noted f.written notes = db.noted f.written ((i, a) :: notes) := by
  unfold Database.noted
  rw [updateStoredAs_eq, List.map_map]
  congr 1
  refine List.map_congr_left fun r _ => ?_
  simp only [Function.comp_apply, lastFigure?_cons]
  by_cases h : r.reportId = i
  · rw [if_pos h, reportId_written, if_pos h.symm]
    cases lastFigure? notes r.reportId with
    | none => rfl
    | some b => exact f.written_written a b r
  · rw [if_neg h, if_neg (Ne.symm h), Option.or_none]

theorem entry_map (fs : List (String × Value)) (k : String) :
    (Value.map fs).entry k = .ok ((Value.field? k fs).getD .null) := rfl

theorem exec_note_none (h : f.noteOf? fs = none) : (f.note (.map fs)).exec d = (.ok 0, d) := by
  unfold noteOf? at h
  simp only [note, entry_map, Op.exec_bind, Op.exec_ofExcept]
  by_cases ht : ((Value.field? "report_id" fs).getD .null).isTruthy = true
  · rw [if_pos ht, Option.map_eq_none_iff] at h
    rw [if_pos ht, h]
    rfl
  · rw [if_neg ht]
    rfl

theorem exec_note_some (h : f.noteOf? fs = some (i, a)) :
    (f.note (.map fs)).exec d = (f.write i a).exec d := by
  unfold noteOf? at h
  simp only [note, entry_map, Op.exec_bind, Op.exec_ofExcept]
  by_cases ht : ((Value.field? "report_id" fs).getD .null).isTruthy = true
  · rw [if_pos ht] at h ⊢
    obtain ⟨b, hb, hpair⟩ := Option.map_eq_some_iff.1 h
    cases hpair
    rw [hb]
  · rw [if_neg ht] at h
    cases h

theorem exec_write (h : f.check a = .ok ()) : (f.write i a).exec d =
    (.ok (d.db.reportsStoredAs i).length, { d with db := d.db.updateStoredAs i (f.put a) }) := by
  rw [write, h]
  rfl

theorem exec_write_error {e : Fault} (h : f.check a = .error e) :
    (f.write i a).exec d = (.error e, d) := by
  rw [write, h]
  rfl

/-! ## A batch -/

/-- A batch of which every figure has room: all rows are counted, item by item, and the last item for
    a name counts. -/
theorem exec_noteAll (h : ∀ note ∈ items.filterMap f.noteOf?, f.check note.2 = .ok ()) :
    (f.noteAll (items.map .map)).exec d =
      (.ok (d.db.rowsNoted (items.filterMap f.noteOf?)),
        { d with db := d.db.noted f.written (items.filterMap f.noteOf?) }) := by
  induction items generalizing d with
  | nil => rw [List.filterMap_nil, Database.noted_nil]; rfl
  | cons fs items ih =>
    rw [List.map_cons, noteAll]
    cases hnote : f.noteOf? fs with
    | none =>
      rw [List.filterMap_cons_none hnote] at h ⊢
      rw [Op.exec_bind_ok (exec_note_none hnote), Op.exec_bind_ok (ih h), Nat.zero_add]
      rfl
    | some note =>
      obtain ⟨i, a⟩ := note
      rw [List.filterMap_cons_some hnote] at h ⊢
      have hfirst := (exec_note_some (d := d) hnote).trans (exec_write (h _ List.mem_cons_self))
      have hrest := ih (d := { d with db := d.db.updateStoredAs i (f.put a) }) fun note hm =>
        h note (List.mem_cons_of_mem _ hm)
      rw [Op.exec_bind_ok hfirst, Op.exec_bind_ok hrest, rowsNoted_updateStoredAs,
        noted_updateStoredAs]
      rfl

/-- A batch with a figure that has no room fails, and nothing but the catalogue can have changed. -/
theorem exec_noteAll_error {e : Fault} (he : ∀ b, f.check b = .ok () ∨ f.check b = .error e)
    (h : ∃ note ∈ items.filterMap f.noteOf?, f.check note.2 = .error e) :
    ∃ db, (f.noteAll (items.map .map)).exec d = (.error e, { d with db := db }) := by
  induction items generalizing d with
  | nil =>
    obtain ⟨note, hm, -⟩ := h
    cases hm
  | cons fs items ih =>
    rw [List.map_cons, noteAll]
    cases hnote : f.noteOf? fs with
    | none =>
      rw [List.filterMap_cons_none hnote] at h
      obtain ⟨db, hdb⟩ := ih (d := d) h
      exact ⟨db, by rw [Op.exec_bind_ok (exec_note_none hnote), Op.exec_bind_error hdb]⟩
    | some note =>
      obtain ⟨i, a⟩ := note
      rw [List.filterMap_cons_some hnote] at h
      have hfirst := exec_note_some (d := d) hnote
      rcases he a with hok | herror
      · -- this item is written, so the one without room comes later
        obtain ⟨note, hm, hbad⟩ := h
        have hlater : note ∈ items.filterMap f.noteOf? := by
          rcases List.mem_cons.1 hm with rfl | hm
          · cases hok.symm.trans hbad
          · exact hm
        obtain ⟨db, hdb⟩ := ih (d := { d with db := d.db.updateStoredAs i (f.put a) })
          ⟨note, hlater, hbad⟩
        exact ⟨db, by rw [Op.exec_bind_ok (hfirst.trans (exec_write hok)), Op.exec_bind_error hdb]⟩
      · exact ⟨d.db, Op.exec_bind_error (hfirst.trans (exec_write_error herror))⟩

end UseFigure

/-! ## The two batches -/

theorem storable_cases (n : Option Int) : storable n = .ok () ∧ n.all fits = true ∨
    storable n = .error .tooLarge ∧ n.all fits = false := by
  unfold storable
  cases n.all fits with
  | true => exact .inl ⟨rfl, rfl⟩
  | false => exact .inr ⟨rfl, rfl⟩

/-- **Batches are applied in order**, those of user numbers all or not at all. The answer counts the
    rows that every item with a name and a figure is written to, and a row ends with the figure of the
    last item for its name; but for the time of the change nothing else is different. A number that
    the database has no room for undoes its batch, a time that is none is passed over. -/
theorem exec_updateUse (items : List (List (String × Value))) (d : Deployment) :
    let counts := items.filterMap UseFigure.userCount.noteOf?
    let times := items.filterMap UseFigure.lastViewed.noteOf?
    ((∀ note ∈ counts, fits note.2 = true) → (updateUserCounts (items.map .map)).exec d =
      (.ok (d.db.rowsNoted counts), { d with
        db := d.db.noted (fun n r => { r with userCount := some n, updatedAt := .epoch }) counts })) ∧
    ((∃ note ∈ counts, fits note.2 = false) →
      (updateUserCounts (items.map .map)).exec d = (.error .tooLarge, d)) ∧
    (updateLastViewed (items.map .map)).exec d =
      (.ok (d.db.rowsNoted times), { d with
        db := d.db.noted (fun t r => { r with lastViewed := some t, updatedAt := .epoch }) times }) := by
  intro counts times
  refine ⟨fun h => ?_, fun h => ?_, ?_⟩
  · refine Op.exec_transaction_ok (UseFigure.exec_noteAll fun note hm => ?_)
    rcases storable_cases note.2 with ⟨hok, -⟩ | ⟨-, hno⟩
    · exact hok
    · cases (h note hm).symm.trans hno
  · obtain ⟨note, hm, hno⟩ := h
    have hbad : storable note.2 = .error .tooLarge := by
      rcases storable_cases note.2 with ⟨-, hyes⟩ | ⟨herror, -⟩
      · cases hno.symm.trans hyes
      · exact herror
    obtain ⟨db, hdb⟩ := UseFigure.exec_noteAll_error (f := UseFigure.userCount) (d := d)
      (fun n => (storable_cases n).imp And.left And.left) ⟨note, hm, hbad⟩
    have hundone := Op.exec_transaction_error hdb
    exact hundone
  · exact Op.exec_transaction_ok (UseFigure.exec_noteAll fun _ _ => rfl)

/-- Two reports of one name and one of another. -/
def twinReports : Deployment where
  db :=
    { reports :=
        [Sample.reportAt (.ofNat 400) (.ofNat 500) (.ofNat 300),
          Sample.reportAt (.ofNat 401) (.ofNat 500) (.ofNat 300),
          Sample.reportAt (.ofNat 402) (.ofNat 501) (.ofNat 300)] }

/-- Items of which the first and the last name the same reports, the second names none, and the third
    gives nothing that a column takes. -/
def twinItems (last : Int) : List (List (String × Value)) :=
  [[("report_id", .id (.ofNat 500)), ("tableau_usercount", .int 3), ("last_viewed", .time .epoch)],
    [("report_id", .text ""), ("tableau_usercount", .int 9)],
    [("report_id", .id (.ofNat 501)), ("last_viewed", .text "today")],
    [("report_id", .text (Id.ofNat 500).text), ("tableau_usercount", .int last)]]

theorem exec_updateUse_twins :
    (∃ d, (updateUserCounts ((twinItems 7).map .map)).exec twinReports = (.ok 4, d) ∧
      d.db.reports.map (·.userCount) = [some 7, some 7, some 0]) ∧
    (updateUserCounts ((twinItems 0x8000000000000000).map .map)).exec twinReports =
      (.error .tooLarge, twinReports) ∧
    ∃ d, (updateLastViewed ((twinItems 7).map .map)).exec twinReports = (.ok 2, d) ∧
      d.db.reports.map (·.lastViewed) = [some .epoch, some .epoch, none] := by
  obtain ⟨hcounts, -, htimes⟩ := exec_updateUse (twinItems 7) twinReports
  have hfit : ∀ note ∈ (twinItems 7).filterMap UseFigure.userCount.noteOf?, fits note.2 = true := by
    decide +kernel
  have hover := (exec_updateUse (twinItems 0x8000000000000000) twinReports).2.1
  have hlarge : ∃ note ∈ (twinItems 0x8000000000000000).filterMap UseFigure.userCount.noteOf?,
      fits note.2 = false := by decide +kernel
  have hfour : twinReports.db.rowsNoted ((twinItems 7).filterMap UseFigure.userCount.noteOf?) = 4 := by
    decide +kernel
  have htwo : twinReports.db.rowsNoted ((twinItems 7).filterMap UseFigure.lastViewed.noteOf?) = 2 := by
    decide +kernel
  rw [hfour] at hcounts
  rw [htwo] at htimes
  exact ⟨⟨_, hcounts hfit, by decide +kernel⟩, hover hlarge, _, htimes, by decide +kernel⟩

end ReportMigration
