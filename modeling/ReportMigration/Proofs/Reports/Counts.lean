import ReportMigration.Proofs.Catalogue.Frame
/-!
Writing the counts of a report, and reading them back.

Counts go into the analysis of the report, or into a first one. The writer takes the analysis also
where it is marked as deleted, the reader does not.

* `Database.TakesCounts`: what the counts, the report and its analysis must be like to be written;
* `updateCounts_cases`: counts are written exactly then, and otherwise the catalogue stays as it was;
* `Analysis.Holds`: what an analysis says once counts and a complexity were written into it;
* `updateCounts_readBack_iff`: what was written is what is read back, exactly if the analysis was not
  marked as deleted, the complexity is among the known ones and a first analysis is given every count.
-/
namespace ReportMigration

open Op

/-! ## Counts -/

namespace AnalysisCounts

/-- The database has room for each count. -/
def Fit (c : AnalysisCounts) : Prop := ∀ n ∈ c.toList, n.all fits = true

/-- Each count is a number. -/
def Given (c : AnalysisCounts) : Prop := ∀ n ∈ c.toList, n.isSome = true

end AnalysisCounts

theorem storable_eq_ok_iff {n : Option Int} {u : Unit} :
    storable n = .ok u ↔ u = () ∧ n.all fits = true := by
  unfold storable
  split
  next h => simp [h]
  next h => simp [h]

/-- Counts are stored if there is room for each of them. -/
theorem AnalysisCounts.mapM_storable (c : AnalysisCounts) :
    (∃ e, c.toList.mapM storable = .error e ∧ ¬ c.Fit) ∨
      (∃ us, c.toList.mapM storable = .ok us) ∧ c.Fit := by
  rcases mapM_answers (fun _ _ => storable_eq_ok_iff) c.toList with ⟨e, he, n, hn, hbad⟩ | ⟨hok, hall⟩
  · exact .inl ⟨e, he, fun hfit => hbad (hfit n hn)⟩
  · exact .inr ⟨⟨_, hok⟩, hall⟩

/-! ## Analyses with counts -/

namespace Analysis

variable {a : Analysis} {c : AnalysisCounts} {complexity : Option String}

/-- The row can be read back: its complexity, if it has one, is among the known ones. -/
def Readable (a : Analysis) : Prop := ∀ x, a.complexity = some x → x.Known

/-- What the analysis of a report says once counts and a complexity were written, where `old` is the
    analysis that it had before. -/
structure Holds (c : AnalysisCounts) (complexity : Option String) (old : Option Analysis)
    (a : Analysis) : Prop where
  counts : a.counts = c
  /-- The complexity that is given, if it is not empty. -/
  given : ∀ t, complexity = some t → t ≠ "" → a.complexity = some (.ofText t)
  /-- Otherwise the one it had, and a first analysis has none. -/
  kept : (∀ t, complexity = some t → t = "") → a.complexity = old.bind (·.complexity)
  /-- Everything else but the time of the change is as it was. -/
  rest : ∀ b, old = some b → a =
    { b.setCounts a.counts with
      complexity := a.complexity, audit := { b.audit with updatedAt := a.audit.updatedAt } }

/-- The analysis with counts and a complexity; it does not count as changed if it had them already. -/
def counted (a : Analysis) (c : AnalysisCounts) (complexity : Option String) : Analysis :=
  let given := complexity.filter (!·.isEmpty)
  if a.counts = c && given.all (Coded.showsAs a.complexity) then a
  else { a.setCounts c with
    complexity := (given.map Coded.ofText).or a.complexity, audit := a.audit.touch }

/-- Of the labels that are shown none belongs to two values. -/
theorem ofText_shown (x : Complexity) : Coded.ofText (Labelled.shown x) = .known x := by
  cases x <;> decide

/-- A known complexity that is shown as a text is the one that the text stands for. -/
theorem eq_ofText_of_showsAs {t : String} (ha : a.Readable)
    (h : Coded.showsAs a.complexity t = true) : a.complexity = some (.ofText t) := by
  cases hx : a.complexity with
  | none => rw [hx] at h; cases h
  | some x =>
    rw [hx] at h
    cases x with
    | stray s => cases ha _ hx
    | known y =>
      have hshown : Labelled.shown y = t := of_decide_eq_true h
      rw [← hshown, ofText_shown]

theorem holds_counted (ha : a.Readable) : Holds c complexity (some a) (a.counted c complexity) := by
  unfold counted
  dsimp only
  split
  next h =>
    obtain ⟨hcounts, hshown⟩ := Bool.and_eq_true_iff.1 h
    refine ⟨of_decide_eq_true hcounts, ?_, fun _ => rfl, ?_⟩
    · rintro t rfl ht
      refine eq_ofText_of_showsAs ha ?_
      simpa [ht] using hshown
    · rintro b ⟨⟩
      rfl
  next h =>
    refine ⟨rfl, ?_, fun hnone => ?_, ?_⟩
    · rintro t rfl ht
      simp [ht]
    · have hfilter : complexity.filter (!·.isEmpty) = none := by
        simpa [Option.filter_eq_none_iff] using hnone
      simp [hfilter]
    · rintro b ⟨⟩
      rfl

/-- An analysis that could be read still can, unless it got a complexity outside the set. -/
theorem readable_counted_iff (ha : a.Readable) : (a.counted c complexity).Readable ↔
    ∀ t, complexity = some t → t ≠ "" → (Coded.ofText t : Coded Complexity).Known := by
  have hholds : Holds c complexity (some a) (a.counted c complexity) := holds_counted ha
  constructor
  · intro hread t ht hne
    exact hread _ (hholds.given t ht hne)
  · intro hknown x hx
    by_cases h : ∀ t, complexity = some t → t = ""
    · rw [hholds.kept h] at hx
      exact ha x hx
    · push Not at h
      obtain ⟨t, ht, hne⟩ := h
      rw [hholds.given t ht hne] at hx
      exact Option.some.inj hx ▸ hknown t ht hne

variable {i report : Id}

theorem counts_first : (first i report c complexity).counts = c ↔ c.Given := by
  obtain ⟨n₁, n₂, n₃, n₄, n₅, n₆, n₇, n₈⟩ := c
  have hgiven : ∀ n : Option Int, some (n.getD 0) = n ↔ n.isSome = true := by
    intro n
    cases n <;> simp
  simp [first, counts, AnalysisCounts.Given, AnalysisCounts.toList, hgiven]

/-- A first analysis has what was given, provided that each count and no empty complexity was. -/
theorem holds_first_iff :
    Holds c complexity none (first i report c complexity) ↔ c.Given ∧ complexity ≠ some "" := by
  constructor
  · intro h
    refine ⟨counts_first.1 h.counts, ?_⟩
    rintro rfl
    have hkept : some (Coded.ofText "" : Coded Complexity) = none :=
      h.kept fun t ht => (Option.some.inj ht).symm
    cases hkept
  · rintro ⟨hgiven, hne⟩
    refine ⟨counts_first.2 hgiven, ?_, fun hnone => ?_, fun b hb => ?_⟩
    · rintro t rfl -
      rfl
    · cases complexity with
      | none => rfl
      | some t => exact absurd (congrArg some (hnone t rfl)) hne
    · cases hb

theorem readable_first_iff : (first i report c complexity).Readable ↔
    ∀ t, complexity = some t → (Coded.ofText t : Coded Complexity).Known := by
  cases complexity <;> simp [Readable, first]

end Analysis

/-! ## In the catalogue -/

namespace Database

variable {db : Database} {a x : Analysis} {report : Id}

/-- The analysis of a report, also one that is marked as deleted. -/
def heldAnalysis? (db : Database) (report : Id) : Option Analysis :=
  db.analyses.find? (·.reportId = report)

theorem heldAnalysis?_eq_some (h : db.heldAnalysis? report = some a) :
    a ∈ db.analyses ∧ a.reportId = report :=
  ⟨List.mem_of_find?_eq_some h, by simpa using List.find?_some h⟩

/-- Where no report has two analyses, the one it has is read back as it stands, unless it is marked as
    deleted or cannot be read. -/
theorem analysisOf?_eq_some_iff (hsingle : (db.analyses.map (·.reportId)).Nodup)
    (ha : a ∈ db.analyses) : db.analysisOf? (some a.reportId) = .ok (some x) ↔
      x = a ∧ a.audit.isDeleted = false ∧ a.Readable := by
  have hfind : (db.analyses.find? fun y => some y.reportId = some a.reportId && !y.audit.isDeleted) =
      if a.audit.isDeleted then none else some a := by
    split
    next hdeleted =>
      refine List.find?_eq_none.2 fun y hy hfound => ?_
      simp only [Option.some.injEq, Bool.and_eq_true, decide_eq_true_eq] at hfound
      obtain rfl : y = a := List.inj_on_of_nodup_map hsingle hy ha hfound.1
      simp [hdeleted] at hfound
    next hshown =>
      cases hf : db.analyses.find? fun y => some y.reportId = some a.reportId && !y.audit.isDeleted with
      | none => exact absurd (List.find?_eq_none.1 hf a ha) (by simp [hshown])
      | some y =>
        have hy := List.find?_some hf
        simp only [Option.some.injEq, Bool.and_eq_true, decide_eq_true_eq] at hy
        rw [List.inj_on_of_nodup_map hsingle (List.mem_of_find?_eq_some hf) ha hy.1]
  rw [analysisOf?, hfind, mapM_read?_iff fun _ _ => Analysis.read_eq_ok_iff]
  cases a.audit.isDeleted <;> simp [Analysis.Readable]

theorem setAnalysis_self (hids : (db.analyses.map (·.id)).Nodup) (ha : a ∈ db.analyses) :
    db.setAnalysis a = db := by
  unfold setAnalysis
  rw [map_replace_self hids ha]

/-- What counts of a report must be like to be written, where a first analysis would get the identifier
    `new`: there is room for them, and the analysis that the report has can be read, or it has none but
    is in the catalogue. -/
structure TakesCounts (db : Database) (report : Id) (c : AnalysisCounts) (new : Id) : Prop where
  fit : c.Fit
  held : ∀ a, db.heldAnalysis? report = some a → a.Readable
  first : db.heldAnalysis? report = none →
    db.hasReport report = true ∧ ∀ a ∈ db.analyses, a.id ≠ new

theorem addAnalysis_cases (db : Database) (a : Analysis) :
    (∃ e, db.addAnalysis a = .error e ∧
      ¬ (db.hasReport a.reportId = true ∧ ∀ y ∈ db.analyses, y.id ≠ a.id)) ∨
      db.addAnalysis a = .ok { db with analyses := db.analyses ++ [a] } ∧
        db.hasReport a.reportId = true ∧ ∀ y ∈ db.analyses, y.id ≠ a.id := by
  unfold addAnalysis unrepeated resolved
  by_cases hid : (db.analyses.any fun y => y.id = a.id) = true
  · rw [if_pos hid]
    obtain ⟨y, hy, hya⟩ := List.any_eq_true.1 hid
    exact .inl ⟨_, rfl, fun h => h.2 y hy (of_decide_eq_true hya)⟩
  · rw [if_neg hid]
    have hfresh : ∀ y ∈ db.analyses, y.id ≠ a.id := fun y hy hya =>
      hid (List.any_eq_true.2 ⟨y, hy, decide_eq_true hya⟩)
    by_cases hreport : db.hasReport a.reportId = true
    · rw [if_pos hreport]
      exact .inr ⟨rfl, hreport, hfresh⟩
    · rw [if_neg hreport]
      exact .inl ⟨_, rfl, fun h => hreport h.1⟩

end Database

/-! ## Writing -/

section
variable {d : Deployment} {report : Id} {c : AnalysisCounts} {complexity : Option String}

/-- The catalogue once counts were written: into the analysis there is, or into a first one. -/
def Database.withCounts (db : Database) (report : Id) (c : AnalysisCounts)
    (complexity : Option String) (new : Id) : Database :=
  match db.heldAnalysis? report with
  | some a => db.setAnalysis (a.counted c complexity)
  | none => { db with analyses := db.analyses ++ [.first new report c complexity] }

/-- Counts go into the analysis that the report has. -/
theorem exec_writeCounts_held {a : Analysis} (hids : (d.db.analyses.map (·.id)).Nodup)
    (ha : d.db.heldAnalysis? report = some a) :
    (∃ e, (writeCounts report c complexity).exec d = (.error e, d) ∧ ¬ (a.Readable ∧ c.Fit)) ∨
      (writeCounts report c complexity).exec d =
        (.ok (), { d with db := d.db.setAnalysis (a.counted c complexity) }) ∧
        a.Readable ∧ c.Fit := by
  have hmem := (Database.heldAnalysis?_eq_some ha).1
  unfold Database.heldAnalysis? at ha
  rw [writeCounts, exec_bind_ok (exec_db d), ha]
  dsimp only
  cases hread : a.read with
  | error e =>
    refine .inl ⟨e, exec_bind_error (exec_ofExcept _ d), fun h => ?_⟩
    rw [Analysis.read_eq_ok_iff.2 ⟨rfl, h.1⟩] at hread
    cases hread
  | ok b =>
    obtain ⟨rfl, hknown⟩ := Analysis.read_eq_ok_iff.1 hread
    rw [exec_bind_ok (exec_ofExcept _ d)]
    rcases c.mapM_storable with ⟨e, he, hfit⟩ | ⟨⟨us, hus⟩, hfit⟩
    · rw [he]
      exact .inl ⟨e, exec_bind_error (exec_ofExcept _ d), fun h => hfit h.2⟩
    · rw [hus, exec_bind_ok (exec_ofExcept _ d)]
      refine .inr ⟨?_, hknown, hfit⟩
      unfold Analysis.counted
      dsimp only
      split
      next => rw [Database.setAnalysis_self hids hmem]; rfl
      next =>
        rw [exec_change]
        cases complexity.filter (!·.isEmpty) <;> rfl

/-- Counts of a report without an analysis go into a first one. -/
theorem exec_writeCounts_first (ha : d.db.heldAnalysis? report = none) :
    (∃ e d', (writeCounts report c complexity).exec d = (.error e, d') ∧
      ¬ (c.Fit ∧ d.db.hasReport report = true ∧ ∀ y ∈ d.db.analyses, y.id ≠ .drawn (d.drawn + 1))) ∨
      (writeCounts report c complexity).exec d = (.ok (), { d with
        drawn := d.drawn + 1
        db := { d.db with analyses := d.db.analyses ++
          [.first (.drawn (d.drawn + 1)) report c complexity] } }) ∧
        c.Fit ∧ d.db.hasReport report = true ∧ ∀ y ∈ d.db.analyses, y.id ≠ .drawn (d.drawn + 1) := by
  unfold Database.heldAnalysis? at ha
  rw [writeCounts, exec_bind_ok (exec_db d), ha]
  dsimp only
  rw [exec_bind_ok (exec_drawId d)]
  rcases c.mapM_storable with ⟨e, he, hfit⟩ | ⟨⟨us, hus⟩, hfit⟩
  · rw [he]
    exact .inl ⟨e, _, exec_bind_error (exec_ofExcept _ _), fun h => hfit h.1⟩
  · rw [hus, exec_bind_ok (exec_ofExcept _ _)]
    rcases d.db.addAnalysis_cases (.first (.drawn (d.drawn + 1)) report c complexity) with
      ⟨e, he, hno⟩ | ⟨hok, hyes⟩
    · exact .inl ⟨e, _, exec_write_error he, fun h => hno h.2⟩
    · exact .inr ⟨exec_write_ok hok, hfit, hyes⟩

/-- Counts are written where the report takes them, and nowhere else. -/
theorem writeCounts_cases (hids : (d.db.analyses.map (·.id)).Nodup) (report : Id)
    (c : AnalysisCounts) (complexity : Option String) :
    (∃ e d', (writeCounts report c complexity).exec d = (.error e, d') ∧
      ¬ d.db.TakesCounts report c (.drawn (d.drawn + 1))) ∨
      ∃ d', (writeCounts report c complexity).exec d = (.ok (), d') ∧
        d'.db = d.db.withCounts report c complexity (.drawn (d.drawn + 1)) ∧
        d.db.TakesCounts report c (.drawn (d.drawn + 1)) := by
  cases ha : d.db.heldAnalysis? report with
  | some a =>
    rcases exec_writeCounts_held hids ha with ⟨e, he, hno⟩ | ⟨hok, hread, hfit⟩
    · exact .inl ⟨e, d, he, fun h => hno ⟨h.held a ha, h.fit⟩⟩
    · refine .inr ⟨_, hok, ?_, hfit, fun b hb => ?_, fun hnone => ?_⟩
      · simp only [Database.withCounts, ha]
      · rw [ha] at hb
        exact Option.some.inj hb ▸ hread
      · rw [ha] at hnone
        cases hnone
  | none =>
    rcases exec_writeCounts_first ha with ⟨e, d', he, hno⟩ | ⟨hok, hfit, hyes⟩
    · exact .inl ⟨e, d', he, fun h => hno ⟨h.fit, h.first ha⟩⟩
    · refine .inr ⟨_, hok, ?_, hfit, fun b hb => ?_, fun _ => hyes⟩
      · simp only [Database.withCounts, ha]
      · rw [ha] at hb
        cases hb

/-- Whoever asks for counts to be written is told whether they were; if not, the catalogue is as it
    was. -/
theorem updateCounts_cases (hids : (d.db.analyses.map (·.id)).Nodup) (hreport : report.text ≠ "")
    (c : AnalysisCounts) (complexity : Option String) :
    (∃ d', (updateCounts (some report) c complexity).exec d = (.ok false, d') ∧ d'.db = d.db ∧
      ¬ d.db.TakesCounts report c (.drawn (d.drawn + 1))) ∨
      ∃ d', (updateCounts (some report) c complexity).exec d = (.ok true, d') ∧
        d'.db = d.db.withCounts report c complexity (.drawn (d.drawn + 1)) ∧
        d.db.TakesCounts report c (.drawn (d.drawn + 1)) := by
  have hfilter : (some report).filter (!·.text.isEmpty) = some report := by simp [hreport]
  unfold updateCounts
  rw [hfilter]
  dsimp only
  rcases writeCounts_cases hids report c complexity with ⟨e, d', he, hno⟩ | ⟨d', hok, hdb, hyes⟩
  · refine .inl ⟨{ d' with db := d.db }, ?_, rfl, hno⟩
    rw [exec_bind, exec_attempt, exec_transaction_error he]
    rfl
  · refine .inr ⟨d', ?_, hdb, hyes⟩
    rw [exec_bind, exec_attempt, exec_transaction_ok hok]
    rfl

end

/-! ## Reading back -/

namespace Database

variable {db : Database} {report : Id} {c : AnalysisCounts} {complexity : Option String} {new : Id}

/-- What was written is what is read back: the analysis that the report had was not marked as deleted,
    the complexity is among the known ones, and a first analysis is given every count. -/
structure ReadsBack (db : Database) (report : Id) (c : AnalysisCounts) (complexity : Option String) :
    Prop where
  shown : ∀ a, db.heldAnalysis? report = some a → a.audit.isDeleted = false
  known : ∀ t, complexity = some t → t ≠ "" → (Coded.ofText t : Coded Complexity).Known
  first : db.heldAnalysis? report = none → c.Given ∧ complexity ≠ some ""

theorem readBack_held {a : Analysis} (hids : (db.analyses.map (·.id)).Nodup)
    (hsingle : (db.analyses.map (·.reportId)).Nodup) (ha : db.heldAnalysis? report = some a)
    (hread : a.Readable) :
    (∃ x, (db.withCounts report c complexity new).analysisOf? (some report) = .ok (some x) ∧
      Analysis.Holds c complexity (db.heldAnalysis? report) x) ↔ db.ReadsBack report c complexity := by
  obtain ⟨hmem, rfl⟩ := heldAnalysis?_eq_some ha
  have hholds : Analysis.Holds c complexity (some a) (a.counted c complexity) :=
    Analysis.holds_counted hread
  have hrest := hholds.rest a rfl
  have hid : (a.counted c complexity).id = a.id := by rw [hrest]; rfl
  have hreport : (a.counted c complexity).reportId = a.reportId := by rw [hrest]; rfl
  have hdeleted : (a.counted c complexity).audit.isDeleted = a.audit.isDeleted := by rw [hrest]
  have hmem' : a.counted c complexity ∈ (db.setAnalysis (a.counted c complexity)).analyses :=
    List.mem_map.2 ⟨a, hmem, if_pos hid.symm⟩
  have hsingle' :
      ((db.setAnalysis (a.counted c complexity)).analyses.map (·.reportId)).Nodup := by
    have hmap := map_replace hids hmem hid hreport
    exact hmap ▸ hsingle
  have hfound := fun x => analysisOf?_eq_some_iff (x := x) hsingle' hmem'
  rw [hreport, hdeleted, Analysis.readable_counted_iff hread] at hfound
  simp only [withCounts, ha, hfound]
  constructor
  · rintro ⟨x, ⟨rfl, hshown, hknown⟩, -⟩
    refine ⟨fun b hb => ?_, hknown, fun hnone => ?_⟩
    · rw [ha] at hb
      exact Option.some.inj hb ▸ hshown
    · rw [ha] at hnone
      cases hnone
  · intro h
    exact ⟨_, ⟨rfl, h.shown a ha, h.known⟩, hholds⟩

theorem readBack_first (hsingle : (db.analyses.map (·.reportId)).Nodup)
    (ha : db.heldAnalysis? report = none) :
    (∃ x, (db.withCounts report c complexity new).analysisOf? (some report) = .ok (some x) ∧
      Analysis.Holds c complexity (db.heldAnalysis? report) x) ↔ db.ReadsBack report c complexity := by
  have hnone : ∀ y ∈ db.analyses, y.reportId ≠ report := by
    simpa [heldAnalysis?] using ha
  have hsingle' :
      ((db.analyses ++ [Analysis.first new report c complexity]).map (·.reportId)).Nodup :=
    nodup_map_append hsingle hnone
  have hfound : ∀ x, (db.withCounts report c complexity new).analysisOf? (some report) = .ok (some x) ↔
      x = .first new report c complexity ∧
        ∀ t, complexity = some t → (Coded.ofText t : Coded Complexity).Known := by
    intro x
    have hmem : Analysis.first new report c complexity ∈ Database.analyses
        { db with analyses := db.analyses ++ [.first new report c complexity] } :=
      List.mem_append_right _ (List.mem_singleton_self _)
    have hiff := analysisOf?_eq_some_iff (x := x) hsingle' hmem
    simp only [withCounts, ha]
    rw [Analysis.readable_first_iff] at hiff
    exact hiff.trans ⟨fun h => ⟨h.1, h.2.2⟩, fun h => ⟨h.1, rfl, h.2⟩⟩
  simp only [hfound, ha]
  constructor
  · rintro ⟨x, ⟨rfl, hknown⟩, hholds⟩
    refine ⟨fun b hb => ?_, fun t ht _ => hknown t ht, fun _ => Analysis.holds_first_iff.1 hholds⟩
    rw [ha] at hb
    cases hb
  · intro h
    obtain ⟨hgiven, hne⟩ := h.first ha
    refine ⟨_, ⟨rfl, fun t ht => h.known t ht ?_⟩, Analysis.holds_first_iff.2 ⟨hgiven, hne⟩⟩
    rintro rfl
    exact hne ht

end Database

/-- **Counts that are written are those that are read back, unless the analysis is marked as deleted.**
    The answer says whether the counts were written, which is so exactly if the report takes them; if
    they were not, the catalogue is as it was. If they were, the analysis of the report is read back
    with them, with the complexity that was given or else the one before, and otherwise as it was,
    exactly if the analysis was not marked as deleted, the complexity is among the known ones and a
    first analysis was given every count. -/
theorem updateCounts_readBack_iff {d : Deployment} (hids : (d.db.analyses.map (·.id)).Nodup)
    (hsingle : (d.db.analyses.map (·.reportId)).Nodup) {report : Id} (hreport : report.text ≠ "")
    (c : AnalysisCounts) (complexity : Option String) :
    ∃ written d', (updateCounts (some report) c complexity).exec d = (.ok written, d') ∧
      (written = true ↔ d.db.TakesCounts report c (.drawn (d.drawn + 1))) ∧
      (written = false → d'.db = d.db) ∧
      (written = true →
        ((∃ a, d'.db.analysisOf? (some report) = .ok (some a) ∧
          Analysis.Holds c complexity (d.db.heldAnalysis? report) a) ↔
            d.db.ReadsBack report c complexity)) := by
  rcases updateCounts_cases hids hreport c complexity with ⟨d', hexec, hdb, hno⟩ | ⟨d', hexec, hdb, hyes⟩
  · exact ⟨false, d', hexec, by simp [hno], fun _ => hdb, nofun⟩
  · refine ⟨true, d', hexec, by simp [hyes], nofun, fun _ => ?_⟩
    rw [hdb]
    cases ha : d.db.heldAnalysis? report with
    | some a => exact ha ▸ Database.readBack_held hids hsingle ha (hyes.held a ha)
    | none => exact ha ▸ Database.readBack_first hsingle ha

/-- A report whose analysis is marked as deleted. -/
def hiddenDeployment : Deployment where
  db := {
    reports := [Sample.reportAt (.ofNat 2) (.ofNat 501) (.ofNat 300)]
    analyses := [{ Sample.analysis 0 with
      reportId := .ofNat 2, audit := { isDeleted := true }, complexity := some (.known .simple) }] }

/-- The counts that are given for it. -/
def hiddenCounts : AnalysisCounts := { worksheets := some 7, dashboards := some 2 }

/-- The counts are written, and nothing is read back. -/
theorem updateCounts_readBack_iff_hidden :
    ∃ d', (updateCounts (some (.ofNat 2)) hiddenCounts none).exec hiddenDeployment = (.ok true, d') ∧
      ¬ ∃ a, d'.db.analysisOf? (some (.ofNat 2)) = .ok (some a) ∧
        Analysis.Holds hiddenCounts none (hiddenDeployment.db.heldAnalysis? (.ofNat 2)) a := by
  have hheld : hiddenDeployment.db.heldAnalysis? (.ofNat 2) = some { Sample.analysis 0 with
      reportId := .ofNat 2, audit := { isDeleted := true }, complexity := some (.known .simple) } := rfl
  obtain ⟨written, d', hexec, hwritten, -, hread⟩ := updateCounts_readBack_iff
    (d := hiddenDeployment) (by decide +kernel) (by decide +kernel)
    (show (Id.ofNat 2).text ≠ "" by decide +kernel) hiddenCounts none
  have htakes : hiddenDeployment.db.TakesCounts (.ofNat 2) hiddenCounts (.drawn 1) := by
    refine ⟨by unfold AnalysisCounts.Fit; decide +kernel, fun a ha => ?_, fun hnone => ?_⟩
    · rw [hheld] at ha
      cases ha
      rintro _ ⟨⟩
      trivial
    · rw [hheld] at hnone
      cases hnone
  obtain rfl : written = true := hwritten.2 htakes
  refine ⟨d', hexec, fun h => ?_⟩
  have hshown := ((hread rfl).1 h).shown _ hheld
  cases hshown

end ReportMigration
