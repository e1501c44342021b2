import Mathlib.Data.List.Nodup
import Mathlib.Logic.Relation
import ReportMigration.Gateway.Reports
import ReportMigration.Proofs.Catalogue.Entry
import ReportMigration.Sample.Catalogue
/-!
Visuals that are entered after a check that there is no such visual.

Two of the features of a visual may be absent, and an absent feature is like no text, not even the empty
one.

* `Visual.Agrees`: a visual has the given features; `Database.hasVisual_iff`: the check looks for one;
* `Gateway.exec_newVisual_cases`: a visual is entered with the features that are given, if it can be;
* `Gateway.Checked`: a visual is entered after such a check, or the visuals of a report are removed;
* `Gateway.visualsApart_of_checked`: no two visuals agree after any sequence of such steps.
-/
namespace ReportMigration

/-! ## Features -/

/-- The visual has the features. -/
structure Visual.Agrees (v : Visual) (k : VisualKey) : Prop where
  organizationId : k.organizationId = some v.organizationId
  reportId : k.reportId = some v.reportId
  workbookName : k.workbookName = some v.workbookName
  dashboardName : k.dashboardName = some v.dashboardName
  visualName : k.visualName = some v.visualName
  sheetName : k.sheetName = some v.sheetName
  visualType : k.visualType = some v.visualType
  visualDatasource : k.visualDatasource = some v.visualDatasource
  datasourceType : k.datasourceType = some v.datasourceType
  type : k.type = some v.type
  rows : k.rows = v.rows
  columns : k.columns = v.columns

section
variable {v w : Visual} {k : VisualKey} {i : Id} {form : VisualForm}

theorem Visual.agrees_iff : v.Agrees k ↔ v.key = k := by
  constructor
  · rintro ⟨h₁, h₂, h₃, h₄, h₅, h₆, h₇, h₈, h₉, h₁₀, h₁₁, h₁₂⟩
    cases k
    simp_all [Visual.key]
  · rintro rfl
    exact ⟨rfl, rfl, rfl, rfl, rfl, rfl, rfl, rfl, rfl, rfl, rfl, rfl⟩

theorem VisualForm.toVisual_eq_ok_iff :
    form.toVisual i = .ok v ↔ v.Agrees form.key ∧ v.id = i ∧ v.createdAt = form.createdAt := by
  constructor
  · intro h
    obtain ⟨report, hreport, h⟩ := exists_of_bind_eq_ok h
    obtain ⟨organization, horganization, h⟩ := exists_of_bind_eq_ok h
    obtain ⟨workbook, hworkbook, h⟩ := exists_of_bind_eq_ok h
    obtain ⟨dashboard, hdashboard, h⟩ := exists_of_bind_eq_ok h
    obtain ⟨name, hname, h⟩ := exists_of_bind_eq_ok h
    obtain ⟨visualType, hvisualType, h⟩ := exists_of_bind_eq_ok h
    obtain ⟨source, hsource, h⟩ := exists_of_bind_eq_ok h
    obtain ⟨sheet, hsheet, h⟩ := exists_of_bind_eq_ok h
    obtain ⟨sourceType, hsourceType, h⟩ := exists_of_bind_eq_ok h
    obtain ⟨type, htype, h⟩ := exists_of_bind_eq_ok h
    cases h
    exact ⟨⟨required_eq_ok horganization, required_eq_ok hreport, required_eq_ok hworkbook,
      required_eq_ok hdashboard, required_eq_ok hname, required_eq_ok hsheet,
      required_eq_ok hvisualType, required_eq_ok hsource, required_eq_ok hsourceType,
      required_eq_ok htype, rfl, rfl⟩, rfl, rfl⟩
  · rintro ⟨h, rfl, hcreated⟩
    rw [toVisual, h.organizationId, h.reportId, h.workbookName, h.dashboardName, h.visualName,
      h.sheetName, h.visualType, h.visualDatasource, h.datasourceType, h.type, h.rows, h.columns,
      ← hcreated]
    rfl

/-- Neither the identifier nor the time is a feature: what some visual has, a new one can have. -/
theorem VisualForm.exists_toVisual (h : v.Agrees form.key) (i : Id) : ∃ w, form.toVisual i = .ok w :=
  ⟨{ v with id := i, createdAt := form.createdAt }, toVisual_eq_ok_iff.2 ⟨{ h with }, rfl, rfl⟩⟩

/-- What is compared as columns are is equal, nothing included. -/
theorem suits_iff {α : Type} [DecidableEq α] {column asked : Option α} :
    suits column asked = true ↔ asked = column := by
  cases asked with
  | none => cases column <;> simp [suits]
  | some x => cases column <;> simp [suits, eq_comm]

namespace Database

variable {db db' : Database}

/-- **The check finds exactly the visuals that have all the features.** -/
theorem hasVisual_iff : db.hasVisual k = true ↔ ∃ v ∈ db.visuals, v.Agrees k := by
  rw [hasVisual, List.any_eq_true]
  refine exists_congr fun v => and_congr_right fun _ => ?_
  simp only [Bool.and_eq_true, suits_iff]
  constructor
  · rintro ⟨⟨⟨⟨⟨⟨⟨⟨⟨⟨⟨horganization, hreport⟩, hworkbook⟩, hdashboard⟩, hname⟩, hsheet⟩, hvisualType⟩,
      hsource⟩, hsourceType⟩, hrows⟩, hcolumns⟩, htype⟩
    exact ⟨horganization, hreport, hworkbook, hdashboard, hname, hsheet, hvisualType, hsource,
      hsourceType, htype, hrows, hcolumns⟩
  · intro h
    exact ⟨⟨⟨⟨⟨⟨⟨⟨⟨⟨⟨h.organizationId, h.reportId⟩, h.workbookName⟩, h.dashboardName⟩, h.visualName⟩,
      h.sheetName⟩, h.visualType⟩, h.visualDatasource⟩, h.datasourceType⟩, h.rows⟩, h.columns⟩, h.type⟩

theorem addVisual_eq_ok_iff : db.addVisual v = .ok db' ↔
    (∀ w ∈ db.visuals, w.id ≠ v.id) ∧ db' = { db with visuals := db.visuals ++ [v] } := by
  constructor
  · intro h
    obtain ⟨hid, h⟩ := eq_ok_of_check h
    cases h
    exact ⟨unrepeated_eq_ok hid, rfl⟩
  · rintro ⟨hid, rfl⟩
    rw [addVisual, unrepeated_of_forall _ _ hid]
    rfl

/-- No two visuals agree on all features. -/
def VisualsApart (db : Database) : Prop :=
  db.visuals.Pairwise fun v w => ¬ ∃ k, v.Agrees k ∧ w.Agrees k

theorem visualsApart_iff : db.VisualsApart ↔ (db.visuals.map (·.key)).Nodup := by
  have halike : ∀ v w : Visual, (∃ k, v.Agrees k ∧ w.Agrees k) ↔ v.key = w.key := by
    intro v w
    simp only [Visual.agrees_iff]
    exact ⟨fun ⟨k, hv, hw⟩ => hv.trans hw.symm, fun h => ⟨w.key, h, rfl⟩⟩
  simp only [VisualsApart, halike, List.Nodup, List.pairwise_map, ne_eq]

end Database

end

/-! ## Visuals that are entered -/

namespace Gateway

open Answer

variable {d d' : Deployment} {a b : Arguments}

theorem exec_visualKnown (a : Arguments) (d : Deployment) :
    (visualKnown a).exec d = (.ok (.bool (d.db.hasVisual (visualKey a))), d) := rfl

/-- The identifier of a new visual, as it is given or drawn. -/
def newVisualId (a : Arguments) (d : Deployment) : Id := (a.id? "id").getD (.drawn (d.drawn + 1))

/-- A visual with the features that are given can be entered. -/
def Enterable (a : Arguments) (d : Deployment) : Prop :=
  (∃ v : Visual, v.Agrees (visualKey a)) ∧ ∀ w ∈ d.db.visuals, w.id ≠ newVisualId a d

/-- A visual that can be entered is, as the last one. Any other is not, and nothing changes but that an
    identifier may be used up. -/
theorem exec_newVisual_cases (a : Arguments) (d : Deployment) : ∃ n,
    (¬ Enterable a d ∧ ∃ e, (newVisual a).exec d = (.error e, { d with drawn := n })) ∨
      Enterable a d ∧ ∃ v : Visual, v.Agrees (visualKey a) ∧ v.id = newVisualId a d ∧
        (newVisual a).exec d = (.ok (row v.toColumns),
          { d with db := { d.db with visuals := d.db.visuals ++ [v] }, drawn := n }) := by
  let form : VisualForm := ⟨a.id? "id", visualKey a, time? (a.get "created_at")⟩
  have hadd : (addVisual form).exec d = _ :=
    Op.exec_insertion form.id form.toVisual (fun v db => db.addVisual v) d
  refine ⟨d.drawn + if form.id.isSome then 0 else 1, ?_⟩
  cases hv : form.toVisual (form.id.getD (.drawn (d.drawn + 1))) with
  | error e =>
    rw [hv] at hadd
    refine .inl ⟨?_, e, Op.exec_bind_error hadd⟩
    rintro ⟨⟨v, hagrees⟩, -⟩
    obtain ⟨w, hw⟩ := form.exists_toVisual hagrees (form.id.getD (.drawn (d.drawn + 1)))
    rw [hv] at hw
    cases hw
  | ok v =>
    obtain ⟨hagrees, hid, -⟩ := VisualForm.toVisual_eq_ok_iff.1 hv
    change v.id = newVisualId a d at hid
    rw [hv] at hadd
    cases hdb : d.db.addVisual v with
    | error e =>
      simp only [hdb] at hadd
      refine .inl ⟨?_, e, Op.exec_bind_error hadd⟩
      rintro ⟨-, hfree⟩
      rw [Database.addVisual_eq_ok_iff.2 ⟨fun w hw => hid ▸ hfree w hw, rfl⟩] at hdb
      cases hdb
    | ok db =>
      obtain ⟨hfree, rfl⟩ := Database.addVisual_eq_ok_iff.1 hdb
      simp only [hdb] at hadd
      exact .inr ⟨⟨⟨v, hagrees⟩, fun w hw => hid ▸ hfree w hw⟩, v, hagrees, hid, Op.exec_bind_ok hadd⟩

/-! ## Steps after a check -/

/-- One thing happens: a visual is entered after a check of the same features has found none, the visuals
    of a report are removed, or no visual changes. -/
inductive Checked : Deployment → Deployment → Prop where
  | enter {d : Deployment} (a b : Arguments) (same : visualKey b = visualKey a)
      (new : (visualKnown b).exec d = (.ok (.bool false), d)) : Checked d ((newVisual a).exec d).2
  | remove {d : Deployment} (a : Arguments) : Checked d ((dropVisuals a).exec d).2
  | outside {d d' : Deployment} (h : d'.db.visuals = d.db.visuals) : Checked d d'

theorem hasVisual_eq_of_exec {found : Bool} (h : (visualKnown a).exec d = (.ok (.bool found), d')) :
    d.db.hasVisual (visualKey a) = found := by
  rw [exec_visualKnown] at h
  exact Json.bool.inj (Except.ok.inj (congrArg Prod.fst h))

/-- **One step keeps the visuals apart.** -/
theorem Checked.visualsApart (h : Checked d d') (hd : d.db.VisualsApart) : d'.db.VisualsApart := by
  rw [Database.visualsApart_iff] at hd ⊢
  cases h with
  | enter a b same new =>
    have hnew := hasVisual_eq_of_exec new
    obtain ⟨n, ⟨-, e, he⟩ | ⟨-, v, hagrees, -, hv⟩⟩ := exec_newVisual_cases a d
    · rw [he]
      exact hd
    · rw [hv]
      refine nodup_map_append hd fun w hw hkey => ?_
      have hknown : d.db.hasVisual (visualKey b) = true :=
        Database.hasVisual_iff.2 ⟨w, hw, Visual.agrees_iff.2 (by rw [hkey, same, Visual.agrees_iff.1 hagrees])⟩
      rw [hnew] at hknown
      cases hknown
  | remove a =>
    rw [dropVisuals]
    cases a.id? "report_id" with
    | none => exact hd
    | some r => exact hd.sublist (List.filter_sublist.map _)
  | outside h => rwa [h]

/-- **The check for a visual is exact, and who heeds it enters no visual twice.** It finds one exactly if a
    visual has all the given features, where an absent feature is like an absent one only. A visual can be
    entered wherever its features are complete and its identifier is free, and is found from then on. No
    two visuals agree after any sequence of entries that follow a check, and of removals. -/
theorem visualsApart_of_checked :
    (∀ (d : Deployment) (a : Arguments), ∃ found, (visualKnown a).exec d = (.ok (.bool found), d) ∧
      (found = true ↔ ∃ v ∈ d.db.visuals, v.Agrees (visualKey a))) ∧
    (∀ (d : Deployment) (a : Arguments),
      ((∃ r, ((newVisual a).exec d).1 = .ok r) ↔ Enterable a d) ∧
      ∀ r d', (newVisual a).exec d = (.ok r, d') → ∀ b, visualKey b = visualKey a →
        (visualKnown b).exec d' = (.ok (.bool true), d')) ∧
    ∀ d d' : Deployment, Relation.ReflTransGen Checked d d' →
      d.db.VisualsApart → d'.db.VisualsApart := by
  refine ⟨fun d a => ⟨_, exec_visualKnown a d, Database.hasVisual_iff⟩, fun d a => ?_, fun d d' h hd => ?_⟩
  · obtain ⟨n, ⟨hnot, e, he⟩ | ⟨henter, v, hagrees, -, hv⟩⟩ := exec_newVisual_cases a d
    · rw [he]
      refine ⟨iff_of_false ?_ hnot, fun r d' h => by cases h⟩
      rintro ⟨r, hr⟩
      cases hr
    · rw [hv]
      refine ⟨iff_of_true ⟨_, rfl⟩ henter, fun r d' h b hb => ?_⟩
      cases h
      have hmem : v ∈ d.db.visuals ++ [v] := by simp
      have hfound : ({ d.db with visuals := d.db.visuals ++ [v] } : Database).hasVisual (visualKey a) = true :=
        Database.hasVisual_iff.2 ⟨v, hmem, hagrees⟩
      rw [exec_visualKnown, hb, hfound]
  · induction h with
    | refl => exact hd
    | tail _ hstep ih => exact hstep.visualsApart ih

/-- The features of a visual of the sample, with some rows. -/
def sampleFeatures (rows : Value) : Arguments where
  fields := [("organization_id", .id Sample.organizationId), ("report_id", .id (Sample.reportId 0)),
    ("workbook_name", .text "wb0"), ("dashboard_name", .text "d"), ("visual_name", .text "v"),
    ("sheet_name", .text "s"), ("visual_type", .text "Bar"), ("visual_datasource", .text "ds"),
    ("datasource_type", .text "t"), ("type", .text "native"), ("rows", rows)]

/-- A visual without rows is known; one whose rows are the empty text is another, until it is entered. -/
theorem visualsApart_of_checked_empty :
    let d : Deployment := { db := { visuals := [Sample.visual 0] } }
    (visualKnown (sampleFeatures .null)).exec d = (.ok (.bool true), d) ∧
      ∃ d', Relation.ReflTransGen Checked d d' ∧ d'.db.visuals.map (·.rows) = [none, some ""] ∧
        d'.db.VisualsApart ∧
        (visualKnown (sampleFeatures (.text ""))).exec d' = (.ok (.bool true), d') := by
  intro d
  obtain ⟨hexact, hentered, hapart⟩ := visualsApart_of_checked
  have hknown : ∃ v ∈ d.db.visuals, v.Agrees (visualKey (sampleFeatures .null)) :=
    ⟨Sample.visual 0, List.mem_singleton_self _, Visual.agrees_iff.2 (by decide +kernel)⟩
  have hnew : (visualKnown (sampleFeatures (.text ""))).exec d = (.ok (.bool false), d) := by
    rw [exec_visualKnown]
    exact congrArg (fun b => (Except.ok (Json.bool b), d)) (by decide +kernel)
  have henter : Enterable (sampleFeatures (.text "")) d :=
    ⟨⟨{ Sample.visual 0 with rows := some "" }, Visual.agrees_iff.2 (by decide +kernel)⟩,
      by decide +kernel⟩
  have hsteps : Relation.ReflTransGen Checked d ((newVisual (sampleFeatures (.text ""))).exec d).2 :=
    .single (.enter _ _ rfl hnew)
  obtain ⟨found, hfound, hiff⟩ := hexact d (sampleFeatures .null)
  obtain ⟨r, hr⟩ := (hentered d (sampleFeatures (.text ""))).1.2 henter
  refine ⟨by rw [hfound, hiff.2 hknown], _, hsteps, by decide +kernel, ?_, ?_⟩
  · exact hapart _ _ hsteps (List.pairwise_singleton _ _)
  · exact (hentered d _).2 r _ (Prod.ext hr rfl) _ rfl

end Gateway

end ReportMigration
