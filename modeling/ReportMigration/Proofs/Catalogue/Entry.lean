import Mathlib.Data.List.Nodup
import ReportMigration.Projects.Folder
import ReportMigration.Reports.Report
import ReportMigration.Proofs.Execution
/-!
Entering projects and reports into the catalogue.

* `Op.exec_insertion`: a row gets the identifier that is given or a new one, and is entered if it can
  be made and is admitted; else the catalogue stays as it was;
* `Database.addProject_eq_ok`, `Database.addReport_eq_ok`: what is known of a row that was admitted.
-/
namespace ReportMigration

/-! ## Checks -/

/-- A check that has to pass before something else is done. -/
theorem eq_ok_of_check {ε α : Type} {c : Except ε Unit} {x : Except ε α} {a : α}
    (h : (do c; x) = .ok a) : c = .ok () ∧ x = .ok a := by
  cases c with
  | error e => cases h
  | ok u => exact ⟨rfl, h⟩

theorem unrepeated_eq_ok {α β : Type} [DecidableEq β] {table column : String} {rows : List α}
    {f : α → β} {v : β} (h : unrepeated table column rows f v = .ok ()) : ∀ r ∈ rows, f r ≠ v := by
  unfold unrepeated at h
  split at h
  · cases h
  · intro r hr he
    have hany : (rows.any fun r => f r = v) = true := List.any_eq_true.2 ⟨r, hr, by simpa using he⟩
    contradiction

theorem unrepeated_of_forall {α β : Type} [DecidableEq β] {rows : List α} {f : α → β} {v : β}
    (table column : String) (h : ∀ r ∈ rows, f r ≠ v) : unrepeated table column rows f v = .ok () := by
  refine if_neg fun hany => ?_
  obtain ⟨r, hr, he⟩ := List.any_eq_true.1 hany
  exact h r hr (of_decide_eq_true he)

theorem resolved_eq_ok {b : Bool} (h : resolved b = .ok ()) : b = true := by
  unfold resolved at h
  split at h
  · assumption
  · cases h

theorem required_eq_ok {α : Type} {table column : String} {x : Option α} {a : α}
    (h : required table column x = .ok a) : x = some a := by
  cases x with
  | none => cases h
  | some b => cases h; rfl

/-! ## Rows with an identifier -/

/-- A column in which values differ, with a row that has another value. -/
theorem nodup_map_append {α β : Type} {f : α → β} {rows : List α} {r : α} (h : (rows.map f).Nodup)
    (hr : ∀ x ∈ rows, f x ≠ f r) : ((rows ++ [r]).map f).Nodup := by
  rw [List.map_append, List.nodup_append]
  refine ⟨h, List.nodup_singleton _, ?_⟩
  intro a ha b hb he
  obtain ⟨x, hx, rfl⟩ := List.mem_map.1 ha
  exact hr x hx (he.trans (List.mem_singleton.1 hb))

/-- A row in the place of the one with its identifier, which it agrees with on what `f` says. -/
theorem map_replace {α β γ : Type} [DecidableEq β] {key : α → β} {f : α → γ} {rows : List α} {r q : α}
    (h : (rows.map key).Nodup) (hr : r ∈ rows) (hkey : key q = key r) (hf : f q = f r) :
    (rows.map fun x => if key x = key q then q else x).map f = rows.map f := by
  rw [List.map_map]
  refine List.map_congr_left fun x hx => ?_
  by_cases he : key x = key q
  · have hxr : x = r := List.inj_on_of_nodup_map h hx hr (he.trans hkey)
    simp [Function.comp, hf, hkey, hxr]
  · simp [Function.comp, he]

/-- A row in its own place. -/
theorem map_replace_self {α β : Type} [DecidableEq β] {key : α → β} {rows : List α} {r : α}
    (h : (rows.map key).Nodup) (hr : r ∈ rows) :
    (rows.map fun x => if key x = key r then r else x) = rows := by
  refine (List.map_congr_left (g := id) fun x hx => ?_).trans (List.map_id _)
  split
  next he => exact (List.inj_on_of_nodup_map h hx hr he).symm
  next => rfl

/-- A row in the place of the one with its identifier, among the rows before and after that one. -/
theorem map_replace_append {α β : Type} [DecidableEq β] {key : α → β} {before after : List α}
    {r q : α} (h : ((before ++ r :: after).map key).Nodup) (hkey : key q = key r) :
    ((before ++ r :: after).map fun x => if key x = key q then q else x) = before ++ q :: after := by
  rw [List.map_append, List.map_cons, List.nodup_append, List.nodup_cons] at h
  obtain ⟨-, ⟨hafter, -⟩, hbefore⟩ := h
  have hkeep : ∀ xs : List α, (∀ x ∈ xs, key x ≠ key r) →
      (xs.map fun x => if key x = key q then q else x) = xs := by
    intro xs hxs
    refine (List.map_congr_left (g := id) fun x hx => ?_).trans (List.map_id xs)
    exact if_neg (hkey ▸ hxs x hx)
  have hfirst : ∀ x ∈ before, key x ≠ key r := fun x hx =>
    hbefore _ (List.mem_map_of_mem hx) _ List.mem_cons_self
  have hlast : ∀ x ∈ after, key x ≠ key r := fun x hx he => hafter (he ▸ List.mem_map_of_mem hx)
  rw [List.map_append, List.map_cons, if_pos hkey.symm, hkeep before hfirst, hkeep after hlast]

/-- A row that gets the identifier `i` or a new one, is made by `f` and entered by `g`. -/
theorem Op.exec_insertion {α : Type} (i : Option Id) (f : Id → Except Fault α)
    (g : α → Database → Except Fault Database) (d : Deployment) :
    (transaction (match i with
      | some i => do let i ← pure i; let r ← ofExcept (f i); write (g r); return r
      | none => do let i ← drawId; let r ← ofExcept (f i); write (g r); return r)).exec d =
      match f (i.getD (.drawn (d.drawn + 1))) with
      | .error e => (.error e, { d with drawn := d.drawn + if i.isSome then 0 else 1 })
      | .ok r => match g r d.db with
        | .error e => (.error e, { d with drawn := d.drawn + if i.isSome then 0 else 1 })
        | .ok db => (.ok r, { d with db := db, drawn := d.drawn + if i.isSome then 0 else 1 }) := by
  cases i with
  | some i =>
    simp only [exec_transaction, exec_bind, exec_pure, exec_ofExcept, exec_write, Option.getD_some]
    cases hf : f i with
    | error e => rfl
    | ok r => cases hg : g r d.db <;> simp [hg]
  | none =>
    simp only [exec_transaction, exec_bind, exec_drawId, exec_ofExcept, exec_write,
      Option.getD_none]
    cases hf : f (.drawn (d.drawn + 1)) with
    | error e => rfl
    | ok r => cases hg : g r d.db <;> simp [hg]

section
variable {d : Deployment}

theorem exec_addProject (form : ProjectForm) (d : Deployment) :
    (addProject form).exec d =
      match form.toProject (form.id.getD (.drawn (d.drawn + 1))) with
      | .error e => (.error e, { d with drawn := d.drawn + if form.id.isSome then 0 else 1 })
      | .ok p => match d.db.addProject p with
        | .error e => (.error e, { d with drawn := d.drawn + if form.id.isSome then 0 else 1 })
        | .ok db =>
          (.ok p, { d with db := db, drawn := d.drawn + if form.id.isSome then 0 else 1 }) := by
  refine (Op.exec_insertion form.id form.toProject (fun p db => db.addProject p) d).trans ?_
  cases form.toProject (form.id.getD (.drawn (d.drawn + 1))) with
  | error e => rfl
  | ok p => cases d.db.addProject p <;> rfl

theorem exec_addReport (form : ReportForm) (d : Deployment) :
    (addReport form).exec d =
      match form.toReport (form.id.getD (.drawn (d.drawn + 1))) with
      | .error e => (.error e, { d with drawn := d.drawn + if form.id.isSome then 0 else 1 })
      | .ok r => match d.db.addReport r with
        | .error e => (.error e, { d with drawn := d.drawn + if form.id.isSome then 0 else 1 })
        | .ok db =>
          (.ok r, { d with db := db, drawn := d.drawn + if form.id.isSome then 0 else 1 }) := by
  refine (Op.exec_insertion form.id form.toReport (fun r db => db.addReport r) d).trans ?_
  cases form.toReport (form.id.getD (.drawn (d.drawn + 1))) with
  | error e => rfl
  | ok r => cases d.db.addReport r <;> rfl

/-- A project whose row can be made with the identifier that is given. -/
theorem exec_addProject_row {form : ProjectForm} {i : Id} {p : Project} (hid : form.id = some i)
    (hp : form.toProject i = .ok p) (d : Deployment) :
    (addProject form).exec d = match d.db.addProject p with
      | .error e => (.error e, d)
      | .ok db => (.ok p, { d with db := db }) := by
  simp only [exec_addProject, hid, Option.getD_some, hp]
  cases d.db.addProject p <;> rfl

/-- A report whose row can be made with the identifier that is given. -/
theorem exec_addReport_row {form : ReportForm} {i : Id} {r : Report} (hid : form.id = some i)
    (hr : form.toReport i = .ok r) (d : Deployment) :
    (addReport form).exec d = match d.db.addReport r with
      | .error e => (.error e, d)
      | .ok db => (.ok r, { d with db := db }) := by
  simp only [exec_addReport, hid, Option.getD_some, hr]
  cases d.db.addReport r <;> rfl

/-- A project that was added, with the row that was entered. -/
theorem exec_addProject_ok {form : ProjectForm} {d' : Deployment} {p : Project}
    (h : (addProject form).exec d = (.ok p, d')) :
    form.toProject (form.id.getD (.drawn (d.drawn + 1))) = .ok p ∧
      d.db.addProject p = .ok d'.db := by
  rw [exec_addProject] at h
  cases hp : form.toProject (form.id.getD (.drawn (d.drawn + 1))) with
  | error e => rw [hp] at h; cases h
  | ok q =>
    cases hdb : d.db.addProject q with
    | error e => simp only [hp, hdb] at h; cases h
    | ok db =>
      simp only [hp, hdb] at h
      cases h
      exact ⟨rfl, hdb⟩

theorem ProjectForm.toProject_eq_ok {form : ProjectForm} {i : Id} {p : Project}
    (h : form.toProject i = .ok p) : p.id = i ∧ p.parentId = form.parentId := by
  unfold toProject at h
  cases hn : required "project_details" "name" form.name with
  | error e => rw [hn] at h; cases h
  | ok name =>
    cases hu : required "project_details" "user_id" form.userId with
    | error e => rw [hn, hu] at h; cases h
    | ok user =>
      rw [hn, hu] at h
      cases h
      exact ⟨rfl, rfl⟩

end

namespace Database

variable {db db' : Database} {i : Id}

theorem hasProject_iff : db.hasProject i = true ↔ ∃ p ∈ db.projects, p.id = i := by
  simp [hasProject]

/-- What is known of a project that is added. -/
structure Admits (db : Database) (p : Project) : Prop where
  fresh : ∀ q ∈ db.projects, q.id ≠ p.id
  parent : ∀ i, p.parentId = some i → i = p.id ∨ db.hasProject i

theorem addProject_eq_ok {p : Project} (h : db.addProject p = .ok db') :
    db.Admits p ∧ db' = { db with projects := db.projects ++ [p] } := by
  obtain ⟨hid, h⟩ := eq_ok_of_check h
  obtain ⟨href, h⟩ := eq_ok_of_check h
  refine ⟨⟨unrepeated_eq_ok hid, fun i hi => ?_⟩, by cases h; rfl⟩
  have hall := resolved_eq_ok href
  simp only [hi, Bool.and_eq_true, Option.all_some, Bool.or_eq_true, decide_eq_true_eq] at hall
  exact hall.1.1.2

theorem addReport_eq_ok {r : Report} (h : db.addReport r = .ok db') :
    (∀ x ∈ db.reports, x.id ≠ r.id) ∧ db' = { db with reports := db.reports ++ [r] } := by
  obtain ⟨-, h⟩ := eq_ok_of_check h
  obtain ⟨hid, h⟩ := eq_ok_of_check h
  obtain ⟨-, h⟩ := eq_ok_of_check h
  exact ⟨unrepeated_eq_ok hid, by cases h; rfl⟩

end Database

end ReportMigration
