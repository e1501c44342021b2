import ReportMigration.Proofs.Projects.Walks
import ReportMigration.Sample.Catalogue
/-!
The inventory of an organisation.

The reports below a project are those of the project and those below its children. None of them is
counted twice, because what lies below a project lies below one of its children only
(`Database.ParentOf.unique`), and below one root only.

* `Database.countReports db P`: how many reports there are in projects with `P`;
* `Database.only db A`: the catalogue with the projects `A` only, in which ways between projects run
  inside `A`;
* `Database.IsInventory`: what an inventory has to say of an organisation;
* `Database.isInventory_inventory`: the inventory says so.
-/
namespace ReportMigration

namespace Database

open Relation

variable {db : Database} {i j k : Id} {P Q : Id → Prop}

/-! ## Ways between projects -/

/-- A project has one parent at most. -/
theorem ParentOf.unique (hids : (db.projects.map (·.id)).Nodup) (hi : db.ParentOf i k)
    (hj : db.ParentOf j k) : i = j := by
  obtain ⟨p, hp, rfl, hpi⟩ := hi
  obtain ⟨q, hq, he, hqj⟩ := hj
  obtain rfl : q = p := List.inj_on_of_nodup_map hids hq hp he
  exact Option.some.inj (hpi.symm.trans hqj)

/-- Of two projects above a third, one lies above the other. -/
theorem Below.total (hids : (db.projects.map (·.id)).Nodup) (hi : db.Below i k)
    (hj : db.Below j k) : db.Below i j ∨ db.Below j i := by
  have hup : Relator.RightUnique (Function.swap db.ParentOf) := fun _ _ _ => ParentOf.unique hids
  rcases (reflTransGen_swap.2 hi).total_of_right_unique hup (reflTransGen_swap.2 hj) with h | h
  · exact .inr (reflTransGen_swap.1 h)
  · exact .inl (reflTransGen_swap.1 h)

theorem Acyclic.not_below (ha : db.Acyclic) (hij : db.ParentOf i j) : ¬ db.Below j i := fun h =>
  ha i (TransGen.head'_iff.2 ⟨j, hij, h⟩)

/-- No child of a project lies below another one. -/
theorem Acyclic.eq_of_siblings (ha : db.Acyclic) (hids : (db.projects.map (·.id)).Nodup)
    (hi : db.ParentOf k i) (hj : db.ParentOf k j) (h : db.Below i j) : i = j := by
  rcases ReflTransGen.cases_tail h with rfl | ⟨m, him, hmj⟩
  · rfl
  · obtain rfl : m = k := hmj.unique hids hj
    exact absurd him (ha.not_below hi)

/-- A root lies below nothing else. -/
theorem eq_of_below_root {p : Project} (hids : (db.projects.map (·.id)).Nodup) (hp : p ∈ db.projects)
    (hroot : p.parentId = none) (h : db.Below i p.id) : i = p.id := by
  rcases ReflTransGen.cases_tail h with he | ⟨m, -, q, hq, he, hm⟩
  · exact he.symm
  · rw [List.inj_on_of_nodup_map hids hq hp he, hroot] at hm
    cases hm

/-- Where no project of a list lies below another one, nothing lies below two of them. -/
theorem pairwise_not_below {ps : List Project} (hids : (db.projects.map (·.id)).Nodup)
    (hs : ps.Sublist db.projects)
    (h : ∀ p ∈ ps, ∀ q ∈ ps, db.Below p.id q.id → p.id = q.id) :
    ps.Pairwise fun p q => ∀ k, ¬ (db.Below p.id k ∧ db.Below q.id k) := by
  have hne : ps.Pairwise fun p q => p.id ≠ q.id :=
    List.pairwise_map.1 (hids.sublist (hs.map (·.id)))
  refine hne.imp_of_mem fun {p q} hp hq hpq k ⟨hpk, hqk⟩ => ?_
  rcases hpk.total hids hqk with hb | hb
  · exact hpq (h p hp q hq hb)
  · exact hpq (h q hq p hp hb).symm

/-- Below a project are itself and what is below its children. -/
theorem below_iff_children :
    db.Below i k ↔ i = k ∨ ∃ p ∈ db.childrenOf i, db.Below p.id k := by
  rw [Below, ReflTransGen.cases_head_iff]
  refine or_congr_right ⟨?_, ?_⟩
  · rintro ⟨j, ⟨p, hp, rfl, hpi⟩, hk⟩
    exact ⟨p, mem_childrenOf.2 ⟨hp, hpi⟩, hk⟩
  · rintro ⟨p, hp, hk⟩
    exact ⟨p.id, parentOf_of_mem hp, hk⟩

/-- Below a root are the projects from which the way up ends. -/
theorem exists_root_iff_rooted :
    (∃ p ∈ db.projects, p.parentId = none ∧ db.Below p.id k) ↔ ∃ q, db.Rooted q ∧ q.id = k := by
  constructor
  · rintro ⟨p, hp, hroot, hk⟩
    induction hk with
    | refl => exact ⟨p, .root hp hroot, rfl⟩
    | tail _ hjk ih =>
      obtain ⟨q, hq, rfl⟩ := ih
      obtain ⟨r, hr, rfl, hrq⟩ := hjk
      exact ⟨r, .child hr hrq hq, rfl⟩
  · rintro ⟨q, hq, rfl⟩
    induction hq with
    | root hp hroot => exact ⟨_, hp, hroot, .refl⟩
    | child hp hparent _ ih =>
      obtain ⟨r, hr, hroot, hbelow⟩ := ih
      exact ⟨r, hr, hroot, hbelow.tail ⟨_, hp, rfl, hparent⟩⟩

/-! ## Counting reports -/

open Classical in
/-- How many reports that are not marked as deleted there are in projects with `P`. -/
noncomputable def countReports (db : Database) (P : Id → Prop) : Nat :=
  db.reports.countP fun r => r.isDeleted = some false ∧ P r.projectId

theorem countReports_congr (h : ∀ k, P k ↔ Q k) : db.countReports P = db.countReports Q := by
  have hPQ : P = Q := funext fun k => propext (h k)
  rw [hPQ]

theorem reportCount_eq : db.reportCount i = db.countReports (i = ·) := by
  rw [reportCount, countReports, List.countP_eq_length_filter]
  congr 1
  refine List.filter_congr fun r _ => ?_
  rw [Bool.eq_iff_iff]
  simp only [Bool.and_eq_true, decide_eq_true_eq]
  exact ⟨fun h => ⟨h.2, h.1.symm⟩, fun h => ⟨h.2.symm, h.1⟩⟩

@[simp] theorem countReports_false : db.countReports (fun _ => False) = 0 := by
  simp [countReports]

/-- Reports of two kinds of projects that exclude each other. -/
theorem countReports_or (h : ∀ k, ¬ (P k ∧ Q k)) :
    db.countReports (fun k => P k ∨ Q k) = db.countReports P + db.countReports Q := by
  unfold countReports
  induction db.reports with
  | nil => rfl
  | cons r rs ih =>
    rw [List.countP_cons, List.countP_cons, List.countP_cons, ih]
    by_cases hP : P r.projectId
    · have hQ : ¬ Q r.projectId := fun hQ => h r.projectId ⟨hP, hQ⟩
      by_cases hr : r.isDeleted = some false <;> simp [hP, hQ, hr]
      omega
    · by_cases hQ : Q r.projectId <;> by_cases hr : r.isDeleted = some false <;> simp [hP, hQ, hr]
      omega

/-- Reports of a list of kinds that exclude one another. -/
theorem countReports_exists {α : Type} {f : α → Id → Prop} : ∀ {xs : List α},
    xs.Pairwise (fun x y => ∀ k, ¬ (f x k ∧ f y k)) →
      db.countReports (fun k => ∃ x ∈ xs, f x k) =
        (xs.map fun x => db.countReports (f x)).foldr (· + ·) 0
  | [], _ => by simp
  | x :: xs, h => by
    obtain ⟨hx, hxs⟩ := List.pairwise_cons.1 h
    have hsplit : db.countReports (fun k => ∃ y ∈ x :: xs, f y k) =
        db.countReports fun k => f x k ∨ ∃ y ∈ xs, f y k := countReports_congr fun k => by simp
    have hapart : ∀ k, ¬ (f x k ∧ ∃ y ∈ xs, f y k) := by
      rintro k ⟨hk, y, hy, hyk⟩
      exact hx y hy k ⟨hk, hyk⟩
    rw [hsplit, countReports_or hapart, countReports_exists hxs, List.map_cons, List.foldr_cons]

/-! ## The count below a project -/

/-- **The total of a project counts the reports at and below it**, each once. -/
theorem Acyclic.reportTotal_eq {own : Database} (ha : own.Acyclic)
    (hids : (own.projects.map (·.id)).Nodup) {n : Nat} (hn : (own.beneath i).card < n) :
    db.reportTotal own.projects n i = db.countReports (own.Below i) := by
  induction n generalizing i with
  | zero => omega
  | succ n ih =>
    have hbelow : ∀ p ∈ own.childrenOf i,
        db.reportTotal own.projects n p.id = db.countReports (own.Below p.id) := by
      intro p hp
      have hlt := ha.card_beneath_lt (parentOf_of_mem hp)
      exact ih (by omega)
    have hsiblings : (own.childrenOf i).Pairwise fun p q =>
        ∀ k, ¬ (own.Below p.id k ∧ own.Below q.id k) :=
      pairwise_not_below hids List.filter_sublist fun p hp q hq =>
        ha.eq_of_siblings hids (parentOf_of_mem hp) (parentOf_of_mem hq)
    -- the project itself is not below its children
    have hself : ∀ k, ¬ (i = k ∧ ∃ p ∈ own.childrenOf i, own.Below p.id k) := by
      rintro k ⟨rfl, p, hp, hk⟩
      exact ha.not_below (parentOf_of_mem hp) hk
    calc db.reportTotal own.projects (n + 1) i
        = db.reportCount i +
            ((own.childrenOf i).map fun p =>
              db.reportTotal own.projects n p.id).foldr (· + ·) 0 := by
          rw [reportTotal]
          rfl
      _ = db.countReports (i = ·) +
            ((own.childrenOf i).map fun p =>
              db.countReports (own.Below p.id)).foldr (· + ·) 0 := by
          rw [reportCount_eq, List.map_congr_left hbelow]
      _ = db.countReports fun k => i = k ∨ ∃ p ∈ own.childrenOf i, own.Below p.id k := by
          rw [countReports_or hself, countReports_exists hsiblings]
      _ = db.countReports (own.Below i) := countReports_congr fun k => below_iff_children.symm

/-! ## The inventory -/

open Classical in
/-- The catalogue with some of its projects only. -/
noncomputable def only (db : Database) (A : Project → Prop) : Database :=
  { db with projects := db.projects.filter (A ·) }

/-- The project is not marked as deleted and was created by a user of the organisation. -/
def Owned (db : Database) (organization : Id) (p : Project) : Prop :=
  p.audit.isDeleted = false ∧ ∃ u ∈ db.users, u.id = p.userId ∧ u.organizationId = organization

/-- What an inventory says of an organisation. -/
structure IsInventory (db : Database) (organization : Id) (entries : List (Project × Nat)) :
    Prop where
  /-- There is an entry for every project of the organisation without a parent, -/
  roots : ∀ p, p ∈ entries.map (·.1) ↔
    p ∈ db.projects ∧ db.Owned organization p ∧ p.parentId = none
  /-- one for each. -/
  distinct : (entries.map (·.1.id)).Nodup
  /-- It counts the reports at and below the project, as far as the ways to it run inside the
      organisation. -/
  counts : ∀ e ∈ entries,
    e.2 = db.countReports ((db.only (db.Owned organization)).Below e.1.id)
  /-- All entries count the reports from which a way up inside the organisation ends. -/
  total : (entries.map (·.2)).foldr (· + ·) 0 =
    db.countReports fun k => ∃ q, (db.only (db.Owned organization)).Rooted q ∧ q.id = k

theorem inventoryProjects_eq (organization : Id) :
    db.inventoryProjects organization = (db.only (db.Owned organization)).projects := by
  refine List.filter_congr fun p _ => ?_
  rw [Bool.eq_iff_iff]
  simp only [decide_eq_true_eq]
  simp [Owned, createdIn]

/-- The entries, in the order of the projects. -/
theorem inventory_eq (ha : db.Acyclic) (hids : (db.projects.map (·.id)).Nodup) (organization : Id) :
    let own := db.only (db.Owned organization)
    db.inventory organization = (own.projects.filter (·.parentId.isNone)).map fun p =>
      (p, db.countReports (own.Below p.id)) := by
  intro own
  have hsub : own.projects.Sublist db.projects := List.filter_sublist
  have hown : own.Acyclic := ha.of_subset fun p hp => hsub.subset hp
  rw [inventory, inventoryProjects_eq]
  refine List.map_congr_left fun p _ => ?_
  rw [hown.reportTotal_eq (hids.sublist (hsub.map _)) (Nat.lt_succ_of_le card_beneath_le)]

/-- **The inventory counts every report of an organisation under one root.** -/
theorem isInventory_inventory (ha : db.Acyclic) (hids : (db.projects.map (·.id)).Nodup)
    (organization : Id) : db.IsInventory organization (db.inventory organization) := by
  let own := db.only (db.Owned organization)
  have hsub : own.projects.Sublist db.projects := List.filter_sublist
  have hids' : (own.projects.map (·.id)).Nodup := hids.sublist (hsub.map _)
  have hroots : (own.projects.filter (·.parentId.isNone)).Sublist own.projects := List.filter_sublist
  have hroot : ∀ p, p ∈ own.projects.filter (·.parentId.isNone) ↔
      p ∈ own.projects ∧ p.parentId = none := by simp
  have heq : db.inventory organization = (own.projects.filter (·.parentId.isNone)).map fun p =>
      (p, db.countReports (own.Below p.id)) := inventory_eq ha hids organization
  constructor
  · intro p
    have hfirst : (db.inventory organization).map (·.1) =
        own.projects.filter (·.parentId.isNone) := by
      rw [heq, List.map_map]
      exact List.map_id _
    rw [hfirst, hroot]
    simp [own, only, and_assoc]
  · rw [heq, List.map_map]
    exact hids'.sublist (hroots.map _)
  · rw [heq]
    intro e he
    obtain ⟨p, -, rfl⟩ := List.mem_map.1 he
    rfl
  · have hapart := pairwise_not_below hids' hroots fun p hp q hq h =>
      eq_of_below_root hids' ((hroot q).1 hq).1 ((hroot q).1 hq).2 h
    calc ((db.inventory organization).map (·.2)).foldr (· + ·) 0
        = ((own.projects.filter (·.parentId.isNone)).map fun p =>
            db.countReports (own.Below p.id)).foldr (· + ·) 0 := by
          rw [heq, List.map_map]
          rfl
      _ = db.countReports fun k =>
            ∃ p ∈ own.projects.filter (·.parentId.isNone), own.Below p.id k :=
          (countReports_exists hapart).symm
      _ = db.countReports fun k => ∃ q, own.Rooted q ∧ q.id = k :=
          countReports_congr fun k => by
            rw [← exists_root_iff_rooted]
            simp only [hroot, and_assoc]

/-- A root with two projects below it, of which the lower one is cut off by a project of another
    organisation, and two more roots, one of them marked as deleted. -/
def cutCatalogue : Database where
  users := [Sample.user 0, { Sample.user 1 with organizationId := .ofNat 2 }]
  projects :=
    let root := Sample.projectAt (.ofNat 300) none none none
    [root, Sample.projectAt (.ofNat 301) none none (some (.ofNat 300)),
      { Sample.projectAt (.ofNat 302) none none (some (.ofNat 301)) with userId := Sample.userId 1 },
      Sample.projectAt (.ofNat 303) none none (some (.ofNat 302)),
      { root with id := .ofNat 304, audit := { isDeleted := true } }, { root with id := .ofNat 305 }]
  reports :=
    [Sample.reportAt (.ofNat 400) (.ofNat 500) (.ofNat 300),
      Sample.reportAt (.ofNat 401) (.ofNat 501) (.ofNat 301),
      { Sample.reportAt (.ofNat 402) (.ofNat 502) (.ofNat 301) with isDeleted := some true },
      Sample.reportAt (.ofNat 403) (.ofNat 503) (.ofNat 302),
      Sample.reportAt (.ofNat 404) (.ofNat 504) (.ofNat 303),
      Sample.reportAt (.ofNat 405) (.ofNat 505) (.ofNat 304)]

theorem isInventory_inventory_cut :
    let db := cutCatalogue
    (db.inventory Sample.organizationId).map (fun e => (e.1.id, e.2)) =
        [(.ofNat 300, 2), (.ofNat 305, 0)] ∧
      db.IsInventory Sample.organizationId (db.inventory Sample.organizationId) :=
  ⟨by decide +kernel, isInventory_inventory (by decide +kernel) (by decide +kernel) _⟩

end Database

end ReportMigration
