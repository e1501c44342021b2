import ReportMigration.Proofs.Projects.Forest
/-!
Walks over the projects.

* `Database.IsForest db`: identifiers of projects do not repeat, every parent exists, and no project
  lies below itself;
* `Database.Rooted db p`: the way up from the project `p` ends at a project without a parent. In a
  forest this holds of every project (`Database.IsForest.rooted`);
* `Database.WalksEnd db`: the ways up and down end by themselves, and not because as many steps were
  taken as there are projects. They do so wherever there is no cycle (`Database.IsForest.walksEnd`).
-/
namespace ReportMigration

namespace Database

open Relation

variable {db : Database} {p : Project} {i j : Id} {m n : Nat}

/-- The projects form a forest. -/
structure IsForest (db : Database) : Prop where
  distinct : (db.projects.map (·.id)).Nodup
  parents : ∀ p ∈ db.projects, ∀ i, p.parentId = some i → ∃ q ∈ db.projects, q.id = i
  acyclic : db.Acyclic

/-- The way up from a project ends at a project without a parent. -/
inductive Rooted (db : Database) : Project → Prop where
  | root {p : Project} (hp : p ∈ db.projects) (h : p.parentId = none) : Rooted db p
  | child {p q : Project} (hp : p ∈ db.projects) (h : p.parentId = some q.id) (hq : Rooted db q) :
      Rooted db p

/-- Where the walks over the projects end. -/
structure WalksEnd (db : Database) : Prop where
  /-- The way up is the same within any larger number of steps, -/
  up : ∀ i n, db.projects.length < n → db.ascend n i = db.ancestry i
  /-- and from a project it comes to one without a parent. -/
  root : ∀ p ∈ db.projects, ∃ q ∈ db.projects, q.parentId = none ∧ db.Below q.id p.id ∧
    (db.ancestry p.id).head? = some (some q)
  /-- The way down ends, and is the same within any larger number of levels. -/
  down : ∀ i, ∃ is, ∀ n, db.projects.length < n → db.descend n i = .ok is
  /-- So does the count of the reports below a project of an organisation. -/
  total : ∀ organization i n, (db.inventoryProjects organization).length < n →
    db.reportTotal (db.inventoryProjects organization) n i =
      db.reportTotal (db.inventoryProjects organization)
        ((db.inventoryProjects organization).length + 1) i

theorem mem_of_findProject? (h : db.findProject? i = some p) : p ∈ db.projects ∧ p.id = i :=
  ⟨List.mem_of_find?_eq_some h, by simpa using List.find?_some h⟩

theorem findProject?_of_mem (hids : (db.projects.map (·.id)).Nodup) (hp : p ∈ db.projects) :
    db.findProject? p.id = some p := by
  cases h : db.findProject? p.id with
  | none => exact absurd (List.find?_eq_none.1 h p hp) (by simp)
  | some q =>
    obtain ⟨hq, he⟩ := mem_of_findProject? h
    rw [List.inj_on_of_nodup_map hids hq hp he]

theorem parentOf_of_findProject? (h : db.findProject? i = some p) (hj : p.parentId = some j) :
    db.ParentOf j i :=
  ⟨p, (mem_of_findProject? h).1, (mem_of_findProject? h).2, hj⟩

/-! ## The way up -/

/-- Higher up more projects lie below, and never more than there are. -/
theorem Acyclic.lt_card_beneath_add (ha : db.Acyclic) (hij : db.ParentOf i j)
    (h : db.projects.length < (db.beneath j).card + (n + 1)) :
    db.projects.length < (db.beneath i).card + n := by
  have hlt := ha.card_beneath_lt hij
  omega

theorem Acyclic.ascend_congr (ha : db.Acyclic) (hm : db.projects.length < (db.beneath i).card + m)
    (hn : db.projects.length < (db.beneath i).card + n) : db.ascend m i = db.ascend n i := by
  have hle : (db.beneath i).card ≤ db.projects.length := card_beneath_le
  induction m generalizing n i with
  | zero => omega
  | succ m ih =>
    cases n with
    | zero => omega
    | succ n =>
      cases hf : db.findProject? i with
      | none => simp only [ascend, hf]
      | some p =>
        cases hq : p.parentId with
        | none => simp only [ascend, hf, hq]
        | some q =>
          have hqi := parentOf_of_findProject? hf hq
          have hup := ih (ha.lt_card_beneath_add hqi hm) (ha.lt_card_beneath_add hqi hn)
            card_beneath_le
          simp only [ascend, hf, hq, hup]

theorem Acyclic.wellFounded_parentOf (ha : db.Acyclic) : WellFounded db.ParentOf := by
  refine Subrelation.wf (fun {i j} hij => ?_)
    (measure fun i => db.projects.length - (db.beneath i).card).wf
  have hlt := ha.card_beneath_lt hij
  have hle : (db.beneath i).card ≤ db.projects.length := card_beneath_le
  show db.projects.length - (db.beneath i).card < db.projects.length - (db.beneath j).card
  omega

namespace IsForest

/-- **The way up from every project ends** at a project without a parent. -/
theorem rooted (hf : db.IsForest) (hp : p ∈ db.projects) : db.Rooted p := by
  -- induction on the identifier, along the relation from parents to children
  suffices h : ∀ i, ∀ p ∈ db.projects, p.id = i → db.Rooted p from h p.id p hp rfl
  intro i
  induction i using hf.acyclic.wellFounded_parentOf.induction with
  | _ i ih =>
    rintro p hp rfl
    cases hq : p.parentId with
    | none => exact .root hp hq
    | some j =>
      obtain ⟨q, hqm, rfl⟩ := hf.parents p hp j hq
      exact .child hp hq (ih q.id ⟨p, hp, rfl, hq⟩ q hqm rfl)

theorem exists_root (hf : db.IsForest) (hp : p ∈ db.projects)
    (hn : db.projects.length < (db.beneath p.id).card + n) :
    ∃ q ∈ db.projects, q.parentId = none ∧ db.Below q.id p.id ∧
      (db.ascend n p.id).head? = some (some q) := by
  have hle : (db.beneath p.id).card ≤ db.projects.length := card_beneath_le
  induction n generalizing p with
  | zero => omega
  | succ n ih =>
    simp only [ascend, findProject?_of_mem hf.distinct hp]
    cases hj : p.parentId with
    | none => exact ⟨p, hp, hj, .refl, rfl⟩
    | some j =>
      obtain ⟨q, hq, rfl⟩ := hf.parents p hp j hj
      have hqp : db.ParentOf q.id p.id := ⟨p, hp, rfl, hj⟩
      obtain ⟨r, hr, hroot, hbelow, hhead⟩ :=
        ih hq (hf.acyclic.lt_card_beneath_add hqp hn) card_beneath_le
      refine ⟨r, hr, hroot, hbelow.tail hqp, ?_⟩
      simp [List.head?_append, hhead]

end IsForest

/-! ## The way down -/

theorem Acyclic.descend_congr (ha : db.Acyclic) (hm : (db.beneath i).card < m)
    (hn : (db.beneath i).card < n) : db.descend m i = db.descend n i := by
  induction m generalizing n i with
  | zero => omega
  | succ m ih =>
    cases n with
    | zero => omega
    | succ n =>
      have hchildren : ∀ p ∈ db.childrenOf i, db.descend m p.id = db.descend n p.id := by
        intro p hp
        have hlt := ha.card_beneath_lt (parentOf_of_mem hp)
        exact ih (by omega) (by omega)
      have hmap : ((db.childrenOf i).mapM fun p => db.descend m p.id) =
          (db.childrenOf i).mapM fun p => db.descend n p.id := mapM_congr hchildren
      simp only [descend, hmap]

theorem Acyclic.reportTotal_congr {projects : List Project}
    (ha : ({ db with projects := projects } : Database).Acyclic)
    (hm : (({ db with projects := projects } : Database).beneath i).card < m)
    (hn : (({ db with projects := projects } : Database).beneath i).card < n) :
    db.reportTotal projects m i = db.reportTotal projects n i := by
  induction m generalizing n i with
  | zero => omega
  | succ m ih =>
    cases n with
    | zero => omega
    | succ n =>
      simp only [reportTotal]
      congr 2
      refine List.map_congr_left fun p hp => ?_
      have hlt := ha.card_beneath_lt (parentOf_of_mem hp)
      exact ih (by omega) (by omega)

/-- Among some of the projects there is no cycle either. -/
theorem Acyclic.of_subset {projects : List Project} (ha : db.Acyclic)
    (h : ∀ p ∈ projects, p ∈ db.projects) :
    ({ db with projects := projects } : Database).Acyclic := by
  refine fun i hi => ha i (TransGen.mono (fun j k hjk => ?_) _ _ hi)
  obtain ⟨p, hp, hk, hj⟩ := hjk
  exact ⟨p, h p hp, hk, hj⟩

/-- **The walks over a forest end by themselves.** -/
theorem IsForest.walksEnd (hf : db.IsForest) : db.WalksEnd where
  up i n hn := hf.acyclic.ascend_congr (by omega) (by omega)
  root p hp := hf.exists_root hp (by omega)
  down i := by
    obtain ⟨is, his⟩ := hf.acyclic.exists_subtree i
    refine ⟨is, fun n hn => ?_⟩
    have hle : (db.beneath i).card ≤ db.projects.length := card_beneath_le
    rw [← his]
    exact hf.acyclic.descend_congr (by omega) (by omega)
  total organization i n hn := by
    have hsub : ∀ p ∈ db.inventoryProjects organization, p ∈ db.projects := fun p hp =>
      (List.mem_filter.1 hp).1
    have hle : (({ db with projects := db.inventoryProjects organization } : Database).beneath
        i).card ≤ (db.inventoryProjects organization).length := card_beneath_le
    exact (hf.acyclic.of_subset hsub).reportTotal_congr (by omega) (by omega)

end Database

end ReportMigration
