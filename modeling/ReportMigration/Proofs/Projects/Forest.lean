import Mathlib.Data.Finset.Card
import Mathlib.Data.Finset.Dedup
import Mathlib.Logic.Relation
import ReportMigration.Projects.Tree
import ReportMigration.Proofs.Execution
/-!
What lies below a project.

* `Database.Below db i j`: the project `j` is reached from `i` by going from parents to children;
* `Database.Acyclic db`: no project lies below itself; `Database.acyclic_iff` decides it;
* `Database.mem_of_subtree`: the descent lists exactly what lies below a project;
* `Database.exists_subtree`: without cycles it comes to an end.
-/
namespace ReportMigration

namespace Database

open Relation

variable {db : Database} {i j : Id} {is : List Id}

/-- The project `i` is the parent of a project with the identifier `j`. -/
def ParentOf (db : Database) (i j : Id) : Prop := ∃ p ∈ db.projects, p.id = j ∧ p.parentId = some i

/-- The project `j` is `i` or lies below it. -/
def Below (db : Database) : Id → Id → Prop := ReflTransGen db.ParentOf

/-- No project lies below itself. -/
def Acyclic (db : Database) : Prop := ∀ i, ¬ TransGen db.ParentOf i i

theorem mem_childrenOf {p : Project} :
    p ∈ db.childrenOf i ↔ p ∈ db.projects ∧ p.parentId = some i := by
  simp [childrenOf]

theorem parentOf_of_mem {p : Project} (h : p ∈ db.childrenOf i) : db.ParentOf i p.id :=
  ⟨p, (mem_childrenOf.1 h).1, rfl, (mem_childrenOf.1 h).2⟩

/-! ## The descent -/

theorem descend_succ_eq_ok {n : Nat} (h : db.descend (n + 1) i = .ok is) :
    ∃ below, ((db.childrenOf i).mapM fun p => db.descend n p.id) = .ok below ∧
      is = i :: below.flatten := by
  rw [descend] at h
  cases hm : (db.childrenOf i).mapM fun p => db.descend n p.id with
  | error e => rw [hm] at h; cases h
  | ok below => rw [hm] at h; cases h; exact ⟨below, rfl, rfl⟩

/-- Where the descent from a project ends, so does that from its children. -/
theorem exists_descend_of_parentOf {n : Nat} (h : db.descend (n + 1) i = .ok is)
    (hij : db.ParentOf i j) : ∃ js, db.descend n j = .ok js ∧ ∀ k ∈ js, k ∈ is := by
  obtain ⟨below, hm, rfl⟩ := descend_succ_eq_ok h
  obtain ⟨p, hp, rfl, hpi⟩ := hij
  obtain ⟨js, hjs, hd⟩ := exists_answer_of_mapM hm (mem_childrenOf.2 ⟨hp, hpi⟩)
  exact ⟨js, hd, fun k hk => List.mem_cons_of_mem _ (List.mem_flatten.2 ⟨js, hjs, hk⟩)⟩

theorem mem_of_descend {n : Nat} (h : db.descend n i = .ok is) : j ∈ is ↔ db.Below i j := by
  induction n generalizing i is with
  | zero => cases h
  | succ n ih =>
    constructor
    · intro hj
      obtain ⟨below, hm, rfl⟩ := descend_succ_eq_ok h
      rcases List.mem_cons.1 hj with rfl | hj
      · exact .refl
      · obtain ⟨js, hjs, hj⟩ := List.mem_flatten.1 hj
        obtain ⟨p, hp, hd⟩ := exists_item_of_mapM hm hjs
        exact .head (parentOf_of_mem hp) ((ih hd).1 hj)
    · intro hj
      rcases ReflTransGen.cases_head hj with rfl | ⟨k, hik, hkj⟩
      · obtain ⟨below, -, rfl⟩ := descend_succ_eq_ok h
        exact List.mem_cons_self
      · obtain ⟨js, hd, hsub⟩ := exists_descend_of_parentOf h hik
        exact hsub j ((ih hd).2 hkj)

/-- **The descent lists exactly what lies below.** -/
theorem mem_of_subtree (h : db.subtree i = .ok is) : j ∈ is ↔ db.Below i j := mem_of_descend h

/-! ## Its end -/

/-- Where the descent ends, there is no cycle. -/
theorem not_transGen_of_descend {n : Nat} (h : db.descend n i = .ok is) :
    ¬ TransGen db.ParentOf i i := by
  induction n generalizing i is with
  | zero => cases h
  | succ n ih =>
    intro hi
    -- the child on the cycle lies on the same cycle, and the descent from it ends earlier
    obtain ⟨j, hij, hji⟩ := TransGen.head'_iff.1 hi
    obtain ⟨js, hd, -⟩ := exists_descend_of_parentOf h hij
    exact ih hd (TransGen.tail'_iff.2 ⟨i, hji, hij⟩)

open Classical in
/-- The projects properly below a project. -/
noncomputable def beneath (db : Database) (i : Id) : Finset Id :=
  (db.projects.map (·.id)).toFinset.filter (TransGen db.ParentOf i)

theorem mem_beneath : j ∈ db.beneath i ↔ TransGen db.ParentOf i j := by
  simp only [beneath, Finset.mem_filter, List.mem_toFinset, List.mem_map, and_iff_right_iff_imp]
  intro h
  obtain ⟨k, -, p, hp, hpj, -⟩ := TransGen.tail'_iff.1 h
  exact ⟨p, hp, hpj⟩

theorem card_beneath_le : (db.beneath i).card ≤ db.projects.length := by
  classical
  calc (db.beneath i).card ≤ (db.projects.map (·.id)).toFinset.card := Finset.card_filter_le _ _
    _ ≤ (db.projects.map (·.id)).length := List.toFinset_card_le _
    _ = db.projects.length := List.length_map _

theorem Acyclic.card_beneath_lt (ha : db.Acyclic) (hij : db.ParentOf i j) :
    (db.beneath j).card < (db.beneath i).card := by
  refine Finset.card_lt_card ⟨fun k hk => ?_, fun hsub => ?_⟩
  · exact mem_beneath.2 (.head hij (mem_beneath.1 hk))
  · exact ha j (mem_beneath.1 (hsub (mem_beneath.2 (.single hij))))

theorem Acyclic.exists_descend (ha : db.Acyclic) {n : Nat} (hn : (db.beneath i).card < n) :
    ∃ is, db.descend n i = .ok is := by
  induction n generalizing i with
  | zero => omega
  | succ n ih =>
    rw [descend]
    cases hm : (db.childrenOf i).mapM fun p => db.descend n p.id with
    | ok below => exact ⟨_, rfl⟩
    | error e =>
      obtain ⟨p, hp, hd⟩ := exists_of_mapM_eq_error hm
      have hlt := ha.card_beneath_lt (parentOf_of_mem hp)
      obtain ⟨is, his⟩ := ih (i := p.id) (by omega)
      rw [his] at hd
      cases hd

/-- **The descent ends** where no project lies below itself. -/
theorem Acyclic.exists_subtree (ha : db.Acyclic) (i : Id) : ∃ is, db.subtree i = .ok is :=
  ha.exists_descend (Nat.lt_succ_of_le card_beneath_le)

theorem acyclic_iff :
    db.Acyclic ↔ (db.projects.all fun p => (db.subtree p.id).isOk) = true := by
  rw [List.all_eq_true]
  constructor
  · intro ha p _
    obtain ⟨is, h⟩ := ha.exists_subtree p.id
    rw [h]
    rfl
  · intro h i hi
    -- what lies on a cycle is a project
    obtain ⟨k, -, p, hp, rfl, -⟩ := TransGen.tail'_iff.1 hi
    cases hd : db.subtree p.id with
    | ok is => exact not_transGen_of_descend hd hi
    | error e =>
      have hok := h p hp
      rw [hd] at hok
      cases hok

instance : Decidable db.Acyclic := decidable_of_iff _ acyclic_iff.symm

end Database

end ReportMigration
