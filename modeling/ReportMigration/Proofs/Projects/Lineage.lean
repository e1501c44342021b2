import ReportMigration.Proofs.Projects.Inventory
/-!
The way from a root down to a project.

Three walks find the root of a project: the path of a report and the name of the root go up from parent
to parent, the inventory goes down from every root. They come to the same one, because the projects
between a root and a project are determined by the project (`Database.Lineage.unique`).

* `Database.Lineage db r ps p`: the projects `ps` lead from the root `r` down to `p`;
* `Database.IsForest.exists_lineage`: in a forest there is such a way to every project, and the way up
  collects it (`Database.Lineage.ancestry_eq`);
* `Database.CountedUnder db o p r`: the inventory counts the reports of `p` in the entry of `r`, and in
  no other;
* `Database.walks_agree`: all walks find the same root.
-/
namespace ReportMigration

namespace Database

open Relation

variable {db : Database} {p q r : Project} {ps : List Project} {i : Id} {n : Nat}

/-- The projects `ps` lead from the root `r` down to `p`, each the parent of the next. -/
inductive Lineage (db : Database) : Project → List Project → Project → Prop where
  | root {p : Project} (hp : p ∈ db.projects) (h : p.parentId = none) : Lineage db p [p] p
  | child {r p q : Project} {ps : List Project} (hp : p ∈ db.projects) (h : p.parentId = some q.id)
      (hq : Lineage db r ps q) : Lineage db r (ps ++ [p]) p

/-! ## Ways from a root -/

theorem Rooted.exists_lineage (h : db.Rooted p) : ∃ r ps, db.Lineage r ps p := by
  induction h with
  | root hp h => exact ⟨_, _, .root hp h⟩
  | child hp h _ ih =>
    obtain ⟨r, ps, hq⟩ := ih
    exact ⟨r, _, .child hp h hq⟩

/-- **There is a way from a root to every project** of a forest. -/
theorem IsForest.exists_lineage (hf : db.IsForest) (hp : p ∈ db.projects) :
    ∃ r ps, db.Lineage r ps p := (hf.rooted hp).exists_lineage

namespace Lineage

theorem mem (h : db.Lineage r ps p) : p ∈ db.projects := by
  cases h <;> assumption

theorem root_mem (h : db.Lineage r ps p) : r ∈ db.projects ∧ r.parentId = none := by
  induction h with
  | root hp h => exact ⟨hp, h⟩
  | child _ _ _ ih => exact ih

theorem head?_eq (h : db.Lineage r ps p) : ps.head? = some r := by
  induction h with
  | root => rfl
  | child _ _ _ ih => rw [List.head?_append, ih]; rfl

/-- A project has one way from a root at most. -/
theorem unique (hids : (db.projects.map (·.id)).Nodup) (h : db.Lineage r ps p) {r' : Project}
    {ps' : List Project} (h' : db.Lineage r' ps' p) : r' = r ∧ ps' = ps := by
  induction h generalizing r' ps' with
  | root hp hroot =>
    cases h' with
    | root => exact ⟨rfl, rfl⟩
    | child _ hparent _ => cases hroot.symm.trans hparent
  | child hp hparent hq ih =>
    cases h' with
    | root _ hroot => cases hroot.symm.trans hparent
    | child _ hparent' hq' =>
      have hid := Option.some.inj (hparent'.symm.trans hparent)
      obtain rfl := List.inj_on_of_nodup_map hids hq'.mem hq.mem hid
      obtain ⟨rfl, rfl⟩ := ih hq'
      exact ⟨rfl, rfl⟩

/-- Enough steps up collect the way from the root. -/
theorem ascend_eq (hids : (db.projects.map (·.id)).Nodup) (h : db.Lineage r ps p)
    (hn : ps.length ≤ n) : db.ascend n p.id = ps.map some := by
  induction h generalizing n with
  | root hp hroot =>
    cases n with
    | zero => simp at hn
    | succ n => simp only [ascend, findProject?_of_mem hids hp, hroot, List.map_singleton]
  | child hp hparent hq ih =>
    rw [List.length_append, List.length_singleton] at hn
    cases n with
    | zero => omega
    | succ n =>
      simp only [ascend, findProject?_of_mem hids hp, hparent, ih (by omega : _ ≤ n),
        List.map_append, List.map_singleton]

/-- The way up from a project is its way from the root. -/
theorem ancestry_eq (hf : db.IsForest) (h : db.Lineage r ps p) : db.ancestry p.id = ps.map some := by
  have hup := hf.walksEnd.up p.id (max (db.projects.length + 1) ps.length) (by omega)
  rw [← hup, h.ascend_eq hf.distinct (by omega)]

/-- The way stays among projects with `A` if all its projects have `A`. -/
theorem below_only {A : Project → Prop} (h : db.Lineage r ps p) (hA : ∀ q ∈ ps, A q) :
    (db.only A).Below r.id p.id := by
  classical
  induction h with
  | root => exact .refl
  | child hp hparent hq ih =>
    refine .tail (ih fun q hq => hA q (List.mem_append_left _ hq)) ⟨_, ?_, rfl, hparent⟩
    exact List.mem_filter.2 ⟨hp, decide_eq_true (hA _ (by simp))⟩

end Lineage

/-! ## The two walks up -/

theorem reportPath_of_lineage (hf : db.IsForest) (h : db.Lineage r ps p) (reportName : String) :
    db.reportPath p.id reportName = "/".intercalate
      (ps.map (·.name) ++ if reportName = "" then [] else [Text.trim reportName]) := by
  have hnames : (ps.map some).filterMap (fun q => q.map (·.name)) = ps.map (·.name) := by
    rw [List.filterMap_map]
    exact congrFun List.filterMap_eq_map ps
  simp only [reportPath, h.ancestry_eq hf, hnames, String.isEmpty_iff]

theorem rootName_of_lineage (hf : db.IsForest) (h : db.Lineage r ps p) :
    db.rootName p.id = Text.trim r.name := by
  rw [rootName, h.ancestry_eq hf, List.head?_map, h.head?_eq]
  rfl

/-! ## The walk down -/

/-- The catalogue without the reports of a project. -/
def withoutReportsOf (db : Database) (i : Id) : Database :=
  { db with reports := db.reports.filter (·.projectId ≠ i) }

/-- The inventory of an organisation counts the reports of the project `p` in the entry of `r` and in
    no other: these reports make the entry larger by their number. -/
structure CountedUnder (db : Database) (organization : Id) (p r : Project) : Prop where
  entry : r ∈ (db.inventory organization).map (·.1)
  counted : db.inventory organization =
    ((db.withoutReportsOf p.id).inventory organization).map fun e =>
      (e.1, e.2 + if e.1.id = r.id then db.reportCount p.id else 0)

open Classical in
/-- The reports of a project count among those of a kind of projects if it is one of them. -/
theorem countReports_withoutReportsOf (db : Database) (i : Id) (P : Id → Prop) :
    db.countReports P = (db.withoutReportsOf i).countReports P + if P i then db.reportCount i else 0 := by
  have hrest : (db.withoutReportsOf i).countReports P = db.countReports fun k => P k ∧ k ≠ i := by
    rw [countReports, countReports, withoutReportsOf, List.countP_filter]
    refine List.countP_congr fun s _ => ?_
    simp [and_assoc]
  have hown : (if P i then db.reportCount i else 0) = db.countReports fun k => P k ∧ k = i := by
    by_cases hi : P i
    · rw [if_pos hi, reportCount_eq]
      exact countReports_congr fun k => ⟨fun h => ⟨h ▸ hi, h.symm⟩, fun h => h.2.symm⟩
    · have hnone : db.countReports (fun _ => False) = 0 := countReports_false
      rw [if_neg hi, ← hnone]
      exact countReports_congr fun k => ⟨False.elim, fun h => hi (h.2 ▸ h.1)⟩
  rw [hrest, hown, ← countReports_or fun k h => h.1.2 h.2.2]
  exact countReports_congr fun k => by tauto

/-- **The inventory counts a project under the root of its way**, if the way runs inside the
    organisation. -/
theorem Lineage.countedUnder (hf : db.IsForest) (h : db.Lineage r ps p) {organization : Id}
    (ho : ∀ q ∈ ps, db.Owned organization q) : db.CountedUnder organization p r := by
  classical
  have hroot := h.root_mem
  have howned : db.Owned organization r := ho r (List.mem_of_head? h.head?_eq)
  refine ⟨((isInventory_inventory hf.acyclic hf.distinct organization).roots r).2
    ⟨hroot.1, howned, hroot.2⟩, ?_⟩
  let own := db.only (db.Owned organization)
  have hsub : own.projects.Sublist db.projects := List.filter_sublist
  have hids : (own.projects.map (·.id)).Nodup := hf.distinct.sublist (hsub.map _)
  have hr : r ∈ own.projects := List.mem_filter.2 ⟨hroot.1, decide_eq_true howned⟩
  -- of the roots only `r` lies above the project
  have habove : ∀ q ∈ own.projects, q.parentId = none → (own.Below q.id p.id ↔ q.id = r.id) := by
    intro q hq hqroot
    have hbelow : own.Below r.id p.id := h.below_only ho
    constructor
    · intro hqp
      rcases hqp.total hids hbelow with hb | hb
      · exact eq_of_below_root hids hr hroot.2 hb
      · exact (eq_of_below_root hids hq hqroot hb).symm
    · intro hid
      rwa [hid]
  have hacyclic : (db.withoutReportsOf p.id).Acyclic := hf.acyclic
  have hless : (db.withoutReportsOf p.id).inventory organization =
      (own.projects.filter (·.parentId.isNone)).map fun q =>
        (q, (db.withoutReportsOf p.id).countReports (own.Below q.id)) :=
    inventory_eq hacyclic hf.distinct organization
  have hall : db.inventory organization = (own.projects.filter (·.parentId.isNone)).map fun q =>
      (q, db.countReports (own.Below q.id)) := inventory_eq hf.acyclic hf.distinct organization
  rw [hall, hless, List.map_map]
  refine List.map_congr_left fun q hq => ?_
  obtain ⟨hq, hqroot⟩ := List.mem_filter.1 hq
  have hiff := habove q hq (Option.isNone_iff_eq_none.1 hqroot)
  simp only [Function.comp_apply, countReports_withoutReportsOf db p.id (own.Below q.id), hiff]

/-- **The walks over a forest agree.** From every project there is one way to a root. The path of a
    report names the projects on it, the name of the root is that of the first of them, and the
    inventory of an organisation, if they all belong to it, counts the reports of the project under
    the same root. -/
theorem walks_agree (hf : db.IsForest) (hp : p ∈ db.projects) (reportName : String) :
    ∃ root chain, (∀ r ps, db.Lineage r ps p ↔ r = root ∧ ps = chain) ∧
      db.reportPath p.id reportName = "/".intercalate
        (chain.map (·.name) ++ if reportName = "" then [] else [Text.trim reportName]) ∧
      db.rootName p.id = Text.trim root.name ∧
      ∀ organization, (∀ q ∈ chain, db.Owned organization q) →
        db.CountedUnder organization p root := by
  obtain ⟨root, chain, h⟩ := hf.exists_lineage hp
  refine ⟨root, chain, fun r ps => ⟨fun h' => h.unique hf.distinct h', ?_⟩,
    reportPath_of_lineage hf h reportName, rootName_of_lineage hf h, fun o ho => h.countedUnder hf ho⟩
  rintro ⟨rfl, rfl⟩
  exact h

/-- A project at a place, with a name. -/
def namedAt (n : Nat) (parent : Option Id) (name : String) : Project :=
  { Sample.projectAt (.ofNat n) none none parent with name := name }

/-- Three projects below one another, of which the last has two reports, one of them marked as deleted,
    and another root. -/
def deepCatalogue : Database where
  users := [Sample.user 0]
  projects :=
    [namedAt 302 (some (.ofNat 301)) "Q1 ", namedAt 300 none " Sales ", namedAt 303 none "Other",
      namedAt 301 (some (.ofNat 300)) "2024"]
  reports :=
    [Sample.reportAt (.ofNat 400) (.ofNat 500) (.ofNat 302),
      { Sample.reportAt (.ofNat 401) (.ofNat 501) (.ofNat 302) with isDeleted := some true }]

theorem walks_agree_deep :
    let db := deepCatalogue
    let p := namedAt 302 (some (.ofNat 301)) "Q1 "
    db.IsForest ∧ p ∈ db.projects ∧ db.reportPath p.id " a.twb" = " Sales /2024/Q1 /a.twb" ∧
      db.rootName p.id = "Sales" ∧
      db.CountedUnder Sample.organizationId p (namedAt 300 none " Sales ") := by
  have hf : deepCatalogue.IsForest := by
    refine ⟨by decide +kernel, ?_, by decide +kernel⟩
    have hall : (deepCatalogue.projects.all fun p =>
        p.parentId.all fun i => deepCatalogue.projects.any (·.id = i)) = true := by decide +kernel
    intro p hp i hi
    have hany := List.all_eq_true.1 hall p hp
    rw [hi] at hany
    simpa using hany
  have hp : namedAt 302 (some (.ofNat 301)) "Q1 " ∈ deepCatalogue.projects := by
    simp [deepCatalogue]
  have hway : deepCatalogue.Lineage (namedAt 300 none " Sales ")
      ([namedAt 300 none " Sales "] ++ [namedAt 301 (some (.ofNat 300)) "2024"] ++
        [namedAt 302 (some (.ofNat 301)) "Q1 "]) (namedAt 302 (some (.ofNat 301)) "Q1 ") :=
    .child hp rfl (.child (by simp [deepCatalogue]) rfl (.root (by simp [deepCatalogue]) rfl))
  obtain ⟨root, chain, hiff, hpath, hname, hcount⟩ := walks_agree hf hp " a.twb"
  obtain ⟨rfl, rfl⟩ := (hiff _ _).1 hway
  refine ⟨hf, hp, hpath.trans (by decide +kernel), hname.trans (by decide +kernel), hcount _ ?_⟩
  intro q hq
  simp only [List.cons_append, List.nil_append, List.mem_cons, List.not_mem_nil, or_false] at hq
  have huser : ∃ u ∈ deepCatalogue.users, u.id = Sample.userId 0 ∧
      u.organizationId = Sample.organizationId := by decide +kernel
  rcases hq with rfl | rfl | rfl <;> exact ⟨rfl, huser⟩

end Database

end ReportMigration
