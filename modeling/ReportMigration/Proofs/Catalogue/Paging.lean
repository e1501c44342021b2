import Mathlib.Data.List.Basic
import ReportMigration.Projects.Listing
import ReportMigration.Proofs.Projects.Access
import ReportMigration.Proofs.Servers.Removal
import ReportMigration.Sample.Catalogue
/-!
Listings in pages.

A listing selects rows of a table, orders them and gives them out in pages, and its total counts them by
a query of its own (`Listing.total_eq`).
Some listings give a row out only if it can be read, and then with rows of other tables.

* `Listing`: the listings that come in pages;
* `Listing.Listed`: the rows that a listing has to give out, in its order;
* `Covers`: the pages of a size give out some rows, each page but the last is full, and nothing follows;
* `covers_iff`: what holds of any pages that are slices of a list;
* `Listing.covers_iff_legible`: the total tells which pages cover a listing, exactly if every listed row
  can be read.
-/
namespace ReportMigration

variable {α β : Type}

/-! ## Slices of a list -/

theorem flatMap_slices (xs : List α) (size m : Nat) :
    (List.range m).flatMap (fun k => (xs.drop (k * size)).take size) = xs.take (m * size) := by
  induction m with
  | zero => simp
  | succ m ih =>
    rw [List.range_succ, List.flatMap_append, ih, List.flatMap_singleton, Nat.succ_mul, List.take_add]

namespace Page

/-- How many pages of a size so many rows take up. -/
def count (n size : Nat) : Nat := (n + size - 1) / size

theorem lt_count_iff {k n size : Nat} (hsize : 1 ≤ size) : k < count n size ↔ k * size < n := by
  have hstep : k < count n size ↔ (k + 1) * size ≤ n + size - 1 := Nat.le_div_iff_mul_le hsize
  rw [hstep, Nat.succ_mul]
  omega

theorem le_count_mul {n size : Nat} (hsize : 1 ≤ size) : n ≤ count n size * size := by
  have h := mt (lt_count_iff (k := count n size) (n := n) hsize).2 (lt_irrefl _)
  omega

theorem offset_ofNumber (k size : Nat) : (ofNumber (k + 1) size).offset = ((k * size : Nat) : Int) := by
  simp [ofNumber]

/-- The rows of the page with the number `k + 1`. -/
theorem rows_ofNumber (k size : Nat) (xs : List α) :
    (ofNumber (k + 1) size).rows xs = (xs.drop (k * size)).take size := by
  have hlimit : ¬ (ofNumber (k + 1) size).limit < 0 := by simp [ofNumber]
  rw [rows, if_neg hlimit, offset_ofNumber]
  rfl

/-- The rows of a page, if the database has room for its numbers. -/
theorem of_eq_ok {p : Page} (hlimit : fits p.limit = true) (hoffset : fits p.offset = true)
    (xs : List α) : p.of xs = .ok (p.rows xs) := by
  simp [of, storable, hlimit, hoffset]
  rfl

end Page

/-! ## Pages that cover some rows -/

/-- The pages of a size that `n` rows take up hold the rows in their order, each page before the last is
    full, and the pages that follow are empty. -/
structure Partitions (page : Page → Except Fault (List β)) (size : Nat) (rows : List β) (n : Nat) :
    Prop where
  pages : ∃ ps, (List.range (Page.count n size)).mapM
      (fun k : Nat => page (.ofNumber (k + 1) size)) = .ok ps ∧
    ps.flatten = rows ∧ ∀ p ∈ ps.dropLast, p.length = size
  beyond : ∀ k : Nat, Page.count n size ≤ k → fits (k * size : Nat) = true →
    page (.ofNumber (k + 1) size) = .ok []

/-- The pages of a size give out the rows, and there are `n` of these. -/
structure Covers (page : Page → Except Fault (List β)) (size : Nat) (rows : List β) (n : Nat) : Prop
    extends Partitions page size rows n where
  length : rows.length = n

/-- A page gives out its slice of the rows, unless one of them is not legible. -/
def Serves (page : Page → Except Fault (List β)) (rows : List α) (entry : α → β)
    (Legible : α → Prop) : Prop :=
  ∀ p : Page, fits p.limit = true → fits p.offset = true →
    (∃ e, page p = .error e ∧ ∃ x ∈ p.rows rows, ¬ Legible x) ∨
      page p = .ok ((p.rows rows).map entry) ∧ ∀ x ∈ p.rows rows, Legible x

section
variable {page : Page → Except Fault (List β)} {rows : List α} {entry : α → β} {Legible : α → Prop}
  {size : Nat}

/-- Each row is on one of the pages that the rows take up. -/
theorem exists_slice_of_mem (hsize : 1 ≤ size) {x : α} (hx : x ∈ rows) :
    ∃ k < Page.count rows.length size, x ∈ (rows.drop (k * size)).take size := by
  have hall : rows.take (Page.count rows.length size * size) = rows :=
    List.take_of_length_le (Page.le_count_mul hsize)
  rw [← hall, ← flatMap_slices, List.mem_flatMap] at hx
  obtain ⟨k, hk, hx⟩ := hx
  exact ⟨k, List.mem_range.1 hk, hx⟩

/-- Where all rows are legible, a page is its slice of them. -/
theorem Serves.page_eq (h : Serves page rows entry Legible) (hlegible : ∀ x ∈ rows, Legible x)
    (hlimit : fits size = true) {k : Nat} (hoffset : fits (k * size : Nat) = true) :
    page (.ofNumber (k + 1) size) = .ok (((rows.drop (k * size)).take size).map entry) := by
  rcases h (.ofNumber (k + 1) size) hlimit (by rwa [Page.offset_ofNumber]) with
    ⟨e, -, x, hx, hno⟩ | ⟨hok, -⟩
  · rw [Page.rows_ofNumber] at hx
    exact absurd (hlegible x (List.mem_of_mem_drop (List.mem_of_mem_take hx))) hno
  · rwa [Page.rows_ofNumber] at hok

theorem fits_of_le {m n : Nat} (h : m ≤ n) (hn : fits n = true) : fits m = true := by
  simp only [fits, Bool.and_eq_true, decide_eq_true_eq] at hn ⊢
  omega

/-- The pages of legible rows cover them. -/
theorem Serves.covers (h : Serves page rows entry Legible) (hlegible : ∀ x ∈ rows, Legible x)
    (hsize : 1 ≤ size) (hlimit : fits size = true) (hroom : fits rows.length = true) :
    Covers page size (rows.map entry) rows.length where
  length := List.length_map _
  pages := by
    have hpages : (List.range (Page.count rows.length size)).mapM
        (fun k : Nat => page (.ofNumber (k + 1) size)) =
        .ok ((List.range (Page.count rows.length size)).map
          fun k => ((rows.drop (k * size)).take size).map entry) := by
      rw [mapM_congr (g := fun k => pure (((rows.drop (k * size)).take size).map entry)),
        List.mapM_pure]
      · rfl
      · intro k hk
        have hlt := (Page.lt_count_iff hsize).1 (List.mem_range.1 hk)
        exact h.page_eq hlegible hlimit (fits_of_le hlt.le hroom)
    refine ⟨_, hpages, ?_, ?_⟩
    · rw [← List.flatMap_def, ← List.map_flatMap, flatMap_slices,
        List.take_of_length_le (Page.le_count_mul hsize)]
    · intro p hp
      rw [← List.map_dropLast] at hp
      obtain ⟨k, hk, rfl⟩ := List.mem_map.1 hp
      -- the page after it is one of those that the rows take up, so that it ends before the rows do
      have hlt : k + 1 < Page.count rows.length size := by
        cases hm : Page.count rows.length size with
        | zero => rw [hm] at hk; cases hk
        | succ m =>
          rw [hm, List.range_succ, List.dropLast_concat, List.mem_range] at hk
          omega
      have hend := (Page.lt_count_iff hsize).1 hlt
      rw [Nat.succ_mul] at hend
      rw [List.length_map, List.length_take, List.length_drop]
      omega
  beyond k hk hoffset := by
    have hend : rows.length ≤ k * size := by
      have := mt (Page.lt_count_iff hsize).2 (not_lt.2 hk)
      omega
    rw [h.page_eq hlegible hlimit hoffset, List.drop_of_length_le hend, List.take_nil]
    rfl

/-- Rows that are covered are legible. -/
theorem Serves.legible_of_covers (h : Serves page rows entry Legible) (hsize : 1 ≤ size)
    (hlimit : fits size = true) (hroom : fits rows.length = true)
    (hcovers : Covers page size (rows.map entry) rows.length) : ∀ x ∈ rows, Legible x := by
  intro x hx
  obtain ⟨k, hk, hx⟩ := exists_slice_of_mem hsize hx
  obtain ⟨ps, hps, -⟩ := hcovers.pages
  obtain ⟨p, -, hp⟩ := exists_answer_of_mapM hps (List.mem_range.2 hk)
  have hoffset : fits (Page.ofNumber (k + 1) size).offset = true := by
    rw [Page.offset_ofNumber]
    exact fits_of_le ((Page.lt_count_iff hsize).1 hk).le hroom
  rcases h (.ofNumber (k + 1) size) hlimit hoffset with ⟨e, he, -⟩ | ⟨-, hlegible⟩
  · rw [he] at hp
    cases hp
  · rw [Page.rows_ofNumber] at hlegible
    exact hlegible x hx

/-- Where the first page fails, nothing is covered. -/
theorem not_covers_of_error {e : Fault} (h : page (.ofNumber 1 size) = .error e) {rows : List β}
    {n : Nat} : ¬ Covers page size rows n := by
  intro hcovers
  have hfirst : page (.ofNumber ((0 : Nat) + 1) size) = .error e := h
  by_cases hzero : Page.count n size = 0
  · have hempty := hcovers.beyond 0 hzero.le (by rw [Nat.zero_mul]; rfl)
    rw [hfirst] at hempty
    cases hempty
  · obtain ⟨ps, hps, -⟩ := hcovers.pages
    obtain ⟨p, -, hp⟩ := exists_answer_of_mapM hps (List.mem_range.2 (Nat.pos_of_ne_zero hzero))
    rw [hfirst] at hp
    cases hp

/-- The number of rows tells which pages cover them, exactly if all rows are legible. -/
theorem covers_iff (h : Serves page rows entry Legible) (hsize : 1 ≤ size)
    (hlimit : fits size = true) (hroom : fits rows.length = true) :
    (∀ n, rows.length = n ↔ Covers page size (rows.map entry) n) ↔ ∀ x ∈ rows, Legible x := by
  constructor
  · intro hn
    exact h.legible_of_covers hsize hlimit hroom ((hn _).1 rfl)
  · rintro hlegible n
    constructor
    · rintro rfl
      exact h.covers hlegible hsize hlimit hroom
    · intro hcovers
      rw [← hcovers.length, List.length_map]

end

/-! ## Listings -/

/-- The listings that come in pages, by the rows that they select and what they give out for a row. -/
inductive Listing : Type → Type → Type where
  | managers (organization : Id) : Listing User User
  | developers (organization : Id) : Listing User User
  | subordinates (organization : Id) (manager : Option Id) : Listing User User
  | rootProjects (organization : Id) : Listing Project (Project × Option User)
  /-- The uploads of a user, at the root or below a parent. -/
  | uploads (user : Id) (parent : Option Id) : Listing Project Project
  | activeServers (organization : Id) : Listing Server Server
  | servers (organization : Id) : Listing Server ServerEntry
  | sites (server : Option Id) : Listing Site SiteEntry

/-- The user belongs to an organisation and has a role, and is not marked as deleted. -/
structure User.Serving (db : Database) (organization : Id) (role : String) (u : User) : Prop where
  organization : u.organizationId = organization
  role : ∃ r ∈ db.roles, r.id = u.roleId ∧ r.name.stored = role
  live : u.audit.isDeleted = false

namespace Listing

/-- The table that a listing selects from. -/
def table : Listing α β → Database → List α
  | managers _, db | developers _, db | subordinates _ _, db => db.users
  | rootProjects _, db | uploads _ _, db => db.projects
  | activeServers _, db | servers _, db => db.servers
  | sites _, db => db.sites

/-- The rows that a listing is about. -/
def Lists : Listing α β → Database → α → Prop
  | managers o, db, u => u.Serving db o "MANAGER"
  | developers o, db, u => u.Serving db o "DEVELOPER"
  | subordinates o m, db, u => u.Serving db o "DEVELOPER" ∧ u.managerId = m
  | rootProjects o, db, p =>
    p.isUpload = true ∧ p.parentId = none ∧ p.audit.isDeleted = false ∧ db.CreatedWithin (some o) p
  | uploads user parent, _, p =>
    p.userId = user ∧ p.parentId = parent ∧ p.audit.isDeleted = false ∧ p.isUpload = true
  | activeServers o, _, s =>
    s.organizationId = o ∧ s.audit.isDeleted = false ∧ s.status.stored = "ACTIVE"
  | servers o, _, s => s.organizationId = o ∧ s.audit.isDeleted = false
  | sites server, db, s =>
    s.audit.isDeleted = false ∧ ∃ c ∈ db.credentials, some c.serverId = server ∧ c.id = s.credentialsId

/-- The first row may stand before the second: users by name, projects and servers with the latest
    first. -/
def Before : Listing α β → α → α → Prop
  | managers _, u, v | developers _, u, v | subordinates _ _, u, v => u.name ≤ v.name
  | rootProjects _, p, q => q.audit.createdAt.micros ≤ p.audit.createdAt.micros
  | uploads _ _, p, q => q.audit.updatedAt.micros ≤ p.audit.updatedAt.micros
  | activeServers _, s, t | servers _, s, t => t.audit.updatedAt.micros ≤ s.audit.updatedAt.micros
  | sites _, s, t => t.audit.updatedAt.micros ≤ s.audit.updatedAt.micros

/-- The rows are those that a listing has to give out, each one once and in its order. -/
structure Listed (l : Listing α β) (db : Database) (rows : List α) : Prop where
  ordered : rows.Pairwise l.Before
  lists : ∀ x ∈ rows, l.Lists db x
  complete : ∃ others, (rows ++ others).Perm (l.table db) ∧ ∀ x ∈ others, ¬ l.Lists db x

/-- The rows that a listing selects, in the order of the table. -/
def selected : Listing α β → Database → List α
  | managers o, db => db.managersOf o
  | developers o, db => db.developersOf o
  | subordinates o m, db => db.developersUnder o m
  | rootProjects o, db => db.rootProjectsIn o
  | uploads user parent, db => db.uploadsOf user parent
  | activeServers o, db => db.activeServersOf o
  | servers o, db => db.serversOf o
  | sites server, db => db.sitesOf server

/-- How many rows a listing has, as they are counted. -/
def total : Listing α β → Database → Nat
  | managers o, db => db.memberTotal o .manager
  | developers o, db => db.memberTotal o .developer
  | subordinates o m, db => db.subordinateTotal o m
  | rootProjects o, db => db.rootProjectTotal o
  | uploads user parent, db => db.uploadTotal user parent
  | activeServers o, db => db.activeServerTotal o
  | servers o, db => db.serverTotal o
  | sites server, db => db.siteTotal server

/-- A page of a listing. -/
def page (l : Listing α β) (db : Database) (p : Page) : Except Fault (List β) :=
  match l with
  | managers o => Database.userPage (db.managersOf o) p
  | developers o => Database.userPage (db.developersOf o) p
  | subordinates o m => Database.userPage (db.developersUnder o m) p
  | rootProjects o => db.rootProjectPage o p
  | uploads user parent => Database.projectPage (db.uploadsOf user parent) p
  | activeServers o => Database.serverPage (db.activeServersOf o) p
  | servers o => db.serverEntryPage (db.serversOf o) p
  | sites server => db.sitePage (db.sitesOf server) p

/-- What a listing gives out for a row. -/
def entry : Listing α β → Database → α → β
  | managers _, _, u | developers _, _, u | subordinates _ _, _, u => u
  | rootProjects _, db, p => (p, p.assignedTo.bind db.findUser?)
  | uploads _ _, _, p => p
  | activeServers _, _, s => s
  | servers _, db, s => ⟨s, db.credentialsOf s.id⟩
  | sites _, db, s => ⟨s, db.findCredential? s.credentialsId⟩

/-- The row, and the rows that are given out with it, can be read. -/
def Legible : Listing α β → Database → α → Prop
  | activeServers _, _, s => s.Readable
  | servers _, db, s => s.Readable ∧ ∀ c ∈ db.credentialsOf s.id, c.Readable
  | sites _, db, s => ∀ c, db.findCredential? s.credentialsId = some c → c.Readable
  | _, _, _ => True

/-! ## The rows of a listing -/

/-- The rows that a listing gives out, in its order. -/
def rows (l : Listing α β) (db : Database) : List α :=
  match l with
  | managers o => ascending (·.name) (db.managersOf o)
  | developers o => ascending (·.name) (db.developersOf o)
  | subordinates o m => ascending (·.name) (db.developersUnder o m)
  | rootProjects o => descending (·.audit.createdAt.micros) (db.rootProjectsIn o)
  | uploads user parent => descending (·.audit.updatedAt.micros) (db.uploadsOf user parent)
  | activeServers o => descending (·.audit.updatedAt.micros) (db.activeServersOf o)
  | servers o => descending (·.audit.updatedAt.micros) (db.serversOf o)
  | sites server => descending (·.audit.updatedAt.micros) (db.sitesOf server)

theorem ascending_pairwise (key : α → String) (xs : List α) :
    (ascending key xs).Pairwise fun a b => key a ≤ key b := by
  have hall : (ascending key xs).Pairwise fun a b => decide (¬ key b < key a) = true := by
    refine List.pairwise_mergeSort (fun a b c hab hbc => ?_) (fun a b => ?_) xs
    · exact decide_eq_true (String.le_trans (of_decide_eq_true hab) (of_decide_eq_true hbc))
    · refine Bool.or_eq_true_iff.2 ((String.le_total (key a) (key b)).imp ?_ ?_)
      · exact fun h => decide_eq_true h
      · exact fun h => decide_eq_true h
  exact hall.imp of_decide_eq_true

theorem descending_pairwise (key : α → Int) (xs : List α) :
    (descending key xs).Pairwise fun a b => key b ≤ key a := by
  have hall : (descending key xs).Pairwise fun a b => decide (¬ key a < key b) = true := by
    refine List.pairwise_mergeSort (fun a b c hab hbc => ?_) (fun a b => ?_) xs
    · simp only [decide_eq_true_eq] at hab hbc ⊢
      omega
    · simp only [Bool.or_eq_true, decide_eq_true_eq]
      omega
  exact hall.imp fun hab => not_lt.1 (of_decide_eq_true hab)

theorem rows_perm (l : Listing α β) (db : Database) : (l.rows db).Perm (l.selected db) := by
  cases l <;> exact List.mergeSort_perm _ _

theorem rows_pairwise (l : Listing α β) (db : Database) : (l.rows db).Pairwise l.Before := by
  cases l with
  | managers | developers | subordinates => exact ascending_pairwise _ _
  | rootProjects | uploads | activeServers | servers | sites => exact descending_pairwise _ _

theorem members_eq (db : Database) (organization : Id) (n : RoleName) :
    ∃ q : User → Bool, db.members organization n = db.users.filter q ∧
      ∀ u, q u = true ↔ u.Serving db organization (Labelled.stored n) := by
  refine ⟨_, rfl, fun u => ?_⟩
  simp only [Database.hasRoleName, Bool.and_eq_true, decide_eq_true_eq, List.any_eq_true,
    Bool.not_eq_true']
  exact ⟨fun ⟨⟨ho, hr⟩, hd⟩ => ⟨ho, hr, hd⟩, fun ⟨ho, hr, hd⟩ => ⟨⟨ho, hr⟩, hd⟩⟩

/-- A listing selects the rows that it is about. -/
theorem selected_eq (l : Listing α β) (db : Database) :
    ∃ q : α → Bool, l.selected db = (l.table db).filter q ∧ ∀ x, q x = true ↔ l.Lists db x := by
  cases l with
  | managers o => exact members_eq db o .manager
  | developers o => exact members_eq db o .developer
  | subordinates o m =>
    obtain ⟨q, hq, hiff⟩ := members_eq db o .developer
    refine ⟨fun u => decide (u.managerId = m) && q u, ?_, fun u => ?_⟩
    · show (db.members o .developer).filter _ = _
      rw [hq, List.filter_filter]
      rfl
    · rw [Bool.and_eq_true, decide_eq_true_eq, hiff, and_comm]
      rfl
  | rootProjects o =>
    refine ⟨_, rfl, fun p => ?_⟩
    simp [Lists, Database.createdIn_iff, and_assoc]
  | uploads user parent =>
    refine ⟨_, rfl, fun p => ?_⟩
    simp [Lists, and_assoc]
  | activeServers o =>
    refine ⟨_, List.filter_filter, fun s => ?_⟩
    simp only [Lists, Bool.and_eq_true, decide_eq_true_eq, Bool.not_eq_true']
    exact and_comm.trans and_assoc
  | servers o =>
    refine ⟨_, rfl, fun s => ?_⟩
    simp [Lists]
  | sites server =>
    refine ⟨_, rfl, fun s => ?_⟩
    simp [Lists, Database.credentialsOf]

/-- The rows that are counted are those that are selected. -/
theorem total_eq (l : Listing α β) (db : Database) : l.total db = (l.selected db).length := by
  cases l with
  | managers | developers | rootProjects | uploads | servers => exact List.countP_eq_length_filter
  | subordinates o m =>
    rw [selected, Database.developersUnder, Database.developersOf, Database.members, List.filter_filter,
      ← List.countP_eq_length_filter]
    refine List.countP_congr fun u _ => ?_
    simp only [Bool.and_eq_true]
    tauto
  | activeServers o =>
    rw [selected, Database.activeServersOf, Database.serversOf, List.filter_filter,
      ← List.countP_eq_length_filter]
    refine List.countP_congr fun s _ => ?_
    simp only [Bool.and_eq_true]
    tauto
  | sites server =>
    rw [selected, Database.sitesOf, ← List.countP_eq_length_filter]
    refine List.countP_congr fun s _ => ?_
    simp only [Database.credentialsOf, List.any_filter, Bool.and_comm]

/-- The rows of a listing are those that it has to give out. -/
theorem listed_rows (l : Listing α β) (db : Database) : l.Listed db (l.rows db) := by
  obtain ⟨q, hq, hiff⟩ := l.selected_eq db
  have hperm : (l.rows db).Perm ((l.table db).filter q) := hq ▸ l.rows_perm db
  refine ⟨l.rows_pairwise db, fun x hx => ?_, (l.table db).filter (fun x => !q x), ?_, ?_⟩
  · exact (hiff x).1 (List.mem_filter.1 (hperm.mem_iff.1 hx)).2
  · exact (hperm.append_right _).trans (List.filter_append_perm q _)
  · intro x hx hlists
    have hno := (List.mem_filter.1 hx).2
    rw [(hiff x).2 hlists] at hno
    cases hno

/-! ## The pages of a listing -/

/-- What a listing gives out for a row that can be read. -/
def read (l : Listing α β) (db : Database) (x : α) : Except Fault β :=
  match l with
  | managers _ | developers _ | subordinates _ _ | uploads _ _ => return x
  | rootProjects _ => return (x, x.assignedTo.bind db.findUser?)
  | activeServers _ => x.read
  | servers _ => do return ⟨← x.read, ← (db.credentialsOf x.id).mapM Credential.read⟩
  | sites _ => do return ⟨x, ← (db.findCredential? x.credentialsId).mapM Credential.read⟩

theorem of_bind_mapM_pure (p : Page) (xs : List α) (f : α → β) :
    (do return (← p.of xs).map f : Except Fault (List β)) =
      (do (← p.of xs).mapM fun x => pure (f x)) := by
  simp only [List.mapM_pure]

theorem page_eq (l : Listing α β) (db : Database) (p : Page) :
    l.page db p = (do (← p.of (l.rows db)).mapM (l.read db)) := by
  have hplain : ∀ {γ : Type} (xs : List γ), p.of xs = (do (← p.of xs).mapM pure) := by
    intro γ xs
    have hid : p.of xs = (do return (← p.of xs).map id) := by simp
    exact hid.trans (of_bind_mapM_pure p xs id)
  cases l with
  | managers | developers | subordinates | uploads => exact hplain _
  | rootProjects => exact of_bind_mapM_pure _ _ _
  | activeServers | servers | sites => rfl

theorem read_eq_ok_iff (l : Listing α β) (db : Database) (x : α) (y : β) :
    l.read db x = .ok y ↔ y = l.entry db x ∧ l.Legible db x := by
  have hpure : ∀ {γ : Type} (a b : γ), (pure a : Except Fault γ) = .ok b ↔ b = a ∧ True := by
    intro γ a b
    rw [and_true]
    exact ⟨fun h => (Except.ok.inj h).symm, fun h => congrArg _ h.symm⟩
  cases l with
  | managers | developers | subordinates | uploads | rootProjects => exact hpure _ _
  | activeServers => exact Server.read_eq_ok_iff
  | servers =>
    constructor
    · intro h
      obtain ⟨s, hs, h⟩ := exists_of_bind_eq_ok h
      obtain ⟨cs, hcs, h⟩ := exists_of_bind_eq_ok h
      cases h
      obtain ⟨rfl, hread⟩ := Server.read_eq_ok_iff.1 hs
      obtain ⟨rfl, hreads⟩ := (mapM_read_iff fun _ _ => Credential.read_eq_ok_iff).1 hcs
      exact ⟨rfl, hread, hreads⟩
    · rintro ⟨rfl, hread, hreads⟩
      have hcs := (mapM_read_iff fun _ _ => Credential.read_eq_ok_iff).2 ⟨rfl, hreads⟩
      show (x.read >>= _) = _
      rw [bind_of_eq_ok (Server.read_eq_ok_iff.2 ⟨rfl, hread⟩), bind_of_eq_ok hcs]
      rfl
  | sites =>
    constructor
    · intro h
      obtain ⟨c, hc, h⟩ := exists_of_bind_eq_ok h
      cases h
      obtain ⟨rfl, hread⟩ := (mapM_read?_iff fun _ _ => Credential.read_eq_ok_iff).1 hc
      exact ⟨rfl, hread⟩
    · rintro ⟨rfl, hread⟩
      have hc := (mapM_read?_iff fun _ _ => Credential.read_eq_ok_iff).2 ⟨rfl, hread⟩
      exact bind_of_eq_ok hc

/-- A page of a listing is its slice of the rows, unless one of them cannot be read. -/
theorem serves (l : Listing α β) (db : Database) :
    Serves (l.page db) (l.rows db) (l.entry db) (l.Legible db) := by
  intro p hlimit hoffset
  rw [page_eq, Page.of_eq_ok hlimit hoffset]
  exact mapM_answers (l.read_eq_ok_iff db) (p.rows (l.rows db))

/-- **Pages partition a listing that can be read.** There are rows that a listing has to give out, each
    one once and in its order, and for every page size the total tells which pages cover them, exactly
    if each of them can be read, with the rows that are given out with it. -/
theorem covers_iff_legible (l : Listing α β) (db : Database) {size : Nat} (hsize : 1 ≤ size)
    (hlimit : fits size = true) (hroom : fits (l.total db) = true) :
    ∃ rows, l.Listed db rows ∧
      ((∀ n, l.total db = n ↔ Covers (l.page db) size (rows.map (l.entry db)) n) ↔
        ∀ x ∈ rows, l.Legible db x) := by
  have htotal : l.total db = (l.rows db).length := (l.total_eq db).trans (l.rows_perm db).length_eq.symm
  rw [htotal] at hroom ⊢
  exact ⟨l.rows db, l.listed_rows db, covers_iff (l.serves db) hsize hlimit hroom⟩

/-- A catalogue with an admin and three developers. -/
def staffDatabase : Database where
  roles := [Sample.role .admin, Sample.role .developer]
  organizations := [Sample.organization]
  users := [Sample.user 3, Sample.user 0, Sample.user 2, Sample.user 6]

/-- The developers fill one page of two and begin another one. -/
theorem covers_iff_legible_developers :
    fits 2 = true ∧ (developers Sample.organizationId).total staffDatabase = 3 ∧
      ∃ rows, (developers Sample.organizationId).Listed staffDatabase rows ∧
        Covers ((developers Sample.organizationId).page staffDatabase) 2 rows 3 := by
  have htotal : (developers Sample.organizationId).total staffDatabase = 3 := by decide +kernel
  obtain ⟨rows, hlisted, hiff⟩ := covers_iff_legible (developers Sample.organizationId) staffDatabase
    (show 1 ≤ 2 by decide) rfl (by rw [htotal]; rfl)
  have hcovers := (hiff.2 (fun _ _ => trivial) 3).1 htotal
  rw [show rows.map ((developers Sample.organizationId).entry staffDatabase) = rows from
    List.map_id _] at hcovers
  exact ⟨rfl, htotal, rows, hlisted, hcovers⟩

/-- A catalogue with one server in use, of a type. -/
def serverDatabase (type : Coded ServerType) : Database where
  organizations := [Sample.organization]
  servers := [{ Sample.server with type := type }]

/-- A server whose type is none of the known ones is counted, but no pages cover it. Neither do pages that
    are too large for the database, whatever the server is. And pages of ten partition a server that can be
    read as they would partition two, so that they alone do not tell the total. -/
theorem not_covers_stray_server :
    ((activeServers Sample.organizationId).total (serverDatabase (.stray "BOGUS")) = 1 ∧
      ∀ rows n, ¬ Covers ((activeServers Sample.organizationId).page (serverDatabase (.stray "BOGUS")))
        10 rows n) ∧
    ((activeServers Sample.organizationId).total (serverDatabase (.known .cloud)) = 1 ∧
      ∀ rows n, ¬ Covers ((activeServers Sample.organizationId).page (serverDatabase (.known .cloud)))
        9223372036854775808 rows n) ∧
    ∀ n, n = 1 ∨ n = 2 → Partitions ((activeServers Sample.organizationId).page
      (serverDatabase (.known .cloud))) 10 [{ Sample.server with type := .known .cloud }] n := by
  have hselected : ∀ type, (activeServers Sample.organizationId).selected (serverDatabase type) =
      [{ Sample.server with type := type }] := fun _ => rfl
  refine ⟨⟨rfl, fun rows n => ?_⟩, ⟨rfl, fun rows n => ?_⟩, fun n hn => ?_⟩
  · have hrows := (activeServers Sample.organizationId).rows_perm (serverDatabase (.stray "BOGUS"))
    rw [hselected, List.perm_singleton] at hrows
    rcases (activeServers Sample.organizationId).serves (serverDatabase (.stray "BOGUS"))
      (.ofNumber 1 10) rfl rfl with ⟨e, he, -⟩ | ⟨-, hlegible⟩
    · exact not_covers_of_error he
    · rw [hrows] at hlegible
      exact (hlegible _ List.mem_cons_self).2.elim
  · refine not_covers_of_error (e := .tooLarge) ?_
    rw [page_eq]
    rfl
  · have hrows := (activeServers Sample.organizationId).rows_perm (serverDatabase (.known .cloud))
    rw [hselected, List.perm_singleton] at hrows
    have hserves := (activeServers Sample.organizationId).serves (serverDatabase (.known .cloud))
    rw [hrows] at hserves
    have hlegible : ∀ s ∈ [{ Sample.server with type := .known .cloud }],
        (activeServers Sample.organizationId).Legible (serverDatabase (.known .cloud)) s := by
      intro s hs
      rw [List.mem_singleton.1 hs]
      exact ⟨trivial, trivial⟩
    have hcovers := hserves.covers hlegible (show 1 ≤ 10 by decide) rfl rfl
    -- one row and two take up one page of ten each
    rcases hn with rfl | rfl
    · exact hcovers.toPartitions
    · exact ⟨hcovers.pages, hcovers.beyond⟩

end Listing

end ReportMigration
