import Mathlib.Order.Bounds.Basic
import ReportMigration.Proofs.Projects.Search
/-!
The hierarchy of what a keyword finds.

* `Hierarchy.Groups es children`: the children are the projects `es` by their parents;
* `Database.Over db ps q`: the project `q` is one of `ps` or lies above one, at any height. These are the
  least set that holds `ps` and, with each project, its parent (`Database.isLeast_over`);
* `Database.Climbs db ps h es next`: what is true while a batch is taken, of which the projects `es` are
  left, and `next` is noted for the next batch. It is kept by each project (`Climbs.visit`), and so by each batch
  (`Climbs.takeBatch`);
* `Database.Ends db h pending n r`: the search upwards ends with `r` after `n` batches. There are never
  more batches than unseen projects, and one (`Database.exists_ends`);
* `searchHierarchy_isClosure`: the hierarchy is the closure of what the keyword finds.
-/
namespace ReportMigration

/-! ## Projects by their parents -/

namespace Hierarchy

variable {e : ProjectEntry} {es : List ProjectEntry}
  {children : List (Option Id × List ProjectEntry)}

/-- The children are the projects by their parents: one list for each parent that occurs, with exactly
    the projects that have this parent. -/
structure Groups (es : List ProjectEntry) (children : List (Option Id × List ProjectEntry)) :
    Prop where
  once : (children.map (·.1)).Nodup
  parents : ∀ i, i ∈ children.map (·.1) ↔ ∃ e ∈ es, e.project.parentId = i
  below : ∀ c ∈ children, c.2 = es.filter (·.project.parentId = c.1)

theorem map_fst_enter (e : ProjectEntry) (children : List (Option Id × List ProjectEntry)) :
    (enter e children).map (·.1) =
      if e.project.parentId ∈ children.map (·.1) then children.map (·.1)
      else children.map (·.1) ++ [e.project.parentId] := by
  induction children with
  | nil => rfl
  | cons c rest ih =>
    obtain ⟨i, xs⟩ := c
    by_cases hi : i = e.project.parentId
    · simp [enter, hi]
    · simp only [enter, if_neg hi, List.map_cons, ih, List.mem_cons, Ne.symm hi, false_or]
      split <;> rfl

/-- A list of the children after a project was entered is an old one of another parent, the old one of its
    parent with the project at its end, or a new one. -/
theorem mem_enter {c : Option Id × List ProjectEntry} (hnodup : (children.map (·.1)).Nodup)
    (hc : c ∈ enter e children) :
    c ∈ children ∧ c.1 ≠ e.project.parentId ∨
      (∃ xs, (e.project.parentId, xs) ∈ children ∧ c = (e.project.parentId, xs ++ [e])) ∨
      e.project.parentId ∉ children.map (·.1) ∧ c = (e.project.parentId, [e]) := by
  induction children with
  | nil => exact .inr (.inr ⟨by simp, List.mem_singleton.1 hc⟩)
  | cons b rest ih =>
    obtain ⟨i, xs⟩ := b
    obtain ⟨hi, hrest⟩ := List.nodup_cons.1 hnodup
    by_cases he : i = e.project.parentId
    · rw [enter, if_pos he] at hc
      rcases List.mem_cons.1 hc with rfl | hc
      · exact .inr (.inl ⟨xs, he ▸ List.mem_cons_self, by rw [he]⟩)
      · refine .inl ⟨List.mem_cons_of_mem _ hc, fun hparent => hi ?_⟩
        exact List.mem_map.2 ⟨c, hc, hparent.trans he.symm⟩
    · rw [enter, if_neg he] at hc
      rcases List.mem_cons.1 hc with rfl | hc
      · exact .inl ⟨List.mem_cons_self, he⟩
      · rcases ih hrest hc with ⟨hold, hne⟩ | ⟨ys, hys, rfl⟩ | ⟨hnew, rfl⟩
        · exact .inl ⟨List.mem_cons_of_mem _ hold, hne⟩
        · exact .inr (.inl ⟨ys, List.mem_cons_of_mem _ hys, rfl⟩)
        · exact .inr (.inr ⟨by simpa [Ne.symm he] using hnew, rfl⟩)

theorem Groups.enter (h : Groups es children) (e : ProjectEntry) :
    Groups (es ++ [e]) (enter e children) where
  once := by
    rw [map_fst_enter]
    split
    · exact h.once
    next hnew =>
      refine List.nodup_append.2 ⟨h.once, List.nodup_singleton _, ?_⟩
      rintro i hi j hj rfl
      exact hnew (List.mem_singleton.1 hj ▸ hi)
  parents i := by
    rw [map_fst_enter]
    split
    next hold =>
      rw [h.parents]
      constructor
      · rintro ⟨x, hx, rfl⟩
        exact ⟨x, List.mem_append_left _ hx, rfl⟩
      · rintro ⟨x, hx, rfl⟩
        rcases List.mem_append.1 hx with hx | hx
        · exact ⟨x, hx, rfl⟩
        · exact (h.parents _).1 (List.mem_singleton.1 hx ▸ hold)
    next =>
      rw [List.mem_append, h.parents]
      simp [or_and_right, exists_or, eq_comm]
  below c hc := by
    rw [List.filter_append]
    rcases mem_enter h.once hc with ⟨hold, hne⟩ | ⟨xs, hxs, rfl⟩ | ⟨hnew, rfl⟩
    · simp [h.below c hold, hne.symm]
    · simp [← h.below _ hxs]
    · -- no project had this parent before
      have hnone : es.filter (·.project.parentId = e.project.parentId) = [] := by
        refine List.filter_eq_nil_iff.2 fun x hx hparent => hnew ((h.parents _).2 ⟨x, hx, ?_⟩)
        simpa using hparent
      simp [hnone]

theorem groups_nil : Groups [] [] := ⟨List.nodup_nil, by simp, by simp⟩

theorem has_eq_true_iff {h : Hierarchy} {i : Id} :
    h.has i = true ↔ ∃ e ∈ h.projects, e.project.id = i := by
  simp [has]

/-- While a batch is taken, of which `es` are left: the project is in the hierarchy, left in the batch, or
    noted for the next one. -/
def Reaches (h : Hierarchy) (es : List ProjectEntry) (next : List Id) (q : Project) : Prop :=
  q ∈ h.projects.map (·.project) ∨ q ∈ es.map (·.project) ∨ q.id ∈ next

end Hierarchy

namespace Database

variable {db : Database} {ps : List Project} {p q : Project} {h : Hierarchy} {e : ProjectEntry}
  {es : List ProjectEntry} {next pending : List Id}

/-! ## What lies above -/

/-- One of the projects `ps`, or a project above one. -/
inductive Over (db : Database) (ps : List Project) : Project → Prop where
  | here {p : Project} (hp : p ∈ ps) : Over db ps p
  | up {p q : Project} (hp : Over db ps p) (hq : q ∈ db.projects) (h : p.parentId = some q.id) :
      Over db ps q

/-- The sets of projects that hold `ps` and, with each project, its parent if that is there. -/
def ClosedOver (db : Database) (ps : List Project) : Set (Set Project) :=
  {S | (∀ p ∈ S, p ∈ db.projects) ∧ (∀ p ∈ ps, p ∈ S) ∧
    ∀ p ∈ S, ∀ q ∈ db.projects, p.parentId = some q.id → q ∈ S}

theorem Over.mem (hps : ∀ p ∈ ps, p ∈ db.projects) (h : db.Over ps p) : p ∈ db.projects := by
  cases h with
  | here hp => exact hps p hp
  | up _ hq _ => exact hq

theorem isLeast_over (hps : ∀ p ∈ ps, p ∈ db.projects) :
    IsLeast (db.ClosedOver ps) {p | db.Over ps p} := by
  constructor
  · exact ⟨fun p hp => hp.mem hps, fun p hp => .here hp, fun p hp q hq hparent => .up hp hq hparent⟩
  · rintro S ⟨-, hstart, hclosed⟩ p hp
    induction hp with
    | here hp => exact hstart _ hp
    | up _ hq hparent ih => exact hclosed _ ih _ hq hparent

theorem mem_projectsWith {is : List Id} : p ∈ db.projectsWith is ↔ p ∈ db.projects ∧ p.id ∈ is := by
  simp [projectsWith]

/-! ## One batch -/

/-- The entry is that of a project over `ps`, with all its reports, which can be read back. -/
structure Shows (db : Database) (ps : List Project) (e : ProjectEntry) : Prop where
  above : db.Over ps e.project
  legible : db.Legible e.project
  reports : e.reports = db.reportsOf e.project

/-- The hierarchy and what is left of the batch show projects over `ps`, and what has to follow is
    reached. -/
structure Climbs (db : Database) (ps : List Project) (h : Hierarchy) (es : List ProjectEntry)
    (next : List Id) : Prop where
  shown : ∀ e ∈ h.projects, db.Shows ps e
  left : ∀ e ∈ es, db.Shows ps e
  noted : ∀ q ∈ db.projects, q.id ∈ next → db.Over ps q
  start : ∀ p ∈ ps, h.Reaches es next p
  parents : ∀ e ∈ h.projects, ∀ q ∈ db.projects, e.project.parentId = some q.id → h.Reaches es next q
  once : (h.projects.map (·.project.id)).Nodup
  groups : Hierarchy.Groups h.projects h.children

namespace Climbs

/-- A project that is there already is passed over. -/
theorem skip (hids : (db.projects.map (·.id)).Nodup) (hps : ∀ p ∈ ps, p ∈ db.projects)
    (hc : db.Climbs ps h (e :: es) next) (hhas : h.has e.project.id = true) :
    db.Climbs ps h es next := by
  -- what is there is this project, for no other has its identifier
  have hthere : e.project ∈ h.projects.map (·.project) := by
    obtain ⟨x, hx, hid⟩ := Hierarchy.has_eq_true_iff.1 hhas
    have hxp := (hc.shown x hx).above.mem hps
    have hep := (hc.left e List.mem_cons_self).above.mem hps
    rw [← List.inj_on_of_nodup_map hids hxp hep hid]
    exact List.mem_map_of_mem hx
  have hreached : ∀ q, h.Reaches (e :: es) next q → h.Reaches es next q := by
    rintro q (hq | hq | hq)
    · exact .inl hq
    · rcases List.mem_cons.1 hq with rfl | hq
      · exact .inl hthere
      · exact .inr (.inl hq)
    · exact .inr (.inr hq)
  exact
    { shown := hc.shown
      left := fun x hx => hc.left x (List.mem_cons_of_mem _ hx)
      noted := hc.noted
      start := fun p hp => hreached p (hc.start p hp)
      parents := fun x hx q hq hparent => hreached q (hc.parents x hx q hq hparent)
      once := hc.once
      groups := hc.groups }

/-- A project that is new is entered, and its parent noted. -/
theorem add (hc : db.Climbs ps h (e :: es) next) (hhas : h.has e.project.id = false) :
    db.Climbs ps (h.add e) es (next ++ e.project.parentId.toList) := by
  have hshows := hc.left e List.mem_cons_self
  have hreached : ∀ q, h.Reaches (e :: es) next q →
      (h.add e).Reaches es (next ++ e.project.parentId.toList) q := by
    rintro q (hq | hq | hq)
    · exact .inl (by simp [Hierarchy.add, hq])
    · rcases List.mem_cons.1 hq with rfl | hq
      · exact .inl (by simp [Hierarchy.add])
      · exact .inr (.inl hq)
    · exact .inr (.inr (List.mem_append_left _ hq))
  have hmem : ∀ x ∈ (h.add e).projects, x ∈ h.projects ∨ x = e := fun x hx => by
    simpa [Hierarchy.add] using hx
  exact
    { shown := fun x hx => by
        rcases hmem x hx with hx | rfl
        · exact hc.shown x hx
        · exact hshows
      left := fun x hx => hc.left x (List.mem_cons_of_mem _ hx)
      noted := fun q hq hnext => by
        rcases List.mem_append.1 hnext with hnext | hnext
        · exact hc.noted q hq hnext
        · exact hshows.above.up hq (by simpa using hnext)
      start := fun p hp => hreached p (hc.start p hp)
      parents := fun x hx q hq hparent => by
        rcases hmem x hx with hx | rfl
        · exact hreached q (hc.parents x hx q hq hparent)
        · exact .inr (.inr (List.mem_append_right _ (by simp [hparent])))
      once := by
        rw [Hierarchy.add, List.map_append, List.nodup_append]
        refine ⟨hc.once, by simp, ?_⟩
        rintro i hi j hj rfl
        obtain ⟨x, hx, rfl⟩ := List.mem_map.1 hi
        have hid : x.project.id = e.project.id := by simpa using hj
        simp [Hierarchy.has_eq_true_iff.2 ⟨x, hx, hid⟩] at hhas
      groups := hc.groups.enter e }

/-- **One project** of a batch. -/
theorem visit (hids : (db.projects.map (·.id)).Nodup) (hps : ∀ p ∈ ps, p ∈ db.projects)
    (hc : db.Climbs ps h (e :: es) next) :
    db.Climbs ps (Hierarchy.visit (h, next) e).1 es (Hierarchy.visit (h, next) e).2 := by
  unfold Hierarchy.visit
  cases hhas : h.has e.project.id with
  | true => exact hc.skip hids hps hhas
  | false => exact hc.add hhas

/-- **The rest of a batch**, by induction over its projects. -/
theorem visitAll (hids : (db.projects.map (·.id)).Nodup) (hps : ∀ p ∈ ps, p ∈ db.projects)
    (hc : db.Climbs ps h es next) :
    db.Climbs ps (es.foldl Hierarchy.visit (h, next)).1 []
      (es.foldl Hierarchy.visit (h, next)).2 := by
  induction es generalizing h next with
  | nil => exact hc
  | cons e es ih => exact ih (hc.visit hids hps)

/-- **One batch**: what was noted before it is read and taken. -/
theorem takeBatch (hids : (db.projects.map (·.id)).Nodup) (hps : ∀ p ∈ ps, p ∈ db.projects)
    (hc : db.Climbs ps h [] pending) (hes : db.entriesWith pending = .ok es) :
    db.Climbs ps (h.takeBatch es).1 [] (h.takeBatch es).2 := by
  have hlegible : ∀ p ∈ db.projectsWith pending, db.Legible p := exists_mapM_entry_iff.1 ⟨es, hes⟩
  obtain rfl := eq_of_mapM_entry hes
  -- a project that was noted is in the batch
  have hreached : ∀ q ∈ db.projects, h.Reaches [] pending q →
      h.Reaches ((db.projectsWith pending).map fun p => ⟨p, db.reportsOf p⟩) [] q := by
    rintro q hq (hfound | hleft | hnoted)
    · exact .inl hfound
    · cases hleft
    · refine .inr (.inl (List.mem_map.2 ⟨⟨q, db.reportsOf q⟩, List.mem_map_of_mem ?_, rfl⟩))
      exact mem_projectsWith.2 ⟨hq, hnoted⟩
  have hbatch : db.Climbs ps h ((db.projectsWith pending).map fun p => ⟨p, db.reportsOf p⟩) [] :=
    { shown := hc.shown
      left := fun e he => by
        obtain ⟨p, hp, rfl⟩ := List.mem_map.1 he
        obtain ⟨hmem, hnoted⟩ := mem_projectsWith.1 hp
        exact ⟨hc.noted p hmem hnoted, hlegible p hp, rfl⟩
      noted := fun q _ hq => absurd hq List.not_mem_nil
      start := fun p hp => hreached p (hps p hp) (hc.start p hp)
      parents := fun e he q hq hparent => hreached q hq (hc.parents e he q hq hparent)
      once := hc.once
      groups := hc.groups }
  exact hbatch.visitAll hids hps

/-- Before the first batch the projects themselves are noted. -/
theorem initial (hids : (db.projects.map (·.id)).Nodup) (hps : ∀ p ∈ ps, p ∈ db.projects) :
    db.Climbs ps {} [] (ps.map (·.id)) where
  shown _ he := absurd he List.not_mem_nil
  left _ he := absurd he List.not_mem_nil
  noted q hq hnoted := by
    obtain ⟨p, hp, hid⟩ := List.mem_map.1 hnoted
    exact .here (List.inj_on_of_nodup_map hids (hps p hp) hq hid ▸ hp)
  start _ hp := .inr (.inr (List.mem_map_of_mem hp))
  parents _ he := absurd he List.not_mem_nil
  once := List.nodup_nil
  groups := Hierarchy.groups_nil

/-- When nothing is noted any more, everything over `ps` is there. -/
theorem mem_iff (hc : db.Climbs ps h [] []) :
    p ∈ h.projects.map (·.project) ↔ db.Over ps p := by
  constructor
  · intro hp
    obtain ⟨e, he, rfl⟩ := List.mem_map.1 hp
    exact (hc.shown e he).above
  · intro hp
    induction hp with
    | here hp => simpa [Hierarchy.Reaches] using hc.start _ hp
    | up _ hq hparent ih =>
      obtain ⟨e, he, rfl⟩ := List.mem_map.1 ih
      simpa [Hierarchy.Reaches] using hc.parents e he _ hq hparent

theorem legible (hc : db.Climbs ps h [] []) (hp : db.Over ps p) : db.Legible p := by
  obtain ⟨e, he, rfl⟩ := List.mem_map.1 (hc.mem_iff.2 hp)
  exact (hc.shown e he).legible

end Climbs

/-! ## The whole search upwards -/

theorem closeUpwards_of_error {f : Fault} (hpending : pending ≠ [])
    (hf : db.entriesWith pending = .error f) : db.closeUpwards h pending = .error f := by
  rw [closeUpwards, dif_neg hpending]
  split
  next hf' => rw [hf] at hf'; cases hf'; rfl
  next hok => rw [hf] at hok; cases hok

theorem closeUpwards_of_ok (hpending : pending ≠ []) (hes : db.entriesWith pending = .ok es) :
    db.closeUpwards h pending = db.closeUpwards (h.takeBatch es).1 (h.takeBatch es).2 := by
  rw [closeUpwards, dif_neg hpending]
  split
  next hf => rw [hes] at hf; cases hf
  next hok => rw [hes] at hok; cases hok; rfl

/-- The search upwards gives a hierarchy with everything over `ps`, or something over `ps` cannot be
    shown. -/
theorem closeUpwards_cases (hids : (db.projects.map (·.id)).Nodup)
    (hps : ∀ p ∈ ps, p ∈ db.projects) (hc : db.Climbs ps h [] pending) :
    (∃ h', db.closeUpwards h pending = .ok h' ∧ db.Climbs ps h' [] []) ∨
      ∃ f, db.closeUpwards h pending = .error f ∧ ∃ p, db.Over ps p ∧ ¬ db.Legible p := by
  induction h, pending using closeUpwards.induct db with
  | case1 h =>
    rw [closeUpwards]
    exact .inl ⟨h, rfl, hc⟩
  | case2 h pending hpending f hf =>
    rw [closeUpwards_of_error hpending hf]
    rcases db.mapM_entry_cases (db.projectsWith pending) with ⟨-, -, p, hp, hbad⟩ | ⟨hok, -⟩
    · obtain ⟨hmem, hnoted⟩ := mem_projectsWith.1 hp
      exact .inr ⟨f, rfl, p, hc.noted p hmem hnoted, hbad⟩
    · rw [← entriesWith, hf] at hok
      cases hok
  | case3 h pending hpending es hes _ ih =>
    rw [closeUpwards_of_ok hpending hes]
    exact ih (hc.takeBatch hids hps hes)

/-- The search upwards ends with an answer after some number of batches. -/
inductive Ends (db : Database) : Hierarchy → List Id → Nat → Except Fault Hierarchy → Prop where
  | done (h : Hierarchy) : Ends db h [] 0 (.ok h)
  | failed {h : Hierarchy} {pending : List Id} {f : Fault} (hpending : pending ≠ [])
      (hf : db.entriesWith pending = .error f) : Ends db h pending 1 (.error f)
  | batch {h : Hierarchy} {pending : List Id} {es : List ProjectEntry} {n : Nat}
      {r : Except Fault Hierarchy} (hpending : pending ≠ []) (hes : db.entriesWith pending = .ok es)
      (hrest : Ends db (h.takeBatch es).1 (h.takeBatch es).2 n r) : Ends db h pending (n + 1) r

/-- **There are no more batches than unseen projects, and one.** Each batch but the last finds a project
    that was unseen. -/
theorem exists_ends (db : Database) (h : Hierarchy) (pending : List Id) :
    ∃ n ≤ (db.unseen h).length + 1, db.Ends h pending n (db.closeUpwards h pending) := by
  induction h, pending using closeUpwards.induct db with
  | case1 h =>
    rw [closeUpwards]
    exact ⟨0, Nat.zero_le _, .done h⟩
  | case2 h pending hpending f hf =>
    rw [closeUpwards_of_error hpending hf]
    exact ⟨1, Nat.le_add_left _ _, .failed hpending hf⟩
  | case3 h pending hpending es hes _ ih =>
    rw [closeUpwards_of_ok hpending hes]
    rcases visit_cases h [] fun _ => mem_of_entriesWith hes with hs | hs
    · -- nothing new: this batch was the last
      have hend : h.takeBatch es = (h, []) := hs
      refine ⟨1, Nat.le_add_left _ _, .batch hpending hes ?_⟩
      rw [hend, closeUpwards]
      exact .done h
    · obtain ⟨n, hn, hends⟩ := ih
      have hlt : (db.unseen (h.takeBatch es).1).length < (db.unseen h).length := hs
      exact ⟨n + 1, by omega, .batch hpending hes hends⟩

end Database

/-! ## The closure of what was found -/

/-- The hierarchy holds the least set of projects with `ps` and with the parents that are there, each
    project once and with its reports, and the same projects by their parents. -/
structure Hierarchy.IsClosure (h : Hierarchy) (db : Database) (ps : List Project) : Prop where
  least : IsLeast (db.ClosedOver ps) {p | p ∈ h.projects.map (·.project)}
  once : (h.projects.map (·.project.id)).Nodup
  reports : ∀ e ∈ h.projects, e.reports = db.reportsOf e.project
  groups : Groups h.projects h.children

theorem Database.Climbs.isClosure {db : Database} {ps : List Project} {h : Hierarchy}
    (hps : ∀ p ∈ ps, p ∈ db.projects) (hc : db.Climbs ps h [] []) : h.IsClosure db ps where
  least := by
    have hset : {p | p ∈ h.projects.map (·.project)} = {p | db.Over ps p} := Set.ext fun _ => hc.mem_iff
    rw [hset]
    exact isLeast_over hps
  once := hc.once
  reports e he := (hc.shown e he).reports
  groups := hc.groups

namespace Database

variable {db : Database} {keyword : String} {organization : Option Id} {es : List ProjectEntry}

theorem searchHierarchy_eq (hes : db.searchEntries keyword organization = .ok es) :
    db.searchHierarchy keyword organization = db.closeUpwards {} (es.map (·.project.id)) := by
  rw [searchEntries, ← search_trim, ← searchEntries] at hes
  rw [searchHierarchy, hes]
  rfl

/-- The hierarchy of a keyword holds everything over what the keyword finds, or something of that cannot
    be shown. -/
theorem searchHierarchy_cases (hids : (db.projects.map (·.id)).Nodup) (keyword : String)
    (organization : Option Id) :
    (∃ h es, db.searchHierarchy keyword organization = .ok h ∧
        db.searchEntries keyword organization = .ok es ∧
        es.map (·.project) = db.search keyword organization ∧
        db.Climbs (db.search keyword organization) h [] []) ∨
      ∃ f, db.searchHierarchy keyword organization = .error f ∧
        ∃ p, db.Over (db.search keyword organization) p ∧ ¬ db.Legible p := by
  cases hes : db.searchEntries keyword organization with
  | error f =>
    rcases db.mapM_entry_cases (db.search keyword organization) with ⟨-, -, p, hp, hbad⟩ | ⟨hok, -⟩
    · refine .inr ⟨f, ?_, p, .here hp, hbad⟩
      rw [searchHierarchy, searchEntries, search_trim, ← searchEntries, hes]
      rfl
    · rw [← searchEntries, hes] at hok
      cases hok
  | ok es =>
    have hfound : es.map (·.project) = db.search keyword organization := map_project_of_mapM hes
    have hids' : es.map (·.project.id) = (db.search keyword organization).map (·.id) := by
      rw [← hfound, List.map_map]
      rfl
    have hps : ∀ p ∈ db.search keyword organization, p ∈ db.projects := fun _ => mem_of_mem_search
    rw [searchHierarchy_eq hes, hids']
    rcases closeUpwards_cases hids hps (.initial hids hps) with ⟨h, hh, hc⟩ | hbad
    · exact .inl ⟨h, es, hh, rfl, hfound, hc⟩
    · exact .inr hbad

end Database

/-- **The hierarchy of a keyword is the upward closure of what it finds.** There
    are at most as many batches as there are projects, and one, whatever the parents are. The hierarchy is
    given exactly if what lies over the projects found can be shown. Then it holds the least set of
    projects with those and with the parents that are there, and the same set by parents. -/
theorem searchHierarchy_isClosure (db : Database) (hids : (db.projects.map (·.id)).Nodup)
    (keyword : String) (organization : Option Id) :
    (∀ es, db.searchEntries keyword organization = .ok es →
      ∃ n ≤ db.projects.length + 1,
        db.Ends {} (es.map (·.project.id)) n (db.searchHierarchy keyword organization)) ∧
    ((∃ h, db.searchHierarchy keyword organization = .ok h) ↔
      ∀ p, db.Over (db.search keyword organization) p → db.Legible p) ∧
    ∀ h, db.searchHierarchy keyword organization = .ok h →
      ∃ es, db.searchEntries keyword organization = .ok es ∧ h.IsClosure db (es.map (·.project)) := by
  refine ⟨fun es hes => ?_, ?_⟩
  · rw [Database.searchHierarchy_eq hes]
    obtain ⟨n, hn, hends⟩ := db.exists_ends {} (es.map (·.project.id))
    have hunseen : (db.unseen {}).length ≤ db.projects.length := List.length_filter_le _ _
    exact ⟨n, by omega, hends⟩
  rcases Database.searchHierarchy_cases hids keyword organization with
    ⟨h, es, hh, hes, hfound, hc⟩ | ⟨f, hf, p, hp, hbad⟩
  · refine ⟨iff_of_true ⟨h, hh⟩ fun p hp => hc.legible hp, fun h' hh' => ⟨es, hes, ?_⟩⟩
    rw [hh] at hh'
    obtain rfl := Except.ok.inj hh'
    rw [hfound]
    exact hc.isClosure fun _ => Database.mem_of_mem_search
  · have hnone : ∀ h, db.searchHierarchy keyword organization ≠ .ok h := by
      intro h hh
      rw [hf] at hh
      cases hh
    refine ⟨iff_of_false ?_ fun hall => hbad (hall p hp), fun h hh => absurd hh (hnone h)⟩
    rintro ⟨h, hh⟩
    exact hnone h hh

/-- A project below a parent. -/
def childProject (n : Nat) (name : String) (parent : Option Nat) : Project :=
  { namedProject n 0 name with parentId := parent.map Sample.projectId }

/-- Two projects are each other's parents, the third its own, the parent of the fourth is nowhere, and the
    last lies above none of the others. -/
def circularCatalogue : Database where
  users := [Sample.user 0]
  projects := [childProject 0 "Sales" (some 1), childProject 1 "Plan" (some 0),
    childProject 2 "sales" (some 2), childProject 3 "presales" (some 9), childProject 4 "Stock" none]

theorem searchHierarchy_isClosure_circular :
    (circularCatalogue.projects.map (·.id)).Nodup ∧
      (circularCatalogue.search "sales" (some Sample.organizationId)).map (·.id) =
        [0, 2, 3].map Sample.projectId ∧
      (∀ es, circularCatalogue.searchEntries "sales" (some Sample.organizationId) = .ok es →
        ∃ n ≤ 6, circularCatalogue.Ends {} (es.map (·.project.id)) n
          (circularCatalogue.searchHierarchy "sales" (some Sample.organizationId))) ∧
      ∃ h es, circularCatalogue.searchHierarchy "sales" (some Sample.organizationId) = .ok h ∧
        circularCatalogue.searchEntries "sales" (some Sample.organizationId) = .ok es ∧
        h.IsClosure circularCatalogue (es.map (·.project)) := by
  have hids : (circularCatalogue.projects.map (·.id)).Nodup := by decide +kernel
  obtain ⟨hends, hanswers, hclosure⟩ :=
    searchHierarchy_isClosure circularCatalogue hids "sales" (some Sample.organizationId)
  -- there are no reports that could not be read
  obtain ⟨h, hh⟩ := hanswers.2 fun _ _ _ hr => absurd hr List.not_mem_nil
  obtain ⟨es, hes, hleast⟩ := hclosure h hh
  exact ⟨hids, by decide +kernel, hends, h, es, hh, hes, hleast⟩

/-- The project of a report that cannot be read, with a project below it. -/
def illegibleParentCatalogue : Database :=
  { illegibleCatalogue with
    projects := [namedProject 0 0 "Plan", childProject 1 "Sales" (some 0)] }

/-- The keyword finds a project that can be shown, and its hierarchy is not given, because a report of
    the parent cannot be read back. -/
theorem searchHierarchy_illegible :
    (do
      let db ← ({} : Database).addRole (Sample.role .admin)
      let db ← db.addOrganization Sample.organization
      let db ← db.addUser (Sample.user 0)
      let db ← db.addProject (namedProject 0 0 "Plan")
      let db ← db.addProject (childProject 1 "Sales" (some 0))
      db.addReport illegibleReport) = .ok illegibleParentCatalogue ∧
      (∃ es, illegibleParentCatalogue.searchEntries "Sales" (some Sample.organizationId) = .ok es ∧
        es.map (·.project) = [childProject 1 "Sales" (some 0)]) ∧
      ∀ h, illegibleParentCatalogue.searchHierarchy "Sales" (some Sample.organizationId) ≠ .ok h := by
  have hids : (illegibleParentCatalogue.projects.map (·.id)).Nodup := by decide +kernel
  have hfound : illegibleParentCatalogue.search "Sales" (some Sample.organizationId) =
      [childProject 1 "Sales" (some 0)] := by rfl
  refine ⟨by rfl, ⟨[⟨childProject 1 "Sales" (some 0), []⟩], by rfl, rfl⟩, fun h hh => ?_⟩
  -- the parent lies over what was found
  have hover : illegibleParentCatalogue.Over [childProject 1 "Sales" (some 0)]
      (namedProject 0 0 "Plan") :=
    .up (.here (List.mem_singleton_self _)) List.mem_cons_self rfl
  rcases Database.searchHierarchy_cases hids "Sales" (some Sample.organizationId) with
    ⟨_, _, _, _, _, hc⟩ | ⟨f, hf, -⟩
  · rw [hfound] at hc
    have hreadable := hc.legible hover illegibleReport (List.mem_singleton_self _) rfl
    exact hreadable _ rfl
  · rw [hf] at hh
    cases hh

end ReportMigration
