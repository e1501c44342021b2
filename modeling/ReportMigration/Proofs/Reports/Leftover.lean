import Mathlib.Data.List.Sort
import Mathlib.Data.List.TakeWhile
import ReportMigration.Gateway.Reports
import ReportMigration.Proofs.Storage.Container
/-!
What the removal of a report leaves in its folder.

* `Outages.leftover`: the keys that archiving leaves behind: those that are not listed, and of the
  others, with buckets, those from the first object on that cannot be moved, with containers those that
  cannot be deleted;
* `keysUnder_archiveFolder`: these are the keys of the folder afterwards;
* `Outages.leftover_eq_nil_iff`: there are none exactly if no call that concerns the folder is out of
  order.

The answer to a request for the removal depends on none of this, only on the time that archiving takes.
-/
namespace ReportMigration

/-! ## Sorted keys -/

namespace ObjectStore

variable {s s' : ObjectStore} {start : String} {keys : List String}

theorem sorted_keysUnder (s : ObjectStore) (start : String) :
    (s.keysUnder start).Pairwise (· < ·) :=
  (List.pairwise_map.2 s.sorted).filter _

/-- The keys that are left of a listing are listed in the order they had. -/
theorem keysUnder_eq_of_sublist (hs : keys.Sublist (s.keysUnder start))
    (h : ∀ k, k ∈ s'.keysUnder start ↔ k ∈ keys) : s'.keysUnder start = keys := by
  have hperm : (s'.keysUnder start).Perm keys :=
    (List.perm_ext_iff_of_nodup (nodup_keysUnder s' start) ((nodup_keysUnder s start).sublist hs)).2 h
  refine hperm.eq_of_pairwise (fun a b _ _ hab hba => ?_) (sorted_keysUnder s' start)
    ((sorted_keysUnder s start).sublist hs)
  exact absurd (String.lt_trans hab hba) (String.lt_irrefl a)

end ObjectStore

/-! ## Listing the whole folder -/

/-- A listing that breaks off does not come to its last key. -/
theorem Outages.seen_ne {o : Outages} {start : String} {ps : List (Nat × List String)}
    (hps : ∀ x ∈ ps, x.2 ≠ []) (h : o.breaksOff start ps = true) :
    o.seen start ps ≠ ps.flatMap (·.2) := by
  intro heq
  have hlen : (o.seen start ps).length = (ps.flatMap (·.2)).length := congrArg List.length heq
  have hsplit := List.takeWhile_append_dropWhile (p := fun x => !o.hits .list start x.1) (l := ps)
  nth_rewrite 2 [← hsplit] at hlen
  rw [List.flatMap_append, List.length_append] at hlen
  have hrest : (ps.dropWhile fun x => !o.hits .list start x.1).flatMap (·.2) = [] := by
    refine List.eq_nil_of_length_eq_zero ?_
    unfold seen at hlen
    omega
  have hnil : (ps.dropWhile fun x => !o.hits .list start x.1) = [] := by
    refine List.eq_nil_iff_forall_not_mem.2 fun x hx => hps x ((List.dropWhile_sublist _).mem hx) ?_
    exact List.flatMap_eq_nil_iff.1 hrest x hx
  rw [List.dropWhile_eq_nil_iff] at hnil
  obtain ⟨x, hx, hhit⟩ := List.any_eq_true.1 h
  simpa [hhit] using hnil x hx

/-! ## The folder after archiving -/

/-- How many keys a page of the provider's listings holds. -/
def Provider.pageSize : Provider → Nat
  | .aws => Bucket.pageSize
  | .azure => Container.pageSize

theorem Provider.pageSize_pos (p : Provider) : 0 < p.pageSize := by cases p <;> decide

namespace Outages

variable {o : Outages} {p : Provider} {f : ReportFolder} {s : ObjectStore} {k : String}

/-- A part of the folder is never looked at: the service cannot be reached, or some page of the listing
    cannot be fetched. -/
def hides (o : Outages) (p : Provider) (f : ReportFolder) (s : ObjectStore) : Bool :=
  o.unreachable .list f.source || o.breaksOff f.source (pages p.pageSize (s.keysUnder f.source))

/-- The object of a key cannot be taken out of its folder. With containers a failed copy does not
    count. -/
def blocks (o : Outages) (p : Provider) (k : String) : Bool :=
  match p with
  | .aws => o.hits .copy k || o.hits .delete k
  | .azure => o.hits .delete k

/-- The keys that archiving takes out of a folder. -/
def taken (o : Outages) (p : Provider) (f : ReportFolder) (s : ObjectStore) : List String :=
  match p with
  | .aws => (o.listed p.pageSize f.source s).takeWhile fun k => !o.blocks p k
  | .azure => (o.listed p.pageSize f.source s).filter fun k => !o.blocks p k

/-- The keys of a folder that archiving leaves in it. -/
def leftover (o : Outages) (p : Provider) (f : ReportFolder) (s : ObjectStore) : List String :=
  (s.keysUnder f.source).filter fun k => k ∉ o.taken p f s

theorem mem_listed_of_mem_taken (h : k ∈ o.taken p f s) : k ∈ o.listed p.pageSize f.source s := by
  cases p with
  | aws => exact (List.takeWhile_sublist _).mem h
  | azure => exact (List.mem_filter.1 h).1

theorem not_blocks_of_mem_taken (h : k ∈ o.taken p f s) : o.blocks p k = false := by
  cases p with
  | aws => simpa using List.mem_takeWhile_imp h
  | azure => simpa using (List.mem_filter.1 h).2

theorem listed_of_not_hides (h : o.hides p f s = false) :
    o.listed p.pageSize f.source s = s.keysUnder f.source := by
  obtain ⟨hreach, hpages⟩ := Bool.or_eq_false_iff.1 h
  rw [listed, hreach, if_neg Bool.false_ne_true, seen_of_not_breaksOff hpages,
    flatMap_pages p.pageSize_pos]

/-- What is hidden is some object. -/
theorem not_hides_of_listed (hk : k ∈ s.keysUnder f.source)
    (h : ∀ x ∈ s.keysUnder f.source, x ∈ o.listed p.pageSize f.source s) :
    o.hides p f s = false := by
  have hne : s.keysUnder f.source ≠ [] := List.ne_nil_of_mem hk
  have hreach : o.unreachable .list f.source = false := by
    by_contra hr
    have hmem := h k hk
    rw [listed, if_pos (by simpa using hr)] at hmem
    cases hmem
  rw [hides, hreach, Bool.false_or]
  by_contra hbreaks
  have hseen := seen_ne (fun _ => ne_nil_of_mem_pages p.pageSize_pos hne) (by simpa using hbreaks)
  rw [flatMap_pages p.pageSize_pos] at hseen
  -- a part of the listing that holds every key is the whole of it
  obtain ⟨rest, hrest⟩ := o.listed_prefix p.pageSize_pos f.source s
  have hdisjoint := List.disjoint_of_nodup_append (hrest ▸ ObjectStore.nodup_keysUnder s f.source)
  have hnil : rest = [] := by
    refine List.eq_nil_iff_forall_not_mem.2 fun x hx => hdisjoint (h x ?_) hx
    rw [← hrest]
    exact List.mem_append_right _ hx
  rw [hnil, List.append_nil, listed, hreach, if_neg Bool.false_ne_true] at hrest
  exact hseen hrest

/-- Nothing is left exactly if the folder was empty, or no call that concerns it is out of order. -/
theorem leftover_eq_nil_iff :
    o.leftover p f s = [] ↔
      ∀ k ∈ s.keysUnder f.source, o.hides p f s = false ∧ o.blocks p k = false := by
  have htaken : o.leftover p f s = [] ↔ ∀ k ∈ s.keysUnder f.source, k ∈ o.taken p f s := by
    simp [leftover, List.filter_eq_nil_iff]
  rw [htaken]
  constructor
  · intro h k hk
    refine ⟨not_hides_of_listed hk fun x hx => mem_listed_of_mem_taken (h x hx), ?_⟩
    exact not_blocks_of_mem_taken (h k hk)
  · intro h k hk
    have hlisted := listed_of_not_hides (h k hk).1
    have hfree : ∀ x ∈ s.keysUnder f.source, !o.blocks p x := fun x hx => by simp [(h x hx).2]
    cases p with
    | aws =>
      rw [taken, hlisted, List.takeWhile_eq_self_iff.2 hfree]
      exact hk
    | azure =>
      rw [taken, hlisted]
      exact List.mem_filter.2 ⟨hk, hfree k hk⟩

end Outages

section
variable {f : ReportFolder} (hid : f.reportId.WellFormed)
include hid

/-- **The keys of the folder after archiving.** -/
theorem keysUnder_archiveFolder (p : Provider) (d : Deployment) :
    ((archiveFolder p f).exec d).2.store.keysUnder f.source = d.outages.leftover p f d.store := by
  refine ObjectStore.keysUnder_eq_of_sublist List.filter_sublist fun k => ?_
  rw [Outages.leftover, List.mem_filter, decide_eq_true_eq, ObjectStore.mem_keysUnder,
    ObjectStore.mem_keysUnder]
  by_cases hk : f.source.toList <+: k.toList
  · have harchive : ∀ x, k ≠ f.archiveKey x := ReportFolder.ne_archiveKey hid hk
    cases p with
    | aws =>
      have h := Bucket.archived_archive hid d
      by_cases hm : k ∈ d.outages.taken .aws f d.store
      · simp [archiveFolder, h.gone k hm, hm]
      · simp [archiveFolder, h.others k hm fun x _ => harchive x, hm]
    | azure =>
      have h := Container.archived_archive hid d
      by_cases hm : k ∈ d.outages.listed Container.pageSize f.source d.store
      · by_cases hd : d.outages.hits .delete k = true <;>
          simp [archiveFolder, Outages.taken, Outages.blocks, Provider.pageSize, h.source k hm, hm, hd]
      · simp [archiveFolder, Outages.taken, Provider.pageSize, h.others k hm fun x _ => harchive x, hm]
  · simp [hk]

end

/-! ## The answer -/

section
variable {d : Deployment} {a : Arguments} {r : Report} {p : Provider}

/-- **A report is answered to be removed whether or not its objects were archived.** If archiving them
    ends in time its row goes, however many of them are left; if it takes too long the row stays, however
    few are. Once it has ended, the folder is empty exactly if no call that concerns an object in it was
    out of order. -/
theorem leftover_dropReport (hb : (a.get "background_tasks").isTruthy = false)
    (hr : d.db.report? (a.id? "report_id") = .ok (some r)) (hp : d.provider? = some p)
    (hid : r.reportId.WellFormed) :
    let f : ReportFolder := ⟨a.text "org_name", r.reportId⟩
    let x := (Gateway.dropReport a).exec d
    (d.overdue p f .now = false →
        x.1 = .ok (.obj [("message", .str "Report deleted successfully"),
          ("report_id", (a.get "report_id").toJson)]) ∧
        ∀ r' ∈ x.2.db.reports, r'.id ≠ r.id) ∧
      (d.overdue p f .now = true →
        x.1 = .error (overdue r.reportId) ∧ x.2.db.reports = d.db.reports) ∧
      x.2.store.keysUnder f.source = d.outages.leftover p f d.store ∧
      (x.2.store.keysUnder f.source = [] ↔
        ∀ k ∈ d.store.keysUnder f.source,
          d.outages.hides p f d.store = false ∧ d.outages.blocks p k = false) := by
  intro f x
  have hexec : x = if d.overdue p f .now then
        (.error (overdue r.reportId), { d.archived p f .now with db := d.db.removeVisuals r.id })
      else
        (.ok (.obj [("message", .str "Report deleted successfully"),
          ("report_id", (a.get "report_id").toJson)]),
        { d.archived p f .now with db := (d.db.removeVisuals r.id).removeReport r.id }) := by
    have hremove := exec_removeReport_some (a.text "org_name") .now hr hp
    simp only [x, Gateway.dropReport, hb, Bool.false_eq_true, if_false]
    cases hlate : d.overdue p f .now with
    | true => exact Op.exec_bind_error (hremove.trans (if_pos hlate))
    | false => exact Op.exec_bind_ok (hremove.trans (if_neg (by simp [f, hlate])))
  have hstore : x.2.store.keysUnder f.source = d.outages.leftover p f d.store := by
    rw [show x.2.store = (d.archived p f .now).store by rw [hexec]; split <;> rfl]
    exact keysUnder_archiveFolder hid p d
  refine ⟨fun hlate => ?_, fun hlate => ?_, hstore, by rw [hstore, Outages.leftover_eq_nil_iff]⟩
  · rw [hexec, hlate, if_neg Bool.false_ne_true]
    exact ⟨rfl, fun r' hr' => by simpa using (List.mem_filter.1 hr').2⟩
  · rw [hexec, hlate, if_pos rfl]
    exact ⟨rfl, rfl⟩

end

/-- The request to remove that report. -/
def unreachableRequest : Arguments where
  fields := [("report_id", .id (.ofNat 1)), ("org_name", .text "Acme")]

theorem leftover_dropReport_unreachable :
    let x := (Gateway.dropReport unreachableRequest).exec Bucket.unreachableDeployment
    x.1 = .ok (.obj [("message", .str "Report deleted successfully"),
        ("report_id", .str (Id.ofNat 1).text)]) ∧
      x.2.store.keysUnder ("BI-Portfinal/Acme/" ++ (Id.ofNat 500).text ++ "/") =
        ["BI-Portfinal/Acme/" ++ (Id.ofNat 500).text ++ "/a"] := by
  intro x
  have hr : Bucket.unreachableDeployment.db.report? (unreachableRequest.id? "report_id") =
      .ok (some (Sample.reportAt (.ofNat 1) (.ofNat 500) (.ofNat 300))) := rfl
  have hp : Bucket.unreachableDeployment.provider? = some .aws := by decide +kernel
  have hid : (Id.ofNat 500).WellFormed :=
    ⟨Text.hexPadded 32 500, by decide, List.all_eq_true.1 (by decide), rfl⟩
  have h := leftover_dropReport (a := unreachableRequest) (by decide) hr hp hid
  refine ⟨(h.1 (by decide +kernel)).1, h.2.2.1.trans ?_⟩
  decide +kernel

end ReportMigration
