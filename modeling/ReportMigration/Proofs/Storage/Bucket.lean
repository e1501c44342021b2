import ReportMigration.Proofs.Reports.Removal
import ReportMigration.Proofs.Storage.Folder
import ReportMigration.Sample.Catalogue
/-!
Archiving with buckets.

Objects are moved one by one, in the order of their keys and page by page of the listing, up to the
first whose copy or delete fails and no further than the pages that can be listed.

* `Bucket.moved` are the keys before that one, `Bucket.stuck?` is that one, and `Bucket.copied` are
  the keys that were copied;
* `Bucket.Archived` says what such a run makes of the store, key by key;
* `Bucket.archived_archiveKeys`: moving the objects of a folder does that, and no content is lost on
  the way (`Bucket.Archived.kept`).
-/
namespace ReportMigration

namespace Bucket

variable {f : ReportFolder} {o : Outages} {s s' : ObjectStore} {k : String} {keys : List String}

/-- The keys before the first whose copy or delete fails. -/
def moved (o : Outages) (keys : List String) : List String :=
  keys.takeWhile fun k => !(o.hits .copy k || o.hits .delete k)

/-- The first key whose copy or delete fails. -/
def stuck? (o : Outages) (keys : List String) : Option String :=
  keys.find? fun k => o.hits .copy k || o.hits .delete k

/-- The keys that are copied: those moved, and the one after them if only its delete fails. -/
def copied (o : Outages) (keys : List String) : List String :=
  moved o keys ++ ((stuck? o keys).filter fun k => !o.hits .copy k).toList

theorem mem_of_mem_moved (h : k ∈ moved o keys) : k ∈ keys :=
  (List.takeWhile_sublist _).mem h

theorem mem_of_mem_copied (h : k ∈ copied o keys) : k ∈ keys := by
  rcases List.mem_append.1 h with h | h
  · exact mem_of_mem_moved h
  · rw [Option.mem_toList, Option.filter_eq_some_iff] at h
    exact List.mem_of_find?_eq_some h.1

section
variable (h : (o.hits .copy k || o.hits .delete k) = false)
include h

theorem moved_cons : moved o (k :: keys) = k :: moved o keys := by
  simp only [moved, List.takeWhile_cons, h, Bool.not_false, if_true]

theorem stuck?_cons : stuck? o (k :: keys) = stuck? o keys := by simp [stuck?, h]

theorem copied_cons : copied o (k :: keys) = k :: copied o keys := by
  simp only [copied, moved_cons h, stuck?_cons h, List.cons_append]

end

/-- The store `s'` that moving the objects `keys` of a folder makes of the store `s`. -/
structure Archived (f : ReportFolder) (o : Outages) (keys : List String) (s s' : ObjectStore) :
    Prop where
  /-- What was moved is gone, -/
  gone : ∀ k ∈ moved o keys, s'.get? k = none
  /-- and stands in the archive. -/
  archived : ∀ k ∈ moved o keys, s'.get? (f.archiveKey k) = s.get? k
  /-- The object at which it stopped is where it was, -/
  stuck : ∀ k, stuck? o keys = some k → s'.get? k = s.get? k
  /-- and stands in the archive too if it was its delete that failed. -/
  stuck_copied : ∀ k, stuck? o keys = some k → o.hits .copy k = false →
    s'.get? (f.archiveKey k) = s.get? k
  /-- Everything else is as it was. -/
  others : ∀ x, x ∉ moved o keys → (∀ k ∈ copied o keys, x ≠ f.archiveKey k) →
    s'.get? x = s.get? x

/-! ## Calls -/

theorem exec_copy (source target : String) (d : Deployment) :
    (copy source target).exec d =
      if d.outages.hits .copy source then (.error (d.outages.fault .copy source), d)
      else match d.store.get? source with
        | none => (.error (noKey "CopyObject"), d)
        | some c => (.ok (), { d with store := d.store.put target c }) := by
  rw [copy, Op.exec_bind, Op.exec_reach]
  by_cases h : d.outages.hits .copy source = true
  · rw [if_pos h, if_pos h]
  · rw [if_neg h, if_neg h]
    simp only [Op.exec_bind, Op.exec_object]
    cases d.store.get? source <;> rfl

theorem exec_delete (key : String) (d : Deployment) :
    (delete key).exec d =
      if d.outages.hits .delete key then (.error (d.outages.fault .delete key), d)
      else (.ok (), { d with store := d.store.erase key }) := by
  rw [delete, Op.exec_bind, Op.exec_reach]
  by_cases h : d.outages.hits .delete key = true
  · rw [if_pos h, if_pos h]
  · rw [if_neg h, if_neg h]; rfl

/-! ## One object after the other -/

theorem archiveKeys_append (f : ReportFolder) :
    ∀ ks ks', archiveKeys f (ks ++ ks') = archiveKeys f ks >>= fun _ => archiveKeys f ks'
  | [], ks' => rfl
  | k :: ks, ks' => by
    rw [List.cons_append, archiveKeys, archiveKeys_append f ks ks', archiveKeys]
    simp only [bind_assoc]

theorem keeps_outages_archiveKeys (f : ReportFolder) :
    ∀ keys, Op.Keeps (·.outages) (archiveKeys f keys)
  | [] => .pure _
  | key :: keys => by
    refine .bind (.bind (.reach _ _ _) fun _ => .bind (.object _ _) fun _ _ => rfl) fun _ => ?_
    exact .bind (.bind (.reach _ _ _) fun _ _ => rfl) fun _ => keeps_outages_archiveKeys f keys

section
variable (hid : f.reportId.WellFormed)
include hid

/-- What the run makes of the store after the first object was moved, with the first object. -/
theorem Archived.cons {c : Content} (hs : s.get? k = some c)
    (hk : k ∉ keys) (hu : ∀ x ∈ k :: keys, f.source.toList <+: x.toList)
    (hok : (o.hits .copy k || o.hits .delete k) = false)
    (h : Archived f o keys ((s.put (f.archiveKey k) c).erase k) s') :
    Archived f o (k :: keys) s s' := by
  have huk := hu k List.mem_cons_self
  have hu' : ∀ x ∈ keys, f.source.toList <+: x.toList := fun x hx =>
    hu x (List.mem_cons_of_mem _ hx)
  -- the move of `k` touches no other object of the folder
  have hsame : ∀ x, x ≠ k → x ≠ f.archiveKey k →
      ((s.put (f.archiveKey k) c).erase k).get? x = s.get? x := by
    intro x h₁ h₂
    simp [h₁, h₂]
  have hfolder : ∀ x ∈ keys, ((s.put (f.archiveKey k) c).erase k).get? x = s.get? x := fun x hx =>
    hsame x (fun he => hk (he ▸ hx)) (ReportFolder.ne_archiveKey hid (hu' x hx) k)
  refine ⟨?_, ?_, ?_, ?_, ?_⟩
  · intro x hx
    rw [moved_cons hok] at hx
    rcases List.mem_cons.1 hx with rfl | hx
    · rw [h.others x (fun hm => hk (mem_of_mem_moved hm)) fun y _ =>
        ReportFolder.ne_archiveKey hid huk y]
      simp
    · exact h.gone x hx
  · intro x hx
    rw [moved_cons hok] at hx
    rcases List.mem_cons.1 hx with rfl | hx
    · rw [h.others (f.archiveKey x) ?_ ?_]
      · simp [hs, (ReportFolder.ne_archiveKey hid huk x).symm]
      · exact fun hm => ReportFolder.ne_archiveKey hid (hu' _ (mem_of_mem_moved hm)) x rfl
      · intro y hy he
        have hy' := mem_of_mem_copied hy
        exact hk (ReportFolder.archiveKey_inj huk (hu' y hy') he ▸ hy')
    · rw [h.archived x hx, hfolder x (mem_of_mem_moved hx)]
  · intro x hx
    rw [stuck?_cons hok] at hx
    rw [h.stuck x hx, hfolder x (List.mem_of_find?_eq_some hx)]
  · intro x hx hc
    rw [stuck?_cons hok] at hx
    rw [h.stuck_copied x hx hc, hfolder x (List.mem_of_find?_eq_some hx)]
  · intro x hx ha
    rw [moved_cons hok, List.mem_cons, not_or] at hx
    rw [copied_cons hok] at ha
    rw [h.others x hx.2 fun y hy => ha y (List.mem_cons_of_mem _ hy),
      hsame x hx.1 (ha k List.mem_cons_self)]

/-- **Moving the objects of a folder**, up to the first failure. -/
theorem archived_archiveKeys : ∀ (keys : List String) (d : Deployment), keys.Nodup →
    (∀ k ∈ keys, ∃ c, d.store.get? k = some c) → (∀ k ∈ keys, f.source.toList <+: k.toList) →
    Archived f d.outages keys d.store ((archiveKeys f keys).exec d).2.store
  | [], d, _, _, _ => by
    refine ⟨?_, ?_, ?_, ?_, ?_⟩ <;> simp [moved, stuck?, archiveKeys]
  | k :: keys, d, hn, hc, hu => by
    obtain ⟨hk, hn'⟩ := List.nodup_cons.1 hn
    obtain ⟨c, hkc⟩ := hc k List.mem_cons_self
    have huk := hu k List.mem_cons_self
    by_cases hcopy : d.outages.hits .copy k = true
    · -- nothing has happened yet
      have hexec : ((archiveKeys f (k :: keys)).exec d).2 = d := by
        rw [archiveKeys, Op.exec_bind, exec_copy, if_pos hcopy]
      rw [hexec]
      refine ⟨?_, ?_, ?_, ?_, ?_⟩ <;> simp [moved, stuck?, hcopy]
    · have hcopied : (copy k (f.archiveKey k)).exec d =
          (.ok (), { d with store := d.store.put (f.archiveKey k) c }) := by
        rw [exec_copy, if_neg hcopy, hkc]
      rw [archiveKeys, Op.exec_bind_ok hcopied]
      by_cases hdelete : d.outages.hits .delete k = true
      · -- the copy stands, and so does the object itself
        rw [Op.exec_bind, exec_delete, if_pos hdelete]
        refine ⟨?_, ?_, ?_, ?_, ?_⟩
        · simp [moved, hdelete]
        · simp [moved, hdelete]
        · simp [stuck?, hdelete, ReportFolder.ne_archiveKey hid huk]
        · simp [stuck?, hdelete, hkc]
        · simp +contextual [moved, copied, stuck?, hdelete, hcopy]
      · have hdeleted : (delete k).exec { d with store := d.store.put (f.archiveKey k) c } =
            (.ok (), { d with store := (d.store.put (f.archiveKey k) c).erase k }) := by
          rw [exec_delete, if_neg hdelete]
        rw [Op.exec_bind_ok hdeleted]
        have hu' : ∀ x ∈ keys, f.source.toList <+: x.toList := fun x hx =>
          hu x (List.mem_cons_of_mem _ hx)
        refine Archived.cons hid hkc hk hu (by simp [hcopy, hdelete])
          (archived_archiveKeys keys
            { d with store := (d.store.put (f.archiveKey k) c).erase k } hn' (fun x hx => ?_) hu')
        have hne : x ≠ k := fun he => hk (he ▸ hx)
        simpa [hne, ReportFolder.ne_archiveKey hid (hu' x hx) k] using
          hc x (List.mem_cons_of_mem _ hx)

/-- No content is lost: it is where it was, or in the archive. -/
theorem Archived.kept (h : Archived f o keys s s') {c : Content}
    (hk : f.source.toList <+: k.toList) (hs : s.get? k = some c) :
    s'.get? k = some c ∨ s'.get? (f.archiveKey k) = some c := by
  by_cases hm : k ∈ moved o keys
  · exact Or.inr ((h.archived k hm).trans hs)
  · exact Or.inl ((h.others k hm fun x _ => ReportFolder.ne_archiveKey hid hk x).trans hs)

/-- Archiving a folder moves the objects that are listed. -/
theorem archived_archive (d : Deployment) :
    Archived f d.outages (d.outages.listed pageSize f.source d.store) d.store
      ((archive f).exec d).2.store := by
  have hsize : 0 < pageSize := by decide
  have hm := fun k (hk : k ∈ d.outages.listed pageSize f.source d.store) =>
    Outages.mem_listed hsize hk
  have hrun := archived_archiveKeys hid _ d (d.outages.nodup_listed hsize f.source d.store)
    (fun k hk => (hm k hk).1) fun k hk => (hm k hk).2
  have hexec : ((archive f).exec d).2 =
      ((archiveKeys f (d.outages.listed pageSize f.source d.store)).exec d).2 := by
    have h := snd_exec_listing f.source (fun (_ : Unit) page => archiveKeys f page) (fun _ => rfl)
      (fun _ => archiveKeys_append f) (fun _ => keeps_outages_archiveKeys f) pure (fun _ _ => rfl)
      pageSize () d
    simpa only [archive, bind_pure] using h
  rw [hexec]
  exact hrun

end

/-! ## The objects of a removed report -/

/-- **Removing a report moves its objects to the archive and loses none**, whatever the organisation
    is called and whichever calls fail: before the answer, or when the work that was set down for
    later is done. -/
theorem archived_removeReport {d : Deployment} {report : Option Id} {orgName : String} {r : Report}
    (hr : d.db.report? report = .ok (some r)) (hp : d.provider? = some .aws)
    (hid : r.reportId.WellFormed) :
    let f : ReportFolder := ⟨orgName, r.reportId⟩
    let now := ((removeReport report orgName .now).exec d).2
    let later := ((removeReport report orgName .later).exec d).2
    Archived f d.outages (d.outages.listed pageSize f.source d.store) d.store now.store ∧
      (∀ k c, f.source.toList <+: k.toList → d.store.get? k = some c →
        now.store.get? k = some c ∨ now.store.get? (f.archiveKey k) = some c) ∧
      (∀ k, f.archiveKey (f.source ++ k) = f.archive ++ k ∧
        ¬ f.source.toList <+: (f.archiveKey k).toList) ∧
      later.store = d.store ∧
      later.tasks = ⟨"run_storage_tasks", [], some (.aws, f)⟩ :: d.tasks ∧
      ∀ d' : Deployment, Archived f d'.outages (d'.outages.listed pageSize f.source d'.store) d'.store
        ((archiveFolder .aws f).exec d').2.store := by
  intro f now later
  have hnow : Archived f d.outages (d.outages.listed pageSize f.source d.store) d.store now.store := by
    obtain ⟨db, hdb⟩ := exec_removeReport_snd orgName .now hr hp
    rw [show now.store = (d.archived .aws f .now).store from congrArg (·.store) hdb]
    exact archived_archive hid d
  refine ⟨hnow, fun k c hk hs => hnow.kept hid hk hs, fun k => ⟨f.archiveKey_source_append k, ?_⟩,
    ?_, ?_, fun d' => archived_archive hid d'⟩
  · exact ReportFolder.not_source_prefix_archiveKey hid k
  · obtain ⟨db, hdb⟩ := exec_removeReport_snd orgName .later hr hp
    exact congrArg (·.store) hdb
  · obtain ⟨db, hdb⟩ := exec_removeReport_snd orgName .later hr hp
    exact congrArg (·.tasks) hdb

/-- A report of an organisation called `Archive`, with three objects of which the second cannot be
    deleted. -/
def stuckDeployment : Deployment where
  db := { reports := [Sample.reportAt (.ofNat 1) (.ofNat 500) (.ofNat 300)] }
  store :=
    let folder := "BI-Portfinal/Archive/" ++ (Id.ofNat 500).text ++ "/"
    .ofList [(folder ++ "a", .text "A"), (folder ++ "b", .text "B"), (folder ++ "c", .text "C")]
  outages := { keys := [(.delete, ["BI-Portfinal/Archive/" ++ (Id.ofNat 500).text ++ "/b"])] }

theorem archived_removeReport_stuck :
    stuckDeployment.db.report? (some (.ofNat 1)) =
        .ok (some (Sample.reportAt (.ofNat 1) (.ofNat 500) (.ofNat 300))) ∧
      stuckDeployment.provider? = some .aws ∧ (Id.ofNat 500).WellFormed ∧
      Archived ⟨"Archive", .ofNat 500⟩ stuckDeployment.outages
        (stuckDeployment.outages.listed pageSize
          (ReportFolder.mk "Archive" (.ofNat 500)).source stuckDeployment.store)
        stuckDeployment.store
        ((removeReport (some (.ofNat 1)) "Archive" .now).exec stuckDeployment).2.store := by
  have hr : stuckDeployment.db.report? (some (.ofNat 1)) =
      .ok (some (Sample.reportAt (.ofNat 1) (.ofNat 500) (.ofNat 300))) := by
    simp [Database.report?, stuckDeployment, Sample.reportAt, Report.read]; rfl
  have hp : stuckDeployment.provider? = some .aws := by decide +kernel
  have hid : (Id.ofNat 500).WellFormed :=
    ⟨Text.hexPadded 32 500, by decide, List.all_eq_true.1 (by decide), rfl⟩
  exact ⟨hr, hp, hid, (archived_removeReport hr hp hid).1⟩

/-- A report with one object, and storage that cannot be reached. -/
def unreachableDeployment : Deployment where
  db := { reports := [Sample.reportAt (.ofNat 1) (.ofNat 500) (.ofNat 300)] }
  store := .ofList [("BI-Portfinal/Acme/" ++ (Id.ofNat 500).text ++ "/a", .text "A")]
  outages := { keys := [(.connect, ["*"])] }

/-- What is not listed is not moved, though neither its copy nor its delete fails. -/
theorem not_archived_unreachable :
    let f : ReportFolder := ⟨"Acme", .ofNat 500⟩
    ¬ Archived f unreachableDeployment.outages (unreachableDeployment.store.keysUnder f.source)
      unreachableDeployment.store
      ((removeReport (some (.ofNat 1)) "Acme" .now).exec unreachableDeployment).2.store := by
  intro f h
  have hgone := h.gone ("BI-Portfinal/Acme/" ++ (Id.ofNat 500).text ++ "/a") (by decide +kernel)
  have hthere : ((removeReport (some (.ofNat 1)) "Acme" .now).exec unreachableDeployment).2.store.get?
      ("BI-Portfinal/Acme/" ++ (Id.ofNat 500).text ++ "/a") = some (.text "A") := by
    decide +kernel
  rw [hthere] at hgone
  cases hgone

end Bucket

end ReportMigration
