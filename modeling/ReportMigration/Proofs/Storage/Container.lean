import ReportMigration.Proofs.Storage.Bucket
/-!
Archiving with containers.

Every object of the folder that is listed is copied and then deleted, the second however the first
stands.

* `Container.Archived` says what this makes of the store, key by key;
* `Container.kept_archive_iff`: an object survives exactly if it is spared (`Container.Spared`): it
  was never listed, could not be deleted, was copied to a good end, or stood in the archive already. So
  an object whose copy is refused or comes to nothing is lost.
-/
namespace ReportMigration

namespace Container

variable {f : ReportFolder} {o : Outages} {w : String → CopyCourse} {s s' : ObjectStore}
  {k : String} {keys : List String}

/-- The store `s'` that archiving the objects `keys` of a folder makes of the store `s`, where `w` is
    the course that the copy to each place takes. -/
structure Archived (f : ReportFolder) (o : Outages) (w : String → CopyCourse) (keys : List String)
    (s s' : ObjectStore) : Prop where
  /-- Only what cannot be deleted is where it was. -/
  source : ∀ k ∈ keys, s'.get? k = if o.hits .delete k then s.get? k else none
  /-- The archive holds what became of a copy, if it was begun. -/
  target : ∀ k ∈ keys, s'.get? (f.archiveKey k) =
    if o.hits .copy k then s.get? (f.archiveKey k)
    else (s.get? k).map (w (f.archiveKey k)).result
  /-- Everything else is as it was. -/
  others : ∀ x, x ∉ keys → (∀ k ∈ keys, x ≠ f.archiveKey k) → s'.get? x = s.get? x

/-! ## One object -/

theorem exec_delete (key : String) (d : Deployment) :
    (delete key).exec d =
      if d.outages.hits .delete key then (.error (d.outages.fault .delete key), d)
      else match d.store.get? key with
        | none => (.error notFound, d)
        | some _ => (.ok (), { d with store := d.store.erase key }) := by
  rw [delete, Op.exec_bind, Op.exec_reach]
  by_cases h : d.outages.hits .delete key = true
  · rw [if_pos h, if_pos h]
  · rw [if_neg h, if_neg h]
    simp only [Op.exec_bind, Op.exec_object]
    cases d.store.get? key <;> rfl

theorem exec_copy (source target : String) (d : Deployment) :
    (copy source target).exec d =
      if d.outages.hits .copy source then (.error (d.outages.fault .copy source), d)
      else match d.store.get? source with
        | none => (.error notFound, d)
        | some c => (.ok (), { d with store := d.store.put target ((d.copyCourse target).result c) }) := by
  rw [copy, Op.exec_bind, Op.exec_reach]
  by_cases h : d.outages.hits .copy source = true
  · rw [if_pos h, if_pos h]
  · rw [if_neg h, if_neg h]
    simp only [Op.exec_bind, Op.exec_object]
    cases d.store.get? source <;> rfl

/-- What looking at a copy and waiting for it does not touch. -/
private def holdings (d : Deployment) : ObjectStore × Outages × (String → CopyCourse) :=
  (d.store, d.outages, d.copyCourse)

theorem keeps_awaitCopy (key : String) : ∀ looks n, Op.Keeps holdings (awaitCopy key looks n)
  | _, 0 => .pure _
  | looks, n + 1 => by
    refine .bind (fun _ => rfl) fun _ => .bind (.properties (fun _ _ => rfl) _ _) fun _ => ?_
    exact .ite (keeps_awaitCopy key (looks + 1) n) (.pure _)

/-- The copy of an object and the wait for it, as far as storage is concerned: however the copy stands
    and whether or not it can be looked at. -/
theorem exec_attempt_copy {c : Content} {d : Deployment} (hs : d.store.get? k = some c) :
    ∃ r d₁, (Op.attempt (do
        copy k (f.archiveKey k)
        if (← properties (f.archiveKey k)) = .pending then
          awaitCopy (f.archiveKey k) 1 copyLimit)).exec d = (.ok r, d₁) ∧
      d₁.outages = d.outages ∧ d₁.copyCourse = d.copyCourse ∧
      d₁.store = if d.outages.hits .copy k then d.store
        else d.store.put (f.archiveKey k) ((d.copyCourse (f.archiveKey k)).result c) := by
  refine ⟨_, _, Op.exec_attempt _ _, ?_⟩
  have hcopy := exec_copy k (f.archiveKey k) d
  by_cases hc : d.outages.hits .copy k = true
  · rw [if_pos hc] at hcopy
    rw [Op.exec_bind_error hcopy, if_pos hc]
    exact ⟨rfl, rfl, rfl⟩
  · rw [if_neg hc, hs] at hcopy
    have hwait : Op.Keeps holdings (do
        if (← properties (f.archiveKey k)) = .pending then
          awaitCopy (f.archiveKey k) 1 copyLimit) := by
      refine .bind (.properties (fun _ _ => rfl) _ _) fun _ => ?_
      exact .ite (keeps_awaitCopy _ _ _) (Op.Keeps.pure _)
    rw [Op.exec_bind_ok hcopy, if_neg hc]
    have h := hwait { d with
      store := d.store.put (f.archiveKey k) ((d.copyCourse (f.archiveKey k)).result c) }
    exact ⟨congrArg (·.2.1) h, congrArg (·.2.2) h, congrArg (·.1) h⟩

/-- The store after one object was archived. -/
def afterKey (f : ReportFolder) (o : Outages) (w : String → CopyCourse) (k : String) (c : Content)
    (s : ObjectStore) : ObjectStore :=
  let s₁ := if o.hits .copy k then s else s.put (f.archiveKey k) ((w (f.archiveKey k)).result c)
  if o.hits .delete k then s₁ else s₁.erase k

theorem exec_archiveKey {c : Content} {d : Deployment} (hs : d.store.get? k = some c)
    (hne : k ≠ f.archiveKey k) :
    ∃ b d₁, (archiveKey f k).exec d = (.ok b, d₁) ∧ d₁.outages = d.outages ∧
      d₁.copyCourse = d.copyCourse ∧ d₁.store = afterKey f d.outages d.copyCourse k c d.store := by
  obtain ⟨r, d₁, hexec, ho, hw, hst⟩ := exec_attempt_copy (f := f) hs
  have hk : d₁.store.get? k = some c := by
    rw [hst]
    split
    · exact hs
    · rw [ObjectStore.get?_put, if_neg hne, hs]
  refine ⟨_, _, (Op.exec_bind_ok hexec).trans (Op.exec_succeeds _ _), ?_⟩
  rw [exec_delete, ho, hk]
  by_cases hd : d.outages.hits .delete k = true
  · rw [if_pos hd, afterKey, if_pos hd]
    exact ⟨ho, hw, hst⟩
  · rw [if_neg hd, afterKey, if_neg hd, ← hst]
    exact ⟨rfl, hw, rfl⟩

theorem get?_afterKey_of_ne {c : Content} {x : String} (h₁ : x ≠ k) (h₂ : x ≠ f.archiveKey k) :
    (afterKey f o w k c s).get? x = s.get? x := by
  unfold afterKey
  by_cases hc : o.hits .copy k = true <;> by_cases hd : o.hits .delete k = true <;>
    simp [hc, hd, h₁, h₂]

theorem get?_afterKey_self {c : Content} (hne : k ≠ f.archiveKey k) :
    (afterKey f o w k c s).get? k = if o.hits .delete k then s.get? k else none := by
  unfold afterKey
  by_cases hc : o.hits .copy k = true <;> by_cases hd : o.hits .delete k = true <;>
    simp [hc, hd, hne]

theorem get?_afterKey_archiveKey {c : Content} (hne : k ≠ f.archiveKey k) :
    (afterKey f o w k c s).get? (f.archiveKey k) =
      if o.hits .copy k then s.get? (f.archiveKey k)
      else some ((w (f.archiveKey k)).result c) := by
  unfold afterKey
  by_cases hc : o.hits .copy k = true <;> by_cases hd : o.hits .delete k = true <;>
    simp [hc, hd, hne.symm]

/-- The content of an object stands at its own key or in the archive. -/
def Kept (f : ReportFolder) (k : String) (c : Content) (s : ObjectStore) : Prop :=
  s.get? k = some c ∨ s.get? (f.archiveKey k) = some c

/-- The object is never listed, or it cannot be deleted, or the archive has its content: because a copy
    that was begun came to a good end, or from before. -/
def Spared (f : ReportFolder) (o : Outages) (w : String → CopyCourse) (k : String) (c : Content)
    (s : ObjectStore) : Prop :=
  k ∉ o.listed pageSize f.source s ∨ o.hits .delete k ∨
    (if o.hits .copy k then s.get? (f.archiveKey k) = some c
      else (w (f.archiveKey k)).result c = c)

/-! ## One object after the other -/

theorem archiveKeys_append (f : ReportFolder) : ∀ left ks ks',
    archiveKeys f left (ks ++ ks') = archiveKeys f left ks >>= fun left' => archiveKeys f left' ks'
  | left, [], ks' => rfl
  | left, k :: ks, ks' => by
    rw [List.cons_append, archiveKeys, archiveKeys, bind_assoc]
    exact congrArg _ (funext fun _ => archiveKeys_append f _ ks ks')

theorem keeps_outages_archiveKeys (f : ReportFolder) :
    ∀ left keys, Op.Keeps (·.outages) (archiveKeys f left keys)
  | _, [] => .pure _
  | _, key :: keys => by
    refine .bind (.bind (.attempt ?_) fun _ => .succeeds ?_) fun _ =>
      keeps_outages_archiveKeys f _ keys
    · refine .bind (.bind (.reach _ _ _) fun _ => .bind (.object _ _) fun _ _ => rfl) fun _ => ?_
      refine .bind (.properties (fun _ _ => rfl) _ _) fun _ => .ite ?_ (.pure _)
      exact (keeps_awaitCopy _ _ _).map (·.2.1)
    · exact .bind (.reach _ _ _) fun _ => .bind (.object _ _) fun _ _ => rfl

section
variable (hid : f.reportId.WellFormed)
include hid

theorem Archived.cons {c : Content} (hs : s.get? k = some c) (hk : k ∉ keys)
    (hu : ∀ x ∈ k :: keys, f.source.toList <+: x.toList)
    (h : Archived f o w keys (afterKey f o w k c s) s') : Archived f o w (k :: keys) s s' := by
  have huk := hu k List.mem_cons_self
  have hu' : ∀ x ∈ keys, f.source.toList <+: x.toList := fun x hx =>
    hu x (List.mem_cons_of_mem _ hx)
  have hne := fun x => ReportFolder.ne_archiveKey hid huk x
  have hinj : ∀ x ∈ keys, f.archiveKey x ≠ f.archiveKey k := fun x hx he =>
    hk (ReportFolder.archiveKey_inj (hu' x hx) huk he ▸ hx)
  have hfolder : ∀ x ∈ keys, (afterKey f o w k c s).get? x = s.get? x := fun x hx =>
    get?_afterKey_of_ne (fun he => hk (he ▸ hx)) (ReportFolder.ne_archiveKey hid (hu' x hx) k)
  refine ⟨?_, ?_, ?_⟩
  · intro x hx
    rcases List.mem_cons.1 hx with rfl | hx
    · rw [h.others x hk fun y _ => hne y, get?_afterKey_self (hne x)]
    · rw [h.source x hx, hfolder x hx]
  · intro x hx
    rcases List.mem_cons.1 hx with rfl | hx
    · rw [h.others (f.archiveKey x) ?_ fun y hy => (hinj y hy).symm,
        get?_afterKey_archiveKey (hne x), hs, Option.map_some]
      exact fun hm => ReportFolder.ne_archiveKey hid (hu' _ hm) x rfl
    · rw [h.target x hx, hfolder x hx, get?_afterKey_of_ne (hne x).symm (hinj x hx)]
  · intro x hx ha
    rw [List.mem_cons, not_or] at hx
    rw [h.others x hx.2 fun y hy => ha y (List.mem_cons_of_mem _ hy),
      get?_afterKey_of_ne hx.1 (ha k List.mem_cons_self)]

/-- **Archiving the objects of a folder**: no failure stops it. -/
theorem archived_archiveKeys : ∀ (keys : List String) (left : Nat) (d : Deployment), keys.Nodup →
    (∀ k ∈ keys, ∃ c, d.store.get? k = some c) → (∀ k ∈ keys, f.source.toList <+: k.toList) →
    Archived f d.outages d.copyCourse keys d.store ((archiveKeys f left keys).exec d).2.store
  | [], _, _, _, _, _ => ⟨by simp, by simp, fun _ _ _ => rfl⟩
  | k :: keys, left, d, hn, hc, hu => by
    obtain ⟨hk, hn'⟩ := List.nodup_cons.1 hn
    obtain ⟨c, hkc⟩ := hc k List.mem_cons_self
    have huk := hu k List.mem_cons_self
    have hu' : ∀ x ∈ keys, f.source.toList <+: x.toList := fun x hx =>
      hu x (List.mem_cons_of_mem _ hx)
    obtain ⟨b, d₁, hexec, ho, hw, hst⟩ :=
      exec_archiveKey hkc (ReportFolder.ne_archiveKey hid huk k)
    have harch := archived_archiveKeys keys (if b then left else left + 1) d₁ hn'
      (fun x hx => by
        have hxk : x ≠ k := fun he => hk (he ▸ hx)
        rw [hst, get?_afterKey_of_ne hxk (ReportFolder.ne_archiveKey hid (hu' x hx) k)]
        exact hc x (List.mem_cons_of_mem _ hx)) hu'
    rw [ho, hw, hst] at harch
    rw [archiveKeys, Op.exec_bind_ok hexec]
    exact harch.cons hid hkc hk hu

theorem archived_archive (d : Deployment) :
    Archived f d.outages d.copyCourse (d.outages.listed pageSize f.source d.store) d.store
      ((archive f).exec d).2.store := by
  have hsize : 0 < pageSize := by decide
  have hm := fun k (hk : k ∈ d.outages.listed pageSize f.source d.store) =>
    Outages.mem_listed hsize hk
  have hrun := archived_archiveKeys hid _ 0 d (d.outages.nodup_listed hsize f.source d.store)
    (fun k hk => (hm k hk).1) fun k hk => (hm k hk).2
  -- a folder that is not emptied is a failure, but what was done stays done
  have hexec : ((archive f).exec d).2 =
      ((archiveKeys f 0 (d.outages.listed pageSize f.source d.store)).exec d).2 :=
    snd_exec_listing _ _ (fun _ => rfl) (archiveKeys_append f) (keeps_outages_archiveKeys f) _
      (fun left d => by split <;> rfl) pageSize 0 d
  rw [hexec]
  exact hrun

/-- **An object of the folder survives** the archiving exactly if it is spared. -/
theorem kept_archive_iff (d : Deployment) {c : Content} (hk : f.source.toList <+: k.toList)
    (hs : d.store.get? k = some c) :
    Kept f k c ((archive f).exec d).2.store ↔ Spared f d.outages d.copyCourse k c d.store := by
  unfold Kept Spared
  have harch := archived_archive hid d
  generalize ((archive f).exec d).2.store = s' at harch ⊢
  by_cases hmem : k ∈ d.outages.listed pageSize f.source d.store
  · rw [harch.source k hmem, harch.target k hmem, hs]
    by_cases hc : d.outages.hits .copy k = true <;>
      by_cases hd : d.outages.hits .delete k = true <;> simp [hmem, hc, hd]
  · -- what was not listed was not touched
    have hkept : s'.get? k = some c := by
      rw [harch.others k hmem fun x _ => ReportFolder.ne_archiveKey hid hk x, hs]
    exact iff_of_true (.inl hkept) (.inl hmem)

end

/-! ## The objects of a removed report -/

/-- **Removing a report loses the objects whose copies come to nothing.** An object that is listed is
    deleted however its copy stands: refused, failed, broken off, still pending after the last look at
    it, or not to be looked at. Its content survives only if the object was never listed, if its
    deletion fails too, or if the archive holds the content: because the copy came to a good end, which is
    certain once it was seen to succeed, or because an older copy happens to be equal. This holds before
    the answer and for the work that was set down for later. -/
theorem kept_removeReport_iff {d : Deployment} {report : Option Id} {orgName : String} {r : Report}
    (hr : d.db.report? report = .ok (some r)) (hp : d.provider? = some .azure)
    (hid : r.reportId.WellFormed) :
    let f : ReportFolder := ⟨orgName, r.reportId⟩
    let now := ((removeReport report orgName .now).exec d).2
    let later := ((removeReport report orgName .later).exec d).2
    (∀ k c, f.source.toList <+: k.toList → d.store.get? k = some c →
        (Kept f k c now.store ↔ Spared f d.outages d.copyCourse k c d.store)) ∧
      (∀ k ∈ d.outages.listed pageSize f.source d.store, d.outages.hits .delete k = false →
        now.store.get? k = none) ∧
      (∀ k c look, f.source.toList <+: k.toList → d.store.get? k = some c →
        d.outages.hits .copy k = false → (d.copyCourse (f.archiveKey k)).state look = .success →
        Kept f k c now.store) ∧
      later.store = d.store ∧
      later.tasks = ⟨"run_storage_tasks", [], some (.azure, f)⟩ :: d.tasks ∧
      ∀ (d' : Deployment) k c, f.source.toList <+: k.toList → d'.store.get? k = some c →
        (Kept f k c ((archiveFolder .azure f).exec d').2.store ↔
          Spared f d'.outages d'.copyCourse k c d'.store) := by
  intro f now later
  have hnow : now.store = ((archive f).exec d).2.store := by
    obtain ⟨db, hdb⟩ := exec_removeReport_snd orgName .now hr hp
    exact congrArg (·.store) hdb
  obtain ⟨db, hlater⟩ := exec_removeReport_snd orgName .later hr hp
  have hkept : ∀ k c, f.source.toList <+: k.toList → d.store.get? k = some c →
      (Kept f k c now.store ↔ Spared f d.outages d.copyCourse k c d.store) := by
    intro k c hk hs
    rw [hnow]
    exact kept_archive_iff hid d hk hs
  refine ⟨hkept, ?_, ?_, congrArg (·.store) hlater, congrArg (·.tasks) hlater,
    fun d' k c hk hs => kept_archive_iff hid d' hk hs⟩
  · intro k hk hdelete
    rw [hnow, (archived_archive hid d).source k hk, hdelete]
    rfl
  · intro k c look hk hs hcopy hseen
    refine (hkept k c hk hs).2 (.inr (.inr ?_))
    rw [hcopy, if_neg Bool.false_ne_true]
    exact (d.copyCourse (f.archiveKey k)).complete look hseen c

/-- A report with one object, where no copy succeeds. -/
def lossyDeployment : Deployment where
  db := { reports := [Sample.reportAt (.ofNat 1) (.ofNat 500) (.ofNat 300)] }
  env := [("CLOUD_PROVIDER", "azure")]
  store := .ofList [("BI-Portfinal/Acme/" ++ (Id.ofNat 500).text ++ "/a", .text "A")]
  outages := { keys := [(.copy, ["*"])] }

/-- The same where a copy is begun, is pending at each look and comes to nothing. -/
def pendingDeployment : Deployment :=
  { lossyDeployment with
    outages := {}
    copyCourse := fun _ =>
      { state := fun _ => .pending, result := fun _ => .text "", complete := by intro _ h; cases h } }

theorem kept_removeReport_lost :
    let f : ReportFolder := ⟨"Acme", .ofNat 500⟩
    let k := "BI-Portfinal/Acme/" ++ (Id.ofNat 500).text ++ "/a"
    (lossyDeployment.store.get? k = some (.text "A") ∧
        ¬ Kept f k (.text "A")
          ((removeReport (some (.ofNat 1)) "Acme" .now).exec lossyDeployment).2.store) ∧
      pendingDeployment.store.get? k = some (.text "A") ∧
        ¬ Kept f k (.text "A")
          ((removeReport (some (.ofNat 1)) "Acme" .now).exec pendingDeployment).2.store := by
  intro f k
  have hid : (Id.ofNat 500).WellFormed :=
    ⟨Text.hexPadded 32 500, by decide, List.all_eq_true.1 (by decide), rfl⟩
  have hk : f.source.toList <+: k.toList := by decide +kernel
  have hlost : ∀ d : Deployment, d.db.report? (some (.ofNat 1)) =
      .ok (some (Sample.reportAt (.ofNat 1) (.ofNat 500) (.ofNat 300))) →
      d.provider? = some .azure → d.store.get? k = some (.text "A") →
      ¬ Spared f d.outages d.copyCourse k (.text "A") d.store →
      d.store.get? k = some (.text "A") ∧
        ¬ Kept f k (.text "A") ((removeReport (some (.ofNat 1)) "Acme" .now).exec d).2.store := by
    intro d hr hp hs hspared
    exact ⟨hs, fun h => hspared (((kept_removeReport_iff hr hp hid).1 k (.text "A") hk hs).1 h)⟩
  constructor
  · refine hlost _ rfl (by decide +kernel) (by decide +kernel) ?_
    unfold Spared
    decide +kernel
  · refine hlost _ rfl (by decide +kernel) (by decide +kernel) ?_
    unfold Spared
    decide +kernel

end Container

end ReportMigration
