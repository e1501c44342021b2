import ReportMigration.Proofs.Files.Opening
import ReportMigration.Proofs.Storage.Folder
import ReportMigration.Proofs.Storage.Transfer
/-!
The download of a folder, for either service.

* `Bucket.exec_savePages`: to save a listing page by page is to save the keys that are seen one after
  the other, and to fail then if the listing broke off;
* `Deployment.Saves d key path c`: the object can be saved at a path, and then it is (`exec_save_cases`);
* `Outages.arrives o disk target key`: the object can be saved in the folder `target`;
* `exec_saveAll`: into a folder that is there, the one service saves the objects that arrive, by induction
  over the keys, and so does the other where it can be reached again for each
  (`exec_saveAll_downloadFile`);
* `downloadFolder_agree`: so the two downloads agree, in what they answer and in what they leave behind,
  as long as failures last. They differ where a later page cannot be listed.
-/
namespace ReportMigration

open Op

/-! ## Pages -/

theorem saveAll_append (folder : String) (save : String → String → Op Unit) (xs ys : List String) :
    saveAll folder save (xs ++ ys) = do
      let a ← saveAll folder save xs
      let b ← saveAll folder save ys
      return a ++ b := by
  induction xs with
  | nil => simp [saveAll]
  | cons x xs ih =>
    rw [List.cons_append, saveAll, saveAll, ih]
    simp only [bind_assoc, pure_bind]
    congr 1
    funext ok
    congr 1
    funext a
    congr 1
    funext b
    split <;> rfl

theorem keeps_saveAll {γ : Type} {v : Deployment → γ} {save : String → String → Op Unit}
    (h : ∀ key path, Keeps v (save key path)) (folder : String) :
    ∀ keys, Keeps v (saveAll folder save keys)
  | [] => .pure _
  | _ :: keys => .bind (.succeeds (h _ _)) fun _ => .bind (keeps_saveAll h folder keys) fun _ => .pure _

namespace Bucket

/-- Saves an object as it arrives. -/
def saveObject (key path : String) : Op Unit := Op.save path key (fetch key)

theorem keeps_saveObject (key path : String) : Keeps Deployment.lasting (saveObject key path) :=
  .save (.bind (.reach _ _ _) fun _ => .object _ _) _ _

/-- Pages none of which is empty are worked on one after the other. -/
theorem savePages_eq_foldPages (start folder : String) :
    ∀ (ps : List (Nat × List String)) (done : List String), (∀ x ∈ ps, x.2 ≠ []) →
      savePages start folder done ps = Op.foldPages start (fun done page => do
        let paths ← saveAll folder saveObject page
        return done ++ paths) done ps
  | [], _, _ => rfl
  | (n, page) :: ps, done, h => by
    have hpage : page.isEmpty = false := by simpa using h (n, page) List.mem_cons_self
    rw [savePages, Op.foldPages, hpage, if_neg Bool.false_ne_true]
    simp only [bind_assoc, pure_bind]
    congr 1
    funext _
    congr 1
    funext paths
    exact savePages_eq_foldPages start folder ps _ fun x hx => h x (List.mem_cons_of_mem _ hx)

theorem exec_savePages (start folder : String) (keys : List String) (d : Deployment) :
    (savePages start folder [] (pages pageSize keys)).exec d =
      (saveAll folder saveObject (d.outages.seen start (pages pageSize keys)) >>= fun paths =>
        if d.outages.breaksOff start (pages pageSize keys) then throw (d.outages.fault .list start)
        else pure paths).exec d := by
  by_cases hkeys : keys = []
  · -- the one page of an empty listing is empty
    have hpages : pages pageSize keys = [(0, [])] := by
      rw [hkeys]
      rfl
    have hreach := Op.exec_reach .list start 0 d
    have hseen : d.outages.seen start [(0, [])] = [] := by
      unfold Outages.seen
      cases h : d.outages.hits .list start 0 <;> simp [h]
    rw [hpages, hseen, savePages, exec_bind, hreach]
    cases h : d.outages.hits .list start 0 with
    | true =>
      simp only [Outages.breaksOff, List.any_cons, h, Bool.true_or, if_true]
      rfl
    | false => simp [Outages.breaksOff, saveAll, h]
  · rw [savePages_eq_foldPages start folder _ _ fun x hx => ne_nil_of_mem_pages (by decide) hkeys hx]
    refine (exec_foldPages (fun s => by simp [saveAll]) (fun s ks ks' => ?_) (fun s ks => ?_) _ _ d).trans ?_
    · simp only [saveAll_append, bind_assoc, pure_bind, List.append_assoc]
    · have hsave := (keeps_saveAll keeps_saveObject folder ks).map (·.outages)
      exact hsave.bind fun _ => .pure _
    · simp only [bind_assoc, pure_bind, List.nil_append]

end Bucket

/-! ## One object -/

/-- The path at which an object is saved in a folder. -/
def savedAt (target key : String) : String := Path.join target (Path.baseName key)

/-- An object that is listed can be saved whole in a folder. -/
def Outages.arrives (o : Outages) (disk : Disk) (target key : String) : Bool :=
  disk.opens (savedAt target key) && !o.withholds key

theorem slash_notMem_baseName (key : String) : '/' ∉ (Path.baseName key).toList := by
  rw [Path.baseName, String.toList_ofList, Path.baseNameList, List.mem_reverse]
  intro h
  have hne := List.all_eq_true.1 (List.all_takeWhile (p := (· ≠ '/')) (l := key.toList.reverse)) _ h
  simp at hne

theorem saveAll_cons (target : String) (save : String → String → Op Unit) (key : String)
    (keys : List String) : saveAll target save (key :: keys) = do
      let ok ← succeeds (save key (savedAt target key))
      let rest ← saveAll target save keys
      return if ok then savedAt target key :: rest else rest := rfl

/-- An object that is saved at a path arrives whole, and a file can be opened there. -/
structure Deployment.Saves (d : Deployment) (key path : String) (c : Content) : Prop where
  opens : d.disk.opens path = true
  download : d.outages.withholds key = false
  object : d.store.get? key = some c

section
variable {d : Deployment} {key path target folder : String} {c : Content}

theorem exec_write_of_opens (h : d.disk.opens path = true) (c : Content) :
    ∃ disk, d.disk.SameFolders disk ∧ disk.read path = .ok c ∧
      (Op.onDisk (·.write path c)).exec d = (.ok (), { d with disk := disk }) := by
  obtain ⟨disk, hwrite⟩ := (Disk.opens_iff c).1 h
  exact ⟨disk, Disk.sameFolders_of_write hwrite, Disk.read_written hwrite, exec_onDisk_ok hwrite⟩

theorem exec_write_of_not (h : d.disk.opens path = false) (c : Content) :
    ∃ e, (Op.onDisk (·.write path c)).exec d = (.error e, d) := by
  rw [exec_onDisk]
  cases hwrite : d.disk.write path c with
  | error e => exact ⟨e, rfl⟩
  | ok disk =>
    rw [(Disk.opens_iff c).2 ⟨disk, hwrite⟩] at h
    cases h

theorem exec_fetch_of_not
    (h : ¬ (d.outages.hits .download key = false ∧ ∃ c, d.store.get? key = some c)) (missing : Fault) :
    ∃ e, (do Op.reach .download key; Op.object key missing : Op Content).exec d = (.error e, d) := by
  have hreach := exec_reach .download key 0 d
  cases hdown : d.outages.hits .download key with
  | true =>
    rw [hdown, if_pos rfl] at hreach
    exact ⟨_, exec_bind_error hreach⟩
  | false =>
    rw [hdown, if_neg Bool.false_ne_true] at hreach
    rw [exec_bind_ok hreach, exec_object]
    cases hc : d.store.get? key with
    | none => exact ⟨missing, rfl⟩
    | some c => exact absurd ⟨hdown, c, hc⟩ h

/-- **The object of a key is saved if it can be.** If not, the file may be there with a part of it. In
    any case the same places are folders afterwards, and what is left behind does not depend on the fault
    that would tell that the object is missing. -/
theorem exec_save_cases (d : Deployment) (key path : String) :
    ∃ disk, d.disk.SameFolders disk ∧ ∀ missing,
      let r := (Op.save path key (do Op.reach .download key; Op.object key missing)).exec d
      (∃ c, d.Saves key path c ∧ disk.read path = .ok c ∧ r = (.ok (), { d with disk := disk })) ∨
        (∀ c, ¬ d.Saves key path c) ∧ ∃ e, r = (.error e, { d with disk := disk }) := by
  cases hopens : d.disk.opens path with
  | false =>
    obtain ⟨e, hopen⟩ := exec_write_of_not hopens (.text "")
    refine ⟨d.disk, .refl _, fun missing => .inr ⟨fun c h => ?_, e, exec_bind_error hopen⟩⟩
    rw [h.opens] at hopens
    cases hopens
  | true =>
    obtain ⟨disk₁, hsame₁, -, hopen⟩ := exec_write_of_opens hopens (.text "")
    by_cases hfetch : d.outages.hits .download key = false ∧ ∃ c, d.store.get? key = some c
    · obtain ⟨hdown, c, hc⟩ := hfetch
      have hfetch : ∀ missing, (do Op.reach .download key; Op.object key missing : Op Content).exec
          { d with disk := disk₁ } = (.ok c, { d with disk := disk₁ }) := fun _ =>
        Provider.exec_fetch (d := { d with disk := disk₁ }) hdown hc
      -- what has arrived is written into the file, be it all of the object or a part
      obtain ⟨disk₂, hsame₂, hread, hfill⟩ := exec_write_of_opens (d := { d with disk := disk₁ })
        ((Disk.opens_sameFolders hsame₁).trans hopens) ((d.outages.part key).getD c)
      refine ⟨disk₂, hsame₁.trans hsame₂, fun missing => ?_⟩
      rw [Op.save, exec_bind_ok hopen, exec_bind_ok (hfetch missing), exec_bind_ok (exec_get _)]
      dsimp only
      cases hpart : d.outages.part key with
      | none =>
        rw [hpart] at hread hfill
        refine .inl ⟨c, ⟨hopens, ?_, hc⟩, hread, hfill⟩
        rw [Outages.withholds, hdown, hpart]
        rfl
      | some part =>
        rw [hpart] at hfill
        refine .inr ⟨fun c' h => ?_, _, exec_bind_ok hfill⟩
        rw [(Outages.withholds_eq_false h.download).2] at hpart
        cases hpart
    · refine ⟨disk₁, hsame₁, fun missing => .inr ⟨fun c h => ?_, ?_⟩⟩
      · exact hfetch ⟨(Outages.withholds_eq_false h.download).1, c, h.object⟩
      · obtain ⟨e, hfails⟩ := exec_fetch_of_not (d := { d with disk := disk₁ }) hfetch missing
        exact ⟨e, (exec_bind_ok hopen).trans (exec_bind_error hfails)⟩

theorem arrives_iff_saves (hc : d.store.get? key = some c) :
    d.outages.arrives d.disk target key = true ↔ ∃ c, d.Saves key (savedAt target key) c := by
  rw [Outages.arrives, Bool.and_eq_true, Bool.not_eq_true']
  constructor
  · rintro ⟨hopens, hdown⟩
    exact ⟨c, hopens, hdown, hc⟩
  · rintro ⟨_, h⟩
    exact ⟨h.opens, h.download⟩

theorem exec_succeeds_save (target : String) (hc : d.store.get? key = some c) :
    ∃ disk, d.disk.SameFolders disk ∧ ∀ missing,
      (succeeds (Op.save (savedAt target key) key
        (do Op.reach .download key; Op.object key missing))).exec d =
        (.ok (d.outages.arrives d.disk target key), { d with disk := disk }) := by
  obtain ⟨disk, hsame, hcases⟩ := exec_save_cases d key (savedAt target key)
  refine ⟨disk, hsame, fun missing => ?_⟩
  rcases hcases missing with ⟨c', hsaves, -, hok⟩ | ⟨hnot, e, herror⟩
  · rw [exec_succeeds, hok, (arrives_iff_saves hc).2 ⟨c', hsaves⟩]
    rfl
  · have harrives : d.outages.arrives d.disk target key = false := by
      rw [Bool.eq_false_iff, ne_eq, arrives_iff_saves hc]
      exact not_exists.2 hnot
    rw [exec_succeeds, herror, harrives]
    rfl

theorem Container.exec_makeFolders_ok {disk : Disk} (h : d.disk.makeFolders folder = .ok disk) :
    (Container.makeFolders folder).exec d = (.ok (), { d with disk := disk }) := by
  rw [Container.makeFolders, exec_bind, exec_succeeds, exec_onDisk, h]
  rfl

theorem Container.exec_makeFolders_error {e : Fault} (h : d.disk.makeFolders folder = .error e) :
    (Container.makeFolders folder).exec d = (.error Container.neverOpened, d) := by
  rw [Container.makeFolders, exec_bind, exec_succeeds, exec_onDisk, h]
  rfl

/-- The one service makes sure of the folder and opens a connection for each object. -/
theorem exec_downloadFile (htarget : target ≠ "") (hleads : d.disk.Leads target) :
    (Container.downloadFile key (savedAt target key)).exec d =
      (do
        let done ← succeeds (do
          Container.opened .download key
          Op.save (savedAt target key) key (Container.download key))
        if !done then throw downloadFault).exec d := by
  have hmake : d.disk.makeFolders (Path.dirName (savedAt target key)) = .ok d.disk :=
    Disk.makeFolders_dirName_join htarget (slash_notMem_baseName key) hleads
  have hfolder : (Container.makeFolders (Path.dirName (savedAt target key))).exec d = (.ok (), d) :=
    Container.exec_makeFolders_ok hmake
  rw [Container.downloadFile, exec_bind, exec_bind, exec_succeeds, exec_succeeds,
    exec_bind_ok hfolder]

/-- This makes no difference where both are there. -/
theorem exec_succeeds_downloadFile (htarget : target ≠ "") (hleads : d.disk.Leads target)
    (hconnect : d.outages.unreachable .download key = false) :
    (succeeds (Container.downloadFile key (savedAt target key))).exec d =
      (succeeds (Op.save (savedAt target key) key (Container.download key))).exec d := by
  rw [exec_succeeds, exec_succeeds, exec_downloadFile htarget hleads, exec_bind, exec_succeeds,
    exec_bind_ok (Container.exec_opened_ok hconnect)]
  rcases (Op.save (savedAt target key) key (Container.download key)).exec d with ⟨e | u, d'⟩ <;> rfl

theorem exec_succeeds_downloadFile_unreachable (htarget : target ≠ "")
    (hleads : d.disk.Leads target) (hconnect : d.outages.unreachable .download key = true) :
    (succeeds (Container.downloadFile key (savedAt target key))).exec d = (.ok false, d) := by
  have hopened := (Container.exec_opened .download key 0 d).trans (if_pos hconnect)
  rw [exec_succeeds, exec_downloadFile htarget hleads, exec_bind, exec_succeeds,
    exec_bind_error hopened]
  rfl

/-! ## All objects -/

/-- One object after the other is saved, as far as it arrives. -/
theorem exec_saveAll (target : String) : ∀ (keys : List String) {d : Deployment},
    (∀ k ∈ keys, ∃ c, d.store.get? k = some c) → ∃ disk,
      (saveAll target Bucket.saveObject keys).exec d =
        (.ok ((keys.filter (d.outages.arrives d.disk target)).map (savedAt target)),
          { d with disk := disk })
  | [], d, _ => ⟨d.disk, rfl⟩
  | key :: keys, d, hkeys => by
    obtain ⟨c, hc⟩ := hkeys key List.mem_cons_self
    obtain ⟨disk₁, hsame, hsave⟩ := exec_succeeds_save target hc
    have hbucket : (succeeds (Bucket.saveObject key (savedAt target key))).exec d =
        (.ok (d.outages.arrives d.disk target key), { d with disk := disk₁ }) := hsave _
    obtain ⟨disk, hrest⟩ := exec_saveAll target keys (d := { d with disk := disk₁ })
      fun k hk => hkeys k (List.mem_cons_of_mem _ hk)
    -- what can be opened for the keys that follow is what could be opened at first
    have harrives : d.outages.arrives disk₁ target = d.outages.arrives d.disk target := by
      funext k
      rw [Outages.arrives, Disk.opens_sameFolders hsame]
      rfl
    refine ⟨disk, ?_⟩
    rw [saveAll_cons, exec_bind_ok hbucket, exec_bind_ok hrest, List.filter_cons, ← harrives]
    cases d.outages.arrives disk₁ target key <;> rfl

/-- **Either service saves the same objects in the same way**, but that the one passes over those for
    which it cannot be reached again. -/
theorem exec_saveAll_downloadFile (htarget : target ≠ "") : ∀ (keys : List String) {d : Deployment},
    d.disk.Leads target → (∀ k ∈ keys, ∃ c, d.store.get? k = some c) →
      (saveAll target Container.downloadFile keys).exec d =
        (saveAll target Bucket.saveObject
          (keys.filter fun k => !d.outages.unreachable .download k)).exec d
  | [], _, _, _ => rfl
  | key :: keys, d, hleads, hkeys => by
    have hkeys' : ∀ k ∈ keys, ∃ c, d.store.get? k = some c := fun k hk =>
      hkeys k (List.mem_cons_of_mem _ hk)
    cases hconnect : d.outages.unreachable .download key with
    | true =>
      have hfail := exec_succeeds_downloadFile_unreachable htarget hleads hconnect
      rw [saveAll_cons, exec_bind_ok hfail, List.filter_cons, hconnect, Bool.not_true,
        if_neg Bool.false_ne_true, ← exec_saveAll_downloadFile htarget keys hleads hkeys']
      simp only [Bool.false_eq_true, if_false, bind_pure]
    | false =>
      obtain ⟨c, hc⟩ := hkeys key List.mem_cons_self
      obtain ⟨disk₁, hsame, hsave⟩ := exec_succeeds_save target hc
      have hbucket : (succeeds (Bucket.saveObject key (savedAt target key))).exec d =
          (.ok (d.outages.arrives d.disk target key), { d with disk := disk₁ }) := hsave _
      have hcontainer : (succeeds (Container.downloadFile key (savedAt target key))).exec d =
          (.ok (d.outages.arrives d.disk target key), { d with disk := disk₁ }) :=
        (exec_succeeds_downloadFile htarget hleads hconnect).trans (hsave _)
      have hagree := exec_saveAll_downloadFile htarget keys (d := { d with disk := disk₁ })
        (hleads.of_keepsFolders hsame.here hsame.keeps) hkeys'
      rw [List.filter_cons, hconnect, Bool.not_false, if_pos rfl, saveAll_cons, saveAll_cons,
        exec_bind_ok hbucket, exec_bind_ok hcontainer, exec_bind, hagree, exec_bind]

end

/-! ## The two downloads -/

/-- The answer that there was an error inside the server. -/
def IsServerError {α : Type} (r : Except Fault α) : Prop := ∃ detail, r = .error (.http 500 detail)

/-- A folder can be made, the service reached and all keys listed, in pages of a size. -/
structure Deployment.Lists (d : Deployment) (size : Nat) (start target : String) : Prop where
  made : ∃ disk, d.disk.makeFolders target = .ok disk
  connect : d.outages.unreachable .list start = false
  list : d.outages.breaksOff start (pages size (d.store.keysUnder start)) = false

/-- The deployment once a folder was made, if it can be. -/
def Deployment.withFolder (d : Deployment) (target : String) : Deployment :=
  match d.disk.makeFolders target with
  | .ok disk => { d with disk := disk }
  | .error _ => d

/-- The keys that are seen in pages of a size, if the folder can be made. -/
def Deployment.seenBy (d : Deployment) (size : Nat) (start target : String) : List String :=
  match d.disk.makeFolders target with
  | .ok _ => d.outages.listed size start d.store
  | .error _ => []

section
variable {α : Type} {d : Deployment} {start target : String} {size : Nat}

theorem Deployment.seenBy_eq_seen {disk : Disk} (hdisk : d.disk.makeFolders target = .ok disk)
    (hreach : d.outages.unreachable .list start = false) :
    d.seenBy size start target = d.outages.seen start (pages size (d.store.keysUnder start)) := by
  rw [seenBy, hdisk]
  dsimp only
  rw [Outages.listed, hreach, if_neg Bool.false_ne_true]

theorem Deployment.Lists.seenBy_eq (hsize : 0 < size) (h : d.Lists size start target) :
    d.seenBy size start target = d.store.keysUnder start := by
  obtain ⟨disk, hdisk⟩ := h.made
  rw [seenBy_eq_seen hdisk h.connect, Outages.seen_of_not_breaksOff h.list, flatMap_pages hsize]

/-- What comes before the keys are listed: the folder is made and the service reached, or that fails and
    nothing else happens. -/
theorem exec_preparation (d : Deployment) (size : Nat) (start target : String) (make connect : Op Unit)
    (k : Op α) (hmake : ∃ e, make.exec d = match d.disk.makeFolders target with
      | .ok disk => (.ok (), { d with disk := disk })
      | .error _ => (.error e, d))
    (hconnect : ∀ d', ∃ e, connect.exec d' =
      if d'.outages.unreachable .list start then (.error e, d') else (.ok (), d')) :
    ((∃ disk, d.disk.makeFolders target = .ok disk) ∧ d.outages.unreachable .list start = false ∧
        (do make; connect; k).exec d = k.exec (d.withFolder target)) ∨
      d.seenBy size start target = [] ∧ ¬ d.Lists size start target ∧
        ∃ e, (do make; connect; k).exec d = (.error e, d.withFolder target) := by
  obtain ⟨e₁, hmake⟩ := hmake
  unfold Deployment.withFolder Deployment.seenBy
  cases hdisk : d.disk.makeFolders target with
  | error e =>
    rw [hdisk] at hmake
    refine .inr ⟨rfl, fun h => ?_, e₁, exec_bind_error hmake⟩
    obtain ⟨disk, hdisk'⟩ := h.made
    rw [hdisk] at hdisk'
    cases hdisk'
  | ok disk =>
    rw [hdisk] at hmake
    obtain ⟨e₂, hconnect⟩ := hconnect { d with disk := disk }
    dsimp only at hmake hconnect ⊢
    rw [exec_bind_ok hmake]
    by_cases hreach : d.outages.unreachable .list start = true
    · rw [if_pos hreach] at hconnect
      refine .inr ⟨by rw [Outages.listed, if_pos hreach], fun h => ?_, e₂, exec_bind_error hconnect⟩
      rw [h.connect] at hreach
      cases hreach
    · rw [if_neg hreach] at hconnect
      exact .inl ⟨⟨disk, rfl⟩, Bool.eq_false_iff.2 hreach, exec_bind_ok hconnect⟩

/-- The operation `y` does what `x` does, and answers that there was an error inside the server where
    `x` fails. -/
structure Shields (x y : Op α) : Prop where
  ok : ∀ {d d' : Deployment} {a : α}, x.exec d = (.ok a, d') → y.exec d = (.ok a, d')
  error : ∀ {d d' : Deployment} {e : Fault}, x.exec d = (.error e, d') →
    ∃ detail, y.exec d = (.error (.http 500 detail), d')

theorem Bucket.shields_downloadFolder (folder target : String) :
    Shields (do
        Op.onDisk (·.makeFolders target)
        Op.connect .list (folderStart folder)
        Bucket.savePages (folderStart folder) target []
          (← Op.pagesUnder Bucket.pageSize (folderStart folder)))
      (Bucket.downloadFolder folder target) := by
  constructor
  · intro d d' paths h
    rw [Bucket.downloadFolder, exec_bind, exec_attempt, h]
    rfl
  · intro d d' e h
    rw [Bucket.downloadFolder, exec_bind, exec_attempt, h]
    exact ⟨_, rfl⟩

theorem Container.shields_downloadFolder (folder target : String) :
    Shields (do
        Container.makeFolders target
        Container.opened .list (folderStart folder)
        saveAll target Container.downloadFile (← Container.allKeys (folderStart folder)))
      (Container.downloadFolder folder target) := by
  constructor
  · intro d d' paths h
    rw [Container.downloadFolder, exec_bind, exec_attempt, h]
    rfl
  · intro d d' e h
    rw [Container.downloadFolder, exec_bind, exec_attempt, h]
    exact ⟨_, rfl⟩

/-- All keys are listed, or none. -/
theorem Container.exec_allKeys (start : String) (d : Deployment) :
    (Container.allKeys start).exec d =
      (if d.outages.breaksOff start (pages Container.pageSize (d.store.keysUnder start)) then
        .error (d.outages.fault .list start) else .ok (d.store.keysUnder start), d) := by
  rw [Container.allKeys, exec_bind_ok (exec_pagesUnder _ _ _),
    exec_foldPages (fun s => by simp) (fun s ks ks' => by simp) (fun _ _ => .pure _), pure_bind]
  cases h : d.outages.breaksOff start (pages Container.pageSize (d.store.keysUnder start)) with
  | true => rfl
  | false =>
    rw [Outages.seen_of_not_breaksOff h, flatMap_pages (by decide)]
    rfl

end

/-- The paths of the objects that arrive, in the order of their keys. -/
def Deployment.arrivals (d : Deployment) (disk : Disk) (start target : String) : List String :=
  ((d.store.keysUnder start).filter (d.outages.arrives disk target)).map (savedAt target)

/-- In a folder that was made, the objects that are seen are saved as they arrive, and it is a failure if
    the listing broke off. -/
theorem Bucket.exec_saveListing {d : Deployment} {start target : String} {disk : Disk}
    (hdisk : d.disk.makeFolders target = .ok disk)
    (hreach : d.outages.unreachable .list start = false) :
    let seen := d.seenBy Bucket.pageSize start target
    let paths := (seen.filter (d.outages.arrives disk target)).map (savedAt target)
    ∃ disk', (saveAll target Bucket.saveObject seen).exec { d with disk := disk } =
        (.ok paths, { d with disk := disk' }) ∧
      (do Bucket.savePages start target [] (← Op.pagesUnder Bucket.pageSize start)).exec
        { d with disk := disk } =
        (if d.outages.breaksOff start (pages Bucket.pageSize (d.store.keysUnder start)) then
          .error (d.outages.fault .list start) else .ok paths, { d with disk := disk' }) := by
  intro seen paths
  have hseen : seen = d.outages.seen start (pages Bucket.pageSize (d.store.keysUnder start)) :=
    Deployment.seenBy_eq_seen hdisk hreach
  have hpresent : ∀ k ∈ seen, ∃ c, d.store.get? k = some c := by
    intro k hk
    have hbegins := d.outages.seen_prefix start (pages Bucket.pageSize (d.store.keysUnder start))
    rw [flatMap_pages (by decide), ← hseen] at hbegins
    exact (ObjectStore.mem_keysUnder.1 (hbegins.subset hk)).1
  obtain ⟨disk', hsave⟩ := exec_saveAll target seen (d := { d with disk := disk }) hpresent
  refine ⟨disk', hsave, ?_⟩
  rw [exec_bind_ok (exec_pagesUnder _ _ _), Bucket.exec_savePages]
  dsimp only
  rw [← hseen, exec_bind_ok hsave]
  split <;> rfl

/-- With buckets, what was seen before the listing broke off is saved; the answer is an error inside the
    server if it did. -/
theorem Bucket.exec_downloadFolder (d : Deployment) (folder target : String) :
    let start := folderStart folder
    let b := (Bucket.downloadFolder folder target).exec d
    b.2 = ((saveAll target Bucket.saveObject (d.seenBy Bucket.pageSize start target)).exec
        (d.withFolder target)).2 ∧
      (d.Lists Bucket.pageSize start target → ∃ disk, d.disk.makeFolders target = .ok disk ∧
        b.1 = .ok (d.arrivals disk start target)) ∧
      (¬ d.Lists Bucket.pageSize start target → IsServerError b.1) := by
  intro start b
  have hshields := Bucket.shields_downloadFolder folder target
  rcases exec_preparation d Bucket.pageSize start target (Op.onDisk (·.makeFolders target))
      (Op.connect .list start) (do Bucket.savePages start target [] (← Op.pagesUnder Bucket.pageSize start))
      (by
        rw [exec_onDisk]
        cases d.disk.makeFolders target with
        | error e => exact ⟨e, rfl⟩
        | ok disk => exact ⟨.violated .dangling, rfl⟩)
      (fun d' => ⟨_, exec_connect _ _ _ d'⟩) with
    ⟨⟨disk, hdisk⟩, hreach, hexec⟩ | ⟨hnil, hlists, e, hexec⟩
  · have hwith : d.withFolder target = { d with disk := disk } := by rw [Deployment.withFolder, hdisk]
    obtain ⟨disk', hsave, hlisting⟩ := Bucket.exec_saveListing hdisk hreach
    rw [hwith, hlisting] at hexec
    rw [hwith, hsave]
    cases hbreaks : d.outages.breaksOff start (pages Bucket.pageSize (d.store.keysUnder start)) with
    | true =>
      rw [hbreaks, if_pos rfl] at hexec
      obtain ⟨detail, hb⟩ := hshields.error hexec
      have hleft := congrArg Prod.snd hb
      refine ⟨hleft, fun h => ?_, fun _ => ⟨detail, congrArg Prod.fst hb⟩⟩
      rw [h.list] at hbreaks
      cases hbreaks
    | false =>
      rw [hbreaks, if_neg Bool.false_ne_true] at hexec
      have hlists : d.Lists Bucket.pageSize start target := ⟨⟨disk, hdisk⟩, hreach, hbreaks⟩
      have hb := hshields.ok hexec
      have hleft := congrArg Prod.snd hb
      refine ⟨hleft, fun _ => ⟨disk, hdisk, ?_⟩, fun h => absurd hlists h⟩
      rw [hlists.seenBy_eq (by decide)] at hb
      exact congrArg Prod.fst hb
  · obtain ⟨detail, hb⟩ := hshields.error hexec
    have hleft := congrArg Prod.snd hb
    refine ⟨?_, fun h => absurd h hlists, fun _ => ⟨detail, congrArg Prod.fst hb⟩⟩
    rw [hnil]
    exact hleft

/-- With containers, nothing is saved if the listing breaks off, and the answer is an error inside the
    server. Else the objects are saved for which the service can be reached again. -/
theorem Container.exec_downloadFolder (d : Deployment) (folder target : String) :
    let start := folderStart folder
    let c := (Container.downloadFolder folder target).exec d
    (¬ d.Lists Container.pageSize start target →
        IsServerError c.1 ∧ c.2 = d.withFolder target) ∧
      (d.Lists Container.pageSize start target → c =
        (saveAll target Bucket.saveObject ((d.store.keysUnder start).filter fun k =>
          !d.outages.unreachable .download k)).exec (d.withFolder target)) := by
  intro start c
  have hshields := Container.shields_downloadFolder folder target
  rcases exec_preparation d Container.pageSize start target (Container.makeFolders target)
      (Container.opened .list start) (do saveAll target Container.downloadFile (← Container.allKeys start))
      (by
        refine ⟨Container.neverOpened, ?_⟩
        cases hdisk : d.disk.makeFolders target with
        | error e => exact Container.exec_makeFolders_error hdisk
        | ok disk => exact Container.exec_makeFolders_ok hdisk)
      (fun d' => ⟨_, Container.exec_opened _ _ _ d'⟩) with
    ⟨⟨disk, hdisk⟩, hreach, hexec⟩ | ⟨hnil, hlists, e, hexec⟩
  · have hwith : d.withFolder target = { d with disk := disk } := by rw [Deployment.withFolder, hdisk]
    have hkeys := Container.exec_allKeys start (d.withFolder target)
    rw [show (d.withFolder target).outages = d.outages by rw [hwith],
      show (d.withFolder target).store = d.store by rw [hwith]] at hkeys
    cases hbreaks : d.outages.breaksOff start (pages Container.pageSize (d.store.keysUnder start)) with
    | true =>
      rw [hbreaks, if_pos rfl] at hkeys
      rw [exec_bind_error hkeys] at hexec
      obtain ⟨detail, hc⟩ := hshields.error hexec
      refine ⟨fun _ => ⟨⟨detail, congrArg Prod.fst hc⟩, congrArg Prod.snd hc⟩, fun h => ?_⟩
      rw [h.list] at hbreaks
      cases hbreaks
    | false =>
      rw [hbreaks, if_neg Bool.false_ne_true] at hkeys
      obtain ⟨htarget, -, -, hleads⟩ := Disk.leads_of_makeFolders hdisk
      have hpresent : ∀ k ∈ d.store.keysUnder start, ∃ c, d.store.get? k = some c := fun k hk =>
        (ObjectStore.mem_keysUnder.1 hk).1
      obtain ⟨disk', hsave⟩ := exec_saveAll target
        ((d.store.keysUnder start).filter fun k => !d.outages.unreachable .download k)
        (d := { d with disk := disk }) fun k hk => hpresent k (List.mem_filter.1 hk).1
      have hagree := exec_saveAll_downloadFile htarget _ (d := { d with disk := disk }) hleads hpresent
      rw [exec_bind_ok hkeys, hwith, hagree, hsave] at hexec
      rw [hwith, hsave]
      exact ⟨fun h => absurd ⟨⟨disk, hdisk⟩, hreach, hbreaks⟩ h, fun _ => hshields.ok hexec⟩
  · obtain ⟨detail, hc⟩ := hshields.error hexec
    exact ⟨fun _ => ⟨⟨detail, congrArg Prod.fst hc⟩, congrArg Prod.snd hc⟩, fun h => absurd h hlists⟩

/-- Failures last while a folder is downloaded: all pages can be listed or none, and the service can be
    reached for each object as it was for the listing. -/
structure Outages.Lasts (o : Outages) (start : String) (keys : List String) : Prop where
  list : ∀ n, o.hits .list start n = o.hits .list start
  connect : ∀ k ∈ keys, o.unreachable .download k = o.unreachable .list start

theorem Outages.Lasts.breaksOff {o : Outages} {start : String} {keys : List String}
    (h : o.Lasts start keys) (size : Nat) :
    o.breaksOff start (pages size keys) = o.hits .list start := by
  have hpages : pages size keys ≠ [] := by simp [pages]
  rw [Bool.eq_iff_iff, Outages.breaksOff, List.any_eq_true]
  simp only [h.list]
  constructor
  · rintro ⟨_, _, hhit⟩
    exact hhit
  · intro hhit
    obtain ⟨x, hx⟩ := List.exists_mem_of_ne_nil _ hpages
    exact ⟨x, hx, hhit⟩

section
variable {d : Deployment} {start target : String} {size : Nat}

/-- The size of a page then does not matter. -/
theorem Outages.Lasts.lists (h : d.outages.Lasts start (d.store.keysUnder start)) (size' : Nat)
    (hlists : d.Lists size start target) : d.Lists size' start target where
  made := hlists.made
  connect := hlists.connect
  list := by rw [h.breaksOff, ← h.breaksOff size, hlists.list]

/-- All keys are seen or none. -/
theorem Outages.Lasts.seenBy_eq_nil (h : d.outages.Lasts start (d.store.keysUnder start))
    (hlists : ¬ d.Lists size start target) : d.seenBy size start target = [] := by
  unfold Deployment.seenBy
  cases hdisk : d.disk.makeFolders target with
  | error e => rfl
  | ok disk =>
    dsimp only
    rw [Outages.listed]
    cases hreach : d.outages.unreachable .list start with
    | true => rfl
    | false =>
      refine Outages.seen_eq_nil fun n => ?_
      by_contra hno
      rw [h.list] at hno
      exact hlists ⟨⟨disk, hdisk⟩, hreach, (h.breaksOff _).trans (Bool.eq_false_iff.2 hno)⟩

end

/-- **The two downloads of a folder are interchangeable** as long as failures last. They leave the same
    behind. Either both answer that there was an error inside the server, which they do exactly if the
    folder cannot be made, the service cannot be reached or the keys cannot be listed; or both answer the
    paths of the objects that arrived, in the order of their keys.

    In general each goes its own way. With buckets, what was seen before the listing broke off is saved;
    with containers nothing is, and objects are passed over for which the service cannot be reached
    again. -/
theorem downloadFolder_agree (d : Deployment) (folder target : String) :
    let start := folderStart folder
    let keys := d.store.keysUnder start
    let b := (Bucket.downloadFolder folder target).exec d
    let c := (Container.downloadFolder folder target).exec d
    (d.outages.Lasts start keys → c.2 = b.2 ∧
        (¬ d.Lists Bucket.pageSize start target ∧ IsServerError b.1 ∧ IsServerError c.1 ∨
          d.Lists Bucket.pageSize start target ∧ c.1 = b.1 ∧
            ∃ disk, d.disk.makeFolders target = .ok disk ∧
              b.1 = .ok (d.arrivals disk start target))) ∧
      (b.2 = ((saveAll target Bucket.saveObject (d.seenBy Bucket.pageSize start target)).exec
          (d.withFolder target)).2 ∧
        (d.Lists Bucket.pageSize start target → ∃ disk, d.disk.makeFolders target = .ok disk ∧
          b.1 = .ok (d.arrivals disk start target)) ∧
        (¬ d.Lists Bucket.pageSize start target → IsServerError b.1)) ∧
      (¬ d.Lists Container.pageSize start target →
        IsServerError c.1 ∧ c.2 = d.withFolder target) ∧
      (d.Lists Container.pageSize start target → c =
        (saveAll target Bucket.saveObject (keys.filter fun k =>
          !d.outages.unreachable .download k)).exec (d.withFolder target)) := by
  intro start keys b c
  have hb := Bucket.exec_downloadFolder d folder target
  have hc := Container.exec_downloadFolder d folder target
  refine ⟨fun hlasts => ?_, hb, hc.1, hc.2⟩
  obtain ⟨hleft, hok, herror⟩ := hb
  by_cases h : d.Lists Bucket.pageSize start target
  · have hreach : (keys.filter fun k => !d.outages.unreachable .download k) = keys :=
      List.filter_eq_self.2 fun k hk => by rw [hlasts.connect k hk, h.connect]; rfl
    obtain ⟨disk, hdisk, hpaths⟩ := hok h
    have hexec := hc.2 (hlasts.lists _ h)
    rw [hreach] at hexec
    have hseen : d.seenBy Bucket.pageSize start target = keys := h.seenBy_eq (by decide)
    rw [hseen] at hleft
    have hcb : c.1 = b.1 := by
      obtain ⟨disk', hsave⟩ := exec_saveAll target keys (d := { d with disk := disk }) fun k hk =>
        (ObjectStore.mem_keysUnder.1 hk).1
      rw [Deployment.withFolder, hdisk] at hexec
      exact (congrArg Prod.fst (hexec.trans hsave)).trans hpaths.symm
    exact ⟨(congrArg Prod.snd hexec).trans hleft.symm, .inr ⟨h, hcb, disk, hdisk, hpaths⟩⟩
  · -- nothing was seen, so nothing was saved
    obtain ⟨hfail, hwith⟩ := hc.1 fun h' => h (hlasts.lists _ h')
    refine ⟨?_, .inl ⟨h, herror h, hfail⟩⟩
    rw [hwith, hleft, hlasts.seenBy_eq_nil h]
    rfl

/-- A folder of two objects, of which the second does not arrive whole. -/
def partialDeployment : Deployment where
  store := .ofList [("p/a.txt", .text "one"), ("p/b.txt", .text "two")]
  outages := { part := fun key => if key = "p/b.txt" then some (.text "t") else none }

theorem downloadFolder_agree_partial :
    let d := partialDeployment
    let b := (Bucket.downloadFolder "p" "out").exec d
    let c := (Container.downloadFolder "p" "out").exec d
    c.2 = b.2 ∧ c.1 = b.1 ∧ b.1.toOption = some ["out/a.txt"] ∧
      (b.2.disk.read "out/b.txt").toOption = some (.text "t") := by
  intro d b c
  have hlasts : d.outages.Lasts (folderStart "p") (d.store.keysUnder (folderStart "p")) :=
    ⟨fun _ => rfl, fun _ _ => rfl⟩
  have hb : b.1.toOption = some ["out/a.txt"] := by decide +kernel
  obtain ⟨hleft, ⟨-, ⟨detail, herror⟩, -⟩ | ⟨-, hsame, -⟩⟩ :=
    (downloadFolder_agree d "p" "out").1 hlasts
  · rw [show b.1 = _ from herror] at hb
    cases hb
  · exact ⟨hleft, hsame, hb, by decide +kernel⟩

/-- A folder of one object, for which no connection can be opened, though one can for the listing. -/
def cutDeployment : Deployment where
  store := .ofList [("p/a.txt", .text "one")]
  outages := { cut := fun kind key _ => kind = .download && key = "p/a.txt" }

/-- The folder of the name without letters holds the keys that begin with a slash, and not all. And where
    a connection that was opened for the listing cannot be opened again, the two downloads differ. -/
theorem downloadFolder_differs :
    (let d : Deployment := { store := .ofList [("a.txt", .text "x")] }
    d.store.keysUnder "" = ["a.txt"] ∧
      ((Bucket.downloadFolder "" "out").exec d).1.toOption = some [] ∧
      ((Container.downloadFolder "" "out").exec d).1.toOption = some []) ∧
    ((Bucket.downloadFolder "p" "out").exec cutDeployment).1.toOption = some ["out/a.txt"] ∧
      ((Container.downloadFolder "p" "out").exec cutDeployment).1.toOption = some [] := by
  refine ⟨⟨?_, ?_, ?_⟩, ?_, ?_⟩ <;> decide +kernel

end ReportMigration
