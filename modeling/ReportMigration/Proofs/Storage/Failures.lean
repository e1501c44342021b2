import ReportMigration.Proofs.Files.Opening
import ReportMigration.Proofs.Storage.Download
import ReportMigration.Storage.Provider
/-!
What the caller learns of a download that fails.

* `Deployment.Delivers d key path c`: everything that the download of the object `c` to a path needs. With
  it either service answers, and the file holds the object; without it either service fails with a fault
  of its own making, and not with the refusal it means to give (`Provider.exec_download_of_delivers`,
  `Provider.exec_download_of_not`);
* `Deployment.FetchesAll d start target`: the same for the objects of a beginning, as many as a page of a
  listing holds, by induction over the keys (`Bucket.saveEach_cases`). Without it the answer is an error
  inside the server, whatever the cause (`Bucket.downloadWorkbooks_cases`);
* `storage_failures_iff`: so a download tells what it should exactly where nothing fails, and the fetching
  of objects exactly where there is an object.
-/
namespace ReportMigration

open Op

/-! ## The download of an object -/

namespace Provider

/-- Makes a folder and opens the service for the download of an object. -/
def enter (p : Provider) (folder key : String) : Op Unit :=
  match p with
  | aws => do Op.onDisk (·.makeFolders folder); Op.connect .download key
  | azure => do Container.makeFolders folder; Container.opened .download key

/-- The fault that tells that an object is missing. -/
def missing (p : Provider) : Fault :=
  match p with
  | aws => Bucket.notFound
  | azure => Container.notFound

theorem download_eq (p : Provider) (key path : String) :
    p.download key path = (do
      let done ← Op.succeeds do
        p.enter (Path.dirName path) key
        Op.save path key (do Op.reach .download key; Op.object key p.missing)
      if !done then throw downloadFault) := by
  cases p with
  | aws => simp only [enter, bind_assoc]; rfl
  | azure => simp only [enter, bind_assoc]; rfl

section
variable {d : Deployment} {folder key path : String} {c : Content} {disk : Disk}

theorem exec_enter (p : Provider) (hmake : d.disk.makeFolders folder = .ok disk)
    (hconnect : d.outages.unreachable .download key = false) :
    (p.enter folder key).exec d = (.ok (), { d with disk := disk }) := by
  cases p with
  | aws =>
    have hfolder : (Op.onDisk (·.makeFolders folder)).exec d = (.ok (), { d with disk := disk }) :=
      exec_onDisk_ok hmake
    have hreach : (Op.connect .download key).exec { d with disk := disk } =
        (.ok (), { d with disk := disk }) := exec_connect_ok hconnect
    rw [enter, exec_bind_ok hfolder, hreach]
  | azure =>
    have hopened : (Container.opened .download key).exec { d with disk := disk } =
        (.ok (), { d with disk := disk }) := Container.exec_opened_ok hconnect
    rw [enter, exec_bind_ok (Container.exec_makeFolders_ok hmake), hopened]

theorem exec_enter_of_not (p : Provider)
    (h : ∀ disk, d.disk.makeFolders folder = .ok disk →
      d.outages.unreachable .download key = true) :
    ∃ e disk, (p.enter folder key).exec d = (.error e, { d with disk := disk }) := by
  cases hmake : d.disk.makeFolders folder with
  | error e =>
    cases p with
    | aws =>
      have hfolder : (Op.onDisk (·.makeFolders folder)).exec d = (.error e, d) := by
        rw [exec_onDisk, hmake]
      exact ⟨e, d.disk, exec_bind_error hfolder⟩
    | azure => exact ⟨_, d.disk, exec_bind_error (Container.exec_makeFolders_error hmake)⟩
  | ok disk =>
    have hconnect : ({ d with disk := disk } : Deployment).outages.unreachable .download key = true :=
      h disk hmake
    cases p with
    | aws =>
      have hfolder : (Op.onDisk (·.makeFolders folder)).exec d = (.ok (), { d with disk := disk }) :=
        exec_onDisk_ok hmake
      have hreach := exec_connect .download key 0 { d with disk := disk }
      rw [if_pos hconnect] at hreach
      exact ⟨_, disk, by rw [enter, exec_bind_ok hfolder, hreach]⟩
    | azure =>
      have hopened := Container.exec_opened .download key 0 { d with disk := disk }
      rw [if_pos hconnect] at hopened
      exact ⟨_, disk, by rw [enter, exec_bind_ok (Container.exec_makeFolders_ok hmake), hopened]⟩

end

end Provider

/-- The download of an object to a path has all it needs: a folder for the file, a connection, and the
    object `c`, which can be saved. -/
structure Deployment.Delivers (d : Deployment) (key path : String) (c : Content) : Prop where
  connect : d.outages.unreachable .download key = false
  saves : ∃ disk, d.disk.makeFolders (Path.dirName path) = .ok disk ∧
    ({ d with disk := disk } : Deployment).Saves key path c

namespace Provider

variable {d : Deployment} {key path : String} {c : Content}

theorem exec_download_of_delivers (p : Provider) (h : d.Delivers key path c) :
    ∃ disk, disk.read path = .ok c ∧ (p.download key path).exec d = (.ok (), { d with disk := disk }) := by
  obtain ⟨disk₁, hmake, hsaves⟩ := h.saves
  obtain ⟨disk₂, -, hcases⟩ := exec_save_cases { d with disk := disk₁ } key path
  rcases hcases p.missing with ⟨c', hsaves', hread, hsave⟩ | ⟨hnot, -⟩
  · obtain rfl : c' = c := Option.some.inj (hsaves'.object.symm.trans hsaves.object)
    refine ⟨disk₂, hread, ?_⟩
    rw [download_eq, exec_bind, exec_succeeds, exec_bind_ok (p.exec_enter hmake h.connect), hsave]
    rfl
  · exact absurd hsaves (hnot c)

/-- The refusal that is meant for the caller cannot be made, whatever the cause. -/
theorem exec_download_of_not (p : Provider) (h : ∀ c, ¬ d.Delivers key path c) :
    ∃ disk, (p.download key path).exec d = (.error downloadFault, { d with disk := disk }) := by
  have hfails : ∃ e disk, (do
      p.enter (Path.dirName path) key
      Op.save path key (do Op.reach .download key; Op.object key p.missing)).exec d =
        (.error e, { d with disk := disk }) := by
    by_cases henter : ∃ disk, d.disk.makeFolders (Path.dirName path) = .ok disk ∧
        d.outages.unreachable .download key = false
    · obtain ⟨disk₁, hmake, hconnect⟩ := henter
      obtain ⟨disk₂, -, hcases⟩ := exec_save_cases { d with disk := disk₁ } key path
      rcases hcases p.missing with ⟨c, hsaves, -⟩ | ⟨-, e, hsave⟩
      · exact absurd ⟨hconnect, disk₁, hmake, hsaves⟩ (h c)
      · exact ⟨e, disk₂, (exec_bind_ok (p.exec_enter hmake hconnect)).trans hsave⟩
    · obtain ⟨e, disk, hbegin⟩ := p.exec_enter_of_not fun disk hmake => by
        rw [← Bool.not_eq_false]
        exact fun hconnect => henter ⟨disk, hmake, hconnect⟩
      exact ⟨e, disk, exec_bind_error hbegin⟩
  obtain ⟨e, disk, hfails⟩ := hfails
  refine ⟨disk, ?_⟩
  rw [download_eq, exec_bind, exec_succeeds, hfails]
  rfl

end Provider

/-! ## All objects of a beginning -/

/-- The keys of a beginning that one page of a listing holds. -/
def Deployment.firstKeys (d : Deployment) (start : String) : List String :=
  (d.store.keysUnder start).take Bucket.pageSize

theorem Deployment.firstKeys_eq_nil_iff {d : Deployment} {start : String} :
    d.firstKeys start = [] ↔ d.store.keysUnder start = [] := by
  simp [firstKeys, Bucket.pageSize]

/-- The objects of a beginning can be fetched into a folder: their keys can be listed, there are some, and
    each object of the first page arrives. -/
structure Deployment.FetchesAll (d : Deployment) (start target : String) : Prop where
  connect : d.outages.unreachable .list start = false
  list : d.outages.hits .list start = false
  some : d.store.keysUnder start ≠ []
  arrive : ∀ k ∈ d.firstKeys start, d.outages.arrives d.disk target k = true

namespace Bucket

variable {d d' : Deployment} {start folder target key : String} {c : Content}

theorem saveEach_cons (target key : String) (keys : List String) :
    saveEach target (key :: keys) = do
      Op.saveWhole (savedAt target key) key (download key)
      return savedAt target key :: (← saveEach target keys) := rfl

/-- An object that arrives is saved, and the same places are folders afterwards. -/
theorem exec_saveWhole_of_arrives (h : d.outages.arrives d.disk target key = true)
    (hc : d.store.get? key = some c) :
    ∃ disk, d.disk.SameFolders disk ∧ (Op.saveWhole (savedAt target key) key (download key)).exec d =
      (.ok (), { d with disk := disk }) := by
  obtain ⟨c, hsaves⟩ := (arrives_iff_saves hc).1 h
  obtain ⟨hdown, hpart⟩ := Outages.withholds_eq_false hsaves.download
  obtain ⟨disk, hsame, -, hput⟩ := exec_write_of_opens hsaves.opens c
  have hdownload : (download key).exec d = (.ok c, d) := Provider.exec_fetch hdown hsaves.object
  refine ⟨disk, hsame, ?_⟩
  rw [Op.saveWhole, exec_bind_ok hdownload, exec_bind_ok (exec_get d)]
  dsimp only
  rw [hpart, if_neg (by simp), hput]

/-- An object that does not arrive is a failure, and nothing is written. -/
theorem exec_saveWhole_of_not (h : d.outages.arrives d.disk target key = false)
    (hc : d.store.get? key = some c) :
    ∃ e, (Op.saveWhole (savedAt target key) key (download key)).exec d = (.error e, d) := by
  cases hdown : d.outages.hits .download key with
  | true =>
    have hfetch : ¬ (d.outages.hits .download key = false ∧ ∃ c, d.store.get? key = some c) := by
      simp [hdown]
    obtain ⟨e, hfails⟩ := exec_fetch_of_not hfetch notFound
    exact ⟨e, exec_bind_error hfails⟩
  | false =>
    have hdownload : (download key).exec d = (.ok c, d) := Provider.exec_fetch hdown hc
    rw [Op.saveWhole, exec_bind_ok hdownload, exec_bind_ok (exec_get d)]
    dsimp only
    cases hpart : d.outages.part key with
    | some part => exact ⟨_, rfl⟩
    | none =>
      have hopens : d.disk.opens (savedAt target key) = false := by
        simpa [Outages.arrives, Outages.withholds, hdown, hpart] using h
      obtain ⟨e, hput⟩ := exec_write_of_not hopens c
      exact ⟨e, by rw [if_neg (by simp), hput]⟩

/-- **All objects are saved, or one of them does not arrive.** Which files can be opened for the keys
    that follow does not depend on what was saved. -/
theorem saveEach_cases (target : String) : ∀ (keys : List String) {d : Deployment},
    (∀ k ∈ keys, ∃ c, d.store.get? k = some c) →
      ((∀ k ∈ keys, d.outages.arrives d.disk target k = true) ∧
        ∃ disk, (saveEach target keys).exec d = (.ok (keys.map (savedAt target)), { d with disk := disk })) ∨
      ((∃ k ∈ keys, d.outages.arrives d.disk target k = false) ∧
        ∃ e d', (saveEach target keys).exec d = (.error e, d'))
  | [], d, _ => .inl ⟨by simp, d.disk, rfl⟩
  | key :: keys, d, hkeys => by
    obtain ⟨c, hc⟩ := hkeys key List.mem_cons_self
    by_cases harrives : d.outages.arrives d.disk target key = true
    · obtain ⟨disk, hsame, hsave⟩ := exec_saveWhole_of_arrives harrives hc
      have hlater : d.outages.arrives disk target = d.outages.arrives d.disk target := by
        funext k
        rw [Outages.arrives, Outages.arrives, Disk.opens_sameFolders hsame]
      rw [saveEach_cons, exec_bind_ok hsave]
      rcases saveEach_cases target keys (d := { d with disk := disk })
        fun k hk => hkeys k (List.mem_cons_of_mem _ hk) with
        ⟨hall, disk', hrest⟩ | ⟨⟨k, hk, hnot⟩, e, d', hrest⟩
      · refine .inl ⟨List.forall_mem_cons.2 ⟨harrives, fun k hk => ?_⟩, disk', ?_⟩
        · rw [← hlater]
          exact hall k hk
        · rw [exec_bind_ok hrest]
          rfl
      · refine .inr ⟨⟨k, List.mem_cons_of_mem _ hk, ?_⟩, e, d', exec_bind_error hrest⟩
        rw [← hlater]
        exact hnot
    · have hnot := Bool.eq_false_iff.2 harrives
      obtain ⟨e, hfails⟩ := exec_saveWhole_of_not hnot hc
      exact .inr ⟨⟨key, List.mem_cons_self, hnot⟩, e, d, exec_bind_error hfails⟩

/-- Fetches the objects of a beginning, and tells why it cannot. -/
def fetchAll (start target : String) : Op (List String) := do
  Op.connect .list start
  let keys ← firstPage start
  if keys.isEmpty then throw (.http 400 (.str "No files found in S3 input path"))
  saveEach target keys

theorem exec_fetchAll_of_reach (target : String) (hconnect : d.outages.unreachable .list start = false)
    (hlist : d.outages.hits .list start = false) :
    (fetchAll start target).exec d =
      if d.store.keysUnder start = [] then
        (.error (.http 400 (.str "No files found in S3 input path")), d)
      else (saveEach target (d.firstKeys start)).exec d := by
  have hpage : (firstPage start).exec d = (.ok (d.firstKeys start), d) := by
    rw [firstPage, exec_bind_ok (exec_reach_ok hlist)]
    rfl
  rw [fetchAll, exec_bind_ok (exec_connect_ok hconnect), exec_bind_ok hpage]
  simp only [← Deployment.firstKeys_eq_nil_iff]
  cases d.firstKeys start <;> rfl

/-- The objects are fetched if they can be. -/
theorem fetchAll_cases (d : Deployment) (start target : String) :
    (d.FetchesAll start target ∧ ∃ disk, (fetchAll start target).exec d =
      (.ok ((d.firstKeys start).map (savedAt target)), { d with disk := disk })) ∨
    (¬ d.FetchesAll start target ∧ ∃ e d', (fetchAll start target).exec d = (.error e, d')) := by
  by_cases hconnect : d.outages.unreachable .list start = true
  · refine .inr ⟨fun h => by simp [h.connect] at hconnect, d.outages.fault .connect "", d, ?_⟩
    exact exec_bind_error ((exec_connect .list start 0 d).trans (if_pos hconnect))
  rw [Bool.not_eq_true] at hconnect
  by_cases hlist : d.outages.hits .list start = true
  · refine .inr ⟨fun h => by simp [h.list] at hlist, d.outages.fault .list start, d, ?_⟩
    have hreach := (exec_reach .list start 0 d).trans (if_pos hlist)
    rw [fetchAll, exec_bind_ok (exec_connect_ok hconnect)]
    exact exec_bind_error (exec_bind_error hreach)
  rw [Bool.not_eq_true] at hlist
  rw [exec_fetchAll_of_reach target hconnect hlist]
  by_cases hnone : d.store.keysUnder start = []
  · exact .inr ⟨fun h => h.some hnone, _, d, if_pos hnone⟩
  rw [if_neg hnone]
  have hkeys : ∀ k ∈ d.firstKeys start, ∃ c, d.store.get? k = some c := fun k hk =>
    (ObjectStore.mem_keysUnder.1 (List.mem_of_mem_take hk)).1
  rcases saveEach_cases target (d.firstKeys start) hkeys with
    ⟨hall, hsaved⟩ | ⟨⟨k, hk, hnot⟩, hfails⟩
  · exact .inl ⟨⟨hconnect, hlist, hnone, hall⟩, hsaved⟩
  · exact .inr ⟨fun h => by simp [h.arrive k hk] at hnot, hfails⟩

theorem exec_downloadWorkbooks_ok {paths : List String}
    (h : (fetchAll (Text.trimLeading (· = '/') folder) target).exec d = (.ok paths, d')) :
    (downloadWorkbooks folder target).exec d = (.ok paths, d') := by
  unfold fetchAll at h
  rw [downloadWorkbooks, exec_bind, exec_attempt, h]
  rfl

/-- Every failure is an error inside the server, also the one that has a status of its own. -/
theorem exec_downloadWorkbooks_error {e : Fault}
    (h : (fetchAll (Text.trimLeading (· = '/') folder) target).exec d = (.error e, d')) :
    (downloadWorkbooks folder target).exec d =
      (.error (.http 500 (.str ("Problem in fetching previous data: " ++ e.text))), d') := by
  unfold fetchAll at h
  rw [downloadWorkbooks, exec_bind, exec_attempt, h]
  rfl

end Bucket

/-! ## What the caller learns -/

/-- A download answers and the file holds the object, or it is refused as a bad request. -/
def Provider.TellsDownload (p : Provider) (d : Deployment) (key path : String) : Prop :=
  (∃ c d', (p.download key path).exec d = (.ok (), d') ∧ d.store.get? key = some c ∧
    d'.disk.read path = .ok c) ∨
  ∃ r d', (p.download key path).exec d = (.error (.refused r), d') ∧ r.kind = .badRequest

/-- The fetching of the objects of a folder has the status 400 exactly if there are none, and the status
    500 if it fails in any other way. -/
def Bucket.TellsFetching (d : Deployment) (folder target : String) : Prop :=
  ((∃ detail, ((downloadWorkbooks folder target).exec d).1 = .error (.http 400 detail)) ↔
    d.store.keysUnder (Text.trimLeading (· = '/') folder) = []) ∧
  ∀ f, ((downloadWorkbooks folder target).exec d).1 = .error f →
    d.store.keysUnder (Text.trimLeading (· = '/') folder) ≠ [] → ∃ detail, f = .http 500 detail

theorem Provider.tellsDownload_iff (p : Provider) (d : Deployment) (key path : String) :
    p.TellsDownload d key path ↔ ∃ c, d.Delivers key path c := by
  constructor
  · intro h
    by_contra hnot
    obtain ⟨disk, hfails⟩ := p.exec_download_of_not (not_exists.1 hnot)
    rcases h with ⟨c, d', hok, -⟩ | ⟨r, d', hrefused, -⟩
    · cases hok.symm.trans hfails
    · cases hrefused.symm.trans hfails
  · rintro ⟨c, h⟩
    obtain ⟨disk, hread, hok⟩ := p.exec_download_of_delivers h
    obtain ⟨disk₁, -, hsaves⟩ := h.saves
    exact .inl ⟨c, _, hok, hsaves.object, hread⟩

/-- The fetching answers where it can, and otherwise says that there was an error inside the server. -/
theorem Bucket.downloadWorkbooks_cases (d : Deployment) (folder target : String) :
    let start := Text.trimLeading (· = '/') folder
    (d.FetchesAll start target ∧ ((downloadWorkbooks folder target).exec d).1 =
      .ok ((d.firstKeys start).map (savedAt target))) ∨
    (¬ d.FetchesAll start target ∧ ∃ cause : Fault, ((downloadWorkbooks folder target).exec d).1 =
      .error (.http 500 (.str ("Problem in fetching previous data: " ++ cause.text)))) := by
  intro start
  rcases fetchAll_cases d start target with ⟨h, disk, hok⟩ | ⟨h, e, d', herror⟩
  · exact .inl ⟨h, by rw [exec_downloadWorkbooks_ok hok]⟩
  · exact .inr ⟨h, e, by rw [exec_downloadWorkbooks_error herror]⟩

theorem Bucket.tellsFetching_iff (d : Deployment) (folder target : String) :
    TellsFetching d folder target ↔ d.store.keysUnder (Text.trimLeading (· = '/') folder) ≠ [] := by
  have hcases := downloadWorkbooks_cases d folder target
  have hnever : ¬ ∃ detail, ((downloadWorkbooks folder target).exec d).1 = .error (.http 400 detail) := by
    rintro ⟨detail, h⟩
    rcases hcases with ⟨-, hok⟩ | ⟨-, cause, herror⟩
    · cases hok.symm.trans h
    · cases herror.symm.trans h
  constructor
  · intro h hnone
    exact hnever (h.1.2 hnone)
  · intro hsome
    refine ⟨iff_of_false hnever hsome, fun f hf _ => ?_⟩
    rcases hcases with ⟨-, hok⟩ | ⟨-, cause, herror⟩
    · cases hok.symm.trans hf
    · exact ⟨_, Except.error.inj (hf.symm.trans herror)⟩

/-- **What the caller learns of a download.** Either service tells it as it should exactly if nothing
    fails; and then the download answers. Otherwise the caller gets a fault of the report itself, which is
    the same for every cause. The fetching of the objects of a folder answers exactly if those of the first
    page can be fetched, which are all it asks for, and otherwise has the status 500 in any case. So it has
    the right status exactly if there is an object; where there is none, not even the cause is told. -/
theorem storage_failures_iff (d : Deployment) (key path folder target : String) :
    (∀ p : Provider, (p.TellsDownload d key path ↔ ∃ c, d.Delivers key path c) ∧
      ((¬ ∃ c, d.Delivers key path c) → ((p.download key path).exec d).1 = .error downloadFault)) ∧
    (let start := Text.trimLeading (· = '/') folder
    let fetched := ((Bucket.downloadWorkbooks folder target).exec d).1
    (Bucket.TellsFetching d folder target ↔ d.store.keysUnder start ≠ []) ∧
      (d.FetchesAll start target → fetched = .ok ((d.firstKeys start).map (savedAt target))) ∧
      (¬ d.FetchesAll start target → ∃ cause : Fault,
        fetched = .error (.http 500 (.str ("Problem in fetching previous data: " ++ cause.text)))) ∧
      (d.outages.unreachable .list start = false → d.outages.hits .list start = false →
        d.store.keysUnder start = [] →
          fetched = .error (.http 500 (.str "Problem in fetching previous data: ")))) := by
  refine ⟨fun p => ⟨p.tellsDownload_iff d key path, fun h => ?_⟩, ?_⟩
  · obtain ⟨disk, hfails⟩ := p.exec_download_of_not (not_exists.1 h)
    rw [hfails]
  · intro start fetched
    have hcases := Bucket.downloadWorkbooks_cases d folder target
    refine ⟨Bucket.tellsFetching_iff d folder target, fun h => ?_, fun h => ?_,
      fun hconnect hlist hnone => ?_⟩
    · rcases hcases with ⟨-, hok⟩ | ⟨hnot, -⟩
      · exact hok
      · exact absurd h hnot
    · rcases hcases with ⟨hall, -⟩ | ⟨-, herror⟩
      · exact absurd hall h
      · exact herror
    · have hfetch := Bucket.exec_fetchAll_of_reach target hconnect hlist
      rw [if_pos hnone] at hfetch
      have hfails := Bucket.exec_downloadWorkbooks_error hfetch
      exact congrArg Prod.fst hfails

/-- Where there are no objects at all, neither failure is told as it should be. -/
theorem storage_failures_iff_empty :
    (∀ p : Provider, ¬ p.TellsDownload {} "k" "out/f" ∧
      ((p.download "k" "out/f").exec {}).1 = .error downloadFault) ∧
    ¬ Bucket.TellsFetching {} "p/" "out" ∧
    ((Bucket.downloadWorkbooks "p/" "out").exec {}).1 =
      .error (.http 500 (.str "Problem in fetching previous data: ")) := by
  obtain ⟨hdownload, hstatus, -, -, hnone⟩ := storage_failures_iff {} "k" "out/f" "p/" "out"
  have hmissing : ¬ ∃ c, Deployment.Delivers {} "k" "out/f" c := by
    rintro ⟨c, h⟩
    obtain ⟨disk, -, hsaves⟩ := h.saves
    cases hsaves.object
  refine ⟨fun p => ⟨fun h => hmissing ((hdownload p).1.1 h), (hdownload p).2 hmissing⟩,
    fun h => hstatus.1 h rfl, hnone rfl rfl rfl⟩

end ReportMigration
