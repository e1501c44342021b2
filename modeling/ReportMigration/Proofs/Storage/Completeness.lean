import ReportMigration.Proofs.Storage.Download
import ReportMigration.Storage.Provider
/-!
What the download of a folder leaves in the files that it reports.

Objects whose keys end in the same name are saved in the same file, and the file is emptied before an
object is asked for. So an object that cannot be fetched also costs what was saved under its name.

* `lastNamed? keys name`: the last of the keys that end in a name;
* `Deployment.leaves d key`: what is left in the file once the object was asked for;
* `turns_save` for one key, and `turns_saveAll` by induction for all: each file holds what the last key
  of its name left there;
* `downloadFolder_complete_iff`: when the files that are reported are complete.
-/
namespace ReportMigration

open Op

/-! ## Names -/

theorem Path.baseName_join {path name : String} (hpath : path ≠ "") (hname : '/' ∉ name.toList) :
    Path.baseName (Path.join path name) = name := by
  obtain ⟨cs, hjoin, -⟩ := Path.toList_join hpath hname
  have hall : ∀ c ∈ name.toList.reverse, decide (c ≠ '/') = true := by
    intro c hc
    have hmem := List.mem_reverse.1 hc
    exact decide_eq_true fun h => hname (h ▸ hmem)
  rw [Path.baseName, Path.baseNameList, hjoin, List.reverse_append, List.reverse_cons,
    List.append_assoc, List.takeWhile_append_of_pos hall]
  simp

/-- The last of the keys that end in a name. -/
def lastNamed? (keys : List String) (name : String) : Option String :=
  (keys.filter fun key => Path.baseName key = name).getLast?

theorem lastNamed?_cons (key : String) (keys : List String) (name : String) :
    lastNamed? (key :: keys) name =
      (lastNamed? keys name).or (if Path.baseName key = name then some key else none) := by
  unfold lastNamed?
  by_cases h : Path.baseName key = name
  · rw [List.filter_cons_of_pos (by simpa using h), List.getLast?_cons, if_pos h]
    cases (keys.filter fun key => Path.baseName key = name).getLast? <;> rfl
  · rw [List.filter_cons_of_neg (by simpa using h), if_neg h, Option.or_none]

theorem mem_of_lastNamed? {keys : List String} {key name : String} (h : lastNamed? keys name = some key) :
    key ∈ keys ∧ Path.baseName key = name := by
  simpa using List.mem_of_getLast? h

theorem exists_lastNamed? {keys : List String} {key : String} (h : key ∈ keys) :
    ∃ last, lastNamed? keys (Path.baseName key) = some last := by
  refine Option.isSome_iff_exists.1 (Option.isSome_iff_ne_none.2 fun hnone => ?_)
  exact List.ne_nil_of_mem (List.mem_filter.2 ⟨h, by simp⟩) (List.getLast?_eq_none_iff.1 hnone)

/-! ## One object -/

/-- What is left in the file once the object was asked for: its content, or nothing if it cannot be
    fetched, or the part of it that arrived. -/
def Deployment.leaves (d : Deployment) (key : String) : Option Content :=
  if d.outages.hits .download key then some (.text "")
  else (d.outages.part key).or (d.store.get? key)

theorem Deployment.leaves_of_not_withholds {d : Deployment} {key : String}
    (h : d.outages.withholds key = false) : d.leaves key = d.store.get? key := by
  obtain ⟨hdown, hpart⟩ := Outages.withholds_eq_false h
  rw [leaves, hdown, if_neg Bool.false_ne_true, hpart, Option.none_or]

section
variable {d : Deployment} {key target : String} {c : Content} {ps : List String}
  {look : String → Option Node}

/-- A file that can be opened is emptied, and filled with what arrives of the object. -/
theorem exists_turns_save {path name : String} (he : d.disk.Entry path ps name look)
    (hfile : ∀ fs, look name ≠ some (.folder fs)) (hc : d.store.get? key = some c) :
    ∃ disk c', ((Bucket.saveObject key path).exec d).2 = { d with disk := disk } ∧
      d.leaves key = some c' ∧
      d.disk.Turns ps (Function.update look name (some (.file c'))) disk := by
  by_cases hdown : d.outages.hits .download key = true
  · obtain ⟨disk, hwrite, hturns⟩ := he.write hfile (.text "")
    have hopen : (Op.onDisk (·.write path (.text ""))).exec d = (.ok (), { d with disk := disk }) :=
      exec_onDisk_ok hwrite
    have hreach : (Op.reach .download key).exec { d with disk := disk } =
        (.error (d.outages.fault .download key), { d with disk := disk }) :=
      (exec_reach _ _ _ _).trans (if_pos hdown)
    refine ⟨disk, .text "", ?_, if_pos hdown, hturns⟩
    rw [Bucket.saveObject, Op.save, exec_bind_ok hopen, Bucket.fetch,
      exec_bind_error (exec_bind_error hreach)]
  · have hfetch : ∀ disk, (Bucket.fetch key).exec { d with disk := disk } =
        (.ok c, { d with disk := disk }) := fun disk =>
      Provider.exec_fetch (d := { d with disk := disk }) (Bool.eq_false_iff.2 hdown) hc
    have hleaves : d.leaves key = (d.outages.part key).or (some c) := by
      rw [Deployment.leaves, if_neg hdown, hc]
    cases hpart : d.outages.part key with
    | none =>
      obtain ⟨disk, hsave, hturns⟩ := exec_save he hfile hpart hfetch
      exact ⟨disk, c, by rw [Bucket.saveObject, hsave], by rw [hleaves, hpart, Option.none_or], hturns⟩
    | some part =>
      obtain ⟨disk, hleft, hturns⟩ := exec_save_part he hfile hpart hfetch
      exact ⟨disk, part, by rw [Bucket.saveObject, hleft], by rw [hleaves, hpart]; rfl, hturns⟩

/-- Nothing happens to a file that cannot be opened. -/
theorem exec_save_of_not_opens {path : String} (h : d.disk.opens path = false) :
    ((Bucket.saveObject key path).exec d).2 = d := by
  cases hwrite : d.disk.write path (.text "") with
  | ok disk =>
    rw [Disk.opens, hwrite] at h
    cases h
  | error e =>
    have hopen : (Op.onDisk (·.write path (.text ""))).exec d = (.error e, d) := by
      rw [exec_onDisk, hwrite]
    rw [Bucket.saveObject, Op.save, exec_bind_error hopen]

/-- **One object**: the file of its name, unless that is a folder, holds what the object leaves, and no
    other changes. -/
theorem turns_save (hps : d.disk.locate target = .ok ps) (hlook : d.disk.Folder ps look)
    (hc : d.store.get? key = some c) :
    ∃ disk look', ((Bucket.saveObject key (savedAt target key)).exec d).2 =
        { d with disk := disk } ∧
      d.disk.Turns ps look' disk ∧
      ∀ name, Path.IsName name → (∀ fs, look name ≠ some (.folder fs)) →
        look' name = if Path.baseName key = name then (d.leaves key).map .file else look name := by
  obtain ⟨es, hroot, hes⟩ := id hlook
  obtain rfl : (fun k => Node.child? k es) = look := funext hes
  have hopens_iff := Disk.opens_join_iff (slash_notMem_baseName key) hps hroot
  cases hopens : d.disk.opens (savedAt target key) with
  | true =>
    obtain ⟨hname, hfile⟩ := hopens_iff.1 hopens
    have he := Disk.entry_join hname hps hroot
    rw [he.get?] at hfile
    obtain ⟨disk, c', hsave, hleaves, hturns⟩ := exists_turns_save he hfile hc
    refine ⟨disk, _, hsave, hturns, fun name _ _ => ?_⟩
    rw [Function.update_apply, hleaves]
    simp only [eq_comm, Option.map_some]
  | false =>
    refine ⟨d.disk, _, exec_save_of_not_opens hopens, .refl hlook, fun name hname hfile => ?_⟩
    -- a name that is one, and not that of a folder, could be opened
    rw [if_neg]
    rintro rfl
    have he := Disk.entry_join hname hps hroot
    have hopens' := hopens_iff.2 ⟨hname, fun fs => by rw [he.get?]; exact hfile fs⟩
    rw [savedAt, hopens'] at hopens
    cases hopens

/-! ## All objects -/

theorem snd_exec_saveAll_cons (save : String → String → Op Unit) (keys : List String) :
    ((saveAll target save (key :: keys)).exec d).2 =
      ((saveAll target save keys).exec ((save key (savedAt target key)).exec d).2).2 := by
  have hfirst := exec_succeeds (save key (savedAt target key)) d
  rw [saveAll_cons, exec_bind_ok hfirst, exec_bind]
  rcases (saveAll target save keys).exec ((save key (savedAt target key)).exec d).2 with
    ⟨e | rest, d'⟩ <;> rfl

/-- **All objects**: each file holds what the last key of its name left there. -/
theorem turns_saveAll : ∀ (keys : List String) {d : Deployment} {look : String → Option Node},
    d.disk.locate target = .ok ps → d.disk.Folder ps look →
      (∀ k ∈ keys, ∃ c, d.store.get? k = some c) →
      ∃ disk look', ((saveAll target Bucket.saveObject keys).exec d).2 = { d with disk := disk } ∧
        d.disk.Turns ps look' disk ∧
        ∀ name, Path.IsName name → (∀ fs, look name ≠ some (.folder fs)) →
          look' name = (lastNamed? keys name).elim (look name) fun key => (d.leaves key).map .file
  | [], d, look, _, hlook, _ => ⟨d.disk, look, rfl, .refl hlook, fun _ _ _ => rfl⟩
  | key :: keys, d, look, hps, hlook, hkeys => by
    obtain ⟨c, hc⟩ := hkeys key List.mem_cons_self
    obtain ⟨disk₁, look₁, hsave, hturns₁, hlook₁⟩ := turns_save hps hlook hc
    obtain ⟨es, hroot, -⟩ := id hturns₁.folder
    obtain ⟨disk, look', hrest, hturns, hlook'⟩ := turns_saveAll keys (d := { d with disk := disk₁ })
      (Disk.locate_of_folder hturns₁.here hturns₁.keeps hroot hps) hturns₁.folder
      fun k hk => hkeys k (List.mem_cons_of_mem _ hk)
    refine ⟨disk, look', ?_, hturns₁.trans hturns, fun name hname hfile => ?_⟩
    · rw [snd_exec_saveAll_cons, hsave]
      exact hrest
    · have hfile₁ : ∀ fs, look₁ name ≠ some (.folder fs) := by
        intro fs
        rw [hlook₁ name hname hfile]
        split
        · simp
        · exact hfile fs
      rw [hlook' name hname hfile₁, hlook₁ name hname hfile, lastNamed?_cons]
      cases lastNamed? keys name with
      | some last => rfl
      | none => by_cases h : Path.baseName key = name <;> simp [h]

end

/-! ## The files that are reported -/

/-- Downloads all objects under a folder, from either service. -/
def Provider.downloadFolder (p : Provider) (folder target : String) : Op (List String) :=
  match p with
  | .aws => Bucket.downloadFolder folder target
  | .azure => Container.downloadFolder folder target

/-- The keys under a beginning whose objects are asked for: with containers not those for which the
    service cannot be reached again. -/
def Provider.asked (p : Provider) (d : Deployment) (start : String) : List String :=
  match p with
  | .aws => d.store.keysUnder start
  | .azure => (d.store.keysUnder start).filter fun k => !d.outages.unreachable .download k

theorem Provider.asked_sublist (p : Provider) (d : Deployment) (start : String) :
    (p.asked d start).Sublist (d.store.keysUnder start) := by
  cases p with
  | aws => exact .refl _
  | azure => exact List.filter_sublist

section
variable {p : Provider} {d d' : Deployment} {folder target path : String} {paths : List String}

theorem Provider.exists_get?_of_mem_asked (p : Provider) (d : Deployment) (start : String) {key : String}
    (h : key ∈ p.asked d start) :
    ∃ c, d.store.get? key = some c :=
  (ObjectStore.mem_keysUnder.1 ((p.asked_sublist d start).mem h)).1

/-- A download that answers made the folder and saved the objects that it asked for. -/
theorem exec_saveAll_of_downloadFolder
    (h : (p.downloadFolder folder target).exec d = (.ok paths, d')) :
    ∃ disk, d.disk.makeFolders target = .ok disk ∧
      (saveAll target Bucket.saveObject (p.asked d (folderStart folder))).exec
        { d with disk := disk } = (.ok paths, d') := by
  cases p with
  | aws =>
    obtain ⟨hleft, hok, herror⟩ := Bucket.exec_downloadFolder d folder target
    rw [show (Bucket.downloadFolder folder target).exec d = (.ok paths, d') from h] at hleft hok herror
    by_cases hlists : d.Lists Bucket.pageSize (folderStart folder) target
    · obtain ⟨disk, hdisk, hpaths⟩ := hok hlists
      obtain ⟨disk', hsave⟩ := exec_saveAll target _ (d := { d with disk := disk }) fun key hkey =>
        Provider.exists_get?_of_mem_asked .aws d (folderStart folder) hkey
      refine ⟨disk, hdisk, hsave.trans ?_⟩
      rw [hlists.seenBy_eq (by decide), Deployment.withFolder, hdisk] at hleft
      exact Prod.ext hpaths.symm ((congrArg Prod.snd hsave).symm.trans hleft.symm)
    · obtain ⟨detail, hfails⟩ := herror hlists
      cases hfails
  | azure =>
    obtain ⟨herror, hok⟩ := Container.exec_downloadFolder d folder target
    rw [show (Container.downloadFolder folder target).exec d = (.ok paths, d') from h] at herror hok
    by_cases hlists : d.Lists Container.pageSize (folderStart folder) target
    · obtain ⟨disk, hdisk⟩ := hlists.made
      have hexec := hok hlists
      rw [Deployment.withFolder, hdisk] at hexec
      exact ⟨disk, hdisk, hexec.symm⟩
    · obtain ⟨⟨detail, hfails⟩, -⟩ := herror hlists
      cases hfails

/-- It reports those that arrived. -/
theorem saveAll_of_downloadFolder (h : (p.downloadFolder folder target).exec d = (.ok paths, d')) :
    ∃ disk, d.disk.makeFolders target = .ok disk ∧
      paths = ((p.asked d (folderStart folder)).filter
        (d.outages.arrives disk target)).map (savedAt target) ∧
      (saveAll target Bucket.saveObject (p.asked d (folderStart folder))).exec
        { d with disk := disk } = (.ok paths, d') := by
  obtain ⟨disk, hdisk, hexec⟩ := exec_saveAll_of_downloadFolder h
  obtain ⟨disk', hsave⟩ := exec_saveAll target _ (d := { d with disk := disk }) fun key hkey =>
    p.exists_get?_of_mem_asked d (folderStart folder) hkey
  exact ⟨disk, hdisk, Except.ok.inj (congrArg Prod.fst (hexec.symm.trans hsave)), hexec⟩

/-- A file that is reported holds what the last key of its name left there. -/
theorem exists_lastNamed?_of_mem (h : (p.downloadFolder folder target).exec d = (.ok paths, d'))
    (hpath : path ∈ paths) :
    ∃ last c, lastNamed? (p.asked d (folderStart folder)) (Path.baseName path) = some last ∧
      d.leaves last = some c ∧ d'.disk.read path = .ok c := by
  obtain ⟨disk, hdisk, rfl, hsave⟩ := saveAll_of_downloadFolder h
  obtain ⟨htarget, -, -, hleads⟩ := Disk.leads_of_makeFolders hdisk
  have hkeys : ∀ key ∈ p.asked d (folderStart folder), ∃ c, d.store.get? key = some c :=
    fun key hkey => Provider.exists_get?_of_mem_asked _ _ _ hkey
  obtain ⟨es, ps, hps, hroot⟩ := Disk.isFolder_iff.1 (hleads.isFolder htarget)
  -- the path is that of a key, at which a file can be opened
  obtain ⟨key, hkey, rfl⟩ := List.mem_map.1 hpath
  obtain ⟨hmem, harrives⟩ := List.mem_filter.1 hkey
  have hopens : disk.opens (savedAt target key) = true := (Bool.and_eq_true_iff.1 harrives).1
  obtain ⟨hname, hfile⟩ := (Disk.opens_join_iff (slash_notMem_baseName key) hps hroot).1 hopens
  have he := Disk.entry_join hname hps hroot
  rw [he.get?] at hfile
  -- so it holds what the last key left
  obtain ⟨disk', look', hd', hturns, hlook'⟩ := turns_saveAll (p.asked d (folderStart folder))
    (d := { d with disk := disk }) hps he.folder hkeys
  obtain ⟨last, hlast⟩ := exists_lastNamed? hmem
  have hlook := hlook' _ hname hfile
  rw [hlast] at hlook
  rw [hsave] at hd'
  obtain rfl : d' = { d with disk := disk' } := hd'
  obtain ⟨c, hc⟩ : ∃ c, d.leaves last = some c := by
    obtain ⟨c, hc⟩ := hkeys last (mem_of_lastNamed? hlast).1
    unfold Deployment.leaves
    rw [hc]
    cases d.outages.hits .download last <;> cases d.outages.part last <;> exact ⟨_, rfl⟩
  refine ⟨last, c, ?_, hc, (he.turns hturns).read (hlook.trans ?_)⟩
  · rw [savedAt, Path.baseName_join htarget (slash_notMem_baseName key)]
    exact hlast
  · exact congrArg (Option.map Node.file) hc

/-- The file at a path holds the whole content of an object under the folder of its name. -/
def Deployment.Complete (d : Deployment) (folder : String) (disk : Disk) (path : String) : Prop :=
  ∃ key ∈ d.store.keysUnder (folderStart folder), Path.baseName key = Path.baseName path ∧
    ∃ c, d.store.get? key = some c ∧ disk.read path = .ok c

end

/-- **When the files of a download are complete.** The objects that arrive are reported. Each file that is
    reported holds what is left of the last object of its name that was asked for: its content, or nothing
    if it could not be fetched, or the part of it that came. So the files are complete exactly if each
    name's last object arrives, unless what is left of it is all of some object of the name. -/
theorem downloadFolder_complete_iff (p : Provider) (d d' : Deployment) (folder target : String)
    (paths : List String) (h : (p.downloadFolder folder target).exec d = (.ok paths, d')) :
    (∃ disk, d.disk.makeFolders target = .ok disk ∧
      paths = ((p.asked d (folderStart folder)).filter
        (d.outages.arrives disk target)).map (savedAt target)) ∧
    (∀ path ∈ paths, ∃ last c,
      lastNamed? (p.asked d (folderStart folder)) (Path.baseName path) = some last ∧
        d.leaves last = some c ∧ d'.disk.read path = .ok c) ∧
    ((∀ path ∈ paths, d.Complete folder d'.disk path) ↔
      ∀ path ∈ paths, ∀ last,
        lastNamed? (p.asked d (folderStart folder)) (Path.baseName path) = some last →
          d.outages.withholds last = true →
            ∃ key ∈ d.store.keysUnder (folderStart folder),
              Path.baseName key = Path.baseName path ∧ d.store.get? key = d.leaves last) := by
  obtain ⟨disk, hdisk, hpaths, -⟩ := saveAll_of_downloadFolder h
  refine ⟨⟨disk, hdisk, hpaths⟩, fun path hpath => exists_lastNamed?_of_mem h hpath,
    forall₂_congr fun path hpath => ?_⟩
  obtain ⟨last, c, hlast, hleaves, hread⟩ := exists_lastNamed?_of_mem h hpath
  constructor
  · rintro ⟨key, hkey, hname, c', hc', hread'⟩ last' hlast' -
    -- the file holds what is left of the last object, and the content of an object
    obtain rfl : last = last' := Option.some.inj (hlast.symm.trans hlast')
    obtain rfl : c = c' := Except.ok.inj (hread.symm.trans hread')
    exact ⟨key, hkey, hname, hc'.trans hleaves.symm⟩
  · intro hwhole
    cases hdown : d.outages.withholds last with
    | true =>
      obtain ⟨key, hkey, hname, hc⟩ := hwhole last hlast hdown
      exact ⟨key, hkey, hname, c, hc.trans hleaves, hread⟩
    | false =>
      obtain ⟨hkey, hname⟩ := mem_of_lastNamed? hlast
      refine ⟨last, (p.asked_sublist d _).mem hkey, hname, c, ?_, hread⟩
      exact (Deployment.leaves_of_not_withholds hdown).symm.trans hleaves

/-- Two objects of one name, of which the second cannot be fetched. -/
def clashDeployment : Deployment where
  store := (ObjectStore.empty.put "p/a/x" (.text "one")).put "p/b/x" (.text "two")
  outages := { keys := [(.download, ["p/b/x"])] }

theorem downloadFolder_complete_iff_clash :
    ∃ d', (Provider.downloadFolder .aws "p" "out").exec clashDeployment = (.ok ["out/x"], d') ∧
      d'.disk.read "out/x" = .ok (.text "") ∧ ¬ clashDeployment.Complete "p" d'.disk "out/x" := by
  have hanswer : ((Provider.downloadFolder .aws "p" "out").exec clashDeployment).1.toOption =
      some ["out/x"] := by decide +kernel
  rcases h : (Provider.downloadFolder .aws "p" "out").exec clashDeployment with ⟨e | paths, d'⟩
  · rw [h] at hanswer
    cases hanswer
  rw [h] at hanswer
  obtain rfl : paths = ["out/x"] := Option.some.inj hanswer
  obtain ⟨-, hheld, hiff⟩ := downloadFolder_complete_iff .aws clashDeployment d' "p" "out" ["out/x"] h
  have hlast : lastNamed? (Provider.asked .aws clashDeployment (folderStart "p")) (Path.baseName "out/x") =
      some "p/b/x" := by decide +kernel
  have hdown : clashDeployment.outages.withholds "p/b/x" = true := by decide +kernel
  have hleft : clashDeployment.leaves "p/b/x" = some (.text "") := by decide +kernel
  refine ⟨d', rfl, ?_, fun hcomplete => ?_⟩
  · obtain ⟨last, c, hlast', hleaves, hread⟩ := hheld "out/x" (List.mem_singleton_self _)
    obtain rfl : last = "p/b/x" := Option.some.inj (hlast'.symm.trans hlast)
    rw [hread, Option.some.inj (hleaves.symm.trans hleft)]
  · -- neither of the objects is empty
    have hall : ∀ key ∈ clashDeployment.store.keysUnder (folderStart "p"),
        clashDeployment.store.get? key ≠ some (.text "") := by decide +kernel
    obtain ⟨key, hkey, -, hempty⟩ := hiff.1 (by simpa using hcomplete) "out/x"
      (List.mem_singleton_self _) "p/b/x" hlast hdown
    exact hall key hkey (hempty.trans hleft)

end ReportMigration
