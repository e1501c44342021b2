import Mathlib.Data.List.Forall2
import ReportMigration.Proofs.Servers.Discovery
/-!
The list of summaries that object storage keeps for a server, over any number of discoveries.

* `SiteDiscovery.Holds o L`: an object holds the list `L`, or there is none and the list is empty;
* `SiteDiscovery.Works p o key`: no call that concerns the list is out of order;
* `SiteDiscovery.exec_append`: where storage works and the working folder is there, an item is added at
  the end;
* `Visit`: a run of a discovery with the services as they are then;
* `Visit.step`: one run adds the summary of the site if its projects can be counted, and nothing
  otherwise; `Visit.extends_runs`: so does a list of runs, in order; `Visit.runs_append` says what that
  means for the list, the other objects and the working copies.
-/
namespace ReportMigration

/-- The deployment but for the looks that find a copy unfinished. -/
def Deployment.settled (d : Deployment) : Deployment := { d with pendingCopies := 0 }

theorem Deployment.exists_of_settled {d d' : Deployment} (h : d'.settled = d.settled) :
    ∃ n, d' = { d with pendingCopies := n } :=
  ⟨d'.pendingCopies, congrArg (fun x : Deployment => { x with pendingCopies := d'.pendingCopies }) h⟩

namespace SiteDiscovery

variable {s : SiteDiscovery} {d : Deployment} {key path name : String} {ps : List String}
  {look : String → Option Node} {L : List Json}

/-! ## One item -/

/-- An object holds the written form of a list, or there is none and the list is empty. -/
def Holds (o : Option Content) (L : List Json) : Prop :=
  o = none ∧ L = [] ∨
    ∃ l : Json.Layout, l.Plain ∧ (Json.arr L).Proper ∧ o = some (.text (Json.write l 0 (.arr L)))

theorem Holds.proper {o : Option Content} (h : Holds o L) : ∀ x ∈ L, x.Proper := by
  rcases h with ⟨-, rfl⟩ | ⟨-, -, hL, -⟩
  · simp
  · cases hL with
    | arr hL => exact hL

theorem Holds.read {o : Option Content} (h : Holds o L) {t : String} (ht : o = some (.text t)) :
    Json.read t = .ok (.arr L) := by
  rcases h with ⟨rfl, -⟩ | ⟨l, hl, hL, rfl⟩
  · cases ht
  · cases ht
    exact Json.read_write hl hL 0

/-- The calls on an object are in order, where of the attempts to upload it one is enough. -/
structure Works (p : Provider) (o : Outages) (key : String) : Prop where
  looks : p.Looks o key
  connect : o.unreachable .download key = false
  download : o.withholds key = false
  upload : refusesEach o key = false

/-- The working copy of a list has its place: the folder is there, and there is no folder of the same
    name in it. -/
structure Place (d : Disk) (path : String) (ps : List String) (name : String)
    (look : String → Option Node) : Prop where
  entry : d.Entry path ps name look
  file : ∀ fs, look name ≠ some (.folder fs)
  made : d.makeFolders (Path.dirName path) = .ok d

/-- A list is read as it is, by way of the working copy. -/
theorem exec_stored (s : SiteDiscovery) (hworks : Works s.provider d.outages key)
    (hplace : Place d.disk path ps name look) (hL : Holds (d.store.get? key) L) :
    ∃ disk n o, (s.stored key path).exec d = (.ok L, { d with disk := disk, pendingCopies := n }) ∧
      d.disk.Turns ps (Function.update look name o) disk ∧ ∀ fs, o ≠ some (.folder fs) := by
  have hhas := s.provider.exec_has hworks.looks
  rcases hexec : (s.provider.has key).exec d with ⟨r, d₁⟩
  rw [hexec] at hhas
  dsimp only at hhas
  subst hhas
  obtain ⟨n, rfl⟩ := Deployment.exists_of_settled
    ((Provider.keeps_has (v := Deployment.settled) (fun _ _ => rfl) s.provider key).eq_of_exec hexec)
  unfold stored
  rw [Op.exec_bind_ok hexec]
  rcases hL with ⟨hnone, rfl⟩ | ⟨l, hl, hproper, hsome⟩
  · refine ⟨d.disk, n, look name, ?_, ?_, hplace.file⟩
    · rw [hnone]
      rfl
    · rw [Function.update_eq_self]
      exact .refl hplace.entry.folder
  · obtain ⟨disk, hdownload, hturns⟩ := s.provider.exec_download
      (d := { d with pendingCopies := n }) hworks.connect hworks.download hsome hplace.made
      hplace.entry hplace.file
    refine ⟨disk, n, _, ?_, hturns, by simp⟩
    have hread : disk.read path = .ok (.text (Json.write l 0 (.arr L))) :=
      (hplace.entry.turns hturns).read (Function.update_self ..)
    have hofDisk : (Op.ofDisk (·.read path)).exec { d with disk := disk, pendingCopies := n } =
        (.ok (.text (Json.write l 0 (.arr L))), { d with disk := disk, pendingCopies := n }) := by
      rw [Op.exec_ofDisk, hread]
    rw [hsome, Option.isSome_some, if_pos rfl, Op.exec_bind_ok hdownload, Op.exec_bind_ok hofDisk]
    show (Except.ok (listIn (Text.unifyLines (Json.write l 0 (.arr L)))), _) = _
    rw [listIn, Json.read_unifyLines_write hl hproper 0]

/-- Where storage works, an item is added at the end, and no working copy is left. -/
theorem exec_append (s : SiteDiscovery) (hworks : Works s.provider d.outages key)
    (hplace : Place d.disk path ps name look) (hL : Holds (d.store.get? key) L) {v : Value} {j : Json}
    (hj : v.written false = .ok j) :
    ∃ disk n sleeps, (s.append (.list [v]) key path).exec d =
        (.ok (), { d with
          disk := disk, pendingCopies := n, sleeps := sleeps,
          store := d.store.put key (.text (Json.pretty (.arr (L ++ [j])))) }) ∧
      d.disk.Turns ps (Function.update look name none) disk := by
  obtain ⟨disk₁, n, o, hstored, hturns₁, ho⟩ := s.exec_stored hworks hplace hL
  have he₁ := hplace.entry.turns hturns₁
  obtain ⟨disk₂, hopen, hturns₂⟩ := he₁.write (by simpa using ho) (.text "")
  have he₂ := he₁.turns hturns₂
  obtain ⟨disk₃, hwrite, hturns₃⟩ := he₂.write (by simp) (.text (Json.pretty (.arr (L ++ [j]))))
  have he₃ := he₂.turns hturns₃
  obtain ⟨disk₄, hremove, hturns₄⟩ := he₃.remove (Function.update_self ..)
  have hread : disk₃.read path = .ok (.text (Json.pretty (.arr (L ++ [j])))) :=
    he₃.read (Function.update_self ..)
  obtain ⟨sleeps, hup⟩ := s.exec_uploadAgain (d := { d with disk := disk₃, pendingCopies := n }) hread key
  rw [hworks.upload] at hup
  have hopen' : (Op.onDisk (·.write path (.text ""))).exec { d with disk := disk₁, pendingCopies := n } =
      (.ok (), { d with disk := disk₂, pendingCopies := n }) := Op.exec_onDisk_ok hopen
  have hitems : (Op.ofExcept (Value.writtenItems false [v])).exec
      { d with disk := disk₂, pendingCopies := n } =
      (.ok [j], { d with disk := disk₂, pendingCopies := n }) := by
    rw [Op.exec_ofExcept, Value.writtenItems, hj, Value.writtenItems]
    rfl
  have hwrite' : (Op.onDisk (·.write path (.text (Json.pretty (.arr (L ++ [j])))))).exec
      { d with disk := disk₂, pendingCopies := n } =
      (.ok (), { d with disk := disk₃, pendingCopies := n }) := Op.exec_onDisk_ok hwrite
  refine ⟨disk₄, n, sleeps, ?_, ?_⟩
  · unfold append
    rw [Op.exec_bind_ok hstored]
    dsimp only
    rw [Op.exec_bind_ok hopen', Op.exec_bind_ok hitems, Op.exec_bind_ok hwrite', Op.exec_bind_ok hup,
      exec_discard]
    dsimp only
    rw [he₃.has, Function.update_self, Option.isSome_some, if_pos rfl]
    exact Op.exec_onDisk_ok hremove
  · have hturns := ((hturns₁.trans hturns₂).trans hturns₃).trans hturns₄
    simpa only [Function.update_idem] using hturns

/-- A discovery of a site without fractions fails where its projects cannot be counted; otherwise the
    summary of the site is added at the end of the list. -/
theorem exec_complete_cases {fs : List (String × Value)} (s : SiteDiscovery)
    (hsite : scripted d.script "TableauClient.get_site_data" = some (.value (.map fs)))
    (hregular : Value.Regular true (.map fs)) (hcounts : Counts d.gauge)
    (hquiet : ∀ name ∈ helpers, Quiet d.script name)
    (hstatus : Quiet d.script "SiteDiscoveryManager.update")
    (hworks : Works s.provider d.outages s.cloudPath)
    (hplace : Place d.disk s.localPath ps name look) (hL : Holds (d.store.get? s.cloudPath) L) :
    (counted d.gauge fs = none ∧ ∃ e cs, s.complete.exec d = (.error e, { d with calls := cs })) ∨
      ∃ qs ns gs disk n sleeps cs, counted d.gauge fs = some (qs, ns) ∧
        IsSummary s.serverId.display fs gs (.int ns.sum) qs ∧ Value.Regular true (.map gs) ∧
        d.disk.Turns ps (Function.update look name none) disk ∧
        s.complete.exec d = (.ok (), { d with
          calls := cs, disk := disk, pendingCopies := n, sleeps := sleeps,
          store := d.store.put s.cloudPath
            (.text (Json.pretty (.arr (L ++ [(Value.map gs).toJson])))) }) := by
  unfold complete
  rw [Op.exec_bind_ok (exec_report hstatus s "Started")]
  have hfinds := s.finds_siteData { d with calls := s.statusCall "Started" :: d.calls }
  rcases hdata : s.siteData.exec { d with calls := s.statusCall "Started" :: d.calls } with ⟨r, d₁⟩
  obtain ⟨cs, rfl⟩ := Deployment.exists_of_uncalled (s.keeps_siteData.eq_of_exec hdata)
  rw [hdata] at hfinds
  obtain rfl : r = _ := hfinds.eq hsite hquiet
  rcases summarized_cases hcounts hregular s.serverId.display with
    ⟨qs, ns, gs, hcounted, hgs, hsummary⟩ | ⟨hcounted, e, he⟩
  · dsimp only at hdata
    rw [hgs] at hdata
    have hregular' : Value.Regular true (.map gs) := regular_summarized hcounts.gauges hregular hgs
    obtain ⟨disk, n, sleeps, happend, hturns⟩ := s.exec_append (d := { d with calls := cs }) hworks
      hplace hL (hregular'.written_eq false)
    refine .inr ⟨qs, ns, gs, disk, n, sleeps, s.statusCall "Completed" :: cs, hcounted, hsummary, hregular',
      hturns, ?_⟩
    rw [Op.exec_bind_ok hdata, Op.exec_bind_ok happend]
    exact exec_report (d := { d with
      calls := cs, disk := disk, pendingCopies := n, sleeps := sleeps,
      store := d.store.put s.cloudPath (.text (Json.pretty (.arr (L ++ [(Value.map gs).toJson])))) })
      hstatus s "Completed"
  · dsimp only at hdata
    rw [he] at hdata
    exact .inl ⟨hcounted, e, cs, Op.exec_bind_error hdata⟩

/-! ## One run -/

/-- A run of a discovery, with what the client reads of the site, what the services do and how the
    client works out the usage of a project. -/
structure Visit where
  service : SiteDiscovery
  site : List (String × Value)
  script : List (String × Outcome)
  gauge : Gauge

namespace Visit

variable {v : Visit}

/-- The deployment after the run. -/
def run (v : Visit) (d : Deployment) : Deployment :=
  (v.service.run.exec { d with script := v.script, gauge := v.gauge }).2

/-- The name of the working copy. -/
def fileName (v : Visit) : String := v.service.workName ++ ".json"

/-- The projects of the site with their usage, and its amount for each of them. -/
def counted (v : Visit) : Option (List Value × List Int) := SiteDiscovery.counted v.gauge v.site

/-- A run for the server of `s`, on a site without fractions, in which no service raises. -/
structure IsPlain (s : SiteDiscovery) (v : Visit) : Prop where
  server : v.service.serverId = s.serverId
  provider : v.service.provider = s.provider
  /-- Identifiers have no slashes. -/
  name : '/' ∉ v.service.workName.toList
  site : scripted v.script "TableauClient.get_site_data" = some (.value (.map v.site))
  regular : Value.Regular true (.map v.site)
  counts : Counts v.gauge
  quiet : ∀ name ∈ helpers, Quiet v.script name
  status : Quiet v.script "SiteDiscoveryManager.update"

theorem IsPlain.cloudPath (h : v.IsPlain s) : v.service.cloudPath = s.cloudPath := by
  unfold SiteDiscovery.cloudPath
  rw [h.server]

theorem IsPlain.isName (h : v.IsPlain s) : Path.IsName v.fileName := by
  unfold fileName
  exact Path.isName_json h.name

/-- The working folder is at `ps`, with the entries `look`. -/
structure Desk (d : Disk) (ps : List String) (look : String → Option Node) : Prop where
  locate : d.locate localFolder = .ok ps
  folder : d.Folder ps look

theorem Desk.turns {d d' : Disk} {look' : String → Option Node} (h : Desk d ps look)
    (ht : d.Turns ps look' d') : Desk d' ps look' := by
  obtain ⟨es, hes, -⟩ := ht.folder
  exact ⟨Disk.locate_of_folder ht.here ht.keeps hes h.locate, ht.folder⟩

theorem Desk.entry {d : Disk} (h : Desk d ps look) (hname : Path.IsName v.fileName) :
    d.Entry v.service.localPath ps v.fileName look := by
  obtain ⟨es, hes, hlook⟩ := h.folder
  obtain ⟨hparts, hisName, hlocate, -⟩ := Disk.entry_join hname h.locate hes
  exact ⟨hparts, hisName, hlocate, es, hes, hlook⟩

theorem Desk.place {d : Disk} (h : Desk d ps look) (hname : Path.IsName v.fileName)
    (hfile : ∀ fs, look v.fileName ≠ some (.folder fs)) :
    Place d v.service.localPath ps v.fileName look := by
  refine ⟨h.entry hname, hfile, Disk.makeFolders_dirName_join (by decide) hname.slash_notMem ?_⟩
  -- nothing but the working folder itself leads to it
  intro p hp
  have hancestors : Disk.ancestors localFolder = [localFolder] := by decide +kernel
  obtain rfl : p = localFolder := by simpa [hancestors] using hp
  obtain ⟨es, hes, -⟩ := h.folder
  exact Disk.isFolder_iff.2 ⟨es, ps, h.locate, hes⟩

/-- The summary of a run whose projects can be counted. -/
def Records (v : Visit) (j : Json) : Prop :=
  ∃ ps ns gs, v.counted = some (ps, ns) ∧
    IsSummary v.service.serverId.display v.site gs (.int ns.sum) ps ∧ j = .obj (Value.fieldsToJson gs)

/-- From `d` to `d'`, the list `L` at `key` goes on with the summaries of those of the runs `vs` whose
    projects can be counted, in order, and no other object changes. -/
def Extends (key : String) (vs : List Visit) (L : List Json) (d d' : Deployment) : Prop :=
  ∃ sites, List.Forall₂ Records (vs.filter (·.counted.isSome)) sites ∧
    Holds (d'.store.get? key) (L ++ sites) ∧ ∀ k, k ≠ key → d'.store.get? k = d.store.get? k

theorem extends_of_none {d' : Deployment} (hv : v.counted = none) (hL : Holds (d.store.get? key) L)
    (hstore : d'.store = d.store) : Extends key [v] L d d' := by
  refine ⟨[], ?_, ?_, fun _ _ => by rw [hstore]⟩
  · rw [List.filter_cons_of_neg (by simp [hv]), List.filter_nil]
    exact .nil
  · rwa [List.append_nil, hstore]

theorem extends_of_put {d' : Deployment} {j : Json} (hj : v.Records j)
    (hproper : (Json.arr (L ++ [j])).Proper)
    (hstore : d'.store = d.store.put key (.text (Json.pretty (.arr (L ++ [j]))))) :
    Extends key [v] L d d' := by
  refine ⟨[j], ?_, .inr ⟨_, Json.plain_prettyLayout, hproper, ?_⟩, fun k hk => ?_⟩
  · obtain ⟨qs, ns, gs, hcounted, -⟩ := id hj
    rw [List.filter_cons_of_pos (by simp [hcounted]), List.filter_nil]
    exact .cons hj .nil
  · rw [hstore, ObjectStore.get?_put, if_pos rfl]
    rfl
  · rw [hstore, ObjectStore.get?_put, if_neg hk]

/-- One run adds the summary of the site at the end of the list if its projects can be counted, and
    leaves the list alone otherwise; in either case the working copy is gone. -/
theorem step (hv : v.IsPlain s) (hworks : Works s.provider d.outages s.cloudPath)
    (hdesk : Desk d.disk ps look) (hfile : ∀ fs, look v.fileName ≠ some (.folder fs))
    (hL : Holds (d.store.get? s.cloudPath) L) :
    (v.run d).outages = d.outages ∧
      d.disk.Turns ps (Function.update look v.fileName none) (v.run d).disk ∧
      Extends s.cloudPath [v] L d (v.run d) := by
  have hplace := hdesk.place hv.isName hfile
  have hcloud := hv.cloudPath
  have hworks' : Works v.service.provider d.outages v.service.cloudPath := by
    rwa [hv.provider, hcloud]
  rcases exec_complete_cases (d := { d with script := v.script, gauge := v.gauge }) v.service hv.site
    hv.regular hv.counts hv.quiet hv.status hworks' hplace (by rw [hcloud]; exact hL) with
    ⟨hcounted, e, cs, hcomplete⟩ | ⟨qs, ns, gs, disk, n, sleeps, cs, hcounted, hsummary, hregular, hturns,
      hcomplete⟩
  · have hrun := exec_run_error hcomplete hv.status
    unfold run
    rw [hrun, exec_discard]
    dsimp only
    rw [hplace.entry.has]
    -- an older working copy is removed, if there is one
    rcases hlook : look v.fileName with _ | (c | fs)
    · refine ⟨rfl, ?_, extends_of_none hcounted hL rfl⟩
      rw [Function.update_eq_self_iff.2 hlook.symm]
      exact .refl hplace.entry.folder
    · obtain ⟨disk, hremove, hturns⟩ := hplace.entry.remove hlook
      rw [Option.isSome_some, if_pos rfl, Op.exec_onDisk_ok hremove]
      exact ⟨rfl, hturns, extends_of_none hcounted hL rfl⟩
    · exact absurd hlook (hfile fs)
  · have hrun := exec_run_ok hcomplete
    unfold run
    rw [hrun, exec_discard]
    dsimp only
    rw [(hplace.entry.turns hturns).has, Function.update_self, Option.isSome_none, if_neg Bool.false_ne_true,
      hcloud]
    have hproper := proper_append hL.proper (hregular.proper_written (hregular.written_eq false))
    exact ⟨rfl, hturns, extends_of_put ⟨qs, ns, gs, hcounted, hsummary, rfl⟩ hproper rfl⟩

/-! ## Any number of runs -/

/-- The deployment after the runs. -/
def runs (vs : List Visit) (d : Deployment) : Deployment := vs.foldl (fun d v => v.run d) d

theorem Extends.trans {vs ws : List Visit} {d₁ d₂ d₃ : Deployment}
    (h : Extends key vs L d₁ d₂)
    (h' : ∀ sites, Holds (d₂.store.get? key) (L ++ sites) → Extends key ws (L ++ sites) d₂ d₃) :
    Extends key (vs ++ ws) L d₁ d₃ := by
  obtain ⟨sites, hsites, hholds, hothers⟩ := h
  obtain ⟨sites', hsites', hholds', hothers'⟩ := h' sites hholds
  refine ⟨sites ++ sites', ?_, ?_, fun k hk => (hothers' k hk).trans (hothers k hk)⟩
  · rw [List.filter_append]
    exact List.rel_append hsites hsites'
  · rwa [← List.append_assoc]

/-- After the runs the list goes on with their summaries, and the working copies are gone. -/
theorem extends_runs (vs : List Visit) (hvs : ∀ v ∈ vs, v.IsPlain s)
    (hworks : Works s.provider d.outages s.cloudPath) (hdesk : Desk d.disk ps look)
    (hfile : ∀ v ∈ vs, ∀ fs, look v.fileName ≠ some (.folder fs))
    (hL : Holds (d.store.get? s.cloudPath) L) :
    Extends s.cloudPath vs L d (runs vs d) ∧
      Desk (runs vs d).disk ps fun k => if k ∈ vs.map fileName then none else look k := by
  induction vs generalizing d look L with
  | nil =>
    refine ⟨⟨[], .nil, by rwa [List.append_nil], fun _ _ => rfl⟩, ?_⟩
    show Desk d.disk ps _
    simpa using hdesk
  | cons v vs ih =>
    obtain ⟨houtages, hturns, hextends⟩ := step (hvs v List.mem_cons_self) hworks hdesk
      (hfile v List.mem_cons_self) hL
    have hfile' : ∀ w ∈ vs, ∀ fs, Function.update look v.fileName none w.fileName ≠ some (.folder fs) := by
      intro w hw fs
      by_cases hname : w.fileName = v.fileName
      · rw [hname, Function.update_self]
        exact nofun
      · rw [Function.update_of_ne hname]
        exact hfile w (List.mem_cons_of_mem _ hw) fs
    have hrest := fun L' => ih (d := v.run d) (L := L') (fun w hw => hvs w (List.mem_cons_of_mem _ hw))
      (houtages ▸ hworks) (hdesk.turns hturns) hfile'
    refine ⟨hextends.trans fun sites hsites => (hrest _ hsites).1, ?_⟩
    obtain ⟨sites, -, hsites, -⟩ := hextends
    have hlook : (fun k => if k ∈ (v :: vs).map fileName then none else look k) =
        fun k => if k ∈ vs.map fileName then none else Function.update look v.fileName none k := by
      funext k
      by_cases hk : k = v.fileName
      · simp [hk]
      · simp [hk]
    rw [hlook]
    exact (hrest _ hsites).2

/-- Any number of discoveries of a server append to its list and never rewrite it: the list goes on with
    the summaries of the sites, in order, leaving out those whose projects cannot be counted. No other
    object changes, and no working copy is left. -/
theorem runs_append (vs : List Visit) (hvs : ∀ v ∈ vs, v.IsPlain s)
    (hworks : Works s.provider d.outages s.cloudPath) (hdesk : Desk d.disk ps look)
    (hfile : ∀ v ∈ vs, ∀ fs, look v.fileName ≠ some (.folder fs))
    (hL : Holds (d.store.get? s.cloudPath) L) :
    ∃ sites, List.Forall₂ Records (vs.filter (·.counted.isSome)) sites ∧
      Holds ((runs vs d).store.get? s.cloudPath) (L ++ sites) ∧
      (∀ t, (runs vs d).store.get? s.cloudPath = some (.text t) →
        Json.read t = .ok (.arr (L ++ sites))) ∧
      (∀ key, key ≠ s.cloudPath → (runs vs d).store.get? key = d.store.get? key) ∧
      ∀ v ∈ vs, (runs vs d).disk.has v.service.localPath = false := by
  obtain ⟨⟨sites, hsites, hholds, hothers⟩, hdesk'⟩ := extends_runs vs hvs hworks hdesk hfile hL
  refine ⟨sites, hsites, hholds, fun t ht => hholds.read ht, hothers, fun v hv => ?_⟩
  have hmem : v.fileName ∈ vs.map fileName := List.mem_map_of_mem hv
  rw [(hdesk'.entry (hvs v hv).isName).has, if_pos hmem, Option.isSome_none]

/-- A run in which the client answers with the given site. -/
def sample (site : List (String × Value)) : Visit where
  service := sampleService
  site := site
  script := [("TableauClient.get_site_data", .value (.map site))]
  gauge := ({} : Deployment).gauge

/-- The list of the server has one item, and all services work. -/
def sampleDeployment : Deployment where
  store := ObjectStore.empty.put sampleService.cloudPath (.text (Json.spaced (.arr [.str "first"])))
  disk := { root := .folder [("work", .folder [("static", .folder [])])] }

theorem isPlain_sample {site : List (String × Value)} (h : Value.Regular true (.map site)) :
    (sample site).IsPlain sampleService where
  server := rfl
  provider := rfl
  name := by
    show '/' ∉ sampleService.workName.toList
    decide +kernel
  site := rfl
  regular := h
  counts _ := exists_gauge_default
  quiet name hname := by
    simp only [helpers, List.mem_cons, List.not_mem_nil, or_false] at hname
    rcases hname with rfl | rfl | rfl <;> rintro f ⟨⟩
  status := by rintro f ⟨⟩

theorem works_sample : Works .aws sampleDeployment.outages sampleService.cloudPath :=
  ⟨⟨rfl, rfl, fun _ => rfl⟩, rfl, rfl, rfl⟩

/-- Projects with views, a usage that the client gave and none, and a summary of them. -/
def north : List (String × Value) :=
  [("name", .text "north"), ("project_summary", .map [("total", .int 3)]),
    ("projects", .list [.map [("views", .int 4)], .map [("usage", .bool true)], .map []])]

/-- Projects that are null. -/
def south : List (String × Value) := [("name", .text "south"), ("projects", .null)]

theorem regular_north : Value.Regular true (.map north) := by
  refine .map (by decide) ?_
  simp only [north, List.forall_mem_cons, List.not_mem_nil, false_imp_iff, implies_true, and_true]
  refine ⟨.text _, .map (by decide) ?_, .list ?_⟩
  · simp [Value.Regular.int]
  · simp only [List.forall_mem_cons, List.not_mem_nil, false_imp_iff, implies_true, and_true]
    refine ⟨.map (by decide) ?_, .map (by decide) ?_, .map (by decide) ?_⟩
    · simp [Value.Regular.int]
    · simp [Value.Regular.bool]
    · simp

theorem regular_south : Value.Regular true (.map south) :=
  .map (by decide) (by simp [south, Value.Regular.null, Value.Regular.text])

/-- The same services before any discovery, with the given entries in the folder where they work. -/
def emptyDeployment (entries : List (String × Node)) : Deployment where
  disk := { root := .folder [("work", .folder entries)] }

/-- A run can leave the list as it was though no call of storage fails: where the projects are null and
    so cannot be counted, and, before there is a list, where an identifier has a slash, the working folder
    is missing, or there is a folder in the place of the working copy. -/
theorem runs_projects_null :
    ((sample south).IsPlain sampleService ∧
      Works .aws sampleDeployment.outages sampleService.cloudPath ∧
      (runs [sample south] sampleDeployment).store.get? sampleService.cloudPath =
        some (.text (Json.spaced (.arr [.str "first"])))) ∧
      (runs [{ sample north with service := { sampleService with serverTypeId := .str "a/b" } }]
        (emptyDeployment [("static", .folder [])])).store.get? sampleService.cloudPath = none ∧
      (runs [sample north] (emptyDeployment [])).store.get? sampleService.cloudPath = none ∧
      (runs [sample north] (emptyDeployment
        [("static", .folder [((sample north).fileName, .folder [])])])).store.get?
          sampleService.cloudPath = none ∧
      (runs [sample north] (emptyDeployment [("static", .folder [])])).store.get?
        sampleService.cloudPath ≠ none := by
  refine ⟨⟨isPlain_sample regular_south, works_sample, ?_⟩, ?_, ?_, ?_, ?_⟩ <;> decide +kernel

theorem counted_north : (sample north).counted.map (·.2) = some [4, 1, 0] := by decide +kernel

theorem counted_south : (sample south).counted = none := rfl

/-- Of three runs the second finds projects that are null; the list goes on with the other two. -/
theorem runs_append_three :
    ∃ j j' t, Records (sample north) j ∧ Records (sample north) j' ∧
      (runs [sample north, sample south, sample north] sampleDeployment).store.get?
        sampleService.cloudPath = some (.text t) ∧
      Json.read t = .ok (.arr [.str "first", j, j']) ∧
      (runs [sample north, sample south, sample north] sampleDeployment).disk.has
        sampleService.localPath = false := by
  have hvs : ∀ v ∈ [sample north, sample south, sample north], v.IsPlain sampleService := by
    simp only [List.forall_mem_cons, List.not_mem_nil, false_imp_iff, implies_true, and_true]
    exact ⟨isPlain_sample regular_north, isPlain_sample regular_south, isPlain_sample regular_north⟩
  have hdesk : Desk sampleDeployment.disk ["work", "static"] fun _ => none :=
    ⟨by decide +kernel, [], rfl, fun _ => rfl⟩
  have hholds : Holds (sampleDeployment.store.get? sampleService.cloudPath) [.str "first"] := by
    refine .inr ⟨_, Json.plain_spacedLayout, .arr (by simp [Json.Proper.str]), ?_⟩
    rw [sampleDeployment, ObjectStore.get?_put, if_pos rfl, Json.spaced]
  obtain ⟨sites, hsites, hholds', hread, -, hgone⟩ := runs_append (d := sampleDeployment) _ hvs works_sample
    hdesk (fun _ _ _ => nofun) hholds
  have hfilter : [sample north, sample south, sample north].filter (·.counted.isSome) =
      [sample north, sample north] := by
    have hnorth : (sample north).counted.isSome = true := by rw [← Option.isSome_map, counted_north]; rfl
    simp [hnorth, counted_south]
  rw [hfilter] at hsites
  obtain ⟨j, rest, hj, hrest, rfl⟩ := List.forall₂_cons_left_iff.1 hsites
  obtain ⟨j', rest', hj', hrest', rfl⟩ := List.forall₂_cons_left_iff.1 hrest
  obtain rfl := List.forall₂_nil_left_iff.1 hrest'
  rcases hholds' with ⟨-, ⟨⟩⟩ | ⟨l, -, -, hstored⟩
  exact ⟨j, j', _, hj, hj', hstored, hread _ hstored, hgone (sample north) List.mem_cons_self⟩

end Visit

end SiteDiscovery

end ReportMigration
