import ReportMigration.Proofs.Files.Opening
import ReportMigration.Proofs.Json.Reading
import ReportMigration.Proofs.Servers.SiteData
import ReportMigration.Proofs.Storage.Folder
/-!
Runs of a discovery: what is stored, and what is reported.

* `SiteDiscovery.append_cases`: an item is added to the list in object storage, or nothing but the files
  changes;
* `SiteDiscovery.complete_cases`: the discovery fails and leaves object storage alone, or it adds the
  summary of the site and reports that it is complete;
* `SiteDiscovery.run_last_status`: the status that a run reports last, and what is stored then.
-/
namespace ReportMigration

/-! ## The working copy -/

theorem Path.isName_json {s : String} (h : '/' ∉ s.toList) : Path.IsName (s ++ ".json") := by
  have hlong : ∀ t : String, t.length < 5 → s ++ ".json" ≠ t := by
    rintro t ht rfl
    have hlen : (s ++ ".json").length = s.length + 5 := String.length_append ..
    omega
  refine ⟨hlong _ (by decide), hlong _ (by decide), hlong _ (by decide), ?_⟩
  rw [String.toList_append, List.mem_append, not_or]
  exact ⟨h, by decide⟩

/-- A path that ends in this extension ends in a name. -/
theorem Path.exists_parts_json (t : String) :
    ∃ xs name, Path.parts (t ++ ".json") = xs ++ [name] ∧ Path.IsName name := by
  by_cases h : '/' ∈ t.toList
  · obtain ⟨bs, as, hrev, hbs⟩ := List.eq_append_cons_of_mem (List.mem_reverse.2 h)
    have ht : t.toList = as.reverse ++ '/' :: bs.reverse := by
      rw [← List.reverse_reverse t.toList, hrev]
      simp
    have hname : Path.IsName (String.ofList bs.reverse ++ ".json") :=
      isName_json (by rw [String.toList_ofList, List.mem_reverse]; exact hbs)
    have hlist : (t ++ ".json").toList =
        as.reverse ++ '/' :: (String.ofList bs.reverse ++ ".json").toList := by
      rw [String.toList_append, ht, String.toList_append, String.toList_ofList]
      simp
    exact ⟨_, _, parts_eq_append hname.slash_notMem hlist, hname⟩
  · have hname := isName_json h
    refine ⟨[], t ++ ".json", ?_, hname⟩
    rw [parts, List.splitOn_eq_singleton hname.slash_notMem, List.map_singleton, String.ofList_toList,
      List.nil_append]

/-- A file that was written can be removed, and then there is none. -/
theorem Disk.exists_remove_of_write {d d' : Disk} {path name : String} {xs : List String} {c : Content}
    (hparts : Path.parts path = xs ++ [name]) (hname : Path.IsName name)
    (h : d.write path c = .ok d') :
    d'.has path = true ∧ ∃ d'', d'.remove path = .ok d'' := by
  obtain ⟨ps, look, he, hfile⟩ := exists_entry_of_write hparts hname h
  obtain ⟨d₁, hwrite, hturns⟩ := he.write hfile c
  obtain rfl : d' = d₁ := Except.ok.inj (h.symm.trans hwrite)
  have he' := he.turns hturns
  have hlook : Function.update look name (some (Node.file c)) name = some (.file c) :=
    Function.update_self ..
  obtain ⟨d'', hremove, -⟩ := he'.remove hlook
  exact ⟨by rw [he'.has, hlook]; rfl, d'', hremove⟩

namespace SiteDiscovery

variable {s : SiteDiscovery} {d d' : Deployment} {key path : String} {c : Content}

theorem exists_parts_localPath (s : SiteDiscovery) :
    ∃ xs name, Path.parts s.localPath = xs ++ [name] ∧ Path.IsName name := by
  have hpath : ∃ t, s.localPath = t ++ ".json" := by
    unfold localPath Path.join
    split
    next => exact ⟨_, rfl⟩
    next => split <;> exact ⟨_, (String.append_assoc ..).symm⟩
  obtain ⟨t, ht⟩ := hpath
  rw [ht]
  exact Path.exists_parts_json t

theorem exec_discard (path : String) (d : Deployment) :
    (discard path).exec d =
      if d.disk.has path then (Op.onDisk (·.remove path)).exec d else (.ok (), d) := by
  rw [discard, Op.exec_bind_ok (Op.exec_get d)]
  split <;> rfl

theorem keeps_discard (path : String) : Op.Keeps Deployment.lasting (discard path) := by
  intro d
  rw [exec_discard]
  split
  · exact Op.Keeps.onDisk _ d
  · rfl

/-! ## Uploads -/

/-- Whether all attempts to store a file at a key are refused. -/
def refusesEach (o : Outages) (key : String) : Bool :=
  (List.range waits.length).all (o.refuses key ·)

/-- The attempts go on until one is not refused. -/
theorem exec_uploadAgain_from (s : SiteDiscovery) (key : String) :
    ∀ (ws : List Nat) (attempts : Nat) {d : Deployment}, d.disk.read path = .ok c →
      ∃ sleeps, (s.uploadAgain path key attempts ws).exec d =
        (.ok (!(List.range' attempts ws.length).all (d.outages.refuses key ·)),
          { d with
            store := if (List.range' attempts ws.length).all (d.outages.refuses key ·) then d.store
              else d.store.put key c
            sleeps := sleeps })
  | [], _, d, _ => ⟨d.sleeps, rfl⟩
  | w :: ws, attempts, d, hread => by
    have hup := s.provider.exec_upload key attempts hread
    rw [List.length_cons, List.range'_succ, List.all_cons]
    cases h : d.outages.refuses key attempts with
    | true =>
      rw [h, if_pos rfl] at hup
      obtain ⟨sleeps, hrest⟩ := exec_uploadAgain_from s key ws (attempts + 1)
        (d := { d with sleeps := w :: d.sleeps }) hread
      refine ⟨sleeps, ?_⟩
      rw [uploadAgain, Op.exec_bind_ok hup]
      exact hrest
    | false =>
      rw [h, if_neg Bool.false_ne_true] at hup
      refine ⟨d.sleeps, ?_⟩
      rw [uploadAgain, Op.exec_bind_ok hup]
      rfl

/-- A working copy is uploaded at some attempt, or each is refused. -/
theorem exec_uploadAgain (s : SiteDiscovery) (hread : d.disk.read path = .ok c) (key : String) :
    ∃ sleeps, (s.uploadAgain path key 0 waits).exec d = (.ok (!refusesEach d.outages key),
      { d with
        store := if refusesEach d.outages key then d.store else d.store.put key c
        sleeps := sleeps }) := by
  rw [refusesEach, List.range_eq_range']
  exact s.exec_uploadAgain_from key waits 0 hread

/-! ## The list in object storage -/

theorem proper_append {L : List Json} {j : Json} (hL : ∀ x ∈ L, x.Proper) (hj : j.Proper) :
    (Json.arr (L ++ [j])).Proper := by
  refine .arr fun x hx => ?_
  rcases List.mem_append.1 hx with hx | hx
  · exact hL x hx
  · exact List.mem_singleton.1 hx ▸ hj

theorem proper_listIn {t : String} : ∀ j ∈ listIn t, j.Proper := by
  intro j hj
  unfold listIn at hj
  split at hj
  next xs hxs =>
    cases Json.proper_of_read hxs with
    | arr h => exact h j hj
  next => cases hj

theorem keeps_stored (s : SiteDiscovery) (key path : String) :
    Op.Keeps Deployment.lasting (s.stored key path) := by
  refine (Provider.keeps_has (fun _ _ => rfl) _ _).bind fun b => .ite ?_ (.pure _)
  exact (Provider.keeps_download _ _ _).bind fun _ => .bind (.ofDisk _) fun _ =>
    .bind (.ofExcept _) fun _ => .pure _

theorem proper_of_stored {items : List Json} (h : (s.stored key path).exec d = (.ok items, d')) :
    ∀ j ∈ items, j.Proper := by
  obtain ⟨b, d₁, -, h⟩ := Op.exists_of_exec_bind h
  cases b with
  | false =>
    cases h
    simp
  | true =>
    obtain ⟨_, d₂, -, h⟩ := Op.exists_of_exec_bind h
    obtain ⟨c, d₃, -, h⟩ := Op.exists_of_exec_bind h
    obtain ⟨t, d₄, -, h⟩ := Op.exists_of_exec_bind h
    cases h
    exact proper_listIn

/-- An item is added, or everything but the files is as it was. In the first case the list with the item
    is in object storage, unless each upload is refused. -/
theorem append_cases {name : String} {xs : List String} {v : Value}
    (hparts : Path.parts path = xs ++ [name]) (hname : Path.IsName name) (hv : v.Regular false)
    (s : SiteDiscovery) (key : String) (d : Deployment) :
    (∃ e d', (s.append (.list [v]) key path).exec d = (.error e, d') ∧ d'.lasting = d.lasting) ∨
      ∃ d' items j, (s.append (.list [v]) key path).exec d = (.ok (), d') ∧ v.written false = .ok j ∧
        (Json.arr (items ++ [j])).Proper ∧ d'.script = d.script ∧ d'.calls = d.calls ∧
        d'.store = if refusesEach d.outages key then d.store
          else d.store.put key (.text (Json.pretty (.arr (items ++ [j])))) := by
  unfold append
  rcases hstored : (s.stored key path).exec d with ⟨e | items, d₁⟩
  · exact .inl ⟨e, d₁, Op.exec_bind_error hstored, (s.keeps_stored key path).eq_of_exec hstored⟩
  have hlast₁ : d₁.lasting = d.lasting := (s.keeps_stored key path).eq_of_exec hstored
  rw [Op.exec_bind_ok hstored]
  dsimp only
  rcases hopen : (Op.onDisk (·.write path (.text ""))).exec d₁ with ⟨e | _, d₂⟩
  · exact .inl ⟨e, d₂, Op.exec_bind_error hopen, ((Op.Keeps.onDisk _).eq_of_exec hopen).trans hlast₁⟩
  have hlast₂ : d₂.lasting = d.lasting := ((Op.Keeps.onDisk _).eq_of_exec hopen).trans hlast₁
  rw [Op.exec_bind_ok hopen, Op.exec_bind, Op.exec_ofExcept]
  cases hj : v.written false with
  | error e =>
    refine .inl ⟨e, d₂, ?_, hlast₂⟩
    rw [Value.writtenItems, hj]
    rfl
  | ok j =>
    have hitems : Value.writtenItems false [v] = .ok [j] := by
      rw [Value.writtenItems, hj, Value.writtenItems]
      rfl
    rw [hitems]
    dsimp only
    rcases hwritten : (Op.onDisk (·.write path (.text (Json.pretty (.arr (items ++ [j])))))).exec d₂
      with ⟨e | _, d₃⟩
    · exact .inl ⟨e, d₃, Op.exec_bind_error hwritten,
        ((Op.Keeps.onDisk _).eq_of_exec hwritten).trans hlast₂⟩
    have hlast₃ : d₃.lasting = d.lasting := ((Op.Keeps.onDisk _).eq_of_exec hwritten).trans hlast₂
    obtain ⟨disk, hwrite, hd₃⟩ := Op.eq_of_exec_onDisk hwritten
    obtain ⟨disk', n, hd⟩ := Deployment.exists_of_lasting hlast₃
    obtain rfl : disk' = disk := congrArg Deployment.disk (hd.symm.trans hd₃)
    rw [hd] at hwritten
    obtain ⟨sleeps, hup⟩ := s.exec_uploadAgain (d := { d with disk := disk', pendingCopies := n })
      (Disk.read_written hwrite) key
    obtain ⟨hhas, disk'', hremove⟩ := Disk.exists_remove_of_write hparts hname hwrite
    rw [Op.exec_bind_ok hwritten, Op.exec_bind_ok hup, exec_discard]
    dsimp only
    rw [if_pos hhas, Op.exec_onDisk]
    dsimp only
    rw [hremove]
    exact .inr ⟨_, items, j, rfl, rfl, proper_append (proper_of_stored hstored) (hv.proper_written hj), rfl,
      rfl, rfl⟩

/-! ## Statuses -/

/-- The call that records a status. -/
def statusCall (s : SiteDiscovery) (status : String) : Call :=
  ⟨"SiteDiscoveryManager.update", [], [("id", .ofJson s.discoveryId), ("status", .text status)]⟩

theorem exec_report (h : Quiet d.script "SiteDiscoveryManager.update") (s : SiteDiscovery)
    (status : String) :
    (s.report status).exec d = (.ok (), { d with calls := s.statusCall status :: d.calls }) := by
  rcases Op.exec_call_cases "SiteDiscoveryManager.update" []
    [("id", .ofJson s.discoveryId), ("status", .text status)] d with ⟨-, v, hcall⟩ | ⟨hraises, -⟩
  · rw [report, Op.exec_bind_ok hcall]
    rfl
  · exact absurd h hraises

/-- What is in object storage once an item was added to the list at `key`. -/
def Stores (d : Deployment) (key : String) (item : Json) (d' : Deployment) : Prop :=
  if refusesEach d.outages key then d'.store = d.store
  else ∃ items t, d'.store = d.store.put key (.text t) ∧ Json.read t = .ok (.arr (items ++ [item]))

/-- The discovery fails before anything is stored, or it ends with the report that it is complete and
    the summary is stored. -/
theorem complete_cases (s : SiteDiscovery) (d : Deployment)
    (hstatus : Quiet d.script "SiteDiscoveryManager.update")
    (hsite : ∀ fs, scripted d.script "TableauClient.get_site_data" = some (.value (.map fs)) →
      Value.Regular false (.map fs)) (hg : Gauges false d.gauge) :
    (∃ e d', s.complete.exec d = (.error e, d') ∧ d'.store = d.store ∧ d'.script = d.script) ∨
      ∃ d' fs gs j, s.complete.exec d = (.ok (), d') ∧
        d'.calls.head? = some (s.statusCall "Completed") ∧
        scripted d.script "TableauClient.get_site_data" = some (.value (.map fs)) ∧
        summarized d.gauge s.serverId.display fs = .ok gs ∧
        (Value.map gs).written false = .ok j ∧ Stores d s.cloudPath j d' := by
  unfold complete
  rw [Op.exec_bind_ok (exec_report hstatus s "Started")]
  have hfinds := s.finds_siteData { d with calls := s.statusCall "Started" :: d.calls }
  rcases hdata : s.siteData.exec { d with calls := s.statusCall "Started" :: d.calls } with ⟨e | v, d₁⟩
  all_goals obtain ⟨cs, rfl⟩ := Deployment.exists_of_uncalled (s.keeps_siteData.eq_of_exec hdata)
  · exact .inl ⟨e, _, Op.exec_bind_error hdata, rfl, rfl⟩
  rw [hdata] at hfinds
  obtain ⟨fs, gs, hfs, hgs, rfl⟩ := hfinds.exists_summarized
  rw [Op.exec_bind_ok hdata]
  obtain ⟨xs, name, hparts, hname⟩ := s.exists_parts_localPath
  have hregular : Value.Regular false (.map gs) := regular_summarized hg (hsite fs hfs) hgs
  rcases append_cases hparts hname hregular s s.cloudPath { d with calls := cs } with
    ⟨e, d₂, happend, hlast⟩ | ⟨d₂, items, j, happend, hj, hproper, hscript, -, hstore⟩
  · obtain ⟨disk, n, rfl⟩ := Deployment.exists_of_lasting hlast
    exact .inl ⟨e, _, Op.exec_bind_error happend, rfl, rfl⟩
  · have hquiet : Quiet d₂.script "SiteDiscoveryManager.update" := by
      rw [hscript]
      exact hstatus
    refine .inr ⟨_, fs, gs, j, (Op.exec_bind_ok happend).trans (exec_report hquiet s "Completed"), rfl,
      hfs, hgs, hj, ?_⟩
    unfold Stores
    split
    next hrefused => exact hstore.trans (if_pos hrefused)
    next haccepted =>
      exact ⟨items, _, hstore.trans (if_neg haccepted), Json.read_write Json.plain_prettyLayout hproper 0⟩

/-- The discovery with the report of how it went. -/
def reported (s : SiteDiscovery) : Op Unit := do
  match ← s.complete.attempt with
  | .ok () => return
  | .error _ => s.report "Failed"

theorem run_eq (s : SiteDiscovery) : s.run = (do
    let outcome ← Op.attempt s.reported
    discard s.localPath
    Op.ofExcept outcome) := rfl

/-- However the discovery has ended, the working copy is removed last. -/
theorem exec_run_of_reported {u : Unit} (h : s.reported.exec d = (.ok u, d')) :
    s.run.exec d = (discard s.localPath).exec d' := by
  have hattempt : (Op.attempt s.reported).exec d = (.ok (.ok u), d') := by
    rw [Op.exec_attempt, h]
  rw [run_eq, Op.exec_bind_ok hattempt, Op.exec_bind]
  rcases (discard s.localPath).exec d' with ⟨e | _, d''⟩ <;> rfl

theorem exec_run_ok (h : s.complete.exec d = (.ok (), d')) :
    s.run.exec d = (discard s.localPath).exec d' := by
  refine exec_run_of_reported (u := ()) ?_
  rw [reported, Op.exec_bind, Op.exec_attempt, h]
  rfl

theorem exec_run_error {e : Fault} (h : s.complete.exec d = (.error e, d'))
    (hstatus : Quiet d'.script "SiteDiscoveryManager.update") :
    s.run.exec d =
      (discard s.localPath).exec { d' with calls := s.statusCall "Failed" :: d'.calls } := by
  refine exec_run_of_reported (u := ()) ?_
  rw [reported, Op.exec_bind, Op.exec_attempt, h]
  exact exec_report hstatus s "Failed"

/-- **A discovery that is reported as failed has stored nothing, and one that is reported as complete
    has stored its summary, unless each upload was refused.** The last call of a service is the report of
    how it went; if the discovery is complete, the list at its place in object storage ends with the
    summary of what the client has read. That all uploads were refused is not reported. -/
theorem run_last_status (s : SiteDiscovery) (d : Deployment)
    (hstatus : Quiet d.script "SiteDiscoveryManager.update")
    (hsite : ∀ fs, scripted d.script "TableauClient.get_site_data" = some (.value (.map fs)) →
      Value.Regular false (.map fs)) (hg : Gauges false d.gauge) :
    let d' := (s.run.exec d).2
    d'.calls.head? = some (s.statusCall "Failed") ∧ d'.store = d.store ∨
      d'.calls.head? = some (s.statusCall "Completed") ∧
        if refusesEach d.outages s.cloudPath then d'.store = d.store
        else ∃ fs gs j items t,
          scripted d.script "TableauClient.get_site_data" = some (.value (.map fs)) ∧
          Summarizes d.gauge s.serverId.display fs gs ∧ (Value.map gs).written false = .ok j ∧
          d'.store.get? s.cloudPath = some (.text t) ∧ Json.read t = .ok (.arr (items ++ [j])) := by
  intro d'
  rcases s.complete_cases d hstatus hsite hg with
    ⟨e, d₁, hcomplete, hstore, hscript⟩ | ⟨d₁, fs, gs, j, hcomplete, hcalls, hfs, hgs, hj, hstores⟩
  · have hrun := exec_run_error hcomplete (by rw [hscript]; exact hstatus)
    have hlast : d'.lasting = { d₁ with calls := s.statusCall "Failed" :: d₁.calls }.lasting :=
      (keeps_discard _).eq_of_exec (hrun.symm.trans (Prod.mk.eta (p := s.run.exec d)).symm)
    obtain ⟨disk, n, hd'⟩ := Deployment.exists_of_lasting hlast
    rw [hd']
    exact .inl ⟨rfl, hstore⟩
  · have hrun := exec_run_ok hcomplete
    have hlast : d'.lasting = d₁.lasting :=
      (keeps_discard _).eq_of_exec (hrun.symm.trans (Prod.mk.eta (p := s.run.exec d)).symm)
    obtain ⟨disk, n, hd'⟩ := Deployment.exists_of_lasting hlast
    rw [hd']
    refine .inr ⟨hcalls, ?_⟩
    unfold Stores at hstores
    split
    next hrefused => rwa [if_pos hrefused] at hstores
    next haccepted =>
      rw [if_neg haccepted] at hstores
      obtain ⟨items, t, hstore, hread⟩ := hstores
      refine ⟨fs, gs, j, items, t, hfs, summarizes_of_summarized hgs, hj, ?_, hread⟩
      show d₁.store.get? s.cloudPath = _
      rw [hstore, ObjectStore.get?_put, if_pos rfl]

/-- A discovery on a server in the cloud. -/
def sampleService : SiteDiscovery where
  serverUrl := .str "http://s"
  serverId := .str "server"
  serverTypeId := .str "cloud"
  discoveryId := .str "1"
  tokenName := .str ""
  tokenSecret := .str ""
  provider := .aws

/-- A client answers, and every upload is refused. -/
def refusingDeployment : Deployment where
  outages := { keys := [(.upload, ["*"])] }
  disk := { root := .folder [("work", .folder [("static", .folder [])])] }
  script := [("TableauClient.get_site_data", .value (.map [("name", .text "north")]))]

/-- A discovery whose uploads are all refused is reported as complete, with nothing stored. -/
theorem run_last_status_refused :
    refusesEach refusingDeployment.outages sampleService.cloudPath = true ∧
      let d' := (sampleService.run.exec refusingDeployment).2
      d'.calls.head? = some (sampleService.statusCall "Completed") ∧
        d'.store = refusingDeployment.store := by
  have hrefused : refusesEach refusingDeployment.outages sampleService.cloudPath = true := by
    decide +kernel
  have hcompleted : ((sampleService.run.exec refusingDeployment).2.calls.head?.bind fun c =>
      (Value.field? "status" c.named).bind Value.text?) = some "Completed" := by decide +kernel
  refine ⟨hrefused, ?_⟩
  have hsite : ∀ fs, scripted refusingDeployment.script "TableauClient.get_site_data" =
      some (.value (.map fs)) → Value.Regular false (.map fs) := by
    rintro fs ⟨⟩
    exact .map (by decide) (by simpa using .text _)
  have hgauges : Gauges false refusingDeployment.gauge := by
    intro fs gs hfs hgs
    obtain ⟨gs', hgs', hregular⟩ := exists_gauge_default hfs
    exact Except.ok.inj (hgs'.symm.trans hgs) ▸ hregular
  rcases run_last_status sampleService refusingDeployment (by rintro f ⟨⟩) hsite hgauges with
    ⟨hfailed, -⟩ | ⟨hlast, hstore⟩
  · rw [hfailed] at hcompleted
    exact absurd hcompleted (by decide)
  · rw [if_pos hrefused] at hstore
    exact ⟨hlast, hstore⟩

end SiteDiscovery

end ReportMigration
