import ReportMigration.Proofs.Services
import ReportMigration.Proofs.Storage.Transfer
import ReportMigration.Proofs.Value
import ReportMigration.Servers.SiteDiscovery
/-!
The summary of a site that a client has read.

* `SiteDiscovery.summarized gauge server fs`: the summary of the site with the fields `fs`;
  `SiteDiscovery.finds_siteData` says that the discovery finds this one and no other;
* `SiteDiscovery.IsSummary`: what is in a summary, field by field;
* `SiteDiscovery.counted gauge fs`: the projects with their usage, where that is a whole number for each
  of them. Of a site without fractions there is a summary exactly if the projects can be counted, and
  then the usage is the sum (`SiteDiscovery.summarized_cases`).
-/
namespace ReportMigration

/-! ## Fields -/

namespace Value

theorem field?_cons (k k' : String) (v : Value) (fs : List (String × Value)) :
    field? k ((k', v) :: fs) = if k' = k then some v else field? k fs := by
  unfold field?
  rw [List.find?_cons]
  by_cases h : k' = k <;> simp [h]

theorem field?_setField (k k' : String) (v : Value) (fs : List (String × Value)) :
    field? k (setField k' v fs) = if k' = k then some v else field? k fs := by
  induction fs with
  | nil => rw [setField, field?_cons]
  | cons f fs ih =>
    obtain ⟨j, w⟩ := f
    rw [setField]
    by_cases hj : j = k'
    · subst hj
      rw [if_pos rfl, field?_cons, field?_cons]
      by_cases hk : j = k <;> simp [hk]
    · rw [if_neg hj, field?_cons, ih, field?_cons]
      by_cases hk : j = k
      · subst hk
        simp [Ne.symm hj]
      · simp [hk]

theorem field?_filter (k k' : String) (fs : List (String × Value)) :
    field? k (fs.filter fun f => f.1 ≠ k') = if k' = k then none else field? k fs := by
  induction fs with
  | nil => simp [field?]
  | cons f fs ih =>
    obtain ⟨j, w⟩ := f
    rw [List.filter_cons, field?_cons]
    by_cases hj : j = k'
    · subst hj
      simp only [ne_eq, not_true_eq_false, decide_false, Bool.false_eq_true, if_false, ih]
      by_cases hk : j = k <;> simp [hk]
    · simp only [ne_eq, hj, not_false_eq_true, decide_true, if_true, field?_cons, ih]
      by_cases hk : j = k
      · subst hk
        simp [Ne.symm hj]
      · simp [hk]

end Value

namespace SiteDiscovery

variable {s : SiteDiscovery} {d d' : Deployment} {gauge : Gauge} {server : String} {v : Value}
  {fs gs : List (String × Value)} {xs ps : List Value}

/-! ## The summary -/

/-- What a site has as its projects. -/
def projectsOf (fs : List (String × Value)) : Value := (Value.field? "projects" fs).getD (.list [])

/-- The services that are called beside the one that reads the site. -/
def helpers : List String :=
  ["TableauClient", "CloudServerDetailsManager.update_project_summary",
    "ServerDetailsManager.update_project_and_report_count"]

/-- The fields of a site with the usage of its projects and of the site, and with its server. -/
def tallied (gauge : Gauge) (server : String) (fs : List (String × Value)) :
    Except Fault (List (String × Value)) := do
  let _ ← (projectsOf fs).size
  let (total, ps) ← totalUsage gauge (.int 0) (← (projectsOf fs).elements)
  return Value.setField "server_id" (.text server) (Value.setField "usage" total (withProjects ps fs))

/-- The summary of the site with the fields `fs`. -/
def summarized (gauge : Gauge) (server : String) (fs : List (String × Value)) :
    Except Fault (List (String × Value)) :=
  tallied gauge server (fs.filter fun f => f.1 ≠ "project_summary")

/-- What is done with the fields of a site once the summary of the projects is off them. -/
def tally (s : SiteDiscovery) (fs : List (String × Value)) : Op Value := do
  let count ← Op.ofExcept (projectsOf fs).size
  let _ ← Op.call "ServerDetailsManager.update_project_and_report_count" []
    [("server_id", .ofJson s.serverId), ("project_count", .int count),
      ("report_count", (Value.field? "workbooks_count" fs).getD (.int 0))]
  let gauge := (← get).gauge
  let (total, ps) ← Op.ofExcept do totalUsage gauge (.int 0) (← (projectsOf fs).elements)
  return .map (Value.setField "server_id" (.text s.serverId.display)
    (Value.setField "usage" total (withProjects ps fs)))

/-- What is done once there is a client. -/
def readSite (s : SiteDiscovery) : Op Value := do
  let fs ← Op.ofExcept (siteFields (← Op.call "TableauClient.get_site_data"))
  let summary := (Value.field? "project_summary" fs).getD (.list [])
  if summary.isTruthy then
    let _ ← Op.call "CloudServerDetailsManager.update_project_summary" []
      [("cloud_server_id", .ofJson s.serverTypeId), ("summary_data", summary)]
    s.tally (fs.filter fun f => f.1 ≠ "project_summary")
  else s.tally (fs.filter fun f => f.1 ≠ "project_summary")

theorem siteData_eq (s : SiteDiscovery) : s.siteData = (do
    let _ ← Op.call "TableauClient"
      [.ofJson s.serverId, .ofJson s.serverUrl, .ofJson s.tokenName, .ofJson s.tokenSecret]
    s.readSite) := rfl

theorem keeps_tally (s : SiteDiscovery) (fs : List (String × Value)) :
    Op.Keeps Deployment.uncalled (s.tally fs) := by
  refine .bind (.ofExcept _) fun _ => .bind (.call _ _ _) fun _ => .bind (.of_exec fun _ => rfl) fun _ => ?_
  exact .bind (.ofExcept _) fun _ => .pure _

/-- A discovery of the site notes calls, and changes nothing else. -/
theorem keeps_siteData (s : SiteDiscovery) : Op.Keeps Deployment.uncalled s.siteData := by
  rw [siteData_eq, readSite]
  refine .bind (.call _ _ _) fun _ => .bind (.call _ _ _) fun _ => .bind (.ofExcept _) fun fs => ?_
  exact .ite (.bind (.call _ _ _) fun _ => s.keeps_tally _) (s.keeps_tally _)

/-- The usage is worked out, unless the server's counts cannot be noted. -/
theorem exec_tally_cases (s : SiteDiscovery) (fs : List (String × Value)) (d : Deployment) :
    ((s.tally fs).exec d).1 = (tallied d.gauge s.serverId.display fs).map .map ∨
      ¬ Quiet d.script "ServerDetailsManager.update_project_and_report_count" ∧
        ∃ e, ((s.tally fs).exec d).1 = .error e := by
  unfold tally tallied
  rw [Op.exec_bind, Op.exec_ofExcept]
  cases (projectsOf fs).size with
  | error e => exact .inl rfl
  | ok n =>
    dsimp only
    rcases Op.exec_call_cases "ServerDetailsManager.update_project_and_report_count" []
      [("server_id", .ofJson s.serverId), ("project_count", .int n),
        ("report_count", (Value.field? "workbooks_count" fs).getD (.int 0))] d with
      ⟨-, v, hcall⟩ | ⟨hraises, e, hcall⟩
    · left
      rw [Op.exec_bind_ok hcall, Op.exec_bind_ok (Op.exec_get _), Op.exec_bind, Op.exec_ofExcept]
      cases (projectsOf fs).elements with
      | error e => rfl
      | ok xs =>
        simp only [bind, Except.bind]
        cases totalUsage d.gauge (.int 0) xs <;> rfl
    · rw [Op.exec_bind_error hcall]
      exact .inr ⟨hraises, e, rfl⟩

theorem siteFields_eq_ok (h : siteFields v = .ok fs) : v = .map fs := by
  cases v <;> cases h
  rfl

/-- The discovery comes to the summary of what the client has read; or it fails, because a service
    raises or the client has read no map. -/
def Finds (s : SiteDiscovery) (script : List (String × Outcome)) (gauge : Gauge)
    (r : Except Fault Value) : Prop :=
  (∃ fs, scripted script "TableauClient.get_site_data" = some (.value (.map fs)) ∧
    r = (summarized gauge s.serverId.display fs).map .map) ∨
  (∃ e, r = .error e) ∧ ((∃ name ∈ helpers, ¬ Quiet script name) ∨
    ∀ fs, scripted script "TableauClient.get_site_data" ≠ some (.value (.map fs)))

theorem finds_readSite (s : SiteDiscovery) {script : List (String × Outcome)}
    (hscripts : d.script = script) (hgauge : d.gauge = gauge) :
    s.Finds script gauge (s.readSite.exec d).1 := by
  subst hscripts hgauge
  unfold readSite
  rcases hread : (Op.call "TableauClient.get_site_data").exec d with ⟨e | v, d₁⟩
  · refine .inr ⟨⟨e, by rw [Op.exec_bind_error hread]⟩, .inr fun fs hfs => ?_⟩
    rw [Op.exec_call, hfs] at hread
    cases hread
  rw [Op.exec_bind_ok hread, Op.exec_bind, Op.exec_ofExcept]
  cases hfs : siteFields v with
  | error e =>
    refine .inr ⟨⟨e, rfl⟩, .inr fun fs hscript => ?_⟩
    rw [Op.exec_call, hscript] at hread
    cases hread
    cases hfs
  | ok fs =>
    obtain rfl := siteFields_eq_ok hfs
    have hscript := Op.scripted_of_exec_call hread
    have hd₁ : d₁.script = d.script ∧ d₁.gauge = d.gauge := by
      rw [Op.exec_call, hscript] at hread
      cases hread
      exact ⟨rfl, rfl⟩
    dsimp only
    have htally : ∀ d₂ : Deployment, d₂.script = d.script → d₂.gauge = d.gauge →
        s.Finds d.script d.gauge ((s.tally (fs.filter fun f => f.1 ≠ "project_summary")).exec d₂).1 := by
      intro d₂ hs hg
      rcases exec_tally_cases s (fs.filter fun f => f.1 ≠ "project_summary") d₂ with h | ⟨hraises, h⟩
      · exact .inl ⟨fs, hscript, by rw [h, hg]; rfl⟩
      · exact .inr ⟨h, .inl ⟨_, by simp [helpers], hs ▸ hraises⟩⟩
    split
    next =>
      rcases Op.exec_call_cases "CloudServerDetailsManager.update_project_summary" []
        [("cloud_server_id", .ofJson s.serverTypeId),
          ("summary_data", (Value.field? "project_summary" fs).getD (.list []))] d₁ with
        ⟨-, v, hcall⟩ | ⟨hraises, e, hcall⟩
      · rw [Op.exec_bind_ok hcall]
        exact htally _ hd₁.1 hd₁.2
      · rw [Op.exec_bind_error hcall]
        exact .inr ⟨⟨e, rfl⟩, .inl ⟨_, by simp [helpers], hd₁.1 ▸ hraises⟩⟩
    next => exact htally _ hd₁.1 hd₁.2

theorem finds_siteData (s : SiteDiscovery) (d : Deployment) :
    s.Finds d.script d.gauge (s.siteData.exec d).1 := by
  rw [siteData_eq]
  rcases Op.exec_call_cases "TableauClient" [.ofJson s.serverId, .ofJson s.serverUrl,
    .ofJson s.tokenName, .ofJson s.tokenSecret] [] d with ⟨-, v, hclient⟩ | ⟨hraises, e, hclient⟩
  · rw [Op.exec_bind_ok hclient]
    exact finds_readSite s rfl rfl
  · rw [Op.exec_bind_error hclient]
    exact .inr ⟨⟨e, rfl⟩, .inl ⟨_, by simp [helpers], hraises⟩⟩

namespace Finds

variable {script : List (String × Outcome)}

/-- Where the client has read a map and no service raises, its summary is found. -/
theorem eq {r : Except Fault Value} (h : s.Finds script gauge r)
    (hsite : scripted script "TableauClient.get_site_data" = some (.value (.map fs)))
    (hquiet : ∀ name ∈ helpers, Quiet script name) :
    r = (summarized gauge s.serverId.display fs).map .map := by
  rcases h with ⟨fs', hsite', rfl⟩ | ⟨-, ⟨name, hname, hraises⟩ | hnone⟩
  · rw [hsite] at hsite'
    cases hsite'
    rfl
  · exact absurd (hquiet name hname) hraises
  · exact absurd hsite (hnone fs)

/-- What is found is the summary of what the client has read. -/
theorem exists_summarized (h : s.Finds script gauge (.ok v)) :
    ∃ fs gs, scripted script "TableauClient.get_site_data" = some (.value (.map fs)) ∧
      summarized gauge s.serverId.display fs = .ok gs ∧ v = .map gs := by
  rcases h with ⟨fs, hsite, hr⟩ | ⟨⟨e, he⟩, -⟩
  · obtain ⟨gs, hgs, hv⟩ := Value.Regular.exists_of_map_eq_ok hr.symm
    exact ⟨fs, gs, hsite, hgs, hv.symm⟩
  · cases he

end Finds

/-! ## What is in a summary -/

/-- The fields of a summary. -/
def summaryOf (server : String) (fs : List (String × Value)) (total : Value) (ps : List Value) :
    List (String × Value) :=
  Value.setField "server_id" (.text server) (Value.setField "usage" total
    (withProjects ps (fs.filter fun f => f.1 ≠ "project_summary")))

theorem field?_withProjects (k : String) (ps : List Value) (fs : List (String × Value)) :
    Value.field? k (withProjects ps fs) =
      if k = "projects" then (Value.field? k fs).map (·.withElements ps) else Value.field? k fs := by
  unfold withProjects
  by_cases hk : k = "projects"
  · subst hk
    cases h : Value.field? "projects" fs with
    | none => simp [h]
    | some v => simp [Value.field?_setField]
  · cases h : Value.field? "projects" fs with
    | none => simp [hk]
    | some v => simp [Value.field?_setField, hk, Ne.symm hk]

theorem projectsOf_filter (fs : List (String × Value)) :
    projectsOf (fs.filter fun f => f.1 ≠ "project_summary") = projectsOf fs := by
  rw [projectsOf, Value.field?_filter, if_neg (by decide)]
  rfl

theorem exists_size_iff (v : Value) : (∃ n, v.size = .ok n) ↔ ∃ xs, v.elements = .ok xs := by
  cases v <;> simp [Value.size, Value.elements]

/-- Which summary there is, and when. -/
theorem summarized_eq_ok_iff : summarized gauge server fs = .ok gs ↔
    ∃ xs total ps, (projectsOf fs).elements = .ok xs ∧
      totalUsage gauge (.int 0) xs = .ok (total, ps) ∧ gs = summaryOf server fs total ps := by
  rw [summarized, tallied, projectsOf_filter]
  constructor
  · intro h
    obtain ⟨n, -, h⟩ := exists_of_bind_eq_ok h
    obtain ⟨xs, hxs, h⟩ := exists_of_bind_eq_ok h
    obtain ⟨⟨total, ps⟩, hsum, h⟩ := exists_of_bind_eq_ok h
    cases h
    exact ⟨xs, total, ps, hxs, hsum, rfl⟩
  · rintro ⟨xs, total, ps, hxs, hsum, rfl⟩
    obtain ⟨n, hn⟩ := (exists_size_iff _).2 ⟨xs, hxs⟩
    rw [hn, hxs]
    simp only [bind, Except.bind, hsum]
    rfl

/-- The fields `gs` are those of the site `fs` with its server and the usage of the site, with the
    projects as `ps` and without the summary of the projects. -/
structure IsSummary (server : String) (fs gs : List (String × Value)) (total : Value)
    (ps : List Value) : Prop where
  server : Value.field? "server_id" gs = some (.text server)
  usage : Value.field? "usage" gs = some total
  projects : Value.field? "projects" gs = (Value.field? "projects" fs).map (·.withElements ps)
  dropped : Value.field? "project_summary" gs = none
  rest : ∀ k, k ≠ "server_id" → k ≠ "usage" → k ≠ "projects" → k ≠ "project_summary" →
    Value.field? k gs = Value.field? k fs

/-- The fields `gs` are the summary of the site `fs`: its projects have the usage that the client worked
    out, and the usage of the site is what that adds up to. -/
def Summarizes (gauge : Gauge) (server : String) (fs gs : List (String × Value)) : Prop :=
  ∃ xs total ps, (projectsOf fs).elements = .ok xs ∧ totalUsage gauge (.int 0) xs = .ok (total, ps) ∧
    IsSummary server fs gs total ps

theorem isSummary_summaryOf (server : String) (fs : List (String × Value)) (total : Value)
    (ps : List Value) : IsSummary server fs (summaryOf server fs total ps) total ps := by
  have hfield : ∀ k, Value.field? k (summaryOf server fs total ps) =
      if "server_id" = k then some (.text server) else if "usage" = k then some total
      else if k = "projects" then (if "project_summary" = k then none else Value.field? k fs).map
        (·.withElements ps) else if "project_summary" = k then none else Value.field? k fs := fun k => by
    rw [summaryOf, Value.field?_setField, Value.field?_setField, field?_withProjects,
      Value.field?_filter]
  refine ⟨?_, ?_, ?_, ?_, fun k h₁ h₂ h₃ h₄ => ?_⟩
  · simp [hfield]
  · simp [hfield]
  · simp [hfield]
  · simp [hfield]
  · simp [hfield, Ne.symm h₁, Ne.symm h₂, h₃, Ne.symm h₄]

theorem summarizes_of_summarized (h : summarized gauge server fs = .ok gs) :
    Summarizes gauge server fs gs := by
  obtain ⟨xs, total, ps, hxs, hsum, rfl⟩ := summarized_eq_ok_iff.1 h
  exact ⟨xs, total, ps, hxs, hsum, isSummary_summaryOf server fs total ps⟩

/-! ## Regular sites -/

/-- The client works out the usage of a project on what is regular only to something regular. -/
def Gauges (plain : Bool) (gauge : Gauge) : Prop :=
  ∀ fs gs, Value.Regular plain (.map fs) → gauge fs = .ok gs → Value.Regular plain (.map gs)

section
variable {plain : Bool}

/-- Unless a deployment says otherwise, the usage of a project is the number of its views. -/
theorem exists_gauge_default (hfs : Value.Regular plain (.map fs)) :
    ∃ gs, ({} : Deployment).gauge fs = .ok gs ∧ Value.Regular plain (.map gs) := by
  refine ⟨_, rfl, ?_⟩
  split
  next n hn => exact hfs.setField (hfs.field? hn)
  next => exact hfs

theorem Gauges.gauged {w : Value} (hg : Gauges plain gauge) (hv : Value.Regular plain v)
    (h : gauged gauge v = .ok w) : Value.Regular plain w := by
  unfold SiteDiscovery.gauged at h
  split at h
  next fs =>
    obtain ⟨gs, hgs, rfl⟩ := Value.Regular.exists_of_map_eq_ok h
    exact hg fs gs hv hgs
  next =>
    cases h
    exact hv

theorem regular_usage {w : Value} (hv : Value.Regular plain v) (h : usage v = .ok w) :
    Value.Regular plain w := by
  unfold usage at h
  split at h
  next fs =>
    cases h
    cases hu : Value.field? "usage" fs with
    | none => exact .int 0
    | some u => exact hv.field? hu
  next => cases h

/-- What is added up is regular, as only one value is no number. -/
theorem regular_plus {w u : Value} (hv : Value.Regular plain v) (hw : Value.Regular plain w)
    (h : plus v w = .ok u) : Value.Regular plain u := by
  have hadd : plain = false → ∀ x y : Double, Value.Regular plain (.real (x.add y)) := fun hp x y =>
    .real hp Double.eq_nan_of_isNaN_ofFloat
  have hplain : ∀ {x : Double}, Value.Regular plain (.real x) → plain = false := by
    intro x hx
    cases hx
    assumption
  unfold plus at h
  split at h
  case h_1 =>
    cases h
    exact .int _
  case h_2 =>
    cases h
    exact .int _
  case h_3 =>
    obtain ⟨x, -, h⟩ := exists_of_bind_eq_ok h
    cases h
    exact hadd (hplain hw) _ _
  case h_4 =>
    obtain ⟨x, -, h⟩ := exists_of_bind_eq_ok h
    cases h
    exact hadd (hplain hv) _ _
  case h_5 =>
    cases h
    exact hadd (hplain hv) _ _
  case h_6 =>
    cases h
    exact hadd (hplain hv) _ _
  case h_7 => cases h

theorem regular_totalUsage {before total : Value} (hg : Gauges plain gauge)
    (hbefore : Value.Regular plain before) (hxs : ∀ x ∈ xs, Value.Regular plain x)
    (h : totalUsage gauge before xs = .ok (total, ps)) :
    Value.Regular plain total ∧ ∀ p ∈ ps, Value.Regular plain p := by
  induction xs generalizing before total ps with
  | nil =>
    cases h
    exact ⟨hbefore, by simp⟩
  | cons x xs ih =>
    rw [totalUsage] at h
    obtain ⟨p, hp, h⟩ := exists_of_bind_eq_ok h
    obtain ⟨u, hu, h⟩ := exists_of_bind_eq_ok h
    obtain ⟨next, hnext, h⟩ := exists_of_bind_eq_ok h
    obtain ⟨⟨total', ps'⟩, hrest, h⟩ := exists_of_bind_eq_ok h
    cases h
    have hp := hg.gauged (hxs x List.mem_cons_self) hp
    have hnext := regular_plus hbefore (regular_usage hp hu) hnext
    obtain ⟨htotal, hps⟩ := ih hnext (fun y hy => hxs y (List.mem_cons_of_mem _ hy)) hrest
    exact ⟨htotal, List.forall_mem_cons.2 ⟨hp, hps⟩⟩

theorem regular_projectsOf (h : Value.Regular plain (.map fs)) : Value.Regular plain (projectsOf fs) := by
  unfold projectsOf
  cases hp : Value.field? "projects" fs with
  | none => exact .list (by simp)
  | some v => exact h.field? hp

/-- The summary of a regular site is regular. -/
theorem regular_summarized (hg : Gauges plain gauge) (hfs : Value.Regular plain (.map fs))
    (h : summarized gauge server fs = .ok gs) : Value.Regular plain (.map gs) := by
  obtain ⟨xs, total, ps, hxs, hsum, rfl⟩ := summarized_eq_ok_iff.1 h
  obtain ⟨htotal, hps⟩ := regular_totalUsage hg (.int 0) ((regular_projectsOf hfs).elements hxs) hsum
  refine Value.Regular.setField (Value.Regular.setField ?_ htotal) (.text _)
  have hrest := hfs.filter fun f => f.1 ≠ "project_summary"
  unfold withProjects
  split
  next v hv => exact hrest.setField ((hrest.field? hv).withElements hps)
  next => exact hrest

end

/-! ## Counting -/

/-- The usage of a project, where it is a whole number or can count as one. -/
def amount? : Value → Option Int
  | .map fs =>
    match Value.field? "usage" fs with
    | none => some 0
    | some (.int n) => some n
    | some (.bool b) => some (if b then 1 else 0)
    | some _ => none
  | _ => none

/-- The projects of a site with their usage, and its amount for each of them. -/
def counted (gauge : Gauge) (fs : List (String × Value)) : Option (List Value × List Int) := do
  let xs ← (projectsOf fs).elements.toOption
  let ps ← (xs.mapM (gauged gauge)).toOption
  let ns ← ps.mapM amount?
  return (ps, ns)

/-- The client works out the usage of every project without fractions. -/
def Counts (gauge : Gauge) : Prop :=
  ∀ fs, Value.Regular true (.map fs) → ∃ gs, gauge fs = .ok gs ∧ Value.Regular true (.map gs)

theorem Counts.gauges (h : Counts gauge) : Gauges true gauge := by
  intro fs gs hfs hgs
  obtain ⟨gs', hgs', hregular⟩ := h fs hfs
  rw [hgs] at hgs'
  cases hgs'
  exact hregular

theorem Counts.exists_gauged (h : Counts gauge) (hv : Value.Regular true v) :
    ∃ w, gauged gauge v = .ok w ∧ Value.Regular true w := by
  have hw : ∃ w, gauged gauge v = .ok w := by
    unfold gauged
    split
    next fs =>
      obtain ⟨gs, hgs, -⟩ := h fs hv
      exact ⟨.map gs, by rw [hgs]; rfl⟩
    next => exact ⟨v, rfl⟩
  obtain ⟨w, hw⟩ := hw
  exact ⟨w, hw, h.gauges.gauged hv hw⟩

/-- One project is added exactly if its usage can be counted. -/
theorem plus_usage_cases (hv : Value.Regular true v) (m : Int) :
    (∃ n, amount? v = some n ∧ (usage v >>= plus (.int m)) = .ok (.int (m + n))) ∨
      amount? v = none ∧ ∃ e, (usage v >>= plus (.int m)) = .error e := by
  cases hv with
  | @map fs hd hfs =>
    have hu : ∀ u, Value.field? "usage" fs = some u → Value.Regular true u := fun u =>
      (Value.Regular.map hd hfs).field?
    rw [amount?, usage]
    cases hf : Value.field? "usage" fs with
    | none => exact .inl ⟨0, rfl, rfl⟩
    | some u =>
      cases hu u hf with
      | int n => exact .inl ⟨n, rfl, rfl⟩
      | bool b => exact .inl ⟨_, rfl, rfl⟩
      | null => exact .inr ⟨rfl, _, rfl⟩
      | text t => exact .inr ⟨rfl, _, rfl⟩
      | list h => exact .inr ⟨rfl, _, rfl⟩
      | map hd h => exact .inr ⟨rfl, _, rfl⟩
      | real hp => cases hp
      | id hp => cases hp
      | time hp => cases hp
      | record hp => cases hp
      | reply hp => cases hp
      | file hp => cases hp
      | tasks hp => cases hp
      | method hp => cases hp
      | settings hp => cases hp
      | member hp => cases hp
  | _ => exact .inr ⟨rfl, _, rfl⟩

/-- The usage of projects is added up exactly if it can be counted for each of them. -/
theorem totalUsage_cases (hg : Counts gauge) (hxs : ∀ x ∈ xs, Value.Regular true x) (m : Int) :
    ∃ ps, xs.mapM (gauged gauge) = .ok ps ∧
      ((∃ ns, ps.mapM amount? = some ns ∧
        totalUsage gauge (.int m) xs = .ok (.int (m + ns.sum), ps)) ∨
        ps.mapM amount? = none ∧ ∃ e, totalUsage gauge (.int m) xs = .error e) := by
  induction xs generalizing m with
  | nil => exact ⟨[], rfl, .inl ⟨[], rfl, by simp [totalUsage]⟩⟩
  | cons x xs ih =>
    obtain ⟨p, hp, hregular⟩ := hg.exists_gauged (hxs x List.mem_cons_self)
    have hrest := ih fun y hy => hxs y (List.mem_cons_of_mem _ hy)
    obtain ⟨ps, hps, -⟩ := hrest m
    refine ⟨p :: ps, by rw [List.mapM_cons, hp, hps]; rfl, ?_⟩
    rw [List.mapM_cons, totalUsage, hp]
    rcases plus_usage_cases hregular m with ⟨n, hn, hplus⟩ | ⟨hn, e, hplus⟩
    · obtain ⟨u, hu, hplus⟩ := exists_of_bind_eq_ok hplus
      obtain ⟨ps', hps', hcases⟩ := hrest (m + n)
      rw [hps] at hps'
      cases hps'
      rw [hn]
      simp only [bind, Except.bind, hu, hplus]
      rcases hcases with ⟨ns, hns, htotal⟩ | ⟨hns, e, htotal⟩
      · refine .inl ⟨n :: ns, by rw [hns]; rfl, ?_⟩
        rw [htotal, List.sum_cons, Int.add_assoc]
        rfl
      · exact .inr ⟨by rw [hns]; rfl, e, by rw [htotal]⟩
    · rw [hn]
      refine .inr ⟨rfl, e, ?_⟩
      cases hu : usage p with
      | error e' =>
        rw [hu] at hplus
        cases hplus
        simp only [bind, Except.bind, hu]
      | ok u =>
        rw [hu] at hplus
        simp only [bind, Except.bind] at hplus ⊢
        rw [hu]
        dsimp only
        rw [hplus]

/-- Of a site without fractions there is a summary exactly if its projects can be counted. -/
theorem summarized_cases (hg : Counts gauge) (hfs : Value.Regular true (.map fs)) (server : String) :
    (∃ ps ns gs, counted gauge fs = some (ps, ns) ∧ summarized gauge server fs = .ok gs ∧
      IsSummary server fs gs (.int ns.sum) ps) ∨
      counted gauge fs = none ∧ ∃ e, summarized gauge server fs = .error e := by
  have hnone : (∀ gs, summarized gauge server fs ≠ .ok gs) →
      ∃ e, summarized gauge server fs = .error e := by
    intro h
    cases hs : summarized gauge server fs with
    | error e => exact ⟨e, rfl⟩
    | ok gs => exact absurd hs (h gs)
  cases hxs : (projectsOf fs).elements with
  | error e =>
    refine .inr ⟨by rw [counted, hxs]; rfl, hnone fun gs hgs => ?_⟩
    obtain ⟨xs, total, ps, hxs', -⟩ := summarized_eq_ok_iff.1 hgs
    rw [hxs] at hxs'
    cases hxs'
  | ok xs =>
    obtain ⟨ps, hps, hcases⟩ := totalUsage_cases hg ((regular_projectsOf hfs).elements hxs) 0
    have hcounted : counted gauge fs = (ps.mapM amount?).map fun ns => (ps, ns) := by
      rw [counted, hxs]
      show ((xs.mapM (gauged gauge)).toOption.bind fun ps =>
        (ps.mapM amount?).bind fun ns => some (ps, ns)) = _
      rw [hps]
      show ((ps.mapM amount?).bind fun ns => some (ps, ns)) = _
      cases ps.mapM amount? <;> rfl
    rcases hcases with ⟨ns, hns, htotal⟩ | ⟨hns, e, htotal⟩
    · rw [Int.zero_add] at htotal
      exact .inl ⟨ps, ns, _, by rw [hcounted, hns]; rfl,
        summarized_eq_ok_iff.2 ⟨xs, _, ps, hxs, htotal, rfl⟩, isSummary_summaryOf server fs _ ps⟩
    · refine .inr ⟨by rw [hcounted, hns]; rfl, hnone fun gs hgs => ?_⟩
      obtain ⟨xs', total, ps', hxs', htotal', -⟩ := summarized_eq_ok_iff.1 hgs
      rw [hxs] at hxs'
      cases hxs'
      rw [htotal] at htotal'
      cases htotal'

end SiteDiscovery

end ReportMigration
