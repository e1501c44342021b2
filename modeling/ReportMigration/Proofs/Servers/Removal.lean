import ReportMigration.Proofs.Projects.Removal
import ReportMigration.Sample.Catalogue
/-!
Removing a server.

* `Database.withoutServer`: the catalogue without a server, its credentials and sites, its projects
  and everything below them;
* `Database.Clear`: nothing stands in the way of the removal, and `Deployment.ServerInTime`: nothing
  delays it too long;
* `Deployment.ServerHalted`: why it halts, and what is left of the catalogue then;
* `exec_removeServer`: the removal comes to the first, or halts with the last.
-/
namespace ReportMigration

/-! ## Reading rows -/

/-- The row can be read back: its status and type are among the known ones. -/
def Server.Readable (s : Server) : Prop := s.status.Known ∧ s.type.Known

/-- The row can be read back: its way of logging in is among the known ones. -/
def Credential.Readable (c : Credential) : Prop := c.authType.Known

theorem Server.read_eq_ok_iff {s x : Server} : s.read = .ok x ↔ x = s ∧ s.Readable := by
  unfold Server.read Server.Readable
  constructor
  · intro h
    cases hs : s.status.read with
    | error e => rw [hs] at h; cases h
    | ok a =>
      cases ht : s.type.read with
      | error e => rw [hs, ht] at h; cases h
      | ok b =>
        rw [hs, ht] at h
        cases h
        exact ⟨rfl, Coded.known_of_read hs, Coded.known_of_read ht⟩
  · rintro ⟨rfl, hs, ht⟩
    obtain ⟨a, ha⟩ := hs.exists_read
    obtain ⟨b, hb⟩ := ht.exists_read
    rw [ha, hb]
    rfl

theorem Credential.read_eq_ok_iff {c x : Credential} : c.read = .ok x ↔ x = c ∧ c.Readable := by
  unfold Credential.read Credential.Readable
  constructor
  · intro h
    cases ha : c.authType.read with
    | error e => rw [ha] at h; cases h
    | ok a =>
      rw [ha] at h
      cases h
      exact ⟨rfl, Coded.known_of_read ha⟩
  · rintro ⟨rfl, h⟩
    obtain ⟨a, ha⟩ := h.exists_read
    rw [ha]
    rfl

namespace Database

variable {db : Database} {server : Id}

/-! ## What goes and what stands in the way -/

/-- The projects on a server, and everything below them. -/
def projectsUnder (db : Database) (server : Id) : Set Id :=
  db.belowAny (db.projectIdsOn (some server))

/-- The credentials of a server. -/
def credentialIds (db : Database) (server : Id) : Set Id :=
  {i | ∃ c ∈ db.credentialsOf (some server), c.id = i}

/-- The catalogue without a server, its credentials and their sites. -/
noncomputable def dropServer (db : Database) (server : Id) : Database :=
  { db with
    sites := without db.sites (·.credentialsId) (db.credentialIds server)
    credentials := without db.credentials (·.serverId) {server}
    servers := without db.servers (·.id) {server} }

/-- The catalogue without a server and all that goes with it. -/
noncomputable def withoutServer (db : Database) (server : Id) : Database :=
  (db.prune (db.projectsUnder server)).dropServer server

/-- No project that stays is on a site of the server. -/
def SitesFree (db : Database) (server : Id) : Prop :=
  ∀ p ∈ db.projects, p.id ∉ db.projectsUnder server →
    ∀ s ∈ db.sites, p.siteId = some s.id → s.credentialsId ∉ db.credentialIds server

/-- Nothing stands in the way of the removal of a server. -/
structure Clear (db : Database) (server : Id) : Prop where
  found : ∃ s, db.findServer? server = some s ∧ s.Readable
  reports : db.ReadableBelow (db.projectIdsOn (some server))
  credentials : ∀ c ∈ db.credentialsOf (some server), c.Readable
  sites : db.SitesFree server

/-! ## The last steps -/

theorem mem_credentialIds {i : Id} :
    i ∈ db.credentialIds server ↔ i ∈ (db.credentialsOf (some server)).map (·.id) := by
  simp [credentialIds]

theorem credentialIds_eq :
    db.credentialIds server = {i | i ∈ (db.credentialsOf (some server)).map (·.id)} :=
  Set.ext fun _ => mem_credentialIds

/-- Sites that hold no project may go. -/
theorem removeSites_eq {ids : List Id}
    (h : ∀ p ∈ db.projects, ∀ s ∈ db.sites, p.siteId = some s.id → s.credentialsId ∉ ids) :
    (db.removeSites fun s => ids.contains s.credentialsId) =
      .ok { db with sites := without db.sites (·.credentialsId) {i | i ∈ ids} } := by
  have hfree : (db.projects.all fun p => p.siteId.all fun i =>
      !(db.sites.any fun s => s.id = i && ids.contains s.credentialsId)) = true := by
    refine List.all_eq_true.2 fun p hp => ?_
    cases hi : p.siteId with
    | none => rfl
    | some i =>
      simp only [Option.all_some, Bool.not_eq_true', List.any_eq_false]
      intro s hs hsi
      simp only [Bool.and_eq_true, decide_eq_true_eq, List.contains_iff_mem] at hsi
      exact h p hp s hs (hi.trans (hsi.1 ▸ rfl)) hsi.2
  have hkept : (db.sites.filter fun s => !ids.contains s.credentialsId) =
      without db.sites (·.credentialsId) {i | i ∈ ids} := filter_eq_without fun s _ => by simp
  simp only [removeSites, hfree, hkept, resolved, if_true]
  rfl

/-- A site that holds a project may not go. -/
theorem removeSites_eq_error {ids : List Id} {p : Project} {s : Site} (hp : p ∈ db.projects)
    (hs : s ∈ db.sites) (hi : p.siteId = some s.id) (hc : s.credentialsId ∈ ids) :
    (db.removeSites fun s => ids.contains s.credentialsId) = .error (.violated .dangling) := by
  have hused : (db.projects.all fun p => p.siteId.all fun i =>
      !(db.sites.any fun s => s.id = i && ids.contains s.credentialsId)) = false := by
    refine List.all_eq_false.2 ⟨p, hp, ?_⟩
    simp only [hi, Option.all_some, Bool.not_eq_true', Bool.not_eq_false, List.any_eq_true]
    exact ⟨s, hs, by simp [hc]⟩
  simp only [removeSites, hused, resolved, Bool.false_eq_true, if_false]
  rfl

theorem removeCredentials_eq (h : ∀ s ∈ db.sites, s.credentialsId ∉ db.credentialIds server) :
    db.removeCredentials (some server) =
      .ok { db with credentials := without db.credentials (·.serverId) {server} } := by
  have hnone : (db.sites.any fun s =>
      (db.credentialsOf (some server)).any fun c => c.id = s.credentialsId) = false := by
    refine List.any_eq_false.2 fun s hs => ?_
    simp only [List.any_eq_true, decide_eq_true_eq]
    exact h s hs
  have hkept : (db.credentials.filter fun c => some c.serverId ≠ some server) =
      without db.credentials (·.serverId) {server} := filter_eq_without fun c _ => by simp
  simp only [removeCredentials, hnone, hkept, Bool.false_eq_true, if_false]
  rfl

theorem removeServer_eq (hp : ∀ p ∈ db.projects, p.serverId ≠ some server)
    (hc : ∀ c ∈ db.credentials, c.serverId ≠ server) :
    db.removeServer server = .ok { db with servers := without db.servers (·.id) {server} } := by
  have hprojects : (db.projects.all fun p => p.serverId ≠ some server) = true :=
    List.all_eq_true.2 fun p hm => by simp [hp p hm]
  have hcredentials : (db.credentials.all fun c => c.serverId ≠ server) = true :=
    List.all_eq_true.2 fun c hm => by simp [hc c hm]
  have hkept : db.servers.filter (·.id ≠ server) = without db.servers (·.id) {server} :=
    filter_eq_without fun s _ => by simp
  simp only [removeServer, hprojects, hcredentials, hkept, resolved, Bool.and_self, if_true]
  rfl

end Database

section
variable {d : Deployment} {server : Id}

/-- What is left to do once the projects of a server are gone. -/
def dropServer (server : Id) : Op Unit := do
  let credentials ← Op.ofExcept ((← Op.db).readCredentialsOf (some server))
  unless credentials.isEmpty do
    removeSites (credentials.map (·.id))
    removeCredentials (some server)
  Op.write (·.removeServer server)

theorem exec_removeCredentials {rows : List Credential}
    (hread : d.db.readCredentialsOf (some server) = .ok rows)
    (h : ∀ s ∈ d.db.sites, s.credentialsId ∉ d.db.credentialIds server) :
    (removeCredentials (some server)).exec d =
      (.ok (), { d with db := { d.db with
        credentials := without d.db.credentials (·.serverId) {server} } }) := by
  rw [removeCredentials, Op.exec_bind_ok (Op.exec_db d), hread,
    Op.exec_bind_ok (Op.exec_ofExcept _ d)]
  exact Op.exec_write_ok (Database.removeCredentials_eq h)

theorem exec_dropServer_ok (hp : ∀ p ∈ d.db.projects, p.serverId ≠ some server)
    (hread : d.db.readCredentialsOf (some server) = .ok (d.db.credentialsOf (some server)))
    (hfree : ∀ p ∈ d.db.projects, ∀ s ∈ d.db.sites, p.siteId = some s.id →
      s.credentialsId ∉ d.db.credentialIds server) :
    (dropServer server).exec d = (.ok (), { d with db := d.db.dropServer server }) := by
  rw [dropServer, Op.exec_bind_ok (Op.exec_db d), hread, Op.exec_bind_ok (Op.exec_ofExcept _ d)]
  by_cases hempty : d.db.credentialsOf (some server) = []
  · -- no credentials, hence no sites
    have hcs : ∀ c ∈ d.db.credentials, c.serverId ≠ server := by
      intro c hc he
      have hm : c ∈ d.db.credentialsOf (some server) := List.mem_filter.2 ⟨hc, by simp [he]⟩
      rw [hempty] at hm
      cases hm
    have hkept : without d.db.credentials (·.serverId) {server} = d.db.credentials :=
      without_eq_self hcs
    have hnone : d.db.credentialIds server = ∅ := by simp [Database.credentialIds, hempty]
    rw [hempty, Database.dropServer, hnone, without_empty, hkept]
    change (Op.write (·.removeServer server)).exec d = _
    exact Op.exec_write_ok (Database.removeServer_eq hp hcs)
  · rw [if_neg (by simpa using hempty)]
    have hsites := Database.removeSites_eq fun p hpm s hs hi hc =>
      hfree p hpm s hs hi (Database.mem_credentialIds.2 hc)
    rw [← Database.credentialIds_eq] at hsites
    -- the credentials are read a second time, now that their sites are gone
    have hcredentials := exec_removeCredentials (d := { d with db := { d.db with
      sites := without d.db.sites (·.credentialsId) (d.db.credentialIds server) } })
      hread fun s hs => (mem_without.1 hs).2
    refine (Op.exec_bind_ok (Op.exec_write_ok hsites)).trans
      ((Op.exec_bind_ok hcredentials).trans (Op.exec_write_ok ?_))
    exact Database.removeServer_eq hp fun c hc => (mem_without.1 hc).2

theorem exec_dropServer_error {p : Project} {s : Site}
    (hread : d.db.readCredentialsOf (some server) = .ok (d.db.credentialsOf (some server)))
    (hp : p ∈ d.db.projects) (hs : s ∈ d.db.sites) (hi : p.siteId = some s.id)
    (hc : s.credentialsId ∈ d.db.credentialIds server) :
    (dropServer server).exec d = (.error (.violated .dangling), d) := by
  rw [dropServer, Op.exec_bind_ok (Op.exec_db d), hread, Op.exec_bind_ok (Op.exec_ofExcept _ d)]
  rw [Database.mem_credentialIds] at hc
  have hne : d.db.credentialsOf (some server) ≠ [] := by
    intro h
    rw [h] at hc
    cases hc
  rw [if_neg (by simpa using hne)]
  exact Op.exec_bind_error (Op.exec_write_error (Database.removeSites_eq_error hp hs hi hc))

/-- The last steps all succeed, or nothing is changed. -/
theorem exec_dropServer (hp : ∀ p ∈ d.db.projects, p.serverId ≠ some server) :
    ((dropServer server).exec d = (.ok (), { d with db := d.db.dropServer server }) ∧
        (∀ c ∈ d.db.credentialsOf (some server), c.Readable) ∧
        ∀ p ∈ d.db.projects, ∀ s ∈ d.db.sites, p.siteId = some s.id →
          s.credentialsId ∉ d.db.credentialIds server) ∨
      ∃ e, (dropServer server).exec d = (.error e, d) ∧
        ((∃ c ∈ d.db.credentialsOf (some server), ¬ c.Readable) ∨
          ∃ p ∈ d.db.projects, ∃ s ∈ d.db.sites, p.siteId = some s.id ∧
            s.credentialsId ∈ d.db.credentialIds server) := by
  rcases mapM_read (fun _ _ => Credential.read_eq_ok_iff) (d.db.credentialsOf (some server)) with
    ⟨e, hread, hbad⟩ | ⟨hread, hreadable⟩
  · refine .inr ⟨e, ?_, .inl hbad⟩
    rw [dropServer, Op.exec_bind_ok (Op.exec_db d)]
    exact Op.exec_bind_error (by rw [Op.exec_ofExcept, Database.readCredentialsOf, hread])
  · by_cases hfree : ∀ p ∈ d.db.projects, ∀ s ∈ d.db.sites, p.siteId = some s.id →
        s.credentialsId ∉ d.db.credentialIds server
    · exact .inl ⟨exec_dropServer_ok hp hread hfree, hreadable, hfree⟩
    · simp only [not_forall, not_not] at hfree
      obtain ⟨p, hpm, s, hs, hi, hc⟩ := hfree
      exact .inr ⟨_, exec_dropServer_error hread hpm hs hi hc, .inr ⟨p, hpm, s, hs, hi, hc⟩⟩

/-! ## The removal -/

namespace Deployment

/-- Why the removal of a server halts, with what fault, and what it leaves of the catalogue. -/
inductive ServerHalted (d : Deployment) (orgName : String) (server : Id) :
    Fault → Database → Prop where
  | absent {e : Fault} (h : d.db.findServer? server = none) : ServerHalted d orgName server e d.db
  | unreadable {e : Fault} {s : Server} (hs : d.db.findServer? server = some s) (h : ¬ s.Readable) :
      ServerHalted d orgName server e d.db
  /-- One of its projects cannot be removed. Those before it are gone. -/
  | project {done rest : List Id} {i : Id} {e : Fault} {db' : Database}
      (hi : d.db.projectIdsOn (some server) = done ++ i :: rest)
      (h : (d.passed orgName done).Halted orgName i e db') : ServerHalted d orgName server e db'
  /-- A credential cannot be read. The projects are gone. -/
  | credential {e : Fault} {c : Credential} (hc : c ∈ d.db.credentialsOf (some server))
      (h : ¬ c.Readable) : ServerHalted d orgName server e (d.db.prune (d.db.projectsUnder server))
  /-- A site is in use elsewhere. The projects are gone. -/
  | site {e : Fault} (h : ¬ d.db.SitesFree server) :
      ServerHalted d orgName server e (d.db.prune (d.db.projectsUnder server))

variable {orgName : String} {e : Fault} {db' : Database}

/-- The folders of all reports below the projects of a server are archived in time. -/
def ServerInTime (d : Deployment) (orgName : String) (server : Id) : Prop :=
  d.InTime orgName (d.db.removalOrder (d.db.projectIdsOn (some server)))

/-- Without cycles and with a known provider, what halts the removal is in its way or takes too long. -/
theorem ServerHalted.not_clear (h : d.ServerHalted orgName server e db') (ha : d.db.Acyclic)
    (hp : d.provider? ≠ none) : ¬ (d.db.Clear server ∧ d.ServerInTime orgName server) := by
  rintro ⟨hc, hin⟩
  cases h with
  | absent h =>
    obtain ⟨s, hs, -⟩ := hc.found
    rw [h] at hs
    cases hs
  | unreadable hs h =>
    obtain ⟨s', hs', hr⟩ := hc.found
    rw [hs] at hs'
    cases hs'
    exact h hr
  | @project done rest i _ _ hi h =>
    cases h with
    | endless h => exact h (ha.prune.exists_subtree _)
    | unreadable h =>
      refine h fun r hr hb => hc.reports r (mem_without.1 hr).1 ?_
      refine ⟨i, ?_, Database.below_of_prune (Database.mem_belowAny_singleton.1 hb)⟩
      rw [hi]
      exact List.mem_append_right _ List.mem_cons_self
    | broken _ h =>
      refine h.not_inTime (by rwa [provider?_passed]) ?_
      rw [ServerInTime, hi, Database.removalOrder_append, inTime_append, Database.removalOrder,
        inTime_append] at hin
      rw [passed, inTime_withDb]
      exact hin.2.1
  | credential hm h => exact h (hc.credentials _ hm)
  | site h => exact h hc.sites

/-- Of the projects of the server, the first are gone and the others as they were, but for the reports of
    the next. -/
theorem ServerHalted.broken (h : d.ServerHalted orgName server e db') :
    ∃ done rest, d.db.projectIdsOn (some server) = done ++ rest ∧
      (db' = d.db.pruneBelow done ∨ ∃ i ∈ rest.head?,
        (d.passed orgName done).Broken orgName .now ((d.db.pruneBelow done).reportsUnder i) e db') := by
  cases h with
  | absent _ | unreadable _ _ => exact ⟨[], _, rfl, .inl Database.pruneBelow_nil.symm⟩
  | project hi h =>
    refine ⟨_, _, hi, ?_⟩
    cases h with
    | endless _ | unreadable _ => exact .inl rfl
    | broken _ h => exact .inr ⟨_, rfl, h⟩
  | credential _ _ | site _ => exact ⟨_, [], (List.append_nil _).symm, .inl rfl⟩

end Deployment

theorem Database.serverId_ne_of_mem_prune {db : Database} {p : Project}
    (hp : p ∈ (db.prune (db.projectsUnder server)).projects) : p.serverId ≠ some server := by
  intro he
  obtain ⟨hm, hstays⟩ := mem_without.1 hp
  refine hstays ⟨p.id, List.mem_map.2 ⟨p, List.mem_filter.2 ⟨hm, by simp [he]⟩, rfl⟩, .refl⟩

/-- **Removing a server** takes all that goes with it, or halts. -/
theorem exec_removeServer (server : Id) (orgName : String) (hn : (d.db.reports.map (·.id)).Nodup) :
    (∃ d', (removeServer server orgName).exec d = (.ok (), d') ∧
        d'.db = d.db.withoutServer server ∧ d.db.Clear server ∧ d.ServerInTime orgName server) ∨
      ∃ e d', (removeServer server orgName).exec d = (.error e, d') ∧
        d.ServerHalted orgName server e d'.db := by
  rw [removeServer, Op.exec_bind_ok (Op.exec_db d)]
  cases hs : d.db.findServer? server with
  | none => exact .inr ⟨_, d, rfl, .absent hs⟩
  | some s =>
    cases hread : s.read with
    | error e =>
      refine .inr ⟨e, d, Op.exec_bind_error (by rw [Op.exec_ofExcept, hread]), .unreadable hs ?_⟩
      intro h
      rw [Server.read_eq_ok_iff.2 ⟨rfl, h⟩] at hread
      cases hread
    | ok x =>
      have hstart : (Op.ofExcept s.read).exec d = (.ok x, d) := by rw [Op.exec_ofExcept, hread]
      rcases exec_removeProjects orgName (d.db.projectIdsOn (some server)) hn with
        ⟨hexec, hreports, hin⟩ | ⟨e, d₁, done, i, rest, hexec, hi, hhalt⟩
      · have hstay : ∀ p ∈ (d.passed orgName (d.db.projectIdsOn (some server))).db.projects,
            p.serverId ≠ some server := fun p hp => Database.serverId_ne_of_mem_prune hp
        rcases exec_dropServer hstay with ⟨hdrop, hcreds, hsites⟩ | ⟨e, hdrop, hcause⟩
        · refine .inl ⟨_, (Op.exec_bind_ok hstart).trans ((Op.exec_bind_ok hexec).trans hdrop), rfl,
            ⟨⟨s, hs, (Server.read_eq_ok_iff.1 hread).2⟩, hreports, hcreds, ?_⟩, hin⟩
          exact fun p hp hout s hs => hsites p (mem_without.2 ⟨hp, hout⟩) s hs
        · refine .inr ⟨e, _, (Op.exec_bind_ok hstart).trans ((Op.exec_bind_ok hexec).trans hdrop), ?_⟩
          rcases hcause with ⟨c, hc, hbad⟩ | ⟨p, hp, s, hs, hi, hc⟩
          · exact .credential hc hbad
          · obtain ⟨hp, hout⟩ := mem_without.1 hp
            exact .site fun hfree => hfree p hp hout s hs hi hc
      · refine .inr ⟨e, d₁, ?_, .project hi hhalt⟩
        exact (Op.exec_bind_ok hstart).trans (Op.exec_bind_error hexec)

/-- **A server goes with all that belongs to it** exactly if the rows that are read on the way can
    be read, no project that stays is on one of its sites, and no folder of its reports takes too long
    to be archived. This holds whichever calls of storage fail. -/
theorem removeServer_ok_iff (server : Id) (orgName : String)
    (hn : (d.db.reports.map (·.id)).Nodup) (ha : d.db.Acyclic) (hp : d.provider? ≠ none) :
    let r := (removeServer server orgName).exec d
    (d.db.findServer? server = none → r = (.error (.badValue "Server not found"), d)) ∧
      (r.1 = .ok () ↔ d.db.Clear server ∧ d.ServerInTime orgName server) ∧
      (r.1 = .ok () → r.2.db = d.db.withoutServer server) := by
  intro r
  refine ⟨fun hs => ?_, ?_⟩
  · simp only [r, removeServer, Op.exec_bind_ok (Op.exec_db d), hs]
    rfl
  · rcases exec_removeServer server orgName hn with
      ⟨d', hr, hdb, hclear⟩ | ⟨e, d', hr, hhalt⟩
    · have hok : r.1 = .ok () := congrArg Prod.fst hr
      refine ⟨iff_of_true hok hclear, fun _ => ?_⟩
      rw [← hdb]
      exact congrArg (·.2.db) hr
    · have herror : r.1 ≠ .ok () := by
        rw [show r.1 = .error e from congrArg Prod.fst hr]
        intro hok
        cases hok
      exact ⟨iff_of_false herror (hhalt.not_clear ha hp), fun hok => absurd hok herror⟩

/-- Two servers. A project on the first has a project of the second below it, on the same site. -/
def crossDeployment : Deployment where
  db :=
    { servers := [Sample.server, { Sample.server with id := .ofNat 201 }]
      credentials := [Sample.credential]
      sites := [Sample.site]
      projects :=
        [Sample.projectAt (.ofNat 300) (some Sample.serverId) (some Sample.siteId) none,
          Sample.projectAt (.ofNat 301) (some (.ofNat 201)) (some Sample.siteId)
            (some (.ofNat 300)),
          Sample.projectAt (.ofNat 302) (some (.ofNat 201)) none none]
      reports :=
        [Sample.reportAt (.ofNat 400) (.ofNat 500) (.ofNat 301),
          Sample.reportAt (.ofNat 401) (.ofNat 501) (.ofNat 302)]
      visuals := [Sample.visualOf (.ofNat 700) (.ofNat 400)] }

theorem removeServer_ok_iff_cross :
    let d := crossDeployment
    d.db.Clear Sample.serverId ∧
      ((removeServer Sample.serverId "Acme").exec d).1 = .ok () ∧
      ((removeServer Sample.serverId "Acme").exec d).2.db = d.db.withoutServer Sample.serverId := by
  intro d
  have hids : d.db.projectIdsOn (some Sample.serverId) = [.ofNat 300] := by decide +kernel
  have hroot : Id.ofNat 300 ∈ d.db.projectsUnder Sample.serverId :=
    ⟨.ofNat 300, by simp [hids], .refl⟩
  have hchild : Id.ofNat 301 ∈ d.db.projectsUnder Sample.serverId :=
    ⟨.ofNat 300, by simp [hids], .single ⟨_, List.mem_cons_of_mem _ List.mem_cons_self, rfl, rfl⟩⟩
  have hclear : d.db.Clear Sample.serverId := by
    refine ⟨⟨Sample.server, rfl, trivial, trivial⟩, ?_, ?_, ?_⟩
    · intro r hr _
      simp only [d, crossDeployment, List.mem_cons, List.not_mem_nil, or_false] at hr
      rcases hr with rfl | rfl
      all_goals
        intro s hs
        cases hs
    · intro c hc
      simp only [Database.credentialsOf, d, crossDeployment, List.mem_filter, List.mem_cons,
        List.not_mem_nil, or_false] at hc
      obtain ⟨rfl, -⟩ := hc
      trivial
    · intro p hp hout s hs hi
      simp only [d, crossDeployment, List.mem_cons, List.not_mem_nil, or_false] at hp
      rcases hp with rfl | rfl | rfl
      · exact absurd hroot hout
      · exact absurd hchild hout
      · cases hi
  have hn : (d.db.reports.map (·.id)).Nodup := by decide +kernel
  have hin : d.ServerInTime "Acme" Sample.serverId :=
    Deployment.inTime_of_seconds fun _ _ => Nat.zero_le _
  have h := removeServer_ok_iff Sample.serverId "Acme" hn (by decide +kernel) (by decide +kernel)
  exact ⟨hclear, h.2.1.2 ⟨hclear, hin⟩, h.2.2 (h.2.1.2 ⟨hclear, hin⟩)⟩

/-- A server of a type that does not exist. -/
def strayServer : Server := { Sample.server with type := .stray "HYBRID" }

/-- A catalogue to which it was admitted. -/
def strayDeployment : Deployment where
  db :=
    { roles := [Sample.role .admin]
      organizations := [Sample.organization]
      users := [Sample.user 0]
      servers := [strayServer] }

/-- Such a server cannot be removed, although nothing is on it. -/
theorem removeServer_stray :
    let d := strayDeployment
    { d.db with servers := [] }.addServer strayServer = .ok d.db ∧
      d.db.Acyclic ∧ d.provider? = some .aws ∧
      d.db.findServer? Sample.serverId = some strayServer ∧ d.db.SitesFree Sample.serverId ∧
      ((removeServer Sample.serverId "Acme").exec d).1 ≠ .ok () := by
  intro d
  refine ⟨by rfl, by decide +kernel, by decide +kernel, by rfl, ?_, ?_⟩
  · intro p hp
    cases hp
  · have h : ((removeServer Sample.serverId "Acme").exec d).1.isOk = false := by decide +kernel
    intro hok
    rw [hok] at h
    cases h

/-! ## What a failure leaves behind -/

theorem broken_removeReport {report : Option Id} {orgName : String} {time : ArchiveTime} {e : Fault}
    {d' : Deployment} (h : (removeReport report orgName time).exec d = (.error e, d')) :
    d'.db = d.db ∨
      d.Broken orgName time (d.db.reports.filter fun r => some r.id = report) e d'.db := by
  cases hr : d.db.report? report with
  | error e' =>
    rw [exec_removeReport_error hr] at h
    cases h
    exact .inl rfl
  | ok o =>
    cases o with
    | none => rw [exec_removeReport_none hr] at h; cases h
    | some r =>
      -- the row that is found is the first of those with the identifier
      obtain ⟨hfind, -⟩ := (mapM_read?_iff fun _ _ => Report.read_eq_ok_iff).1 hr
      rw [← List.head?_filter] at hfind
      obtain ⟨rest, hrs⟩ := List.head?_eq_some_iff.1 hfind.symm
      cases hp : d.provider? with
      | none =>
        rw [exec_removeReport_unsupported _ _ hr hp] at h
        cases h
        exact .inr (.unsupported hrs hp)
      | some p =>
        rw [exec_removeReport_some _ _ hr hp] at h
        cases time with
        | later => cases h
        | now =>
          cases hlate : d.overdue p ⟨orgName, r.reportId⟩ .now with
          | false =>
            rw [if_neg (by simp [hlate])] at h
            cases h
          | true =>
            rw [if_pos hlate] at h
            cases h
            have hfirst : d.late orgName r = true := by simpa only [Deployment.late, hp] using hlate
            have hbroken := Deployment.Broken.first rest hfirst
            rw [← hrs] at hbroken
            exact .inr (by simpa using hbroken)

/-- **What a removal that fails leaves of the catalogue.** A report stays as it was, but for its visuals
    where the provider is unknown or its folder takes too long to be archived. A project stays as it was,
    but for the visuals of one report in these cases, and for the reports that went before it in the
    second. A server stays with its credentials and sites, but the projects that were reached before the
    failure are gone with everything below them, and the next may have lost reports as said. -/
theorem catalogue_after_failure (orgName : String) (hn : (d.db.reports.map (·.id)).Nodup) :
    (∀ report time e d', (removeReport report orgName time).exec d = (.error e, d') →
        d'.db = d.db ∨
          d.Broken orgName time (d.db.reports.filter fun r => some r.id = report) e d'.db) ∧
      (∀ i e d', (removeProject i orgName).exec d = (.error e, d') →
        d'.db = d.db ∨ d.Broken orgName .now (d.db.reportsUnder i) e d'.db) ∧
      ∀ server e d', (removeServer server orgName).exec d = (.error e, d') →
        ∃ done rest, d.db.projectIdsOn (some server) = done ++ rest ∧
          (d'.db = d.db.pruneBelow done ∨ ∃ i ∈ rest.head?,
            (d.passed orgName done).Broken orgName .now ((d.db.pruneBelow done).reportsUnder i) e
              d'.db) := by
  refine ⟨fun report time e d' h => broken_removeReport h, fun i e d' h => ?_,
    fun server e d' h => ?_⟩
  · rcases exec_removeProject orgName (i := i) hn with ⟨hexec, -⟩ | ⟨_, _, hexec, hhalt⟩
    · rw [h] at hexec
      cases hexec
    · rw [h] at hexec
      cases hexec
      generalize d'.db = db' at hhalt ⊢
      cases hhalt with
      | endless _ | unreadable _ => exact .inl rfl
      | broken _ hbroken => exact .inr hbroken
  · rcases exec_removeServer server orgName hn with ⟨_, hexec, -⟩ | ⟨_, _, hexec, hhalt⟩
    · rw [h] at hexec
      cases hexec
    · rw [h] at hexec
      cases hexec
      exact hhalt.broken

/-- A server with a project and a report, and a provider that does not exist. -/
def unsupportedDeployment : Deployment where
  db :=
    { servers := [Sample.server]
      projects := [Sample.projectAt (.ofNat 300) (some Sample.serverId) none none]
      reports := [Sample.reportAt (.ofNat 400) (.ofNat 500) (.ofNat 300)]
      visuals := [Sample.visualOf (.ofNat 700) (.ofNat 400)] }
  env := [("CLOUD_PROVIDER", "gcp")]

/-- A project with two reports, where the folder of the second takes longer than it is waited for. -/
def lateDeployment : Deployment where
  db :=
    { servers := [Sample.server]
      projects := [Sample.projectAt (.ofNat 300) (some Sample.serverId) none none]
      reports :=
        [Sample.reportAt (.ofNat 400) (.ofNat 500) (.ofNat 300),
          Sample.reportAt (.ofNat 401) (.ofNat 501) (.ofNat 300)]
      visuals :=
        [Sample.visualOf (.ofNat 700) (.ofNat 400), Sample.visualOf (.ofNat 701) (.ofNat 401)] }
  archiveSeconds := fun f _ => if f.reportId = .ofNat 501 then 301 else 0

theorem catalogue_after_failure_late :
    let d := lateDeployment
    let r := (removeServer Sample.serverId "Acme").exec d
    r.1.isOk = false ∧ ∃ done rest, d.db.projectIdsOn (some Sample.serverId) = done ++ rest ∧
      (r.2.db = d.db.pruneBelow done ∨ ∃ i ∈ rest.head?, ∃ e, r.1 = .error e ∧
        (d.passed "Acme" done).Broken "Acme" .now ((d.db.pruneBelow done).reportsUnder i) e r.2.db) := by
  intro d r
  have hfail : r.1.isOk = false := by decide +kernel
  have hn : (d.db.reports.map (·.id)).Nodup := by decide +kernel
  refine ⟨hfail, ?_⟩
  rcases hr : r with ⟨e | x, d'⟩
  · obtain ⟨done, rest, hi, h | ⟨i, his, h⟩⟩ := (catalogue_after_failure "Acme" hn).2.2 _ _ _ hr
    · exact ⟨done, rest, hi, .inl h⟩
    · exact ⟨done, rest, hi, .inr ⟨i, his, e, rfl, h⟩⟩
  · rw [hr] at hfail
    cases hfail

/-- A server whose site is in use by a project of another server. -/
def sharedDeployment : Deployment where
  db :=
    { servers := [Sample.server, { Sample.server with id := .ofNat 201 }]
      credentials := [Sample.credential]
      sites := [Sample.site]
      projects :=
        [Sample.projectAt (.ofNat 300) (some Sample.serverId) none none,
          Sample.projectAt (.ofNat 301) (some (.ofNat 201)) (some Sample.siteId) none] }

/-- The visuals of a report are lost although its removal fails, a report and the visuals of another
    although the removal of their project fails, and a project although the removal of its server
    fails. -/
theorem removal_fails_halfway :
    let r := (removeReport (some (.ofNat 400)) "Acme" .now).exec unsupportedDeployment
    let p := (removeProject (.ofNat 300) "Acme").exec lateDeployment
    let s := (removeServer Sample.serverId "Acme").exec sharedDeployment
    (r.1.isOk = false ∧ r.2.db ≠ unsupportedDeployment.db) ∧
      (p.1.isOk = false ∧ p.2.db.reports.map (·.id) = [.ofNat 401] ∧ p.2.db.visuals = []) ∧
      s.1.isOk = false ∧ s.2.db ≠ sharedDeployment.db := by
  intro r p s
  have hr : r.2.db.visuals.length = 0 := by decide +kernel
  have hp : p.2.db.visuals.length = 0 := by decide +kernel
  have hs : s.2.db.projects.length = 1 := by decide +kernel
  refine ⟨⟨by decide +kernel, fun h => ?_⟩,
    ⟨by decide +kernel, by decide +kernel, List.eq_nil_of_length_eq_zero hp⟩,
    by decide +kernel, fun h => ?_⟩
  · rw [h] at hr
    cases hr
  · rw [h] at hs
    cases hs

end

end ReportMigration
