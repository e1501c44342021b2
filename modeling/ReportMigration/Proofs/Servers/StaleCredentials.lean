import ReportMigration.Proofs.Catalogue.Entry
import ReportMigration.Proofs.Secret
import ReportMigration.Sample.Catalogue
import ReportMigration.Servers.StaleCredential
/-!
Tokens that are kept for later.

* `Database.Renames db db'`: the two catalogues differ at most in the site names of these tokens;
* `StaleRequest`: what is asked for or changed of a token that is kept. No request does more than that
  (`StaleRequest.renames_run`), and so no sequence of them (`StaleRequest.renames_runs`);
* `openStaleCredential_of_runs`: the secret of a token is read back as it was given, and kept in written
  form all the time.
-/
namespace ReportMigration

open Op

/-! ## Secrets in written form -/

theorem Secret.encode_eq_empty_iff {s : String} : Secret.encode s = "" ↔ s = "" := by
  constructor
  · intro h
    have hs := Secret.decode_encode s
    rw [h] at hs
    exact Except.ok.inj (hs.symm.trans (Secret.decode_encode ""))
  · rintro rfl
    rfl

/-! ## Site names -/

/-- The token without the name of its site. -/
def StaleCredential.unnamed (s : StaleCredential) : StaleCredential := { s with siteName := none }

namespace Database

variable {db db' db'' : Database} {server : Option Id} {s : StaleCredential}

/-- The two catalogues differ at most in the site names of the tokens that are kept for later. -/
def Renames (db db' : Database) : Prop :=
  ∃ ss, db' = { db with staleCredentials := ss } ∧
    ss.map StaleCredential.unnamed = db.staleCredentials.map StaleCredential.unnamed

theorem Renames.refl (db : Database) : db.Renames db := ⟨db.staleCredentials, rfl, rfl⟩

theorem Renames.trans (h : db.Renames db') (h' : db'.Renames db'') : db.Renames db'' := by
  obtain ⟨ss, rfl, hss⟩ := h
  obtain ⟨ss', rfl, hss'⟩ := h'
  exact ⟨ss', rfl, hss'.trans hss⟩

theorem map_unnamed_staleCredential? (db : Database) (server : Option Id) :
    (db.staleCredential? server).map StaleCredential.unnamed =
      (db.staleCredentials.map StaleCredential.unnamed).find? fun s => some s.serverId = server := by
  rw [List.find?_map]
  rfl

/-- The token of a server is the same up to the name of its site. -/
theorem Renames.staleCredential? (h : db.Renames db') (hs : db.staleCredential? server = some s) :
    ∃ site, db'.staleCredential? server = some { s with siteName := site } := by
  obtain ⟨ss, rfl, hss⟩ := h
  have hmap := map_unnamed_staleCredential? { db with staleCredentials := ss } server
  rw [hss, ← map_unnamed_staleCredential? db server, hs] at hmap
  obtain ⟨s', hs', hunnamed⟩ := Option.map_eq_some_iff.1 hmap
  refine ⟨s'.siteName, hs'.trans (congrArg some ?_)⟩
  obtain ⟨⟩ := s
  obtain ⟨⟩ := s'
  cases hunnamed
  rfl

theorem renames_nameStaleSite (db : Database) (server : Option Id) (site : Option String) :
    db.Renames (db.nameStaleSite server site) := by
  unfold nameStaleSite
  cases db.staleCredential? server with
  | none => exact .refl db
  | some s =>
    refine ⟨_, rfl, ?_⟩
    rw [List.map_map]
    refine List.map_congr_left fun x _ => ?_
    by_cases h : x.id = s.id <;> simp [h, StaleCredential.unnamed]

end Database

/-! ## Reading a token -/

/-- What is answered when the token of a server is read. -/
def Database.openedToken (db : Database) (server : Option Id) :
    Except Fault (Option StaleCredential) :=
  match db.staleCredential? server with
  | none => .ok none
  | some s =>
    if s.tokenSecret.isEmpty then .ok none
    else (Secret.decode s.tokenSecret).map fun secret => some { s with tokenSecret := secret }

/-- **A read changes nothing**: the secret that is read back does not get into the catalogue. -/
theorem exec_openStaleCredential (server : Option Id) (d : Deployment) :
    (openStaleCredential server).exec d = (d.db.openedToken server, d) := by
  rw [openStaleCredential, exec_discarding, exec_bind_ok (exec_db d), Database.openedToken]
  cases d.db.staleCredential? server with
  | none => rfl
  | some s =>
    dsimp only
    by_cases hempty : s.tokenSecret.isEmpty = true
    · rw [if_pos hempty, if_pos hempty]
      rfl
    · rw [if_neg hempty, if_neg hempty, exec_bind, exec_ofExcept]
      cases Secret.decode s.tokenSecret <;> rfl

/-- The secret of a token is read back from its written form, unless it is empty. -/
theorem Database.openedToken_eq {db : Database} {server : Option Id} {s : StaleCredential}
    {secret : String} (hs : db.staleCredential? server = some s)
    (hsecret : s.tokenSecret = Secret.encode secret) :
    db.openedToken server =
      .ok (if secret = "" then none else some { s with tokenSecret := secret }) := by
  have hempty : s.tokenSecret.isEmpty = true ↔ secret = "" := by
    rw [String.isEmpty_iff, hsecret, Secret.encode_eq_empty_iff]
  rw [openedToken, hs]
  dsimp only
  by_cases h : secret = ""
  · rw [if_pos h, if_pos (hempty.2 h)]
  · rw [if_neg h, if_neg (mt hempty.1 h), hsecret, Secret.decode_encode]
    rfl

/-! ## Requests -/

/-- What is asked for or changed of a token that is kept. -/
inductive StaleRequest where
  | read (server : Option Id)
  | rename (server : Option Id) (siteName : Option String)

namespace StaleRequest

/-- The deployment after a request, whether it was answered or not. -/
def run (d : Deployment) : StaleRequest → Deployment
  | read server => ((openStaleCredential server).exec d).2
  | rename server siteName => ((Op.change (·.nameStaleSite server siteName)).exec d).2

/-- The deployment after requests one after the other. -/
def runs (d : Deployment) (rs : List StaleRequest) : Deployment := rs.foldl run d

/-- **One request** changes at most site names. -/
theorem renames_run (d : Deployment) (r : StaleRequest) :
    ∃ db, r.run d = { d with db := db } ∧ d.db.Renames db := by
  cases r with
  | read server =>
    refine ⟨d.db, ?_, .refl _⟩
    rw [run, exec_openStaleCredential]
  | rename server siteName => exact ⟨_, rfl, d.db.renames_nameStaleSite server siteName⟩

/-- **Requests** change at most site names. -/
theorem renames_runs (d : Deployment) (rs : List StaleRequest) :
    ∃ db, runs d rs = { d with db := db } ∧ d.db.Renames db := by
  induction rs generalizing d with
  | nil => exact ⟨d.db, rfl, .refl _⟩
  | cons r rs ih =>
    obtain ⟨db₁, hrun, hrenames₁⟩ := renames_run d r
    obtain ⟨db, hruns, hrenames⟩ := ih { d with db := db₁ }
    refine ⟨db, ?_, hrenames₁.trans hrenames⟩
    rw [runs, List.foldl_cons, hrun]
    exact hruns

end StaleRequest

/-! ## Keeping a token -/

theorem exec_addStaleCredential {form : StaleCredentialForm} {secret : String}
    (hsecret : form.tokenSecret = some secret) (d : Deployment) :
    (addStaleCredential form).exec d =
      match form.toToken secret (form.id.getD (.drawn (d.drawn + 1))) with
      | .error e => (.error e, { d with drawn := d.drawn + if form.id.isSome then 0 else 1 })
      | .ok s => match d.db.addStaleCredential s with
        | .error e => (.error e, { d with drawn := d.drawn + if form.id.isSome then 0 else 1 })
        | .ok db =>
          (.ok s, { d with db := db, drawn := d.drawn + if form.id.isSome then 0 else 1 }) := by
  rw [addStaleCredential, hsecret]
  refine (Op.exec_insertion form.id (form.toToken secret) (fun s db => db.addStaleCredential s) d).trans ?_
  cases form.toToken secret (form.id.getD (.drawn (d.drawn + 1))) with
  | error e => rfl
  | ok s => cases d.db.addStaleCredential s <;> rfl

/-- A token is refused exactly if its identifier is taken, and else it comes after all others. -/
theorem Database.addStaleCredential_cases (db : Database) (s : StaleCredential) :
    (∃ e, db.addStaleCredential s = .error e) ∧ (∃ x ∈ db.staleCredentials, x.id = s.id) ∨
      db.addStaleCredential s = .ok { db with staleCredentials := db.staleCredentials ++ [s] } ∧
        ∀ x ∈ db.staleCredentials, x.id ≠ s.id := by
  unfold addStaleCredential unrepeated
  by_cases htaken : (db.staleCredentials.any fun x => x.id = s.id) = true
  · rw [if_pos htaken]
    exact .inl ⟨⟨_, rfl⟩, by simpa using htaken⟩
  · rw [if_neg htaken]
    exact .inr ⟨rfl, by simpa using htaken⟩

/-- The last token of a server that had none. -/
theorem Database.staleCredential?_append {db : Database} {s : StaleCredential}
    (hnew : ∀ x ∈ db.staleCredentials, x.serverId ≠ s.serverId) :
    { db with staleCredentials := db.staleCredentials ++ [s] }.staleCredential? (some s.serverId) =
      some s := by
  have hnone : (db.staleCredentials.find? fun x => some x.serverId = some s.serverId) = none :=
    List.find?_eq_none.2 fun x hx => by simpa using hnew x hx
  rw [staleCredential?, List.find?_append, hnone]
  simp

section
variable {d : Deployment} {server : Option Id} {s : StaleCredential} {secret : String}

/-- After any requests the token of a server is the one it was, but for the name of its site, and a read
    answers with its secret. -/
theorem exists_open_runs (hs : d.db.staleCredential? server = some s)
    (hsecret : s.tokenSecret = Secret.encode secret) (rs : List StaleRequest) :
    ∃ site, (StaleRequest.runs d rs).db.staleCredential? server = some { s with siteName := site } ∧
      (openStaleCredential server).exec (StaleRequest.runs d rs) =
        (.ok (if secret = "" then none else some { s with siteName := site, tokenSecret := secret }),
          StaleRequest.runs d rs) := by
  obtain ⟨db, hruns, hrenames⟩ := StaleRequest.renames_runs d rs
  obtain ⟨site, hsite⟩ := hrenames.staleCredential? hs
  rw [hruns, exec_openStaleCredential, Database.openedToken_eq hsite hsecret]
  exact ⟨site, hsite, rfl⟩

theorem map_unnamed_runs (d : Deployment) (rs : List StaleRequest) :
    (StaleRequest.runs d rs).db.staleCredentials.map StaleCredential.unnamed =
      d.db.staleCredentials.map StaleCredential.unnamed := by
  obtain ⟨db, hruns, ss, rfl, hss⟩ := StaleRequest.renames_runs d rs
  rw [hruns]
  exact hss

end

/-- A form with all that is needed is refused exactly if its identifier is taken. -/
theorem exec_addStaleCredential_cases (d : Deployment) (i : Option Id) (server : Id)
    (name secret url : String) (site : Option String) :
    let token : StaleCredential :=
      ⟨i.getD (.drawn (d.drawn + 1)), server, name, Secret.encode secret, url, site⟩
    let add := addStaleCredential ⟨i, some server, some name, some secret, some url, site⟩
    (∃ e d', add.exec d = (.error e, d')) ∧ (∃ s ∈ d.db.staleCredentials, s.id = token.id) ∨
      ∃ d', add.exec d = (.ok token, d') ∧ (∀ s ∈ d.db.staleCredentials, s.id ≠ token.id) ∧
        d'.db = { d.db with staleCredentials := d.db.staleCredentials ++ [token] } := by
  intro token add
  have hadd : add.exec d = _ := exec_addStaleCredential rfl d
  have htoken : StaleCredentialForm.toToken ⟨i, some server, some name, some secret, some url, site⟩
      secret (i.getD (.drawn (d.drawn + 1))) = .ok token := rfl
  rw [htoken] at hadd
  dsimp only at hadd
  rcases d.db.addStaleCredential_cases token with ⟨⟨e, herror⟩, htaken⟩ | ⟨hok, hfresh⟩
  · rw [herror] at hadd
    exact .inl ⟨⟨e, _, hadd⟩, htaken⟩
  · rw [hok] at hadd
    exact .inr ⟨_, hadd, hfresh, rfl⟩

/-- **The secret of a token is read back as it was given, and kept in written form.** A token is added
    for a server that has none, which succeeds exactly if its identifier is new. From then on, whatever is
    read and renamed, all tokens are kept as they are but for the names of their sites, and a read answers
    with the secret, or with nothing if that is empty. -/
theorem openStaleCredential_of_runs (d : Deployment) (i : Option Id) (server : Id)
    (name secret url : String) (site : Option String)
    (hnew : ∀ s ∈ d.db.staleCredentials, s.serverId ≠ server) :
    let id := i.getD (.drawn (d.drawn + 1))
    let add := addStaleCredential ⟨i, some server, some name, some secret, some url, site⟩
    ((∃ token d', add.exec d = (.ok token, d')) ↔ ∀ s ∈ d.db.staleCredentials, s.id ≠ id) ∧
    ∀ token d', add.exec d = (.ok token, d') → ∀ rs,
      let d'' := StaleRequest.runs d' rs
      d''.db.staleCredentials.map StaleCredential.unnamed =
        (d.db.staleCredentials ++ [token]).map StaleCredential.unnamed ∧
      ∃ site', let stored : StaleCredential := ⟨id, server, name, Secret.encode secret, url, site'⟩
        d''.db.staleCredential? (some server) = some stored ∧
        (openStaleCredential (some server)).exec d'' =
          (.ok (if secret = "" then none else some { stored with tokenSecret := secret }), d'') := by
  intro id add
  rcases exec_addStaleCredential_cases d i server name secret url site with
    ⟨⟨e, d₁, hadd⟩, s, hs, htaken⟩ | ⟨d₁, hadd, hfresh, hdb⟩
  · have hnone : ∀ token d', add.exec d ≠ (.ok token, d') := by
      intro token d' h
      cases hadd.symm.trans h
    refine ⟨iff_of_false ?_ fun hfresh => hfresh s hs htaken, fun token d' h => absurd h (hnone token d')⟩
    rintro ⟨token, d', h⟩
    exact hnone token d' h
  · refine ⟨iff_of_true ⟨_, _, hadd⟩ hfresh, fun token d' h rs => ?_⟩
    cases hadd.symm.trans h
    have hkept : d₁.db.staleCredential? (some server) =
        some ⟨id, server, name, Secret.encode secret, url, site⟩ := by
      rw [hdb]
      exact Database.staleCredential?_append hnew
    refine ⟨?_, exists_open_runs hkept rfl rs⟩
    rw [map_unnamed_runs, hdb]

/-- A server with a token, whose secret cannot be read back. -/
def staleDeployment : Deployment where
  db := { staleCredentials := [{ Sample.staleCredential with tokenSecret := "?" }] }

theorem openStaleCredential_of_runs_umlaut :
    let server := Id.ofNat 201
    let add := addStaleCredential
      ⟨none, some server, some "reader", some "Schlüssel", some "http://t", some ""⟩
    (∀ s ∈ staleDeployment.db.staleCredentials, s.serverId ≠ server) ∧
      ∃ token d', add.exec staleDeployment = (.ok token, d') ∧
        let d'' := StaleRequest.runs d'
          [.read (some server), .rename (some server) (some "west"), .read (some Sample.serverId)]
        ∃ site', let stored : StaleCredential :=
            ⟨.drawn 1, server, "reader", Secret.encode "Schlüssel", "http://t", site'⟩
          d''.db.staleCredential? (some server) = some stored ∧
          (openStaleCredential (some server)).exec d'' =
            (.ok (some { stored with tokenSecret := "Schlüssel" }), d'') := by
  intro server add
  have hnew : ∀ s ∈ staleDeployment.db.staleCredentials, s.serverId ≠ server := by decide +kernel
  obtain ⟨hadds, hruns⟩ :=
    openStaleCredential_of_runs staleDeployment none server "reader" "Schlüssel" "http://t" (some "") hnew
  obtain ⟨token, d', hadd⟩ := hadds.2 (by decide +kernel)
  obtain ⟨-, hopen⟩ := hruns token d' hadd
    [.read (some server), .rename (some server) (some "west"), .read (some Sample.serverId)]
  exact ⟨hnew, token, d', hadd, hopen⟩

end ReportMigration
