import ReportMigration.Accounts.Caller
import ReportMigration.Proofs.Services
import ReportMigration.Proofs.Value
/-!
Who makes a request.

Two services read the headers of a request, and may answer anything or raise anything. What is found
then is a function of their answers (`Caller.finding`).

* `Caller.Bears`, `Caller.States`: a header with a token, and what a token states;
* `Caller.Reads d authorization encoded email stated`: the services read an address and a statement;
* `Caller.Identifies d authorization encoded c`: the two name the caller `c`;
* `Caller.Breaks d authorization encoded`: the headers cannot be gone through, with a fault that has no
  status;
* `Caller.finding_eq_ok_iff`, `Caller.broken_finding_iff`: these are the two ways in which the search does
  not end in a fault with a status;
* `callers_iff`: both ways to ask for the caller find the same one. One of them reports every failure with
  a status, the other exactly those that have one;
* `Caller.checkBlocked_cases`: requests are turned away by comparing the address in them with the list;
* `blocked_domains_iff`: the list has domains, so that this never hits an address.
-/
namespace ReportMigration

/-! ## Faults without a status -/

/-- The answer is a fault that has no status. -/
def Broken {α : Type} (r : Except Fault α) : Prop := ∃ f, r = .error f ∧ f.status? = none

section
variable {α β : Type} {x : Except Fault α}

theorem not_broken_ok (a : α) : ¬ Broken (.ok a : Except Fault α) := by
  rintro ⟨f, h, -⟩
  cases h

theorem broken_error_iff {f : Fault} : Broken (.error f : Except Fault α) ↔ f.status? = none := by
  constructor
  · rintro ⟨g, h, hg⟩
    cases h
    exact hg
  · exact fun h => ⟨f, rfl, h⟩

theorem broken_bind_iff {k : α → Except Fault β} :
    Broken (x >>= k) ↔ Broken x ∨ ∃ a, x = .ok a ∧ Broken (k a) := by
  cases x with
  | error f =>
    have hbind : Broken (.error f >>= k) ↔ f.status? = none := broken_error_iff
    rw [hbind, broken_error_iff]
    refine ⟨.inl, ?_⟩
    rintro (h | ⟨a, h, -⟩)
    · exact h
    · cases h
  | ok a =>
    refine ⟨fun h => .inr ⟨a, rfl, h⟩, ?_⟩
    rintro (h | ⟨b, hb, h⟩)
    · exact absurd h (not_broken_ok a)
    · cases hb
      exact h

/-- What never fails with a status is broken wherever it does not answer. -/
theorem broken_iff_of_bare (h : ∀ f, x = .error f → f.status? = none) :
    Broken x ↔ ∀ a, x ≠ .ok a := by
  cases x with
  | error f =>
    rw [broken_error_iff]
    exact iff_of_true (h f rfl) fun a ha => by cases ha
  | ok a => exact iff_of_false (not_broken_ok a) fun hno => hno a rfl

end

namespace Caller

variable {d : Deployment} {db : Database} {authorization encoded email read : Value} {stated role : Json}
  {c : Caller}

/-! ## The parts of the search -/

/-- The token in a header. -/
def tokenOf (header : String) : String := (header.splitOn " ").getD 1 ""

/-- A header with a token. -/
inductive Bears : Value → String → Prop
  | intro {header : String} (h : header.startsWith "Bearer " = true) : Bears (.text header) (tokenOf header)

theorem token_eq_ok_iff {t : String} : token authorization = .ok t ↔ Bears authorization t := by
  constructor
  · intro h
    cases authorization with
    | text s =>
      rw [token] at h
      split at h
      next hs =>
        cases h
        exact ⟨hs⟩
      next => cases h
    | _ => cases h
  · rintro ⟨hheader⟩
    rw [token, if_pos hheader]
    rfl

theorem broken_token_iff : Broken (token authorization) ↔ ∀ header, authorization ≠ .text header := by
  constructor
  · rintro ⟨f, h, hf⟩ header rfl
    rw [token] at h
    split at h
    · cases h
    · cases h
      cases hf
  · intro h
    cases authorization with
    | text s => exact absurd rfl (h s)
    | _ => exact ⟨_, rfl, rfl⟩

/-- What was read in a token has a text that states something. -/
inductive States : Value → Json → Prop
  | intro {fs : List (String × Value)} {sub : String} {stated : Json}
      (h : Value.field? "sub" fs = some (.text sub)) (hread : Json.read sub = .ok stated) :
      States (.map fs) stated

theorem subject_eq_ok_iff : subject read = .ok stated ↔ States read stated := by
  constructor
  · intro h
    obtain ⟨v, hv, h⟩ := exists_of_bind_eq_ok h
    cases read with
    | map fs =>
      cases hv
      cases hsub : Value.field? "sub" fs with
      | none => rw [hsub] at h; cases h
      | some v =>
        rw [hsub] at h
        cases v with
        | text sub =>
          refine ⟨hsub, ?_⟩
          change (Json.read sub).mapError _ = .ok stated at h
          cases hread : Json.read sub with
          | error e => rw [hread] at h; cases h
          | ok j => rw [hread] at h; cases h; rfl
        | _ => cases h
    | _ => cases hv
  · intro h
    cases h with
    | @intro fs sub _ hsub hread =>
      have hentry : entry "sub" (.map fs) = .ok (.text sub) := by rw [entry, hsub]; rfl
      rw [subject, bind_of_eq_ok hentry, statement, hread]
      rfl

theorem status?_of_subject {f : Fault} (h : subject read = .error f) : f.status? = none := by
  cases read with
  | map fs =>
    have hentry : entry "sub" (.map fs) = .ok ((Value.field? "sub" fs).getD .null) := rfl
    rw [subject, bind_of_eq_ok hentry] at h
    cases hv : (Value.field? "sub" fs).getD .null with
    | text sub =>
      rw [hv, statement] at h
      cases hread : Json.read sub with
      | error e => rw [hread] at h; cases h; rfl
      | ok j => rw [hread] at h; cases h
    | _ => rw [hv] at h; cases h; rfl
  | _ => cases h; rfl

theorem status?_of_pattern {f : Fault} (h : pattern email = .error f) : f.status? = none := by
  cases email <;> cases h <;> rfl

theorem status?_of_profile {u : User} {f : Fault} (h : db.profile u = .error f) : f.status? = none := by
  unfold Database.profile at h
  cases hrole : db.findRole? u.roleId with
  | none => rw [hrole] at h; cases h
  | some r =>
    rw [hrole, Option.mapM_some, Role.read] at h
    cases hname : r.name with
    | known n => rw [hname] at h; cases h
    | stray t => rw [hname] at h; cases h; rfl

/-! ## The user of an address -/

theorem lookUp_eq_ok_iff : lookUp db email role = .ok c ↔
    ∃ p u profile, pattern email = .ok p ∧ db.userByEmail? p = some u ∧ db.profile u = .ok profile ∧
      c = ⟨profile, role⟩ := by
  constructor
  · intro h
    obtain ⟨p, hp, h⟩ := exists_of_bind_eq_ok h
    cases hu : db.userByEmail? p with
    | none => rw [hu] at h; cases h
    | some u =>
      rw [hu] at h
      obtain ⟨profile, hprofile, h⟩ := exists_of_bind_eq_ok h
      cases h
      exact ⟨p, u, profile, hp, hu, hprofile, rfl⟩
  · rintro ⟨p, u, profile, hp, hu, hprofile, rfl⟩
    rw [lookUp, bind_of_eq_ok hp, hu]
    dsimp only
    rw [bind_of_eq_ok hprofile]
    rfl

theorem broken_lookUp_iff : Broken (lookUp db email role) ↔
    (∀ p, pattern email ≠ .ok p) ∨
      ∃ p u, pattern email = .ok p ∧ db.userByEmail? p = some u ∧ ∀ profile, db.profile u ≠ .ok profile := by
  rw [lookUp, broken_bind_iff, broken_iff_of_bare fun _ => status?_of_pattern]
  refine or_congr_right (exists_congr fun p => ?_)
  cases hu : db.userByEmail? p with
  | none =>
    refine iff_of_false ?_ ?_
    · rintro ⟨-, f, h, hf⟩
      cases h
      cases hf
    · rintro ⟨u, -, h, -⟩
      cases h
  | some u =>
    dsimp only
    rw [broken_bind_iff, broken_iff_of_bare fun _ => status?_of_profile]
    constructor
    · rintro ⟨hp, h | ⟨profile, -, h⟩⟩
      · exact ⟨u, hp, rfl, h⟩
      · exact absurd h (not_broken_ok _)
    · rintro ⟨u', hp, hu', h⟩
      cases hu'
      exact ⟨hp, .inl h⟩

/-! ## The holder of a token -/

theorem holder_of_role (h : stated.get? "role" = some role) (hrole : role.isTruthy = true) :
    holder db email stated = lookUp db email role := by
  cases stated with
  | obj fs =>
    have hentry : entry "role" (.ofJson (.obj fs)) = .ok (.ofJson role) := by
      rw [Value.ofJson, entry, Value.field?_ofFields, show Json.getField? "role" fs = some role from h]
      rfl
    have hstated : (Json.obj fs).isTruthy = true := by
      cases fs with
      | nil => cases h
      | cons f fs => rfl
    rw [holder, hstated, if_neg (by decide), bind_of_eq_ok hentry]
    simp [hrole]
  | _ => cases h

/-- Without a role nobody is found. It is a refusal unless the statement, though it is one, has no
    entries at all. -/
theorem holder_of_no_role (db : Database) (email : Value)
    (h : ∀ role, stated.get? "role" = some role → role.isTruthy = false) :
    ∃ f, holder db email stated = .error f ∧
      (f.status? = none ↔ stated.isTruthy = true ∧ ∀ fs, stated ≠ .obj fs) := by
  cases htruthy : stated.isTruthy with
  | false =>
    refine ⟨.refuse .authentication "Invalid token", ?_, ?_⟩
    · rw [holder, htruthy]
      rfl
    · exact iff_of_false (fun hf => by cases hf) fun hs => by cases hs.1
  | true =>
    cases stated with
    | obj fs =>
      refine ⟨.refuse .authentication "Role not found in token", ?_, ?_⟩
      · have hentry : entry "role" (.ofJson (.obj fs)) =
            .ok (((Json.getField? "role" fs).map Value.ofJson).getD .null) := by
          rw [Value.ofJson, entry, Value.field?_ofFields]
        have hfalsy : (((Json.getField? "role" fs).map Value.ofJson).getD .null).isTruthy = false := by
          cases hrole : Json.getField? "role" fs with
          | none => rfl
          | some role =>
            rw [Option.map_some, Option.getD_some, Value.isTruthy_ofJson]
            exact h role hrole
        rw [holder, htruthy, if_neg (by decide), bind_of_eq_ok hentry, hfalsy]
        rfl
      · exact iff_of_false (fun hf => by cases hf) fun hs => hs.2 fs rfl
    | _ =>
      refine ⟨_, by rw [holder, htruthy]; rfl, iff_of_true rfl ⟨rfl, fun fs hfs => by cases hfs⟩⟩

theorem holder_eq_ok_iff : holder db email stated = .ok c ↔
    ∃ role, stated.get? "role" = some role ∧ role.isTruthy = true ∧ lookUp db email role = .ok c := by
  constructor
  · intro h
    by_cases hrole : ∃ role, stated.get? "role" = some role ∧ role.isTruthy = true
    · obtain ⟨role, hget, htruthy⟩ := hrole
      rw [holder_of_role hget htruthy] at h
      exact ⟨role, hget, htruthy, h⟩
    · obtain ⟨f, hf, -⟩ := holder_of_no_role db email fun role hget =>
        Bool.eq_false_iff.2 fun htruthy => hrole ⟨role, hget, htruthy⟩
      rw [hf] at h
      cases h
  · rintro ⟨role, hget, htruthy, h⟩
    rw [holder_of_role hget htruthy, h]

theorem broken_holder_iff : Broken (holder db email stated) ↔
    (stated.isTruthy = true ∧ ∀ fs, stated ≠ .obj fs) ∨
      ∃ role, stated.get? "role" = some role ∧ role.isTruthy = true ∧ Broken (lookUp db email role) := by
  by_cases hrole : ∃ role, stated.get? "role" = some role ∧ role.isTruthy = true
  · obtain ⟨role, hget, htruthy⟩ := hrole
    rw [holder_of_role hget htruthy]
    refine ⟨fun h => .inr ⟨role, hget, htruthy, h⟩, ?_⟩
    rintro (⟨-, hno⟩ | ⟨role', hget', -, h⟩)
    · cases stated with
      | obj fs => exact absurd rfl (hno fs)
      | _ => cases hget
    · rw [hget] at hget'
      cases hget'
      exact h
  · obtain ⟨f, hf, hbare⟩ := holder_of_no_role db email fun role hget =>
      Bool.eq_false_iff.2 fun htruthy => hrole ⟨role, hget, htruthy⟩
    rw [hf, broken_error_iff, hbare]
    refine ⟨.inl, ?_⟩
    rintro (h | ⟨role, hget, htruthy, -⟩)
    · exact h
    · exact absurd ⟨role, hget, htruthy⟩ hrole

/-! ## The whole search -/

/-- The services read an address and a statement in the headers of a request. -/
inductive Reads (d : Deployment) (authorization encoded : Value) : Value → Json → Prop
  | intro {t : String} {email read : Value} {stated : Json} (token : Bears authorization t)
      (address : d.answer "decode_base" [encoded] = .ok email)
      (answers : d.answer "decode_secure_jwt" [.text t, email] = .ok read) (states : States read stated) :
      Reads d authorization encoded email stated

/-- The headers of a request name a caller: the token states a role, and the address is that of a user
    whose row can be read. -/
inductive Identifies (d : Deployment) (authorization encoded : Value) : Caller → Prop
  | intro {email : Value} {stated role : Json} {p : Option String} {u : User} {profile : UserProfile}
      (reads : Reads d authorization encoded email stated)
      (states : stated.get? "role" = some role) (truthy : role.isTruthy = true)
      (address : pattern email = .ok p) (user : d.db.userByEmail? p = some u)
      (row : d.db.profile u = .ok profile) : Identifies d authorization encoded ⟨profile, role⟩

/-- The headers of a request cannot be gone through. -/
inductive Breaks (d : Deployment) (authorization encoded : Value) : Prop
  | header (h : ∀ header, authorization ≠ .text header)
  | address {t : String} (token : Bears authorization t) (h : Broken (d.answer "decode_base" [encoded]))
  | token {t : String} {email : Value} (token : Bears authorization t)
      (address : d.answer "decode_base" [encoded] = .ok email)
      (h : Broken (d.answer "decode_secure_jwt" [.text t, email]))
  | subject {t : String} {email read : Value} (token : Bears authorization t)
      (address : d.answer "decode_base" [encoded] = .ok email)
      (answers : d.answer "decode_secure_jwt" [.text t, email] = .ok read)
      (h : ∀ stated, ¬ States read stated)
  | statement {email : Value} {stated : Json} (reads : Reads d authorization encoded email stated)
      (truthy : stated.isTruthy = true) (h : ∀ fs, stated ≠ .obj fs)
  | pattern {email : Value} {stated role : Json} (reads : Reads d authorization encoded email stated)
      (states : stated.get? "role" = some role) (truthy : role.isTruthy = true)
      (h : ∀ p, pattern email ≠ .ok p)
  | row {email : Value} {stated role : Json} {p : Option String} {u : User}
      (reads : Reads d authorization encoded email stated)
      (states : stated.get? "role" = some role) (truthy : role.isTruthy = true)
      (address : pattern email = .ok p) (user : d.db.userByEmail? p = some u)
      (h : ∀ profile, d.db.profile u ≠ .ok profile)

/-- What the services read in the headers of a request. -/
def reading (d : Deployment) (authorization encoded : Value) : Except Fault (Value × Json) := do
  let t ← token authorization
  let email ← d.answer "decode_base" [encoded]
  let read ← d.answer "decode_secure_jwt" [.text t, email]
  return (email, ← subject read)

/-- Who is found for the headers of a request. -/
def finding (d : Deployment) (authorization encoded : Value) : Except Fault Caller := do
  let (email, stated) ← reading d authorization encoded
  holder d.db email stated

theorem answers_claims (d : Deployment) (token email : Value) :
    (claims token email).Answers d (d.answer "decode_secure_jwt" [token, email] >>= subject) :=
  .bind (.call _ _) fun _ => .ofExcept _

theorem answers_identify (d : Deployment) (authorization encoded : Value) :
    (identify authorization encoded).Answers d (finding d authorization encoded) := by
  have hfinding : finding d authorization encoded = (do
      let t ← token authorization
      let email ← d.answer "decode_base" [encoded]
      let stated ← d.answer "decode_secure_jwt" [.text t, email] >>= subject
      let db ← .ok d.db
      holder db email stated) := by
    simp only [finding, reading, bind_assoc, pure_bind]
    rfl
  rw [hfinding]
  exact .bind (.ofExcept _) fun t => .bind (.call _ _) fun email =>
    .bind (answers_claims d (.text t) email) fun stated => .bind .db fun db => .ofExcept _

/-- Whatever is reported, the search itself is the same. -/
theorem exec_ask (authorization encoded : Value) (d : Deployment) : ∃ cs, ∀ report,
    (ask report authorization encoded).exec d =
      ((finding d authorization encoded).mapError report, { d with calls := cs }) := by
  obtain ⟨cs, h⟩ := answers_identify d authorization encoded d.calls
  refine ⟨cs, fun report => ?_⟩
  have hattempt : (identify authorization encoded).attempt.exec d =
      (.ok (finding d authorization encoded), { d with calls := cs }) := by
    rw [Op.exec_attempt, h]
  rw [ask, Op.exec_bind_ok hattempt]
  cases finding d authorization encoded <;> rfl

theorem reading_eq_ok_iff : reading d authorization encoded = .ok (email, stated) ↔
    Reads d authorization encoded email stated := by
  constructor
  · intro h
    obtain ⟨t, ht, h⟩ := exists_of_bind_eq_ok h
    obtain ⟨email', hemail, h⟩ := exists_of_bind_eq_ok h
    obtain ⟨read, hread, h⟩ := exists_of_bind_eq_ok h
    obtain ⟨stated', hstated, h⟩ := exists_of_bind_eq_ok h
    cases h
    exact ⟨token_eq_ok_iff.1 ht, hemail, hread, subject_eq_ok_iff.1 hstated⟩
  · rintro ⟨htoken, hemail, hread, hstates⟩
    rw [reading, bind_of_eq_ok (token_eq_ok_iff.2 htoken), bind_of_eq_ok hemail, bind_of_eq_ok hread,
      bind_of_eq_ok (subject_eq_ok_iff.2 hstates)]
    rfl

theorem finding_eq_ok_iff : finding d authorization encoded = .ok c ↔
    Identifies d authorization encoded c := by
  constructor
  · intro h
    obtain ⟨⟨email, stated⟩, hreading, h⟩ := exists_of_bind_eq_ok h
    obtain ⟨role, hget, htruthy, h⟩ := holder_eq_ok_iff.1 h
    obtain ⟨p, u, profile, hp, hu, hprofile, rfl⟩ := lookUp_eq_ok_iff.1 h
    exact ⟨reading_eq_ok_iff.1 hreading, hget, htruthy, hp, hu, hprofile⟩
  · rintro ⟨hreads, hget, htruthy, hp, hu, hprofile⟩
    rw [finding, bind_of_eq_ok (reading_eq_ok_iff.2 hreads)]
    exact holder_eq_ok_iff.2 ⟨_, hget, htruthy, lookUp_eq_ok_iff.2 ⟨_, _, _, hp, hu, hprofile, rfl⟩⟩

theorem broken_reading_iff : Broken (reading d authorization encoded) ↔
    (∀ header, authorization ≠ .text header) ∨ ∃ t, Bears authorization t ∧
      (Broken (d.answer "decode_base" [encoded]) ∨ ∃ email, d.answer "decode_base" [encoded] = .ok email ∧
        (Broken (d.answer "decode_secure_jwt" [.text t, email]) ∨
          ∃ read, d.answer "decode_secure_jwt" [.text t, email] = .ok read ∧
            ∀ stated, ¬ States read stated)) := by
  have hsubject : ∀ email read : Value, Broken (do return (email, ← subject read)) ↔
      ∀ stated, ¬ States read stated := by
    intro email read
    rw [broken_bind_iff, broken_iff_of_bare fun _ => status?_of_subject]
    simp only [ne_eq, subject_eq_ok_iff]
    refine ⟨?_, .inl⟩
    rintro (h | ⟨stated, -, h⟩)
    · exact h
    · exact absurd h (not_broken_ok _)
  simp only [reading, broken_bind_iff (x := token authorization), broken_token_iff,
    token_eq_ok_iff, broken_bind_iff (x := d.answer _ _), hsubject]

theorem broken_finding_iff : Broken (finding d authorization encoded) ↔
    Breaks d authorization encoded := by
  rw [finding, broken_bind_iff, broken_reading_iff]
  constructor
  · rintro ((h | ⟨t, ht, h | ⟨email, hemail, h | ⟨read, hread, h⟩⟩⟩) | ⟨⟨email, stated⟩, hreading, h⟩)
    · exact .header h
    · exact .address ht h
    · exact .token ht hemail h
    · exact .subject ht hemail hread h
    · have hreads := reading_eq_ok_iff.1 hreading
      obtain ⟨htruthy, h⟩ | ⟨role, hget, htruthy, h⟩ := broken_holder_iff.1 h
      · exact .statement hreads htruthy h
      · obtain h | ⟨p, u, hp, hu, h⟩ := broken_lookUp_iff.1 h
        · exact .pattern hreads hget htruthy h
        · exact .row hreads hget htruthy hp hu h
  · intro h
    cases h with
    | header h => exact .inl (.inl h)
    | address ht h => exact .inl (.inr ⟨_, ht, .inl h⟩)
    | token ht hemail h => exact .inl (.inr ⟨_, ht, .inr ⟨_, hemail, .inl h⟩⟩)
    | subject ht hemail hread h => exact .inl (.inr ⟨_, ht, .inr ⟨_, hemail, .inr ⟨_, hread, h⟩⟩⟩)
    | statement hreads htruthy h =>
      exact .inr ⟨_, reading_eq_ok_iff.2 hreads, broken_holder_iff.2 (.inl ⟨htruthy, h⟩)⟩
    | pattern hreads hget htruthy h =>
      exact .inr ⟨_, reading_eq_ok_iff.2 hreads, broken_holder_iff.2
        (.inr ⟨_, hget, htruthy, broken_lookUp_iff.2 (.inl h)⟩)⟩
    | row hreads hget htruthy hp hu h =>
      exact .inr ⟨_, reading_eq_ok_iff.2 hreads, broken_holder_iff.2
        (.inr ⟨_, hget, htruthy, broken_lookUp_iff.2 (.inr ⟨_, _, hp, hu, h⟩)⟩)⟩

/-! ## Reports -/

/-- One of the reports has a status for every cause. -/
theorem reported_eq_http (f : Fault) :
    ∃ status ∈ [401, 403, 500], ∃ text, reported f = .http status (.str text) := by
  cases f with
  | refused r =>
    rw [reported]
    split
    · exact ⟨401, by simp, _, rfl⟩
    · split
      · exact ⟨403, by simp, _, rfl⟩
      · exact ⟨500, by simp, _, rfl⟩
  | _ => exact ⟨500, by simp, _, rfl⟩

/-- The other has one exactly where the cause has one. -/
theorem isRefusal_reportedByStatus_iff (f : Fault) :
    (reportedByStatus f).isRefusal = true ↔ f.status? ≠ none := by
  rw [reportedByStatus]
  cases f.status? with
  | some status => exact iff_of_true rfl (Option.some_ne_none status)
  | none => exact iff_of_false Bool.false_ne_true (not_not_intro rfl)

end Caller

/-- Both ways to ask for the caller find the same one, and only note the calls of the services. One reports
    every failure with a status; the other does so exactly if the headers can be gone through. -/
theorem callers_iff (d : Deployment) (authorization encoded : Value) :
    (∃ cs, ((Caller.current authorization encoded).exec d).2 = { d with calls := cs } ∧
      ((Caller.recent authorization encoded).exec d).2 = { d with calls := cs }) ∧
    (∀ c, ((Caller.current authorization encoded).exec d).1 = .ok c ↔
      Caller.Identifies d authorization encoded c) ∧
    (∀ c, ((Caller.recent authorization encoded).exec d).1 = .ok c ↔
      Caller.Identifies d authorization encoded c) ∧
    (∀ f, ((Caller.current authorization encoded).exec d).1 = .error f →
      ∃ status ∈ [401, 403, 500], ∃ text, f = .http status (.str text)) ∧
    ((∀ f, ((Caller.recent authorization encoded).exec d).1 = .error f → f.isRefusal = true) ↔
      ¬ Caller.Breaks d authorization encoded) := by
  obtain ⟨cs, hask⟩ := Caller.exec_ask authorization encoded d
  rw [Caller.current, Caller.recent, hask, hask]
  have hok : ∀ (report : Fault → Fault) (c : Caller),
      (Caller.finding d authorization encoded).mapError report = .ok c ↔
        Caller.Identifies d authorization encoded c := by
    intro report c
    rw [← Caller.finding_eq_ok_iff]
    cases Caller.finding d authorization encoded with
    | error f => exact iff_of_false (fun h => by cases h) fun h => by cases h
    | ok c' => rfl
  refine ⟨⟨cs, rfl, rfl⟩, hok _, hok _, ?_, ?_⟩
  · intro f h
    cases hfinding : Caller.finding d authorization encoded with
    | error g =>
      rw [hfinding] at h
      cases h
      exact Caller.reported_eq_http g
    | ok c =>
      rw [hfinding] at h
      cases h
  · rw [← Caller.broken_finding_iff]
    cases Caller.finding d authorization encoded with
    | error g =>
      rw [broken_error_iff, ← ne_eq, ← Caller.isRefusal_reportedByStatus_iff]
      exact ⟨fun h => h _ rfl, fun h f hf => by cases hf; exact h⟩
    | ok c => exact iff_of_true (fun f hf => by cases hf) (not_broken_ok c)

/-- A service that raises a fault without a status is reported with one in one way and without in the
    other. -/
theorem callers_iff_raising :
    let d : Deployment := { script := [("decode_base", .value (.text "ann@example.com")),
      ("decode_secure_jwt", .raise (.badValue "bad"))] }
    Caller.Breaks d (.text "Bearer token") (.text "encoded") ∧
    (∃ f, ((Caller.recent (.text "Bearer token") (.text "encoded")).exec d).1 = .error f ∧
      f.isRefusal = false) ∧
    ∀ f, ((Caller.current (.text "Bearer token") (.text "encoded")).exec d).1 = .error f →
      f.isRefusal = true := by
  intro d
  obtain ⟨-, -, -, hcurrent, hrecent⟩ := callers_iff d (.text "Bearer token") (.text "encoded")
  have hbreaks : Caller.Breaks d (.text "Bearer token") (.text "encoded") :=
    .token ⟨by simp⟩ (d.answer_value rfl _)
      ⟨_, d.answer_raise rfl _, rfl⟩
  refine ⟨hbreaks, ?_, fun f hf => ?_⟩
  · by_contra hno
    refine hrecent.1 (fun f hf => ?_) hbreaks
    exact Bool.eq_true_of_not_eq_false fun hbare => hno ⟨f, hf, hbare⟩
  · obtain ⟨status, -, text, rfl⟩ := hcurrent f hf
    rfl

/-! ## Blocked addresses -/

namespace Caller

variable {headers query : List (String × Value)}

/-- Requests are turned away exactly if the address in them, as a whole, is in the list. -/
theorem checkBlocked_cases (headers query : List (String × Value)) :
    (∃ listed ∈ Wording.blockedDomains, requestEmail headers query = .text listed) ∧
      checkBlocked headers query = .error (.refuse .authorization "Access denied. This email is blocked.") ∨
    (∀ listed ∈ Wording.blockedDomains, requestEmail headers query ≠ .text listed) ∧
      checkBlocked headers query = .ok () := by
  cases hemail : requestEmail headers query with
  | text s =>
    by_cases hs : s ∈ Wording.blockedDomains
    · refine .inl ⟨⟨s, hs, rfl⟩, ?_⟩
      rw [checkBlocked, hemail]
      exact if_pos (List.contains_iff_mem.2 hs)
    · refine .inr ⟨fun listed hlisted h => ?_, ?_⟩
      · cases h
        exact hs hlisted
      · rw [checkBlocked, hemail]
        exact if_neg fun h => hs (List.contains_iff_mem.1 h)
  | _ => exact .inr ⟨fun _ _ h => (by cases h), by rw [checkBlocked, hemail]⟩

/-- The list has domains, and no addresses. -/
theorem address_notMem_blockedDomains (localPart domain : String) :
    localPart ++ "@" ++ domain ∉ Wording.blockedDomains := by
  have hlist : ∀ listed ∈ Wording.blockedDomains, '@' ∉ listed.toList := by decide
  exact fun h => hlist _ h (by simp)

theorem isTruthy_address (localPart domain : String) :
    (Value.text (localPart ++ "@" ++ domain)).isTruthy = true := by
  simp [Value.isTruthy]

theorem isTruthy_of_mem_blockedDomains {listed : String} (h : listed ∈ Wording.blockedDomains) :
    (Value.text listed).isTruthy = true := by
  have hlist : ∀ listed ∈ Wording.blockedDomains, (Value.text listed).isTruthy = true := by decide
  exact hlist listed h

/-- The address in the headers hides that in the query. -/
theorem requestEmail_of_header {v : Value} (h : headerEmail headers = some v) (hv : v.isTruthy = true) :
    requestEmail headers query = v := by
  rw [requestEmail, h, Option.getD_some, Value.orElse, if_pos hv]

theorem requestEmail_of_no_header {v : Value} (h : ((headerEmail headers).getD .null).isTruthy = false)
    (hv : Value.field? "email" query = some v) : requestEmail headers query = v := by
  rw [requestEmail, Value.orElse, h, hv]
  rfl

/-- In a request with an address only the header can have something from the list. -/
theorem requestEmail_eq_listed_iff {localPart domain listed : String}
    (h : headerEmail headers = some (.text (localPart ++ "@" ++ domain)) ∨
      Value.field? "email" query = some (.text (localPart ++ "@" ++ domain)))
    (hlisted : listed ∈ Wording.blockedDomains) :
    requestEmail headers query = .text listed ↔ headerEmail headers = some (.text listed) := by
  refine ⟨fun hrequest => ?_, fun hheader =>
    requestEmail_of_header hheader (isTruthy_of_mem_blockedDomains hlisted)⟩
  cases htruthy : ((headerEmail headers).getD .null).isTruthy with
  | true =>
    cases hheader : headerEmail headers with
    | none => rw [hheader] at htruthy; cases htruthy
    | some v =>
      rw [hheader] at htruthy
      rw [← requestEmail_of_header hheader htruthy, hrequest]
  | false =>
    -- then the address is in the query, and it is what is compared
    obtain h | h := h
    · rw [h, Option.getD_some, isTruthy_address] at htruthy
      cases htruthy
    · rw [requestEmail_of_no_header htruthy h] at hrequest
      cases hrequest
      exact absurd hlisted (address_notMem_blockedDomains localPart domain)

end Caller

/-- An address is compared as a whole with the domains in the list. So a request with an address, at
    whichever domain, is let through unless its header has a mere domain. -/
theorem blocked_domains_iff (headers query : List (String × Value)) (localPart domain : String)
    (h : Caller.headerEmail headers = some (.text (localPart ++ "@" ++ domain)) ∨
      Value.field? "email" query = some (.text (localPart ++ "@" ++ domain))) :
    (Caller.checkBlocked headers query =
        .error (.refuse .authorization "Access denied. This email is blocked.") ↔
      ∃ listed ∈ Wording.blockedDomains, Caller.headerEmail headers = some (.text listed)) ∧
    (Caller.checkBlocked headers query = .ok () ↔
      ∀ listed ∈ Wording.blockedDomains, Caller.headerEmail headers ≠ some (.text listed)) := by
  obtain ⟨⟨listed, hlisted, hrequest⟩, hcheck⟩ | ⟨hrequest, hcheck⟩ :=
    Caller.checkBlocked_cases headers query
  · have hheader := (Caller.requestEmail_eq_listed_iff h hlisted).1 hrequest
    rw [hcheck]
    exact ⟨iff_of_true rfl ⟨listed, hlisted, hheader⟩,
      iff_of_false (fun hok => by cases hok) fun hno => hno listed hlisted hheader⟩
  · have hheader : ∀ listed ∈ Wording.blockedDomains, Caller.headerEmail headers ≠ some (.text listed) :=
      fun listed hlisted hheader =>
        hrequest listed hlisted ((Caller.requestEmail_eq_listed_iff h hlisted).2 hheader)
    rw [hcheck]
    refine ⟨iff_of_false (fun herror => by cases herror) ?_, iff_of_true rfl hheader⟩
    rintro ⟨listed, hlisted, h⟩
    exact hheader listed hlisted h

/-- An address at a domain in the list is let through; the domain itself is not, and hides it. -/
theorem blocked_domains_iff_listed :
    "gmail.com" ∈ Wording.blockedDomains ∧
    Caller.checkBlocked [("X-User-Email", .text "ann@gmail.com")] [] = .ok () ∧
    Caller.checkBlocked [] [("email", .text "ann@gmail.com")] = .ok () ∧
    Caller.checkBlocked [("X-User-Email", .text "gmail.com")] [("email", .text "ann@gmail.com")] =
      .error (.refuse .authorization "Access denied. This email is blocked.") := by
  have hname : ∀ v, Caller.headerEmail [("X-User-Email", v)] = some v := by
    intro v
    have hlower : Text.lower "X-User-Email" = "x-user-email" := by decide +kernel
    simp [Caller.headerEmail, hlower]
  have hquery : Value.field? "email" [("email", .text "ann@gmail.com")] =
      some (.text ("ann" ++ "@" ++ "gmail.com")) := rfl
  refine ⟨by decide, (blocked_domains_iff _ _ "ann" "gmail.com" (.inl (hname _))).2.2 ?_,
    (blocked_domains_iff _ _ "ann" "gmail.com" (.inr hquery)).2.2 ?_,
    (blocked_domains_iff _ _ "ann" "gmail.com" (.inr hquery)).1.2 ⟨"gmail.com", by decide, hname _⟩⟩
  · intro listed hlisted h
    rw [hname] at h
    cases h
    exact absurd hlisted (by decide)
  · intro listed hlisted h
    cases h

end ReportMigration
