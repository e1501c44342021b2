import ReportMigration.Accounts.User
import ReportMigration.Proofs.Catalogue.Entry
import ReportMigration.Proofs.Reports.Removal
import ReportMigration.Proofs.Text.Matching
import ReportMigration.Sample.Catalogue
/-!
Changing a user.

A change is reviewed field by field. Some of what is wrong with it ends the review at once, some is
noted and ends it after the last field, and a phone number that is taken away is found out only when
the row is written.

* `User.IsDisplayName`: the name that goes with a first and a last name;
* `UserChanges.Acceptable`: nothing is wrong with the changes;
* `UserChanges.Grants`: what the row of the user is after them;
* `apply_cases`: the review grants changes that are acceptable, and fails otherwise;
* `updateUser_grants`: a user is changed by somebody else and by acceptable changes alone, and then no
  other row changes; in all other cases nothing does.
-/
namespace ReportMigration

open Op

/-! ## Names -/

/-- The name that goes with a first and a last name: the two with a space between them, without the
    blanks around them. If nothing is left, the user is unknown. -/
def User.IsDisplayName (first last : Option String) (name : String) : Prop :=
  ∃ w, Text.IsTrimmed (first.getD "" ++ " " ++ last.getD "") w ∧
    name = if w = "" then "Unknown User" else w

theorem User.nameOnChange_eq (first last : Option String) : nameOnChange first last =
    if Text.trim (first.getD "" ++ " " ++ last.getD "") = "" then unknownName
    else Text.trim (first.getD "" ++ " " ++ last.getD "") := by
  simp [nameOnChange]

theorem User.isDisplayName_iff {first last : Option String} {name : String} :
    User.IsDisplayName first last name ↔ name = User.nameOnChange first last := by
  rw [nameOnChange_eq]
  constructor
  · rintro ⟨w, hw, rfl⟩
    rw [hw.eq_trim]
    rfl
  · intro h
    exact ⟨_, Text.isTrimmed_trim _, h⟩

/-! ## What can be granted -/

/-- The row can be read back: its name is among the known ones. -/
def Role.Readable (r : Role) : Prop := r.name.Known

theorem Role.read_eq_ok_iff {r x : Role} : r.read = .ok x ↔ x = r ∧ r.Readable := by
  have h := Coded.checked_eq_ok_iff (c := some r.name) (b := r) (x := x)
  simpa [Role.read, Role.Readable] using h

theorem Database.hasUser_iff {db : Database} {i : Id} :
    db.hasUser i = true ↔ ∃ x ∈ db.users, x.id = i := by
  simp [hasUser]

namespace UserChanges

/-- A new phone number is one that nobody has but the user with the identifier `target`. -/
def PhoneFree (c : UserChanges) (db : Database) (target : Id) : Prop :=
  ∀ p, c.phoneNumber = some p →
    ∃ q, p = some q ∧ ∀ x ∈ db.users, x.phoneNumber = q → x.id = target

/-- A new role exists and can be read. -/
def RoleKnown (c : UserChanges) (db : Database) : Prop :=
  ∀ i, c.roleId = some i → ∃ x, db.findRole? x.id = some x ∧ x.Readable ∧ i = some x.id.text

/-- A new manager exists. -/
def ManagerKnown (c : UserChanges) (db : Database) : Prop :=
  ∀ i, c.managerId = some i → ∃ x ∈ db.users, i = some x.id.text

/-- A new status is one of those that there are. -/
def StatusKnown (c : UserChanges) : Prop :=
  ∀ s, c.status = some s → ∃ t ∈ User.statuses, s = some t

/-- Nothing is wrong with the changes to the user with the identifier `target`. -/
structure Acceptable (c : UserChanges) (db : Database) (target : Id) : Prop where
  phone : c.PhoneFree db target
  role : c.RoleKnown db
  manager : c.ManagerKnown db
  status : c.StatusKnown

/-- The row `u` of a user is `v` after the changes. -/
structure Grants (c : UserChanges) (u v : User) : Prop where
  phoneNumber : some v.phoneNumber = c.phoneNumber.getD (some u.phoneNumber)
  firstName : v.firstName = c.firstName.getD u.firstName
  lastName : v.lastName = c.lastName.getD u.lastName
  /-- Where the first or the last name is given, the name goes with them. -/
  renamed : c.firstName.isSome ∨ c.lastName.isSome →
    User.IsDisplayName v.firstName v.lastName v.name
  unrenamed : c.firstName = none → c.lastName = none → v.name = u.name
  roleId : some v.roleId.text = c.roleId.getD (some u.roleId.text)
  managerId : v.managerId.map (·.text) = c.managerId.getD (u.managerId.map (·.text))
  status : v.status = c.status.getD u.status
  /-- The time of the change may be noted. -/
  audit : v.audit = u.audit ∨ v.audit = u.audit.touch
  /-- Everything else is as it was. -/
  rest : v = { u with
    phoneNumber := v.phoneNumber, firstName := v.firstName, lastName := v.lastName, name := v.name,
    roleId := v.roleId, managerId := v.managerId, status := v.status, audit := v.audit }

end UserChanges

/-! ## The review, field by field -/

namespace UserReview

/-- Something is wrong with the changes that were reviewed so far. -/
def Flawed (r : UserReview) : Prop := r.errors ≠ [] ∨ r.losesPhone = true

/-- The review `r'` has come on from `r` to the row `v`, and found nothing wrong. -/
structure Takes (r r' : UserReview) (v : User) : Prop where
  user : r'.user = v
  errors : r'.errors = r.errors
  losesPhone : r'.losesPhone = r.losesPhone

theorem Takes.flawed_iff {r r' : UserReview} {v : User} (h : Takes r r' v) :
    r'.Flawed ↔ r.Flawed := by
  rw [Flawed, Flawed, h.errors, h.losesPhone]

end UserReview

namespace UserChanges

variable {db : Database} {u : User} {r : UserReview}

open UserReview

/-- A phone number is taken over if it is free, and otherwise something is wrong. -/
theorem reviewPhone_cases (c : UserChanges) (db : Database) (r : UserReview) :
    ((c.reviewPhone db r).Flawed ∧ ¬ c.PhoneFree db r.user.id) ∨
      ∃ q, r.Takes (c.reviewPhone db r) { r.user with phoneNumber := q } ∧
        some q = c.phoneNumber.getD (some r.user.phoneNumber) ∧ c.PhoneFree db r.user.id := by
  unfold reviewPhone PhoneFree
  cases c.phoneNumber with
  | none => exact .inr ⟨r.user.phoneNumber, ⟨rfl, rfl, rfl⟩, rfl, nofun⟩
  | some p =>
    dsimp only
    split
    next hclash =>
      obtain ⟨x, hx, hxp⟩ := List.any_eq_true.1 hclash
      simp only [Bool.and_eq_true, decide_eq_true_eq] at hxp
      refine .inl ⟨.inl (by simp), fun hfree => ?_⟩
      obtain ⟨q, hq, hown⟩ := hfree p rfl
      exact hxp.2 (hown x hx (Option.some.inj (hxp.1.trans hq)))
    next hfree =>
      cases p with
      | none =>
        refine .inl ⟨.inr rfl, fun h => ?_⟩
        obtain ⟨q, hq, -⟩ := h none rfl
        cases hq
      | some q =>
        refine .inr ⟨q, ⟨rfl, rfl, rfl⟩, rfl, ?_⟩
        rintro _ ⟨⟩
        refine ⟨q, rfl, fun x hx hxq => ?_⟩
        by_contra hne
        exact hfree (List.any_eq_true.2 ⟨x, hx, by simp [hxq, hne]⟩)

/-- First and last name are taken over as they are given, and the name goes with them. -/
theorem reviewName_takes (c : UserChanges) (r : UserReview) : ∃ first last name,
    r.Takes (c.reviewName r) { r.user with firstName := first, lastName := last, name := name } ∧
      first = c.firstName.getD r.user.firstName ∧ last = c.lastName.getD r.user.lastName ∧
      (c.firstName.isSome ∨ c.lastName.isSome → User.IsDisplayName first last name) ∧
      (c.firstName = none → c.lastName = none → name = r.user.name) := by
  unfold reviewName
  split
  next hnone =>
    obtain ⟨hfirst, hlast⟩ : c.firstName = none ∧ c.lastName = none := by simpa using hnone
    refine ⟨_, _, _, ⟨rfl, rfl, rfl⟩, ?_, ?_, fun hsome => ?_, fun _ _ => rfl⟩
    · rw [hfirst, Option.getD_none]
    · rw [hlast, Option.getD_none]
    · simp [hfirst, hlast] at hsome
  next hsome =>
    refine ⟨_, _, _, ⟨rfl, rfl, rfl⟩, rfl, rfl, ?_, ?_⟩
    · intro _
      exact User.isDisplayName_iff.2 rfl
    · intro hfirst hlast
      rw [hfirst, hlast] at hsome
      exact absurd rfl hsome

/-- A row must be acceptable as it stands before the next look-up. -/
theorem settle_cases (r : UserReview) :
    (∃ e, settle r = .error e ∧ r.losesPhone = true) ∨ settle r = .ok () ∧ r.losesPhone = false := by
  unfold settle
  cases r.losesPhone
  · exact .inr ⟨rfl, rfl⟩
  · exact .inl ⟨_, rfl, rfl⟩

/-- What a user refers to is taken over if it is found, and otherwise the review ends. -/
theorem reviewReference_cases (given : Option (Option String)) (find : Id → Except Fault Bool)
    (missing : String) (set : User → Id → User) (r : UserReview) :
    (∃ e, reviewReference given find missing set r = .error e ∧
      (r.Flawed ∨ ¬ ∀ i, given = some i → ∃ j, find j = .ok true ∧ i = some j.text)) ∨
      ∃ v r', reviewReference given find missing set r = .ok r' ∧ r.Takes r' v ∧
        (given = none ∧ v = r.user ∨
          ∃ j, given = some (some j.text) ∧ find j = .ok true ∧ v = set r.user j) := by
  unfold reviewReference
  cases given with
  | none => exact .inr ⟨r.user, r, rfl, ⟨rfl, rfl, rfl⟩, .inl ⟨rfl, rfl⟩⟩
  | some i =>
    dsimp only
    rcases settle_cases r with ⟨e, he, hloses⟩ | ⟨hok, -⟩
    · exact .inl ⟨e, bind_of_eq_error he, .inl (.inr hloses)⟩
    · rw [bind_of_eq_ok hok]
      cases i with
      | none =>
        refine .inl ⟨_, rfl, .inr fun h => ?_⟩
        obtain ⟨j, -, hj⟩ := h none rfl
        cases hj
      | some i =>
        have hno : find ⟨i⟩ ≠ .ok true →
            ¬ ∀ k, some (some i) = some k → ∃ j, find j = .ok true ∧ k = some j.text := by
          intro hfind h
          obtain ⟨j, hj, hji⟩ := h _ rfl
          cases hji
          exact hfind hj
        cases hfind : find ⟨i⟩ with
        | error e =>
          exact .inl ⟨e, bind_of_eq_error hfind, .inr (hno (by rw [hfind]; nofun))⟩
        | ok b =>
          dsimp only
          rw [bind_of_eq_ok hfind]
          cases b with
          | false => exact .inl ⟨_, rfl, .inr (hno (by rw [hfind]; nofun))⟩
          | true => exact .inr ⟨_, _, rfl, ⟨rfl, rfl, rfl⟩, .inr ⟨⟨i⟩, rfl, hfind, rfl⟩⟩

/-- A role is found if it exists and can be read. -/
theorem findRole_iff {i : Id} :
    (do return (← (db.findRole? i).mapM Role.read).isSome : Except Fault Bool) = .ok true ↔
      ∃ x, x.id = i ∧ db.findRole? i = some x ∧ x.Readable := by
  constructor
  · intro h
    obtain ⟨o, ho, h⟩ := exists_of_bind_eq_ok h
    obtain ⟨rfl, hread⟩ := (mapM_read?_iff fun _ _ => Role.read_eq_ok_iff).1 ho
    obtain ⟨x, hx⟩ := Option.isSome_iff_exists.1 (Except.ok.inj h)
    exact ⟨x, by simpa using List.find?_some hx, hx, hread x hx⟩
  · rintro ⟨x, -, hx, hread⟩
    rw [hx, Option.mapM_some, Role.read_eq_ok_iff.2 ⟨rfl, hread⟩]
    rfl

/-- A role is taken over if it exists and can be read, and otherwise the review ends. -/
theorem reviewRole_cases (c : UserChanges) (db : Database) (r : UserReview) :
    (∃ e, c.reviewRole db r = .error e ∧ (r.Flawed ∨ ¬ c.RoleKnown db)) ∨
      ∃ i r', c.reviewRole db r = .ok r' ∧ r.Takes r' { r.user with roleId := i } ∧
        some i.text = c.roleId.getD (some r.user.roleId.text) ∧ c.RoleKnown db := by
  unfold RoleKnown
  rcases reviewReference_cases c.roleId (fun i => return (← (db.findRole? i).mapM Role.read).isSome)
    "Invalid role_id: Role not found" (fun u i => { u with roleId := i }) r with
    ⟨e, he, hbad⟩ | ⟨v, r', hok, htakes, hgiven⟩
  · refine .inl ⟨e, he, hbad.imp_right fun hno h => hno fun i hi => ?_⟩
    obtain ⟨x, hx, hread, hxi⟩ := h i hi
    exact ⟨x.id, findRole_iff.2 ⟨x, rfl, hx, hread⟩, hxi⟩
  · rcases hgiven with ⟨hnone, rfl⟩ | ⟨j, hj, hfound, rfl⟩
    · exact .inr ⟨r.user.roleId, r', hok, htakes, by rw [hnone]; rfl, by rw [hnone]; nofun⟩
    · obtain ⟨x, rfl, hx, hread⟩ := findRole_iff.1 hfound
      refine .inr ⟨x.id, r', hok, htakes, by rw [hj]; rfl, fun i hi => ⟨x, hx, hread, ?_⟩⟩
      exact Option.some.inj (hi.symm.trans hj)

/-- A manager is taken over if there is such a user, and otherwise the review ends. -/
theorem reviewManager_cases (c : UserChanges) (db : Database) (r : UserReview) :
    (∃ e, c.reviewManager db r = .error e ∧ (r.Flawed ∨ ¬ c.ManagerKnown db)) ∨
      ∃ i r', c.reviewManager db r = .ok r' ∧ r.Takes r' { r.user with managerId := i } ∧
        i.map (·.text) = c.managerId.getD (r.user.managerId.map (·.text)) ∧ c.ManagerKnown db := by
  unfold ManagerKnown
  have hfind : ∀ i, (return db.hasUser i : Except Fault Bool) = .ok true ↔
      ∃ x ∈ db.users, x.id = i := by
    intro i
    rw [← Database.hasUser_iff]
    exact ⟨Except.ok.inj, congrArg Except.ok⟩
  rcases reviewReference_cases c.managerId (fun i => return db.hasUser i)
    "Invalid manager_id: Manager not found" (fun u i => { u with managerId := some i }) r with
    ⟨e, he, hbad⟩ | ⟨v, r', hok, htakes, hgiven⟩
  · refine .inl ⟨e, he, hbad.imp_right fun hno h => hno fun i hi => ?_⟩
    obtain ⟨x, hx, hxi⟩ := h i hi
    exact ⟨x.id, (hfind _).2 ⟨x, hx, rfl⟩, hxi⟩
  · rcases hgiven with ⟨hnone, rfl⟩ | ⟨j, hj, hfound, rfl⟩
    · exact .inr ⟨r.user.managerId, r', hok, htakes, by rw [hnone]; rfl, by rw [hnone]; nofun⟩
    · obtain ⟨x, hx, rfl⟩ := (hfind j).1 hfound
      refine .inr ⟨some x.id, r', hok, htakes, by rw [hj]; rfl, fun i hi => ⟨x, hx, ?_⟩⟩
      exact Option.some.inj (hi.symm.trans hj)

/-- A status is taken over if it is one of the known ones, and otherwise something is wrong. -/
theorem reviewStatus_cases (c : UserChanges) (r : UserReview) :
    ((c.reviewStatus r).Flawed ∧ ¬ c.StatusKnown) ∨
      ∃ s, r.Takes (c.reviewStatus r) { r.user with status := s } ∧
        s = c.status.getD r.user.status ∧ c.StatusKnown := by
  unfold reviewStatus StatusKnown
  cases c.status with
  | none => exact .inr ⟨r.user.status, ⟨rfl, rfl, rfl⟩, rfl, nofun⟩
  | some s =>
    dsimp only
    have hiff : s.any User.statuses.contains = true ↔ ∃ t ∈ User.statuses, s = some t := by
      cases s <;> simp
    split
    next hknown =>
      refine .inr ⟨s, ⟨rfl, rfl, rfl⟩, rfl, ?_⟩
      rintro _ ⟨⟩
      exact hiff.1 hknown
    next hunknown => exact .inl ⟨.inl (by simp), fun h => hunknown (hiff.2 (h s rfl))⟩

/-! ## The whole review -/

/-- A review ends well, unless something is wrong. -/
theorem conclude_cases (r : UserReview) :
    r.Flawed ∧ (∃ e, conclude r = .error e) ∨
      ¬ r.Flawed ∧ ∃ a, (a = r.user.audit ∨ a = r.user.audit.touch) ∧
        conclude r = .ok { r.user with audit := a } := by
  unfold conclude
  by_cases herrors : r.errors = []
  · rw [if_pos (by simp [herrors])]
    rcases settle_cases r with ⟨e, he, hloses⟩ | ⟨hok, hkeeps⟩
    · rw [he]
      exact .inl ⟨.inr hloses, _, rfl⟩
    · rw [hok]
      refine .inr ⟨?_, ?_⟩
      · rintro (h | h)
        · exact h herrors
        · exact absurd h (by simp [hkeeps])
      · cases r.changed
        · exact ⟨_, .inl rfl, rfl⟩
        · exact ⟨_, .inr rfl, rfl⟩
  · rw [if_neg (by simpa using herrors)]
    exact .inl ⟨.inl herrors, _, rfl⟩

/-- Changes that something is wrong with after the phone number and the names are refused, whatever the
    other fields are. -/
theorem apply_of_flawed {c : UserChanges}
    (h : (c.reviewName (c.reviewPhone db { user := u })).Flawed) : ∃ e, c.apply db u = .error e := by
  unfold apply
  rcases c.reviewRole_cases db (c.reviewName (c.reviewPhone db { user := u })) with
    ⟨e, he, -⟩ | ⟨i, r, hrole, hr, -⟩
  · exact ⟨e, bind_of_eq_error he⟩
  rw [bind_of_eq_ok hrole]
  rcases c.reviewManager_cases db r with ⟨e, he, -⟩ | ⟨j, r', hmanager, hr', -⟩
  · exact ⟨e, bind_of_eq_error he⟩
  rw [bind_of_eq_ok hmanager]
  have hflawed : (c.reviewStatus r').Flawed := by
    rcases c.reviewStatus_cases r' with ⟨hflawed, -⟩ | ⟨s, hs, -⟩
    · exact hflawed
    · exact hs.flawed_iff.2 (hr'.flawed_iff.2 (hr.flawed_iff.2 h))
  rcases conclude_cases (c.reviewStatus r') with ⟨-, he⟩ | ⟨hno, -⟩
  · exact he
  · exact absurd hflawed hno

/-- **Acceptable changes are granted, and no others.** -/
theorem apply_cases (c : UserChanges) (db : Database) (u : User) :
    (∃ e, c.apply db u = .error e ∧ ¬ c.Acceptable db u.id) ∨
      ∃ v, c.apply db u = .ok v ∧ c.Acceptable db u.id ∧ c.Grants u v := by
  obtain ⟨first, last, name, hnames, hfirst, hlast, hrenamed, hunrenamed⟩ :=
    c.reviewName_takes (c.reviewPhone db { user := u })
  rcases c.reviewPhone_cases db { user := u } with ⟨hflawed, hno⟩ | ⟨q, hphone, hq, hfree⟩
  · obtain ⟨e, he⟩ := apply_of_flawed (hnames.flawed_iff.2 hflawed)
    exact .inl ⟨e, he, fun h => hno h.phone⟩
  -- nothing is wrong so far, so that what ends the review from here on is the field itself
  have hclean : ¬ (c.reviewName (c.reviewPhone db { user := u })).Flawed := by
    rw [hnames.flawed_iff, hphone.flawed_iff]
    simp [Flawed]
  unfold apply
  rcases c.reviewRole_cases db (c.reviewName (c.reviewPhone db { user := u })) with
    ⟨e, he, hbad⟩ | ⟨i, r, hrole, hr, hi, hroles⟩
  · exact .inl ⟨e, bind_of_eq_error he, fun h => hbad.elim hclean fun hno => hno h.role⟩
  rw [bind_of_eq_ok hrole]
  have hclean₁ : ¬ r.Flawed := by rwa [hr.flawed_iff]
  rcases c.reviewManager_cases db r with ⟨e, he, hbad⟩ | ⟨j, r', hmanager, hr', hj, hmanagers⟩
  · exact .inl ⟨e, bind_of_eq_error he, fun h => hbad.elim hclean₁ fun hno => hno h.manager⟩
  rw [bind_of_eq_ok hmanager]
  have hclean₂ : ¬ r'.Flawed := by rwa [hr'.flawed_iff]
  rcases c.reviewStatus_cases r' with ⟨hflawed, hno⟩ | ⟨s, hstatus, hs, hstatuses⟩
  · rcases conclude_cases (c.reviewStatus r') with ⟨-, e, he⟩ | ⟨hsound, -⟩
    · exact .inl ⟨e, he, fun h => hno h.status⟩
    · exact absurd hflawed hsound
  rcases conclude_cases (c.reviewStatus r') with ⟨hflawed, -⟩ | ⟨-, a, ha, hok⟩
  · exact absurd (hstatus.flawed_iff.1 hflawed) hclean₂
  rw [hphone.user] at hnames hfirst hlast hunrenamed
  rw [hnames.user] at hr hi
  rw [hr.user] at hr' hj
  rw [hr'.user] at hstatus hs
  rw [hstatus.user] at ha hok
  exact .inr ⟨_, hok, ⟨hfree, hroles, hmanagers, hstatuses⟩, hq, hfirst, hlast, hrenamed, hunrenamed,
    hi, hj, hs, ha, rfl⟩

end UserChanges

/-! ## Changing a user -/

/-- A user is not changed, or the row that was found for them is. -/
theorem exec_updateUser_cases (target actor : Id) (c : UserChanges) (d : Deployment) :
    (∃ e, (updateUser target c actor).exec d = (.error e, d) ∧
      ¬ ((∃ u ∈ d.db.users, u.id = target) ∧ target ≠ actor ∧ c.Acceptable d.db target)) ∨
    ∃ u v, d.db.findUser? target = some u ∧ u.id = target ∧ target ≠ actor ∧
      c.Acceptable d.db target ∧ c.Grants u v ∧ (updateUser target c actor).exec d =
        (.ok (), { d with db := { d.db with
          users := d.db.users.map fun x => if x.id = v.id then v else x } }) := by
  rw [updateUser, exec_bind_ok (exec_db d)]
  cases hu : d.db.findUser? target with
  | none =>
    refine .inl ⟨_, rfl, fun ⟨⟨u, hmem, hid⟩, _⟩ => ?_⟩
    exact List.find?_eq_none.1 hu u hmem (by simpa using hid)
  | some u =>
    obtain rfl : u.id = target := by simpa using List.find?_some hu
    dsimp only
    by_cases hself : u.id = actor
    · rw [if_pos hself]
      exact .inl ⟨_, rfl, fun h => h.2.1 hself⟩
    rw [if_neg hself]
    rcases c.apply_cases d.db u with ⟨e, he, hno⟩ | ⟨v, hok, haccept, hgrants⟩
    · refine .inl ⟨e, ?_, fun h => hno h.2.2⟩
      rw [he]
      rfl
    · refine .inr ⟨u, v, rfl, rfl, hself, haccept, hgrants, ?_⟩
      rw [hok]
      rfl

theorem UserChanges.Grants.id_eq {c : UserChanges} {u v : User} (h : c.Grants u v) : v.id = u.id := by
  rw [h.rest]

/-- **A user is changed as a whole or not at all.** The changes are made exactly if there is such a
    user, somebody else asks for them and they are acceptable. Then the row of the user is what they
    grant, and every other row of every table is as it was. Otherwise nothing changes. -/
theorem updateUser_grants (target actor : Id) (c : UserChanges) {d : Deployment}
    (hids : (d.db.users.map (·.id)).Nodup) :
    (∃ e, (updateUser target c actor).exec d = (.error e, d) ∧
      ¬ ((∃ u ∈ d.db.users, u.id = target) ∧ target ≠ actor ∧ c.Acceptable d.db target)) ∨
    ∃ before u after v, d.db.users = before ++ u :: after ∧ u.id = target ∧ target ≠ actor ∧
      c.Acceptable d.db target ∧ c.Grants u v ∧
      (updateUser target c actor).exec d =
        (.ok (), { d with db := { d.db with users := before ++ v :: after } }) := by
  rcases exec_updateUser_cases target actor c d with
    hfails | ⟨u, v, hfound, hid, hself, haccept, hgrants, hexec⟩
  · exact .inl hfails
  · obtain ⟨-, before, after, hrows, -⟩ := List.find?_eq_some_iff_append.1 hfound
    refine .inr ⟨before, u, after, v, hrows, hid, hself, haccept, hgrants, ?_⟩
    rw [hexec, ← map_replace_append (hrows ▸ hids) hgrants.id_eq, ← hrows]

/-- A deployment with an admin, a manager and a developer. -/
def staffDeployment : Deployment where
  db := {
    roles := [Sample.role .admin, Sample.role .manager, Sample.role .developer]
    organizations := [Sample.organization]
    users := [Sample.user 0, Sample.user 1, Sample.user 2] }

/-- Changes that make a user a manager under the admin, with a first name of blanks. -/
def promotion (phoneNumber : Option String) : UserChanges where
  phoneNumber := some phoneNumber
  firstName := some (some "  ")
  roleId := some (some (Sample.roleId .manager).text)
  managerId := some (some (Sample.userId 0).text)
  status := some (some "INACTIVE")

/-- The admin makes the developer a manager with the phone number that the developer already has. The
    same changes without a phone number fail only after some of them were made. -/
theorem updateUser_grants_promotion :
    (staffDeployment.db.users.map (·.id)).Nodup ∧
    (∃ before u after v, staffDeployment.db.users = before ++ u :: after ∧ u.id = Sample.userId 2 ∧
      (promotion (some "555-0002")).Grants u v ∧
      (updateUser (Sample.userId 2) (promotion (some "555-0002")) (Sample.userId 0)).exec
        staffDeployment = (.ok (), { staffDeployment with
          db := { staffDeployment.db with users := before ++ v :: after } })) ∧
    ∃ e, (updateUser (Sample.userId 2) (promotion none) (Sample.userId 0)).exec staffDeployment =
      (.error e, staffDeployment) := by
  have hids : (staffDeployment.db.users.map (·.id)).Nodup := by decide +kernel
  refine ⟨hids, ?_, ?_⟩
  · rcases updateUser_grants (Sample.userId 2) (Sample.userId 0) (promotion (some "555-0002")) hids
      with ⟨e, he, -⟩ | ⟨before, u, after, v, hrows, hid, -, -, hgrants, hexec⟩
    · have hok : ((updateUser (Sample.userId 2) (promotion (some "555-0002")) (Sample.userId 0)).exec
          staffDeployment).1.isOk = true := by decide +kernel
      rw [he] at hok
      cases hok
    · exact ⟨before, u, after, v, hrows, hid, hgrants, hexec⟩
  · rcases updateUser_grants (Sample.userId 2) (Sample.userId 0) (promotion none) hids
      with ⟨e, he, -⟩ | ⟨_, _, _, _, -, -, -, haccept, -⟩
    · exact ⟨e, he⟩
    · obtain ⟨q, hq, -⟩ := haccept.phone none rfl
      cases hq

end ReportMigration
