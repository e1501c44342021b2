import Mathlib.Data.List.Nodup
import Mathlib.Logic.Relation
import ReportMigration.Gateway.Accounts
import ReportMigration.Proofs.Catalogue.Entry
import ReportMigration.Proofs.Text.Matching
import ReportMigration.Sample.Catalogue
/-!
Registration after a check that the address or name is free.

The check compares as with a pattern, in which the new text itself is the pattern. A text matches
itself and its spellings in other letters, whatever wildcards it holds (`Text.like_of_fold_eq`), so
that a check that finds nothing leaves no such text in the catalogue.

* `ne_of_find?_like`: what is known after a check that found nothing;
* `Gateway.Guarded`: one registration after such a check, or something else that changes no address
  and no name;
* `Gateway.guarded_registration`: addresses and names stay apart in any sequence of such steps.
-/
namespace ReportMigration

/-! ## What a check rules out -/

/-- A search by a number and by a text as a pattern that finds nothing. -/
theorem ne_of_find?_like {α : Type} {xs : List α} {number text : α → String}
    {n t : Option String}
    (h : xs.find? (fun x => some (number x) = n || t.any (Text.like (text x) ·)) = none) {x : α}
    (hx : x ∈ xs) :
    n ≠ some (number x) ∧ ∀ s, t = some s → Text.foldAscii (text x) ≠ Text.foldAscii s := by
  have hmiss := List.find?_eq_none.1 h x hx
  simp only [Bool.or_eq_true, decide_eq_true_eq, not_or] at hmiss
  refine ⟨fun hn => hmiss.1 hn.symm, ?_⟩
  rintro s rfl hfold
  exact hmiss.2 (by simpa using Text.like_of_fold_eq hfold)

namespace Database

/-- The addresses of users, in small letters. -/
def addresses (db : Database) : List String := db.users.map fun u => Text.foldAscii u.email

/-- The names of organisations, in small letters. -/
def organizationNames (db : Database) : List String :=
  db.organizations.map fun o => Text.foldAscii o.name

end Database

/-! ## What a registration enters -/

section
variable {d : Deployment} {v : Value} {form : OrganizationForm}

theorem Registration.ofValue_eq_ok {r : Registration} (h : ofValue v = .ok r) :
    ∃ email, v.attr "email" = .ok email ∧ r.email = email.text? ∧
      r.firstName = v.optionalText "first_name" ∧ r.lastName = v.optionalText "last_name" := by
  obtain ⟨email, hemail, h⟩ := exists_of_bind_eq_ok h
  obtain ⟨password, -, h⟩ := exists_of_bind_eq_ok h
  obtain ⟨phoneNumber, -, h⟩ := exists_of_bind_eq_ok h
  obtain ⟨organization, -, h⟩ := exists_of_bind_eq_ok h
  obtain ⟨organizationId, -, h⟩ := exists_of_bind_eq_ok h
  obtain ⟨role, -, h⟩ := exists_of_bind_eq_ok h
  obtain ⟨roleId, -, h⟩ := exists_of_bind_eq_ok h
  obtain ⟨manager, -, h⟩ := exists_of_bind_eq_ok h
  split at h
  · obtain ⟨managerId, -, h⟩ := exists_of_bind_eq_ok h
    cases h
    exact ⟨email, hemail, rfl, rfl, rfl⟩
  · cases h
    exact ⟨email, hemail, rfl, rfl, rfl⟩

theorem Registration.toUser_eq_ok {r : Registration} {i : Id} {hash : String → String} {u : User}
    (h : r.toUser i hash = .ok u) : r.email = some u.email ∧ u.firstName = r.firstName ∧
      u.lastName = r.lastName ∧ u.name = User.nameOnEntry r.firstName r.lastName := by
  obtain ⟨email, hemail, h⟩ := exists_of_bind_eq_ok h
  obtain ⟨phoneNumber, -, h⟩ := exists_of_bind_eq_ok h
  cases h
  exact ⟨required_eq_ok hemail, rfl, rfl, rfl⟩

theorem Database.addUser_eq_ok {db db' : Database} {u : User} (h : db.addUser u = .ok db') :
    (∀ x ∈ db.users, x.id ≠ u.id) ∧ db' = { db with users := db.users ++ [u] } := by
  obtain ⟨-, h⟩ := eq_ok_of_check h
  obtain ⟨-, h⟩ := eq_ok_of_check h
  obtain ⟨hid, h⟩ := eq_ok_of_check h
  obtain ⟨-, h⟩ := eq_ok_of_check h
  cases h
  exact ⟨unrepeated_eq_ok hid, rfl⟩

theorem Database.addOrganization_eq_ok {db db' : Database} {o : Organization}
    (h : db.addOrganization o = .ok db') :
    db' = { db with organizations := db.organizations ++ [o] } := by
  obtain ⟨-, h⟩ := eq_ok_of_check h
  obtain ⟨-, h⟩ := eq_ok_of_check h
  cases h
  rfl

theorem exec_enrol (r : Registration) (i : Id) (d : Deployment) :
    (enrol r i).exec d = match r.toUser i d.hashPassword with
      | .error e => (.error e, d)
      | .ok u => match d.db.addUser u with
        | .error e => (.error e, d)
        | .ok db => (.ok u, { d with db := db }) := by
  simp only [enrol, Op.exec_transaction, Op.exec_bind, Op.exec_get, Op.exec_ofExcept, Op.exec_write]
  cases hu : r.toUser i d.hashPassword with
  | error e => rfl
  | ok u => cases hdb : d.db.addUser u <;> simp [hdb]

/-- A registration fails and leaves the catalogue as it was, or the user that it makes is admitted. -/
theorem exec_register_cases (v : Value) (d : Deployment) :
    (∃ e, (register v).exec d = (.error e, { d with drawn := d.drawn + 1 })) ∨
      ∃ r u db, Registration.ofValue v = .ok r ∧
        r.toUser (.drawn (d.drawn + 1)) d.hashPassword = .ok u ∧ d.db.addUser u = .ok db ∧
        (register v).exec d = (.ok u, { d with db := db, drawn := d.drawn + 1 }) := by
  rw [register, Op.exec_bind_ok (Op.exec_drawId d)]
  cases hr : Registration.ofValue v with
  | error e =>
    rw [Op.exec_bind_error (Op.exec_ofExcept _ _)]
    exact .inl ⟨e, rfl⟩
  | ok r =>
    rw [Op.exec_bind_ok (Op.exec_ofExcept _ _), exec_enrol]
    cases hu : r.toUser (.drawn (d.drawn + 1)) d.hashPassword with
    | error e => exact .inl ⟨e, rfl⟩
    | ok u =>
      cases hdb : d.db.addUser u with
      | error e => exact .inl ⟨e, by simp only [hdb]⟩
      | ok db => exact .inr ⟨r, u, db, rfl, hu, hdb, by simp only [hdb]⟩

/-- A registration leaves the catalogue as it was, or adds a user with the address that it gives. -/
theorem register_cases (v : Value) (d : Deployment) :
    ((register v).exec d).2.db = d.db ∨
      ∃ u : User, (∃ email, v.attr "email" = .ok email ∧ email.text? = some u.email) ∧
        ((register v).exec d).2.db = { d.db with users := d.db.users ++ [u] } := by
  rcases exec_register_cases v d with ⟨e, he⟩ | ⟨r, u, db, hr, hu, hdb, hexec⟩
  · exact .inl (by rw [he])
  · obtain ⟨email, hattr, hemail, -⟩ := Registration.ofValue_eq_ok hr
    refine .inr ⟨u, ⟨email, hattr, hemail ▸ (Registration.toUser_eq_ok hu).1⟩, ?_⟩
    rw [hexec]
    exact (Database.addUser_eq_ok hdb).2

theorem OrganizationForm.toOrganization_eq_ok {i : Id} {o : Organization}
    (h : form.toOrganization i = .ok o) : form.name = some o.name := by
  obtain ⟨name, hname, h⟩ := exists_of_bind_eq_ok h
  obtain ⟨person, -, h⟩ := exists_of_bind_eq_ok h
  obtain ⟨mobile, -, h⟩ := exists_of_bind_eq_ok h
  obtain ⟨-, h⟩ := eq_ok_of_check h
  cases h
  exact required_eq_ok hname

/-- A new organisation is not entered, or added with the name that is given. -/
theorem createOrganization_cases (form : OrganizationForm) (d : Deployment) :
    ((createOrganization form).exec d).2.db = d.db ∨
      ∃ o : Organization, form.name = some o.name ∧
        ((createOrganization form).exec d).2.db =
          { d.db with organizations := d.db.organizations ++ [o] } := by
  have hexec : (createOrganization form).exec d = _ :=
    Op.exec_insertion form.id form.toOrganization (fun o db => db.addOrganization o) d
  rw [hexec]
  cases ho : form.toOrganization (form.id.getD (.drawn (d.drawn + 1))) with
  | error e => exact .inl rfl
  | ok o =>
    cases hdb : d.db.addOrganization o with
    | error e => simp [hdb]
    | ok db =>
      refine .inr ⟨o, OrganizationForm.toOrganization_eq_ok ho, ?_⟩
      simp only [hdb]
      exact Database.addOrganization_eq_ok hdb

end

/-! ## Registrations after a check -/

namespace Gateway

variable {d d' : Deployment}

/-- One thing happens: a user or an organisation is registered after a check of what is given has
    found nothing, or no address and no name changes. -/
inductive Guarded : Deployment → Deployment → Prop where
  | user {d : Deployment} (a : Arguments) (free : (userLike a).exec d = (.ok .null, d)) :
      Guarded d ((newUser a).exec d).2
  | organization {d : Deployment} (a : Arguments) (form : OrganizationForm)
      (name : a.text? "name" = form.name) (mobile : a.text? "mobile_number" = form.mobileNumber)
      (free : (organizationLike a).exec d = (.ok .null, d)) :
      Guarded d ((createOrganization form).exec d).2
  | outside {d d' : Deployment} (addresses : d'.db.addresses = d.db.addresses)
      (names : d'.db.organizationNames = d.db.organizationNames) : Guarded d d'

/-- The check for a user finds nothing only if nobody has such an address or phone number. -/
theorem userLike?_of_exec_userLike {a : Arguments} (h : (userLike a).exec d = (.ok .null, d)) :
    ∃ email phone, (a.get "data").attr "email" = .ok email ∧
      (a.get "data").attr "phone_number" = .ok phone ∧
        d.db.userLike? email.text? phone.text? = none := by
  rw [userLike, ask, Op.exec_bind_ok (Op.exec_db d), Op.exec_ofExcept] at h
  obtain ⟨email, hemail, h⟩ := exists_of_bind_eq_ok (congrArg Prod.fst h)
  obtain ⟨phone, hphone, h⟩ := exists_of_bind_eq_ok h
  refine ⟨email, phone, hemail, hphone, ?_⟩
  cases hfound : d.db.userLike? email.text? phone.text? with
  | none => rfl
  | some u =>
    rw [hfound] at h
    cases h

theorem organizationLike?_of_exec {a : Arguments}
    (h : (organizationLike a).exec d = (.ok .null, d)) :
    d.db.organizationLike? (a.text? "mobile_number") (a.text? "name") = none := by
  rw [organizationLike, view, Op.exec_bind_ok (Op.exec_db d)] at h
  cases hfound : d.db.organizationLike? (a.text? "mobile_number") (a.text? "name") with
  | none => rfl
  | some o =>
    rw [hfound] at h
    cases h

/-- The addresses stay apart. -/
theorem Guarded.addresses_nodup (h : Guarded d d') (hd : d.db.addresses.Nodup) :
    d'.db.addresses.Nodup := by
  cases h with
  | user a free =>
    obtain ⟨email, phone, hemail, -, hnone⟩ := userLike?_of_exec_userLike free
    rw [newUser, Op.exec_map_snd]
    rcases register_cases (a.get "data") d with heq | ⟨u, ⟨email', hemail', hu⟩, heq⟩
    · rwa [heq]
    · obtain rfl : email' = email := Except.ok.inj (hemail'.symm.trans hemail)
      rw [heq]
      exact nodup_map_append hd fun x hx => (ne_of_find?_like hnone hx).2 u.email hu
  | organization a form =>
    rcases createOrganization_cases form d with heq | ⟨o, -, heq⟩ <;> rwa [heq]
  | outside haddresses => rwa [haddresses]

/-- The names of organisations stay apart. -/
theorem Guarded.organizationNames_nodup (h : Guarded d d') (hd : d.db.organizationNames.Nodup) :
    d'.db.organizationNames.Nodup := by
  cases h with
  | user a =>
    rw [newUser, Op.exec_map_snd]
    rcases register_cases (a.get "data") d with heq | ⟨u, -, heq⟩ <;> rwa [heq]
  | organization a form hname hmobile free =>
    have hnone := organizationLike?_of_exec free
    rcases createOrganization_cases form d with heq | ⟨o, ho, heq⟩
    · rwa [heq]
    · rw [heq]
      exact nodup_map_append hd fun x hx => (ne_of_find?_like hnone hx).2 o.name (hname.trans ho)
  | outside _ hnames => rwa [hnames]

/-- **A registration after a check keeps addresses and names apart.** Where a check finds nothing, no
    user has the phone number, or the address in letters of either case, that were asked for, and
    likewise for organisations; so addresses that differ by more than letter case do so after any
    sequence of registrations that follow such a check, and so do the names of organisations. -/
theorem guarded_registration :
    (∀ (d : Deployment) (a : Arguments), (userLike a).exec d = (.ok .null, d) →
      ∃ email phone, (a.get "data").attr "email" = .ok email ∧
        (a.get "data").attr "phone_number" = .ok phone ∧
        ∀ u ∈ d.db.users, phone.text? ≠ some u.phoneNumber ∧
          ∀ e, email.text? = some e → Text.foldAscii u.email ≠ Text.foldAscii e) ∧
    (∀ (d : Deployment) (a : Arguments), (organizationLike a).exec d = (.ok .null, d) →
      ∀ o ∈ d.db.organizations, a.text? "mobile_number" ≠ some o.mobileNumber ∧
        ∀ n, a.text? "name" = some n → Text.foldAscii o.name ≠ Text.foldAscii n) ∧
    ∀ d d' : Deployment, Relation.ReflTransGen Guarded d d' →
      (d.db.addresses.Nodup → d'.db.addresses.Nodup) ∧
        (d.db.organizationNames.Nodup → d'.db.organizationNames.Nodup) := by
  refine ⟨fun d a h => ?_, fun d a h o ho => ?_, fun d d' h => ?_⟩
  · obtain ⟨email, phone, hemail, hphone, hnone⟩ := userLike?_of_exec_userLike h
    exact ⟨email, phone, hemail, hphone, fun u hu => ne_of_find?_like hnone hu⟩
  · exact ne_of_find?_like (organizationLike?_of_exec h) ho
  · induction h with
    | refl => exact ⟨id, id⟩
    | tail _ hstep ih =>
      exact ⟨fun hd => hstep.addresses_nodup (ih.1 hd),
        fun hd => hstep.organizationNames_nodup (ih.2 hd)⟩

/-- A deployment with one user, whose address holds both wildcards, and one organisation. -/
def wildcardDeployment : Deployment where
  db := {
    roles := [Sample.role .admin]
    organizations := [Sample.organization]
    users := [{ Sample.user 0 with email := "a_%@ex.com" }] }

/-- What a new user gives, with an address. -/
def newcomer (email : String) : Arguments where
  fields := [("data", .record [("email", .text email), ("password", .text "p"),
    ("phone_number", .text "556"), ("organization_id", .text Sample.organizationId.text),
    ("role_id", .text (Sample.roleId .admin).text), ("manager_id", .null)])]

/-- The check for the name and number of a new organisation. -/
def newcomerCheck : Arguments where
  fields := [("name", .text "O%_x"), ("mobile_number", .text "556")]

/-- What the new organisation gives. -/
def newcomerForm : OrganizationForm where
  name := some "O%_x"
  contactPersonName := some "CP"
  mobileNumber := some "556"

/-- The first address in capitals is taken. The new address is one that the first would match, if
    that were the pattern. -/
theorem guarded_registration_wildcards :
    (userLike (newcomer "A_%@EX.com")).exec wildcardDeployment ≠ (.ok .null, wildcardDeployment) ∧
    (∀ o ∈ wildcardDeployment.db.organizations, Text.foldAscii o.name ≠ "o%_x") ∧
    ∃ d', Relation.ReflTransGen Guarded wildcardDeployment d' ∧
      (d'.db.addresses, d'.db.organizationNames) =
        (["a_%@ex.com", "ab%@ex.com"], ["org", "o%_x"]) ∧
      d'.db.addresses.Nodup ∧ d'.db.organizationNames.Nodup := by
  have hcheck : (organizationLike newcomerCheck).exec wildcardDeployment =
      (.ok .null, wildcardDeployment) := rfl
  refine ⟨fun htaken => ?_, fun o ho => ?_, ?_⟩
  · obtain ⟨email, phone, hemail, -, hfree⟩ := guarded_registration.1 _ _ htaken
    cases hemail
    exact (hfree _ List.mem_cons_self).2 _ rfl (by decide)
  · exact (guarded_registration.2.1 _ newcomerCheck hcheck o ho).2 _ rfl
  · have huser := Guarded.user (d := wildcardDeployment) (newcomer "ab%@ex.com") rfl
    have horganization : ∀ d : Deployment, d.db.organizations = [Sample.organization] →
        Guarded d ((createOrganization newcomerForm).exec d).2 := by
      intro d hd
      refine .organization newcomerCheck newcomerForm rfl rfl ?_
      rw [organizationLike, view, Op.exec_bind_ok (Op.exec_db d), Database.organizationLike?, hd]
      rfl
    have hkept : ((newUser (newcomer "ab%@ex.com")).exec wildcardDeployment).2.db.organizations =
        [Sample.organization] := by
      rw [newUser, Op.exec_map_snd]
      rcases register_cases ((newcomer "ab%@ex.com").get "data") wildcardDeployment with
        heq | ⟨u, -, heq⟩ <;> rw [heq] <;> rfl
    have hreach := (Relation.ReflTransGen.single huser).tail (horganization _ hkept)
    have hapart := guarded_registration.2.2 _ _ hreach
    exact ⟨_, hreach, by decide +kernel, hapart.1 (by decide +kernel), hapart.2 (by decide +kernel)⟩

end Gateway

end ReportMigration
