import Mathlib.Data.List.Nodup
import ReportMigration.Accounts.User
import ReportMigration.Proofs.Execution
import ReportMigration.Proofs.Text.Matching
import ReportMigration.Sample.Catalogue
/-!
Signing in.

A sign-in looks for the first user whose address matches the given one as a pattern, and notes the
time if the password goes with what is kept of that of this user.

* `signIn_cases`: a sign-in fails and changes nothing, or answers with the user it found;
* `Text.like_filled`: a pattern with wildcards also matches the text in which they are filled;
* `signIn_identifies_iff`: whoever signs in is the one whose address was given, exactly if the address
  has no wildcards.
-/
namespace ReportMigration

/-! ## Wildcards -/

namespace Text

variable {p : List Char}

/-- The text of a pattern with `x` in the place of each wildcard. -/
def filled (x : Char) (p : List Char) : List Char := p.map fun c => if IsWildcard c then x else c

theorem like_filled (x : Char) : ∀ p : List Char, Like p (filled x p)
  | [] => .nil
  | c :: p => by
    rw [filled, List.map_cons]
    by_cases hany : c = '%'
    · subst hany
      exact .take _ (.skip (like_filled x p))
    by_cases hone : c = '_'
    · subst hone
      exact .one _ (like_filled x p)
    · rw [if_neg fun h => h.elim hany hone]
      exact .char c c hany hone rfl (like_filled x p)

/-- A pattern with a wildcard is not the text in which a letter takes its place. -/
theorem map_fold_filled_ne {c : Char} (hc : c ∈ p) (hw : IsWildcard c) :
    (filled 'x' p).map foldAsciiChar ≠ p.map foldAsciiChar := by
  intro h
  rw [filled, List.map_map] at h
  have hfold := List.map_inj_left.1 h c hc
  rw [Function.comp_apply, if_pos hw] at hfold
  rcases hw with rfl | rfl <;> exact absurd hfold (by decide)

end Text

/-! ## The sign-in -/

/-- The user after a sign-in at a time. -/
def User.signedIn (u : User) (t : Timestamp) : User :=
  { u with lastLogin := some t, audit := u.audit.touch }

/-- The catalogue after the sign-in of the user with an identifier: that user has the time of it, and
    all other rows are as before. -/
def Database.noteSignIn (db : Database) (i : Id) (t : Timestamp) : Database :=
  { db with users := db.users.map fun u => if u.id = i then u.signedIn t else u }

section
variable {d : Deployment}

theorem Database.mem_of_userByEmail? {db : Database} {email : String} {u : User}
    (h : db.userByEmail? (some email) = some u) : u ∈ db.users ∧ Text.like u.email email = true :=
  ⟨List.mem_of_find?_eq_some h, by simpa using List.find?_some h⟩

/-- Where identifiers do not repeat, putting back the row of a user changes no other row. -/
theorem Database.noteSignIn_eq {db : Database} (hids : (db.users.map (·.id)).Nodup) {u : User}
    (hu : u ∈ db.users) (t : Timestamp) :
    { db with users := db.users.map fun x => if x.id = (u.signedIn t).id then u.signedIn t else x } =
      db.noteSignIn u.id t := by
  unfold noteSignIn
  congr 1
  refine List.map_congr_left fun x hx => ?_
  by_cases he : x.id = u.id
  · obtain rfl : x = u := List.inj_on_of_nodup_map hids hx hu he
    rfl
  · rw [if_neg he, if_neg (show x.id ≠ (u.signedIn t).id from he)]

/-- A sign-in fails and leaves all as it was, or it answers with the user who was found, whose
    password was given. -/
theorem signIn_cases (email : Option String) (password : String) (d : Deployment) :
    (∃ e, (signIn email password).exec d = (.error e, d)) ∨
      ∃ u t, d.db.userByEmail? email = some u ∧ d.verifies password u.passwordHash = true ∧
        (signIn email password).exec d = (.ok (u.signedIn t), { d with
          ticks := d.ticks + 1
          db := { d.db with users := d.db.users.map fun x =>
            if x.id = (u.signedIn t).id then u.signedIn t else x } }) := by
  rw [signIn, Op.exec_bind_ok (Op.exec_db d)]
  cases hu : d.db.userByEmail? email with
  | none => exact .inl ⟨_, rfl⟩
  | some u =>
    rw [Op.exec_bind_ok (Op.exec_get d)]
    by_cases hp : d.verifies password u.passwordHash = true
    · rw [if_pos hp]
      exact .inr ⟨u, _, rfl, hp, rfl⟩
    · rw [if_neg hp]
      exact .inl ⟨_, rfl⟩

theorem signIn_eq_ok {email : Option String} {password : String} {u : User} {d' : Deployment}
    (h : (signIn email password).exec d = (.ok u, d')) :
    ∃ x t, d.db.userByEmail? email = some x ∧ d.verifies password x.passwordHash = true ∧
      u = x.signedIn t ∧ d'.db = { d.db with users := d.db.users.map fun y =>
        if y.id = (x.signedIn t).id then x.signedIn t else y } := by
  rcases signIn_cases email password d with ⟨e, hexec⟩ | ⟨x, t, hx, hp, hexec⟩
  · rw [h] at hexec
    cases hexec
  · rw [h] at hexec
    cases hexec
    exact ⟨x, t, hx, hp, rfl, rfl⟩

/-- What is true of the sign-in of `u` with a password, after which the catalogue is `db'`. -/
structure SignsIn (d : Deployment) (email password : String) (u : User) (db' : Database) : Prop where
  /-- The address of the user matches the one given. -/
  address : Text.like u.email email = true
  /-- The password goes with what is kept of that of the user. -/
  password : d.verifies password u.passwordHash = true
  /-- The user is one of the catalogue, in which only the time of the sign-in is noted. -/
  noted : ∃ x ∈ d.db.users, ∃ t, u = x.signedIn t ∧ db' = d.db.noteSignIn x.id t

theorem signsIn_of_exec {email password : String} {u : User} {d' : Deployment}
    (hids : (d.db.users.map (·.id)).Nodup)
    (h : (signIn (some email) password).exec d = (.ok u, d')) :
    SignsIn d email password u d'.db := by
  obtain ⟨x, t, hx, hp, rfl, hdb⟩ := signIn_eq_ok h
  obtain ⟨hm, hlike⟩ := Database.mem_of_userByEmail? hx
  exact ⟨hlike, hp, x, hm, t, rfl, hdb.trans (Database.noteSignIn_eq hids hm t)⟩

end

/-- A catalogue with one user of an address, whose password is `"secret"`. -/
def soleUser (email : String) : Deployment where
  db :=
    { roles := [Sample.role .admin]
      organizations := [Sample.organization]
      users := [{ Sample.user 0 with email := email, passwordHash := "hashed:secret" }] }

theorem exec_signIn_soleUser {email address : String} (h : Text.like address email = true) :
    ∃ u d', (signIn (some email) "secret").exec (soleUser address) = (.ok u, d') ∧
      u.email = address := by
  have hfind : (soleUser address).db.userByEmail? (some email) =
      some { Sample.user 0 with email := address, passwordHash := "hashed:secret" } := by
    refine List.find?_cons_of_pos ?_
    simpa using h
  rcases signIn_cases (some email) "secret" (soleUser address) with ⟨e, hexec⟩ | ⟨u, t, hu, -, hexec⟩
  · rw [signIn, Op.exec_bind_ok (Op.exec_db _), hfind] at hexec
    cases hexec
  · rw [hfind] at hu
    cases hu
    exact ⟨_, _, hexec, rfl⟩

/-- **Who signs in.** A sign-in that answers has found a user whose address matches the given one, with
    the password of that user, and notes the time of it and nothing else; one that fails changes
    nothing. The user found has the address that was given, in any letters, in every catalogue exactly
    if the address has no wildcards. -/
theorem signIn_identifies_iff (email : String) :
    (∀ d password, (d.db.users.map (·.id)).Nodup →
        (∀ u d', (signIn (some email) password).exec d = (.ok u, d') →
          SignsIn d email password u d'.db) ∧
        ∀ e d', (signIn (some email) password).exec d = (.error e, d') → d'.db = d.db) ∧
      ((∀ d password u d', (signIn (some email) password).exec d = (.ok u, d') →
          Text.foldAscii u.email = Text.foldAscii email) ↔
        ∀ c ∈ email.toList, ¬ Text.IsWildcard c) := by
  refine ⟨fun d password hids => ⟨fun u d' => signsIn_of_exec hids, fun e d' h => ?_⟩, ?_, ?_⟩
  · rcases signIn_cases (some email) password d with ⟨e', hexec⟩ | ⟨u, t, -, -, hexec⟩
    · rw [h] at hexec
      cases hexec
      rfl
    · rw [h] at hexec
      cases hexec
  · intro hsame c hc hw
    -- a user whose address has letters in the place of the wildcards signs in
    have hlike : Text.like (.ofList (Text.filled 'x' email.toList)) email = true := by
      rw [Text.like_iff, String.toList_ofList]
      exact Text.like_filled 'x' _
    obtain ⟨u, d', hexec, hu⟩ := exec_signIn_soleUser hlike
    have hfold := hsame _ _ u d' hexec
    rw [hu, Text.foldAscii, Text.foldAscii, String.toList_ofList] at hfold
    exact Text.map_fold_filled_ne hc hw (String.ofList_injective hfold)
  · intro hplain d password u d' h
    obtain ⟨x, t, hx, -, rfl, -⟩ := signIn_eq_ok h
    have hlike := Text.like_iff.1 (Database.mem_of_userByEmail? hx).2
    exact congrArg String.ofList (Text.map_fold_eq_of_like hlike hplain).symm

end ReportMigration
