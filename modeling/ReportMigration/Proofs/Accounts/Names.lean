import ReportMigration.Proofs.Accounts.Changes
import ReportMigration.Proofs.Accounts.Registration
/-!
The name of a user, from the registration on and over all changes.

A new user and a changed one get their name by different rules. The rule for changes always gives the
name that goes with the first and the last name. The one for new users takes a name that stands alone as
it is given, and the first name if both are blank.

* `User.Presentable`: first and last names on which the two rules agree (`nameOnEntry_iff`);
* `UserRequest.run_isNamed`: one request keeps the one row of a user and gives it the right name, or
  leaves its names as they are;
* `isNamed_iff_presentable_or_renamed`: a user has the right name exactly if the names of the
  registration were presentable, or a later change gave a first or a last name.
-/
namespace ReportMigration

/-! ## Blanks around a text -/

namespace Text

variable {s w : String}

theorem IsTrimmed.append_space (h : IsTrimmed s w) : IsTrimmed (s ++ " ") w := by
  obtain ⟨a, b, hs, ha, hb⟩ := h.around
  refine ⟨⟨a, b ++ [' '], ?_, ha, fun c hc => ?_⟩, h.head, h.last⟩
  · rw [String.toList_append, hs, List.append_assoc]
    rfl
  · rcases List.mem_append.1 hc with hc | hc
    · exact hb c hc
    · rw [List.mem_singleton.1 hc]
      rfl

theorem IsTrimmed.space_append (h : IsTrimmed s w) : IsTrimmed (" " ++ s) w := by
  obtain ⟨a, b, hs, ha, hb⟩ := h.around
  refine ⟨⟨' ' :: a, b, ?_, fun c hc => ?_, hb⟩, h.head, h.last⟩
  · rw [String.toList_append, hs]
    rfl
  · rcases List.mem_cons.1 hc with rfl | hc
    · rfl
    · exact ha c hc

/-- A text of which nothing is left is made of blanks. -/
theorem isBlank_of_trim_eq_empty (h : trim s = "") {c : Char} (hc : c ∈ s.toList) :
    isBlank c = true := by
  obtain ⟨a, b, hs, ha, hb⟩ := (isTrimmed_trim s).around
  rw [h, String.toList_empty, List.append_nil] at hs
  rw [hs] at hc
  exact (List.mem_append.1 hc).elim (ha c) (hb c)

end Text

/-! ## The name on entry -/

namespace User

variable {first last : Option String}

/-- The first and the last name of a new user are such that the name goes with them. -/
structure Presentable (first last : Option String) : Prop where
  /-- Where one of them is missing, there are no blanks around the other. -/
  alone : first.getD "" = "" ∨ last.getD "" = "" →
    Text.IsTrimmed (first.getD "" ++ last.getD "") (first.getD "" ++ last.getD "")
  /-- Where neither is, one of them is more than blanks. -/
  both : first.getD "" ≠ "" → last.getD "" ≠ "" →
    ¬ Text.IsTrimmed (first.getD "" ++ " " ++ last.getD "") ""

/-- A text in the place of itself without the blanks, or of the unknown name. -/
theorem eq_trimmed_iff {p : String} (hp : p ≠ "") :
    p = (if Text.trim p = "" then unknownName else Text.trim p) ↔ Text.IsTrimmed p p := by
  constructor
  · intro h
    split at h
    next hblank =>
      rw [h] at hblank
      exact absurd hblank (by decide)
    next =>
      have htrim := Text.isTrimmed_trim p
      rwa [← h] at htrim
  · intro h
    rw [← h.eq_trim, if_neg hp]

/-- A space next to a name that stands alone is one of the blanks around it. -/
theorem trim_alone {f l : String} (h : f = "" ∨ l = "") :
    Text.trim (f ++ " " ++ l) = Text.trim (f ++ l) := by
  rcases h with rfl | rfl
  · simpa using (Text.isTrimmed_trim l).space_append.eq_trim.symm
  · simpa using (Text.isTrimmed_trim f).append_space.eq_trim.symm

theorem nameOnEntry_alone (h : first.getD "" = "" ∨ last.getD "" = "") : nameOnEntry first last =
    if first.getD "" ++ last.getD "" = "" then unknownName else first.getD "" ++ last.getD "" := by
  rcases h with hfirst | hlast
  · by_cases hlast : last.getD "" = "" <;> simp [nameOnEntry, hfirst, hlast]
  · by_cases hfirst : first.getD "" = "" <;> simp [nameOnEntry, hfirst, hlast]

theorem nameOnEntry_both (hfirst : first.getD "" ≠ "") (hlast : last.getD "" ≠ "") :
    nameOnEntry first last =
      if Text.trim (first.getD "" ++ " " ++ last.getD "") = "" then first.getD ""
      else Text.trim (first.getD "" ++ " " ++ last.getD "") := by
  simp [nameOnEntry, hfirst, hlast]

/-- **The name of a new user goes with the first and the last name exactly if they are presentable.** -/
theorem nameOnEntry_iff :
    IsDisplayName first last (nameOnEntry first last) ↔ Presentable first last := by
  rw [isDisplayName_iff, nameOnChange_eq]
  by_cases hone : first.getD "" = "" ∨ last.getD "" = ""
  · rw [nameOnEntry_alone hone, trim_alone hone]
    have hboth : first.getD "" ≠ "" → last.getD "" ≠ "" →
        ¬ Text.IsTrimmed (first.getD "" ++ " " ++ last.getD "") "" := fun hfirst hlast =>
      (hone.elim hfirst hlast).elim
    by_cases hnone : first.getD "" ++ last.getD "" = ""
    · rw [hnone, if_pos rfl, if_pos (by decide)]
      refine ⟨fun _ => ⟨fun _ => ?_, hboth⟩, fun _ => rfl⟩
      rw [hnone]
      exact ⟨⟨[], [], rfl, nofun, nofun⟩, nofun, nofun⟩
    · rw [if_neg hnone, eq_trimmed_iff hnone]
      exact ⟨fun h => ⟨fun _ => h, hboth⟩, fun h => h.alone hone⟩
  · obtain ⟨hfirst, hlast⟩ := not_or.1 hone
    rw [nameOnEntry_both hfirst hlast]
    constructor
    · intro h
      refine ⟨fun h' => absurd h' hone, fun _ _ hblank => ?_⟩
      rw [if_pos hblank.eq_trim.symm, if_pos hblank.eq_trim.symm] at h
      -- the first name is then blank, and the unknown name is not
      have hU : 'U' ∈ (first.getD "" ++ " " ++ last.getD "").toList := by
        rw [String.toList_append, String.toList_append, h]
        exact List.mem_append_left _ (List.mem_append_left _ (by decide))
      exact absurd (Text.isBlank_of_trim_eq_empty hblank.eq_trim.symm hU) (by decide)
    · intro h
      have hsome : Text.trim (first.getD "" ++ " " ++ last.getD "") ≠ "" := by
        intro hblank
        have htrim := Text.isTrimmed_trim (first.getD "" ++ " " ++ last.getD "")
        rw [hblank] at htrim
        exact h.both hfirst hlast htrim
      rw [if_neg hsome, if_neg hsome]

/-- The name of the user goes with the first and the last name. -/
def IsNamed (u : User) : Prop := IsDisplayName u.firstName u.lastName u.name

end User

/-! ## The one row of a user -/

/-- The row is the only one with its identifier. -/
def Database.Sole (db : Database) (x : User) : Prop := db.users.filter (·.id = x.id) = [x]

section
variable {db : Database} {x : User}

theorem Database.Sole.findUser? (h : db.Sole x) : db.findUser? x.id = some x := by
  rw [Database.findUser?, ← List.head?_filter, h]
  rfl

/-- Another user is entered. -/
theorem Database.Sole.append {u : User} (h : db.Sole x) (hu : ∀ y ∈ db.users, y.id ≠ u.id) :
    { db with users := db.users ++ [u] }.Sole x := by
  have hx : x ∈ db.users := List.mem_of_find?_eq_some h.findUser?
  rw [Sole, List.filter_append, h]
  simp [(hu x hx).symm]

/-- A row takes the place of the one with its identifier. -/
theorem Database.Sole.replace (h : db.Sole x) (v : User) :
    { db with users := db.users.map fun y : User => if y.id = v.id then v else y }.Sole
      (if x.id = v.id then v else x) := by
  have hid : ∀ y : User, (if y.id = v.id then v else y).id = y.id := by
    intro y
    split
    next he => exact he.symm
    next => rfl
  rw [Sole, List.filter_map, hid x]
  have hsame : ((fun y : User => decide (y.id = x.id)) ∘ fun y => if y.id = v.id then v else y) =
      fun y => decide (y.id = x.id) := by
    funext y
    rw [Function.comp, hid y]
  rw [hsame, h]
  rfl

end

/-! ## Sequences of requests -/

/-- A user is entered, or changed on behalf of another one. -/
inductive UserRequest where
  | entry (v : Value)
  | change (target : Id) (changes : UserChanges) (actor : Id)

namespace UserRequest

variable {d : Deployment} {i : Id}

/-- The deployment after a request, also after one that failed. -/
def run : UserRequest → Deployment → Deployment
  | entry v, d => ((register v).exec d).2
  | change target c actor, d => ((updateUser target c actor).exec d).2

/-- The deployment after some requests. -/
def runs (rs : List UserRequest) (d : Deployment) : Deployment := rs.foldl (fun d q => q.run d) d

/-- The request is granted, and gives the user with the identifier `i` a first or a last name. -/
def Renames (q : UserRequest) (i : Id) (d : Deployment) : Prop :=
  ∃ c actor, q = change i c actor ∧ (c.firstName.isSome ∨ c.lastName.isSome) ∧
    ((updateUser i c actor).exec d).1 = .ok ()

/-- One of the requests gives the user a first or a last name. -/
def Renamed (rs : List UserRequest) (i : Id) (d : Deployment) : Prop :=
  ∃ before q after, rs = before ++ q :: after ∧ q.Renames i (runs before d)

theorem not_renamed_nil : ¬ Renamed [] i d := by
  rintro ⟨before, q, after, h, -⟩
  cases before <;> cases h

theorem renamed_cons {q : UserRequest} {rs : List UserRequest} :
    Renamed (q :: rs) i d ↔ q.Renames i d ∨ Renamed rs i (q.run d) := by
  constructor
  · rintro ⟨before, q', after, h, hq⟩
    cases before with
    | nil =>
      cases h
      exact .inl hq
    | cons q₀ before =>
      cases h
      exact .inr ⟨before, q', after, rfl, hq⟩
  · rintro (hq | ⟨before, q', after, rfl, hq⟩)
    · exact ⟨[], q, rs, rfl, hq⟩
    · exact ⟨q :: before, q', after, rfl, hq⟩

/-- Changes that are granted give the right name, or leave the names as they are. -/
theorem isNamed_of_grants {c : UserChanges} {u v : User} (h : c.Grants u v) :
    v.IsNamed ↔ u.IsNamed ∨ c.firstName.isSome ∨ c.lastName.isSome := by
  by_cases hgiven : c.firstName.isSome ∨ c.lastName.isSome
  · exact ⟨fun _ => .inr hgiven, fun _ => h.renamed hgiven⟩
  · obtain ⟨hfirst, hlast⟩ : c.firstName = none ∧ c.lastName = none := by simpa using hgiven
    have hv : v.IsNamed ↔ u.IsNamed := by
      rw [User.IsNamed, h.firstName, h.lastName, h.unrenamed hfirst hlast, hfirst, hlast]
      rfl
    rw [hv, or_iff_left hgiven]

/-- One request keeps the one row of a user. Their name is right after it if it was before, or if the
    request gives them a first or a last name. -/
theorem run_isNamed (q : UserRequest) {x : User} (h : d.db.Sole x) :
    ∃ y, y.id = x.id ∧ (q.run d).db.Sole y ∧ (y.IsNamed ↔ x.IsNamed ∨ q.Renames x.id d) := by
  cases q with
  | entry v =>
    have hno : ¬ (entry v).Renames x.id d := by rintro ⟨c, actor, hq, -⟩; cases hq
    refine ⟨x, rfl, ?_, (or_iff_left hno).symm⟩
    rcases exec_register_cases v d with ⟨e, he⟩ | ⟨r, u, db, -, -, hdb, hexec⟩
    · rw [run, he]
      exact h
    · obtain ⟨hfresh, rfl⟩ := Database.addUser_eq_ok hdb
      rw [run, hexec]
      exact h.append hfresh
  | change target c actor =>
    rcases exec_updateUser_cases target actor c d with
      ⟨e, he, -⟩ | ⟨u, v, hfound, rfl, -, -, hgrants, hexec⟩
    · refine ⟨x, rfl, by rw [run, he]; exact h, (or_iff_left ?_).symm⟩
      rintro ⟨c', actor', hq, -, hok⟩
      cases hq
      rw [he] at hok
      cases hok
    · have hrun : (run (change u.id c actor) d).db.Sole (if x.id = v.id then v else x) := by
        rw [run, hexec]
        exact h.replace v
      by_cases hx : x.id = u.id
      · obtain rfl : x = u := Option.some.inj (h.findUser?.symm.trans (hx ▸ hfound))
        rw [if_pos hgrants.id_eq.symm] at hrun
        refine ⟨v, hgrants.id_eq, hrun, (isNamed_of_grants hgrants).trans (or_congr_right ?_)⟩
        constructor
        · exact fun hgiven => ⟨c, actor, rfl, hgiven, by rw [hexec]⟩
        · rintro ⟨c', actor', hq, hgiven, -⟩
          cases hq
          exact hgiven
      · rw [if_neg (hgrants.id_eq ▸ hx)] at hrun
        refine ⟨x, rfl, hrun, (or_iff_left ?_).symm⟩
        rintro ⟨c', actor', hq, -⟩
        injection hq with hid
        exact hx hid.symm

/-- The same over a sequence of requests. -/
theorem runs_isNamed (rs : List UserRequest) {x : User} (h : d.db.Sole x) :
    ∃ y, y.id = x.id ∧ (runs rs d).db.Sole y ∧ (y.IsNamed ↔ x.IsNamed ∨ Renamed rs x.id d) := by
  induction rs generalizing d x with
  | nil => exact ⟨x, rfl, h, (or_iff_left not_renamed_nil).symm⟩
  | cons q rs ih =>
    obtain ⟨y, hy, hsole, hnamed⟩ := q.run_isNamed h
    obtain ⟨z, hz, hsole', hnamed'⟩ := ih hsole
    exact ⟨z, hz.trans hy, hsole', by rw [hnamed', hnamed, renamed_cons, hy, or_assoc]⟩

end UserRequest

/-- **What the name of a user says.** After any requests that follow a registration, there is one row of
    the user. Its name goes with the first and the last name exactly if those of the registration were
    presentable, or one of the requests gave the user a first or a last name. -/
theorem isNamed_iff_presentable_or_renamed {v : Value} {d d' : Deployment} {u : User}
    (h : (register v).exec d = (.ok u, d')) (rs : List UserRequest) :
    ∃ x, (UserRequest.runs rs d').db.users.filter (·.id = u.id) = [x] ∧
      (User.IsDisplayName x.firstName x.lastName x.name ↔
        User.Presentable (v.optionalText "first_name") (v.optionalText "last_name") ∨
          UserRequest.Renamed rs u.id d') := by
  rcases exec_register_cases v d with ⟨e, he⟩ | ⟨r, u', db, hr, hu, hdb, hexec⟩
  · rw [h] at he
    cases he
  rw [h] at hexec
  cases hexec
  obtain ⟨-, -, -, hfirst, hlast⟩ := Registration.ofValue_eq_ok hr
  obtain ⟨-, hfirst', hlast', hname⟩ := Registration.toUser_eq_ok hu
  obtain ⟨hfresh, rfl⟩ := Database.addUser_eq_ok hdb
  have hsole : { d.db with users := d.db.users ++ [u] }.Sole u := by
    rw [Database.Sole, List.filter_append, List.filter_eq_nil_iff.2 (by simpa using hfresh)]
    simp
  have hnamed : u.IsNamed ↔
      User.Presentable (v.optionalText "first_name") (v.optionalText "last_name") := by
    rw [User.IsNamed, hfirst', hlast', hname, hfirst, hlast, User.nameOnEntry_iff]
  obtain ⟨x, hx, hrow, hiff⟩ := UserRequest.runs_isNamed rs (d := { d with
    db := { d.db with users := d.db.users ++ [u] }, drawn := d.drawn + 1 }) hsole
  exact ⟨x, hx ▸ hrow, hiff.trans (or_congr_left hnamed)⟩

/-- A newcomer with blanks around the first name and no last name. -/
def paddedNewcomer : Value := .record [("email", .text "ann@ex.com"), ("password", .text "p"),
  ("phone_number", .text "556"), ("first_name", .text " Ann "),
  ("organization_id", .text Sample.organizationId.text),
  ("role_id", .text (Sample.roleId .developer).text), ("manager_id", .null)]

/-- The name is not right after the registration, and is once the last name was taken away. -/
theorem isNamed_iff_presentable_or_renamed_padded :
    ∃ u d', (register paddedNewcomer).exec staffDeployment = (.ok u, d') ∧
      (∃ x, d'.db.users.filter (·.id = u.id) = [x] ∧
        ¬ User.IsDisplayName x.firstName x.lastName x.name) ∧
      ∃ x, (UserRequest.runs [.change u.id { lastName := some none } (Sample.userId 0)]
          d').db.users.filter (·.id = u.id) = [x] ∧
        User.IsDisplayName x.firstName x.lastName x.name := by
  have hok : ((register paddedNewcomer).exec staffDeployment).1.isOk = true := by decide +kernel
  rcases exec_register_cases paddedNewcomer staffDeployment with
    ⟨e, he⟩ | ⟨r, u, db, -, -, hdb, hexec⟩
  · rw [he] at hok
    cases hok
  obtain ⟨hfresh, rfl⟩ := Database.addUser_eq_ok hdb
  obtain ⟨d', hexec, husers⟩ : ∃ d', (register paddedNewcomer).exec staffDeployment = (.ok u, d') ∧
      d'.db.users = staffDeployment.db.users ++ [u] := ⟨_, hexec, rfl⟩
  refine ⟨u, d', hexec, ?_, ?_⟩
  · obtain ⟨x, hx, hiff⟩ := isNamed_iff_presentable_or_renamed hexec []
    refine ⟨x, hx, fun hnamed => ?_⟩
    rcases hiff.1 hnamed with hpresentable | hrenamed
    · have htrimmed := hpresentable.alone (.inr (by decide +kernel))
      exact absurd (htrimmed.head ' ' (by decide +kernel)) (by decide)
    · exact UserRequest.not_renamed_nil hrenamed
  · obtain ⟨x, hx, hiff⟩ := isNamed_iff_presentable_or_renamed hexec
      [.change u.id { lastName := some none } (Sample.userId 0)]
    refine ⟨x, hx, hiff.2 (.inr ⟨[], _, [], rfl, _, _, rfl, .inr rfl, ?_⟩)⟩
    rcases exec_updateUser_cases u.id (Sample.userId 0) { lastName := some none } d' with
      ⟨e, -, hno⟩ | ⟨_, _, -, -, -, -, -, hgranted⟩
    · refine absurd ⟨⟨u, by simp [husers], rfl⟩, ?_, ?_⟩ hno
      · exact (hfresh _ List.mem_cons_self).symm
      · exact ⟨nofun, nofun, nofun, nofun⟩
    · exact congrArg Prod.fst hgranted

end ReportMigration
