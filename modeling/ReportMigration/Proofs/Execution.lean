import ReportMigration.Storage.Archive
/-!
Running operations.

* `exists_answer_of_mapM`, `exists_item_of_mapM` and `exists_of_mapM_eq_error` tell the answers of
  the items of a list from the answer for the list; `mapM_answers` does so where some items have no
  answer, `mapM_read` for rows that are read back;
* `Op.exec_bind` and its companions say what each step of an operation answers and leaves behind, so
  that later proofs need not open the definition of an operation;
* `Op.Keeps v x` says that `x` leaves the part `v` of the deployment as it was; it passes from the
  steps of an operation to the whole;
* `Op.Preserves J x` says that `J` holds of the catalogue after `x` if it did before, also where `x`
  fails; inside a transaction only the ends at which it answers count
  (`Leads.after_transaction`), and `Op.Leads P x Q` is about those;
* `Deployment.provider?` is the provider that the environment asks for, if it is a known one.
-/
namespace ReportMigration

/-! ## Answers -/

theorem eq_ok_of_isOk {ε : Type} {r : Except ε Unit} (h : r.isOk = true) : r = .ok () := by
  cases r with
  | error e => cases h
  | ok u => rfl

/-- Where one thing after another is answered, so is the first. -/
theorem exists_of_bind_eq_ok {ε α β : Type} {x : Except ε α} {f : α → Except ε β} {b : β}
    (h : x >>= f = .ok b) : ∃ a, x = .ok a ∧ f a = .ok b := by
  cases x with
  | error e => cases h
  | ok a => exact ⟨a, rfl, h⟩

theorem bind_of_eq_ok {ε α β : Type} {x : Except ε α} {f : α → Except ε β} {a : α} (h : x = .ok a) :
    x >>= f = f a := by
  rw [h]
  rfl

theorem bind_of_eq_error {ε α β : Type} {x : Except ε α} {f : α → Except ε β} {e : ε}
    (h : x = .error e) : x >>= f = .error e := by
  rw [h]
  rfl

/-! ## Lists of answers -/

section
variable {ε α β : Type} {f : α → Except ε β} {xs : List α}

theorem mapM_cons_eq_ok {x : α} {ys : List β} (h : (x :: xs).mapM f = .ok ys) :
    ∃ z zs, f x = .ok z ∧ xs.mapM f = .ok zs ∧ ys = z :: zs := by
  rw [List.mapM_cons] at h
  cases hx : f x with
  | error e => rw [hx] at h; cases h
  | ok z =>
    cases hr : xs.mapM f with
    | error e => rw [hx, hr] at h; cases h
    | ok zs =>
      rw [hx, hr] at h
      cases h
      exact ⟨z, zs, rfl, rfl, rfl⟩

/-- Where none of the answers is a failure, every item has one of them. -/
theorem exists_answer_of_mapM {x : α} : ∀ {xs : List α} {ys : List β}, xs.mapM f = .ok ys →
    x ∈ xs → ∃ y ∈ ys, f x = .ok y
  | x' :: xs, ys, h, hx => by
    obtain ⟨z, zs, hz, hr, rfl⟩ := mapM_cons_eq_ok h
    rcases List.mem_cons.1 hx with rfl | hx
    · exact ⟨z, List.mem_cons_self, hz⟩
    · obtain ⟨y, hy, hfy⟩ := exists_answer_of_mapM hr hx
      exact ⟨y, List.mem_cons_of_mem _ hy, hfy⟩

/-- Every answer is that of an item. -/
theorem exists_item_of_mapM {y : β} : ∀ {xs : List α} {ys : List β}, xs.mapM f = .ok ys →
    y ∈ ys → ∃ x ∈ xs, f x = .ok y
  | [], ys, h, hy => by cases h; cases hy
  | x :: xs, ys, h, hy => by
    obtain ⟨z, zs, hz, hr, rfl⟩ := mapM_cons_eq_ok h
    rcases List.mem_cons.1 hy with rfl | hy
    · exact ⟨x, List.mem_cons_self, hz⟩
    · obtain ⟨x', hx, hfx⟩ := exists_item_of_mapM hr hy
      exact ⟨x', List.mem_cons_of_mem _ hx, hfx⟩

theorem exists_of_mapM_eq_error {e : ε} : ∀ {xs : List α}, xs.mapM f = .error e →
    ∃ x ∈ xs, f x = .error e
  | [], h => by cases h
  | x :: xs, h => by
    rw [List.mapM_cons] at h
    cases hx : f x with
    | error e' =>
      rw [hx] at h
      cases h
      exact ⟨x, List.mem_cons_self, hx⟩
    | ok z =>
      cases hr : xs.mapM f with
      | error e' =>
        rw [hx, hr] at h
        cases h
        obtain ⟨x', hm, hx'⟩ := exists_of_mapM_eq_error hr
        exact ⟨x', List.mem_cons_of_mem _ hm, hx'⟩
      | ok zs => rw [hx, hr] at h; cases h

theorem mapM_congr {g : α → Except ε β} (h : ∀ x ∈ xs, f x = g x) : xs.mapM f = xs.mapM g := by
  induction xs with
  | nil => rfl
  | cons x xs ih =>
    rw [List.mapM_cons, List.mapM_cons, h x List.mem_cons_self,
      ih fun y hy => h y (List.mem_cons_of_mem _ hy)]

/-- Items that are answered by `g` where they have `P`, and not at all otherwise: one of them is not
    answered, or all are. -/
theorem mapM_answers {g : α → β} {P : α → Prop} (hf : ∀ x y, f x = .ok y ↔ y = g x ∧ P x) :
    ∀ xs : List α, (∃ e, xs.mapM f = .error e ∧ ∃ x ∈ xs, ¬ P x) ∨
      xs.mapM f = .ok (xs.map g) ∧ ∀ x ∈ xs, P x
  | [] => .inr ⟨rfl, by simp⟩
  | x :: xs => by
    rw [List.mapM_cons]
    cases hx : f x with
    | error e =>
      refine .inl ⟨e, rfl, x, List.mem_cons_self, fun hP => ?_⟩
      rw [(hf x (g x)).2 ⟨rfl, hP⟩] at hx
      cases hx
    | ok y =>
      obtain ⟨rfl, hP⟩ := (hf x y).1 hx
      rcases mapM_answers hf xs with ⟨e, hr, z, hz, hbad⟩ | ⟨hr, hall⟩
      · exact .inl ⟨e, by rw [hr]; rfl, z, List.mem_cons_of_mem _ hz, hbad⟩
      · refine .inr ⟨by rw [hr]; rfl, fun z hz => ?_⟩
        rcases List.mem_cons.1 hz with rfl | hz
        · exact hP
        · exact hall z hz

/-- Rows that are read back, where those with `P` come back as they stand and the others not at all:
    one of them cannot be read, or all come back. -/
theorem mapM_read {f : α → Except ε α} {P : α → Prop} (hf : ∀ x y, f x = .ok y ↔ y = x ∧ P x)
    (xs : List α) : (∃ e, xs.mapM f = .error e ∧ ∃ x ∈ xs, ¬ P x) ∨
      xs.mapM f = .ok xs ∧ ∀ x ∈ xs, P x := by
  have h := mapM_answers hf xs
  rwa [List.map_id'] at h

theorem mapM_read_iff {f : α → Except ε α} {P : α → Prop} (hf : ∀ x y, f x = .ok y ↔ y = x ∧ P x)
    {ys : List α} : xs.mapM f = .ok ys ↔ ys = xs ∧ ∀ x ∈ xs, P x := by
  rcases mapM_read hf xs with ⟨e, he, x, hx, hno⟩ | ⟨hok, hall⟩
  · rw [he]
    exact ⟨nofun, fun h => absurd (h.2 x hx) hno⟩
  · rw [hok]
    exact ⟨fun h => ⟨(Except.ok.inj h).symm, hall⟩, fun h => congrArg Except.ok h.1.symm⟩

/-- The same for a row that may be missing. -/
theorem mapM_read?_iff {f : α → Except ε α} {P : α → Prop} (hf : ∀ x y, f x = .ok y ↔ y = x ∧ P x)
    {o o' : Option α} : o.mapM f = .ok o' ↔ o' = o ∧ ∀ x, o = some x → P x := by
  cases o with
  | none => exact ⟨fun h => ⟨(Except.ok.inj h).symm, nofun⟩, fun h => congrArg Except.ok h.1.symm⟩
  | some x =>
    rw [Option.mapM_some]
    constructor
    · intro h
      obtain ⟨y, hy, h⟩ := exists_of_bind_eq_ok h
      cases h
      obtain ⟨rfl, hP⟩ := (hf x y).1 hy
      exact ⟨rfl, fun z hz => Option.some.inj hz ▸ hP⟩
    · rintro ⟨rfl, hP⟩
      rw [(hf x x).2 ⟨rfl, hP x rfl⟩]
      rfl

end

/-- What the clock will show next. -/
def Deployment.nextTime (d : Deployment) : Timestamp :=
  Timestamp.epoch.addSeconds (d.ticks + 1 : Nat)

namespace Op

variable {α β γ : Type}

@[simp] theorem exec_pure (a : α) (d : Deployment) : (pure a : Op α).exec d = (.ok a, d) := rfl

theorem exec_bind (x : Op α) (k : α → Op β) (d : Deployment) :
    (x >>= k).exec d = match x.exec d with
      | (.ok a, d') => (k a).exec d'
      | (.error f, d') => (.error f, d') := by
  unfold exec
  simp only [ExceptT.run_bind, StateT.run_bind]
  rcases StateT.run (ExceptT.run x) d with ⟨r | r, d'⟩ <;> rfl

theorem exec_bind_ok {x : Op α} {k : α → Op β} {d d' : Deployment} {a : α}
    (h : x.exec d = (.ok a, d')) : (x >>= k).exec d = (k a).exec d' := by
  rw [exec_bind, h]

theorem exec_bind_error {x : Op α} {k : α → Op β} {d d' : Deployment} {f : Fault}
    (h : x.exec d = (.error f, d')) : (x >>= k).exec d = (.error f, d') := by
  rw [exec_bind, h]

/-- Where one operation after another answers, so does the first. -/
theorem exists_of_exec_bind {x : Op α} {k : α → Op β} {d d'' : Deployment} {b : β}
    (h : (x >>= k).exec d = (.ok b, d'')) :
    ∃ a d', x.exec d = (.ok a, d') ∧ (k a).exec d' = (.ok b, d'') := by
  rw [exec_bind] at h
  rcases hx : x.exec d with ⟨f | a, d'⟩
  · rw [hx] at h
    cases h
  · rw [hx] at h
    exact ⟨a, d', rfl, h⟩

theorem exec_map_snd (x : Op α) (f : α → β) (d : Deployment) :
    ((do return f (← x) : Op β).exec d).2 = (x.exec d).2 := by
  rw [exec_bind]
  rcases x.exec d with ⟨r | a, d'⟩ <;> rfl

@[simp] theorem exec_get (d : Deployment) : (get : Op Deployment).exec d = (.ok d, d) := rfl

@[simp] theorem exec_attempt (x : Op α) (d : Deployment) :
    (attempt x).exec d = (.ok (x.exec d).1, (x.exec d).2) := rfl

@[simp] theorem exec_ofExcept (r : Except Fault α) (d : Deployment) :
    (ofExcept r).exec d = (r, d) := by
  cases r <;> rfl

@[simp] theorem exec_db (d : Deployment) : Op.db.exec d = (.ok d.db, d) := rfl

@[simp] theorem exec_change (f : Database → Database) (d : Deployment) :
    (change f).exec d = (.ok (), { d with db := f d.db }) := rfl

theorem exec_write (f : Database → Except Fault Database) (d : Deployment) :
    (write f).exec d = match f d.db with
      | .ok db => (.ok (), { d with db := db })
      | .error e => (.error e, d) := by
  simp only [write, exec_bind, exec_get]
  cases f d.db <;> rfl

theorem exec_write_ok {f : Database → Except Fault Database} {d : Deployment} {db : Database}
    (h : f d.db = .ok db) : (write f).exec d = (.ok (), { d with db := db }) := by
  rw [exec_write, h]

theorem exec_write_error {f : Database → Except Fault Database} {d : Deployment} {e : Fault}
    (h : f d.db = .error e) : (write f).exec d = (.error e, d) := by
  rw [exec_write, h]

theorem exec_write_eq_ok_iff {f : Database → Except Fault Database} {d d' : Deployment} :
    (write f).exec d = (.ok (), d') ↔ ∃ db, f d.db = .ok db ∧ d' = { d with db := db } := by
  rw [exec_write]
  cases f d.db with
  | error e =>
    refine iff_of_false (fun h => by cases h) ?_
    rintro ⟨db, h, -⟩
    cases h
  | ok db =>
    constructor
    · intro h
      cases h
      exact ⟨db, rfl, rfl⟩
    · rintro ⟨db', h, rfl⟩
      cases h
      rfl

theorem exec_reach (kind : OutageKind) (key : String) (turn : Nat) (d : Deployment) :
    (reach kind key turn).exec d =
      if d.outages.hits kind key turn then (.error (d.outages.fault kind key), d) else (.ok (), d) := by
  simp only [reach, exec_bind, exec_get]
  split <;> rfl

theorem exec_connect (kind : OutageKind) (key : String) (turn : Nat) (d : Deployment) :
    (connect kind key turn).exec d =
      if d.outages.unreachable kind key turn then (.error (d.outages.fault .connect ""), d)
      else (.ok (), d) := by
  simp only [connect, exec_bind, exec_get]
  split <;> rfl

theorem exec_object (key : String) (missing : Fault) (d : Deployment) :
    (object key missing).exec d = match d.store.get? key with
      | some c => (.ok c, d)
      | none => (.error missing, d) := by
  simp only [object, exec_bind, exec_get]
  cases d.store.get? key <;> rfl

@[simp] theorem exec_pagesUnder (size : Nat) (start : String) (d : Deployment) :
    (pagesUnder size start).exec d = (.ok (pages size (d.store.keysUnder start)), d) := rfl

theorem exec_transaction (x : Op α) (d : Deployment) :
    (transaction x).exec d = match x.exec d with
      | (.ok a, d') => (.ok a, d')
      | (.error f, d') => (.error f, { d' with db := d.db }) := rfl

theorem exec_transaction_ok {x : Op α} {d d' : Deployment} {a : α} (h : x.exec d = (.ok a, d')) :
    (transaction x).exec d = (.ok a, d') := by
  rw [exec_transaction, h]

theorem exec_transaction_error {x : Op α} {d d' : Deployment} {f : Fault}
    (h : x.exec d = (.error f, d')) :
    (transaction x).exec d = (.error f, { d' with db := d.db }) := by
  rw [exec_transaction, h]

theorem exec_transaction_eq_ok_iff {x : Op α} {d d' : Deployment} {a : α} :
    (transaction x).exec d = (.ok a, d') ↔ x.exec d = (.ok a, d') := by
  rw [exec_transaction]
  rcases x.exec d with ⟨f | b, d₁⟩
  · exact iff_of_false (fun h => by cases h) fun h => by cases h
  · rfl

theorem exec_discarding (x : Op α) (d : Deployment) :
    (discarding x).exec d = ((x.exec d).1, { (x.exec d).2 with db := d.db }) := rfl

@[simp] theorem exec_drawId (d : Deployment) :
    drawId.exec d = (.ok (.drawn (d.drawn + 1)), { d with drawn := d.drawn + 1 }) := rfl

theorem exec_now (d : Deployment) :
    now.exec d = (.ok d.nextTime, { d with ticks := d.ticks + 1 }) := rfl

@[simp] theorem exec_ofDisk (f : Disk → Except Fault α) (d : Deployment) :
    (ofDisk f).exec d = (f d.disk, d) := by
  rw [ofDisk, exec_bind, exec_get]
  exact exec_ofExcept _ d

theorem exec_succeeds (x : Op α) (d : Deployment) :
    (succeeds x).exec d = (.ok (x.exec d).1.isOk, (x.exec d).2) := by
  simp only [succeeds, exec_bind, exec_attempt]
  rcases x.exec d with ⟨r | r, d'⟩ <;> rfl

/-! ## What an operation leaves as it was -/

/-- The operation leaves `v` of the deployment as it was, whether it answers or fails. -/
def Keeps (v : Deployment → γ) (x : Op α) : Prop := ∀ d, v (x.exec d).2 = v d

namespace Keeps

variable {v : Deployment → γ}

theorem of_exec {x : Op α} (h : ∀ d, (x.exec d).2 = d) : Keeps v x := fun d => by rw [h]

theorem pure (a : α) : Keeps v (Pure.pure a : Op α) := fun _ => rfl

theorem throw (f : Fault) : Keeps v (MonadExcept.throw f : Op α) := fun _ => rfl

theorem bind {x : Op α} {k : α → Op β} (hx : Keeps v x) (hk : ∀ a, Keeps v (k a)) :
    Keeps v (x >>= k) := by
  intro d
  rw [exec_bind]
  rcases h : x.exec d with ⟨r, d'⟩
  have hd : v d' = v d := by simpa [h] using hx d
  cases r with
  | error f => exact hd
  | ok a => exact (hk a d').trans hd

theorem attempt {x : Op α} (hx : Keeps v x) : Keeps v (Op.attempt x) := hx

theorem ite {c : Prop} [Decidable c] {x y : Op α} (hx : Keeps v x) (hy : Keeps v y) :
    Keeps v (if c then x else y) := by
  split
  · exact hx
  · exact hy

theorem reach (kind : OutageKind) (key : String) (turn : Nat) : Keeps v (Op.reach kind key turn) :=
  of_exec fun d => by rw [exec_reach]; split <;> rfl

theorem connect (kind : OutageKind) (key : String) (turn : Nat) :
    Keeps v (Op.connect kind key turn) :=
  of_exec fun d => by rw [exec_connect]; split <;> rfl

theorem object (key : String) (missing : Fault) : Keeps v (Op.object key missing) :=
  of_exec fun d => by rw [exec_object]; split <;> rfl

theorem ofDisk (f : Disk → Except Fault α) : Keeps v (Op.ofDisk f) :=
  of_exec fun d => by rw [exec_ofDisk]

theorem succeeds {x : Op α} (hx : Keeps v x) : Keeps v (Op.succeeds x) := fun d => by
  rw [exec_succeeds]; exact hx d

theorem forM {ι : Type} {f : ι → Op PUnit} (h : ∀ i, Keeps v (f i)) : ∀ is : List ι, Keeps v (is.forM f)
  | [] => pure _
  | i :: is => bind (h i) fun _ => forM h is

theorem map {δ : Type} {x : Op α} (hx : Keeps v x) (f : γ → δ) : Keeps (fun d => f (v d)) x := fun d =>
  congrArg f (hx d)

end Keeps

theorem Keeps.properties {v : Deployment → γ} (hp : ∀ d n, v { d with pendingCopies := n } = v d)
    (key : String) (look : Nat) : Keeps v (Container.properties key look) := by
  refine .bind (.reach _ _ _) fun _ => .bind (.object _ _) fun _ => fun d => ?_
  simp only [exec_bind, exec_get]
  split
  · rfl
  · exact hp d _

/-! ## What an operation never breaks -/

/-- Where `J` holds of the catalogue it holds after the operation, whether it answers or fails. -/
def Preserves (J : Database → Prop) (x : Op α) : Prop := ∀ d, J d.db → J (x.exec d).2.db

/-- Where `P` holds and the operation answers, `Q` holds of the answer and of what is left. -/
def Leads (P : Deployment → Prop) (x : Op α) (Q : α → Deployment → Prop) : Prop :=
  ∀ d a d', P d → x.exec d = (.ok a, d') → Q a d'

theorem Leads.bind {P : Deployment → Prop} {Q : α → Deployment → Prop} {R : β → Deployment → Prop}
    {x : Op α} {k : α → Op β} (hx : Leads P x Q) (hk : ∀ a, Leads (Q a) (k a) R) :
    Leads P (x >>= k) R := by
  intro d b d'' hP h
  rw [exec_bind] at h
  rcases hr : x.exec d with ⟨r | a, d'⟩
  · rw [hr] at h
    cases h
  · rw [hr] at h
    exact hk a d' b d'' (hx d a d' hP hr) h

theorem Leads.weaken {P P' : Deployment → Prop} {Q Q' : α → Deployment → Prop} {x : Op α}
    (h : Leads P x Q) (hP : ∀ d, P' d → P d) (hQ : ∀ a d, Q a d → Q' a d) : Leads P' x Q' :=
  fun d a d' hd hx => hQ a d' (h d a d' (hP d hd) hx)

theorem Leads.transaction {P : Deployment → Prop} {Q : α → Deployment → Prop} {x : Op α}
    (h : Leads P x Q) : Leads P (Op.transaction x) Q := by
  intro d a d' hP ht
  rcases hx : x.exec d with ⟨f | b, d''⟩
  · rw [exec_transaction_error hx] at ht
    cases ht
  · rw [exec_transaction_ok hx] at ht
    exact h d a d' hP (hx.trans ht)

/-- A transaction that fails changes nothing, so what it does counts only where it answers. -/
theorem Leads.after_transaction {P : Deployment → Prop} {J : Database → Prop} {x : Op α}
    {d : Deployment} (h : Leads P (Op.transaction x) fun _ d => J d.db) (hP : P d) (hJ : J d.db) :
    J ((Op.transaction x).exec d).2.db := by
  rcases hx : x.exec d with ⟨f | a, d'⟩
  · rw [exec_transaction_error hx]
    exact hJ
  · have ht := exec_transaction_ok hx
    rw [ht]
    exact h d a d' hP ht

namespace Preserves

variable {J : Database → Prop}

theorem of_keeps {x : Op α} (h : Keeps (·.db) x) : Preserves J x := fun d hJ => by
  have hd : (x.exec d).2.db = d.db := h d
  rwa [hd]

theorem leads {x : Op α} (h : Preserves J x) : Leads (J ·.db) x fun _ d => J d.db := by
  intro d a d' hJ hx
  have hd := h d hJ
  rwa [hx] at hd

theorem pure (a : α) : Preserves J (Pure.pure a : Op α) := fun _ h => h

theorem throw (f : Fault) : Preserves J (MonadExcept.throw f : Op α) := fun _ h => h

theorem ofExcept (r : Except Fault α) : Preserves J (Op.ofExcept r) := fun d h => by
  rwa [exec_ofExcept]

theorem bind {x : Op α} {k : α → Op β} (hx : Preserves J x) (hk : ∀ a, Preserves J (k a)) :
    Preserves J (x >>= k) := by
  intro d hJ
  rw [exec_bind]
  have hd := hx d hJ
  rcases hr : x.exec d with ⟨f | a, d'⟩
  · rwa [hr] at hd
  · rw [hr] at hd
    exact hk a d' hd

/-- What follows a look at the catalogue may use what it saw. -/
theorem bind_db {k : Database → Op β} (hk : ∀ d, J d.db → J ((k d.db).exec d).2.db) :
    Preserves J (Op.db >>= k) := by
  intro d hJ
  rw [exec_bind, exec_db]
  exact hk d hJ

theorem ite {c : Prop} [Decidable c] {x y : Op α} (hx : Preserves J x) (hy : Preserves J y) :
    Preserves J (if c then x else y) := by
  split
  · exact hx
  · exact hy

/-- What follows a check that ends the operation if `c` holds. -/
theorem check {c : Prop} [Decidable c] {f : Fault} {k : PUnit → Op α} (hk : ∀ u, Preserves J (k u)) :
    Preserves J (if c then (do let u ← MonadExcept.throw f; k u) else k ⟨⟩) :=
  ite (bind (throw f) hk) (hk ⟨⟩)

theorem attempt {x : Op α} (hx : Preserves J x) : Preserves J (Op.attempt x) := hx

theorem get : Preserves J (MonadState.get : Op Deployment) := fun _ h => h

theorem db : Preserves J Op.db := fun _ h => h

theorem drawId : Preserves J Op.drawId := fun _ h => h

theorem now : Preserves J Op.now := fun _ h => h

theorem later (t : Task) : Preserves J (Op.later t) := fun _ h => h

theorem record (c : Call) : Preserves J (Op.record c) := fun _ h => h

theorem change {f : Database → Database} (h : ∀ db, J db → J (f db)) : Preserves J (Op.change f) :=
  fun d hJ => h d.db hJ

theorem write {f : Database → Except Fault Database}
    (h : ∀ db db', J db → f db = .ok db' → J db') : Preserves J (Op.write f) := by
  intro d hJ
  rw [exec_write]
  cases hf : f d.db with
  | error e => exact hJ
  | ok db => exact h d.db db hJ hf

theorem transaction {x : Op α} (h : Preserves J x) : Preserves J (Op.transaction x) :=
  fun _ hJ => h.leads.transaction.after_transaction hJ hJ

theorem discarding (x : Op α) : Preserves J (Op.discarding x) := fun _ h => h

end Preserves

end Op

/-! ## The provider -/

/-- The name of the provider that the environment asks for. -/
def Deployment.providerName (d : Deployment) : String :=
  Text.trim (Text.lower (((d.env.find? fun e => e.1 = "CLOUD_PROVIDER").map (·.2)).getD "aws"))

/-- The provider that the environment asks for, if it is a known one. -/
def Deployment.provider? (d : Deployment) : Option Provider :=
  if d.providerName = "aws" then some .aws
  else if d.providerName = "azure" then some .azure
  else none

theorem Deployment.provider?_congr {d d' : Deployment} (h : d'.env = d.env) :
    d'.provider? = d.provider? := by
  have hn : d'.providerName = d.providerName := by rw [providerName, providerName, h]
  rw [provider?, provider?, hn]

namespace Op

theorem exec_providerName (d : Deployment) : providerName.exec d = (.ok d.providerName, d) := rfl

theorem exec_provider (d : Deployment) :
    provider.exec d = match d.provider? with
      | some p => (.ok p, d)
      | none => (.error (.badValue ("Unsupported CLOUD_PROVIDER=" ++ d.providerName)), d) := by
  rw [provider, exec_bind, exec_providerName]
  unfold Deployment.provider?
  by_cases h₁ : d.providerName = "aws"
  · simp only [h₁, if_true]; rfl
  · by_cases h₂ : d.providerName = "azure"
    · simp only [h₂]; rfl
    · simp only [h₁, h₂, if_false]; rfl

end Op

end ReportMigration
