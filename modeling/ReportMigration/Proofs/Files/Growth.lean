import ReportMigration.Proofs.Files.Opening
/-!
Changes below a folder.

* `Node.Grows n m`: what is in `n` is in `m`, files as files and folders as folders. Files that are
  written and folders that are made let a tree grow (`Node.Grows.set`);
* `Node.set_append`: what is set below a place changes the tree at that place, and nothing else;
* `Disk.eq_of_follow_names`, `Disk.follow_names`: where names lead;
* `Disk.write_eq_ok`, `Disk.makeFolder_eq_ok`: what is set by writing a file and by making a folder.
-/
namespace ReportMigration

namespace Node

variable {n m o x new a b : Node} {k : String} {p : List String} {es : List (String × Node)}

/-! ## Setting a place -/

theorem set_of_child (h : child? k es = some x) (ks : List String) :
    (folder es).set (k :: ks) new = folder (setEntry k (x.set ks new) es) := by
  cases ks with
  | nil => rfl
  | cons => rw [set_cons (by simp), h]

theorem setEntry_setEntry (k : String) (a b : Node) (es : List (String × Node)) :
    setEntry k b (setEntry k a es) = setEntry k b es := by
  induction es with
  | nil => simp [setEntry]
  | cons e es ih =>
    obtain ⟨l, m⟩ := e
    by_cases hl : k = l
    · simp [setEntry, hl]
    by_cases hlt : k < l
    · simp [setEntry, hl, hlt]
    · simp [setEntry, hl, hlt, ih]

theorem get?_set_self (h : n.get? p = some m) (a : Node) : (n.set p a).get? p = some a := by
  induction p generalizing n with
  | nil => cases n <;> rfl
  | cons k ks ih =>
    cases n with
    | file c => cases h
    | folder es =>
      obtain ⟨x, hx, hks⟩ := Option.bind_eq_some_iff.1 h
      rw [set_of_child hx]
      simp only [get?, child?_setEntry, if_true, Option.bind_some]
      exact ih hks

theorem set_set (h : n.get? p = some m) (a b : Node) : (n.set p a).set p b = n.set p b := by
  induction p generalizing n with
  | nil => cases n <;> cases a <;> rfl
  | cons k ks ih =>
    cases n with
    | file c => cases h
    | folder es =>
      obtain ⟨x, hx, hks⟩ := Option.bind_eq_some_iff.1 h
      rw [set_of_child hx, set_of_child (by rw [child?_setEntry, if_pos rfl]), set_of_child hx,
        setEntry_setEntry, ih hks]

/-- What is set below a place changes the tree at that place. -/
theorem set_append (h : n.get? p = some m) (q : List String) (new : Node) :
    n.set (p ++ q) new = n.set p (m.set q new) := by
  induction p generalizing n with
  | nil =>
    cases h
    cases m <;> rfl
  | cons k ks ih =>
    cases n with
    | file c => cases h
    | folder es =>
      obtain ⟨x, hx, hks⟩ := Option.bind_eq_some_iff.1 h
      rw [List.cons_append, set_of_child hx, set_of_child hx, ih hks]

/-- What is erased below a place changes the tree at that place. -/
theorem erase_append {q : List String} (h : n.get? p = some m) (hq : q ≠ []) :
    n.erase (p ++ q) = n.set p (m.erase q) := by
  induction p generalizing n with
  | nil =>
    cases h
    cases m <;> rfl
  | cons k ks ih =>
    cases n with
    | file c => cases h
    | folder es =>
      obtain ⟨x, hx, hks⟩ := Option.bind_eq_some_iff.1 h
      rw [List.cons_append, erase_cons (by simp [hq]), hx, set_of_child hx, ← ih hks]

/-! ## Growth -/

/-- What is in `n` is in `m`, a file as a file and a folder as a folder. -/
def Grows (n m : Node) : Prop :=
  ∀ q x, n.get? q = some x → ∃ y, m.get? q = some y ∧ y.isFolder = x.isFolder

namespace Grows

theorem refl (n : Node) : n.Grows n := fun _ x hx => ⟨x, hx, rfl⟩

theorem trans (h : n.Grows m) (h' : m.Grows o) : n.Grows o := fun q x hx => by
  obtain ⟨y, hy, hkind⟩ := h q x hx
  obtain ⟨z, hz, hkind'⟩ := h' q y hy
  exact ⟨z, hz, hkind'.trans hkind⟩

theorem isFolder (h : n.Grows m) : m.isFolder = n.isFolder := by
  obtain ⟨y, hy, hkind⟩ := h [] n (by cases n <;> rfl)
  cases m <;> cases hy <;> exact hkind

theorem file (c c' : Content) : (Node.file c).Grows (Node.file c') := fun q x hx => by
  cases q with
  | nil =>
    cases hx
    exact ⟨_, rfl, rfl⟩
  | cons k ks => cases hx

/-- One entry of a folder grows, and the others are as before. -/
theorem entry {es' : List (String × Node)} (hother : ∀ l, l ≠ k → child? l es' = child? l es)
    (hsame : ∀ x, child? k es = some x → ∃ y, child? k es' = some y ∧ x.Grows y) :
    (folder es).Grows (folder es') := by
  intro q x hx
  cases q with
  | nil =>
    cases hx
    exact ⟨_, rfl, rfl⟩
  | cons l ls =>
    obtain ⟨z, hz, hls⟩ := Option.bind_eq_some_iff.1 hx
    by_cases hl : l = k
    · subst hl
      obtain ⟨y, hy, hgrows⟩ := hsame z hz
      obtain ⟨w, hw, hkind⟩ := hgrows ls x hls
      exact ⟨w, by simp only [get?, hy, Option.bind_some, hw], hkind⟩
    · exact ⟨x, by simp only [get?, hother l hl, hz, Option.bind_some, hls], rfl⟩

theorem setEntry (h : ∀ x, child? k es = some x → x.Grows new) :
    (folder es).Grows (folder (Node.setEntry k new es)) :=
  entry (k := k) (fun l hl => by rw [child?_setEntry, if_neg hl]) fun x hx =>
    ⟨new, by rw [child?_setEntry, if_pos rfl], h x hx⟩

/-- A tree grows where something is set at a place where nothing is, or a file in the place of one. -/
theorem set (h : ∀ x, n.get? p = some x → x.isFolder = false ∧ new.isFolder = false) :
    n.Grows (n.set p new) := by
  induction p generalizing n with
  | nil =>
    obtain ⟨hn, hnew⟩ := h n (by cases n <;> rfl)
    cases n with
    | folder es => cases hn
    | file c =>
      cases new with
      | folder es => cases hnew
      | file c' => exact .file c c'
  | cons k ks ih =>
    cases n with
    | file c => cases ks <;> exact .refl _
    | folder es =>
      cases hk : child? k es with
      | some x =>
        rw [set_of_child hk]
        refine .setEntry fun y hy => ?_
        cases hk.symm.trans hy
        exact ih fun z hz => h z (by simp only [get?, hk, Option.bind_some, hz])
      | none =>
        cases ks with
        | nil => exact .setEntry fun x hx => by rw [hk] at hx; cases hx
        | cons => rw [set_cons (by simp), hk]; exact .refl _

end Grows

end Node

namespace Disk

variable {d d' : Disk} {path : String}

/-- Names lead to the place of these names, if they lead anywhere. -/
theorem eq_of_follow_names {root : Node} : ∀ {xs here p : List String}, (∀ x ∈ xs, Path.IsName x) →
    follow root here xs = .ok p → p = here.reverse ++ xs
  | [], here, p, _, h => by
    cases h
    rw [List.append_nil]
  | [x], here, p, hxs, h => by
    rw [follow_last (hxs x List.mem_cons_self)] at h
    cases h
    rfl
  | x :: y :: ys, here, p, hxs, h => by
    have hx := hxs x List.mem_cons_self
    have hy := hxs y (List.mem_cons_of_mem _ List.mem_cons_self)
    rw [follow_pass (by simp [hx.ne_empty, hx.ne_dot]) hx.ne_dots (by simp)] at h
    cases hget : root.get? (x :: here).reverse with
    | none =>
      rw [hget] at h
      simp [hy.ne_empty] at h
    | some n =>
      rw [hget] at h
      cases n with
      | file c => cases h
      | folder es =>
        rw [eq_of_follow_names (fun z hz => hxs z (List.mem_cons_of_mem _ hz)) h]
        simp

/-- Names below a folder lead to the place of these names. -/
theorem follow_names {root : Node} {x : String} {es : List (String × Node)} :
    ∀ {xs here : List String}, (∀ y ∈ xs ++ [x], Path.IsName y) →
      root.get? (here.reverse ++ xs) = some (.folder es) →
        follow root here (xs ++ [x]) = .ok (here.reverse ++ (xs ++ [x]))
  | [], here, hxs, _ => follow_last (hxs x (by simp))
  | y :: ys, here, hxs, h => by
    have hy := hxs y (by simp)
    rw [List.append_cons, ← List.reverse_cons] at h
    have hstep : ∃ fs, root.get? (y :: here).reverse = some (.folder fs) := by
      rw [Node.get?_append] at h
      obtain ⟨n, hn, hys⟩ := Option.bind_eq_some_iff.1 h
      cases n with
      | folder fs => exact ⟨fs, hn⟩
      | file c => cases ys <;> cases hys
    obtain ⟨fs, hfs⟩ := hstep
    rw [List.cons_append, follow_pass (by simp [hy.ne_empty, hy.ne_dot]) hy.ne_dots (by simp), hfs]
    dsimp only
    rw [follow_names (fun z hz => hxs z (List.mem_cons_of_mem _ hz)) h]
    simp

/-- What is written is a file that was none or another file before. -/
theorem write_eq_ok {c : Content} (h : d.write path c = .ok d') :
    ∃ p, d.locate path = .ok p ∧ (∀ x, d.root.get? p = some x → x.isFolder = false) ∧
      d' = { d with root := d.root.set p (.file c) } := by
  obtain ⟨p, hp, hd'⟩ := write_eq_ok_iff.1 h
  refine ⟨p, hp.locate, fun x hx => ?_, hd'⟩
  cases x with
  | file c => rfl
  | folder es => exact absurd hx (hp.file es)

/-- A folder is made where nothing was. -/
theorem makeFolder_eq_ok (h : d.makeFolder path = .ok d') :
    ∃ p, d.locate path = .ok p ∧ d.root.get? p = none ∧
      d' = { d with root := d.root.set p (.folder []) } := by
  unfold makeFolder at h
  split at h
  next => cases h
  next p hp =>
    refine ⟨p, hp, ?_⟩
    split at h
    next => cases h
    next hnone =>
      split at h
      next =>
        cases h
        exact ⟨hnone, rfl⟩
      next => cases h
      next => cases h

end Disk

end ReportMigration
