import Mathlib.Logic.Function.Basic
import ReportMigration.Proofs.Files.Tree
/-!
Writing and removing files.

* `Disk.Folder d ps look`: at `ps` there is a folder, with the entries that `look` tells by their
  names;
* `Disk.Entry d path ps name look`: the path leads to the entry `name` of such a folder;
* `Disk.Turns d ps look d'`: between `d` and `d'` the folder at `ps` got these entries, and what was a
  folder is one still; so every such path leads where it led before (`Entry.turns`);
* `Entry.write`, `Entry.read`, `Entry.remove` say what is done to the entries.
-/
namespace ReportMigration

/-! ## Entries of a folder -/

namespace Node

variable {n new : Node} {k name : String} {ks ps p q : List String} {es : List (String × Node)}

theorem child?_setEntry (k name : String) (n : Node) (es : List (String × Node)) :
    child? k (setEntry name n es) = if k = name then some n else child? k es := by
  unfold child?
  induction es with
  | nil =>
    by_cases h : k = name
    · simp [setEntry, h]
    · simp [setEntry, h, Ne.symm h]
  | cons e es ih =>
    obtain ⟨a, m⟩ := e
    rw [setEntry]
    by_cases ha : name = a
    · subst ha
      by_cases h : k = name
      · simp [h]
      · simp [h, Ne.symm h]
    by_cases hlt : name < a
    · rw [if_neg ha, if_pos hlt]
      by_cases h : k = name
      · simp [h]
      · simp [h, Ne.symm h]
    · rw [if_neg ha, if_neg hlt]
      by_cases h : a = k
      · subst h
        simp [Ne.symm ha]
      · simpa [h] using ih

theorem child?_filter (k name : String) (es : List (String × Node)) :
    child? k (es.filter fun e => e.1 ≠ name) = if k = name then none else child? k es := by
  unfold child?
  rw [List.find?_filter]
  by_cases h : k = name
  · rw [if_pos h, List.find?_eq_none.2 (by simp [h])]
    rfl
  · rw [if_neg h]
    congr 2
    funext e
    by_cases he : e.1 = k <;> simp [he, h]

theorem set_cons (hks : ks ≠ []) : (folder es).set (k :: ks) new =
    match child? k es with
    | some n => folder (setEntry k (n.set ks new) es)
    | none => folder es := by
  cases ks with
  | nil => exact absurd rfl hks
  | cons => rfl

theorem erase_cons (hks : ks ≠ []) : (folder es).erase (k :: ks) =
    match child? k es with
    | some n => folder (setEntry k (n.erase ks) es)
    | none => folder es := by
  cases ks with
  | nil => exact absurd rfl hks
  | cons => rfl

/-- An entry that is set below a folder. -/
theorem get?_set (h : n.get? ps = some (.folder es)) :
    (n.set (ps ++ [name]) new).get? ps = some (.folder (setEntry name new es)) := by
  induction ps generalizing n with
  | nil =>
    cases h
    rfl
  | cons k ks ih =>
    cases n with
    | file c => cases h
    | folder es' =>
      obtain ⟨m, hm, hks⟩ := Option.bind_eq_some_iff.1 h
      rw [List.cons_append, set_cons (by simp), hm]
      simp only [get?, child?_setEntry, if_true, Option.bind_some]
      exact ih hks

/-- An entry that is erased below a folder. -/
theorem get?_erase (h : n.get? ps = some (.folder es)) :
    (n.erase (ps ++ [name])).get? ps = some (.folder (es.filter fun e => e.1 ≠ name)) := by
  induction ps generalizing n with
  | nil =>
    cases h
    rfl
  | cons k ks ih =>
    cases n with
    | file c => cases h
    | folder es' =>
      obtain ⟨m, hm, hks⟩ := Option.bind_eq_some_iff.1 h
      rw [List.cons_append, erase_cons (by simp), hm]
      simp only [get?, child?_setEntry, if_true, Option.bind_some]
      exact ih hks

/-- What is a folder in `n` is one in `m`. -/
def KeepsFolders (n m : Node) : Prop :=
  ∀ q es, n.get? q = some (.folder es) → ∃ es', m.get? q = some (.folder es')

namespace KeepsFolders

variable {m o : Node} {es' : List (String × Node)}

theorem refl (n : Node) : n.KeepsFolders n := fun _ es hq => ⟨es, hq⟩

theorem trans (h : n.KeepsFolders m) (h' : m.KeepsFolders o) : n.KeepsFolders o := fun q es hq => by
  obtain ⟨es', hq'⟩ := h q es hq
  exact h' q es' hq'

theorem file (c : Content) (n : Node) : (Node.file c).KeepsFolders n := fun q _ hq => by
  cases q <;> cases hq

/-- One entry of a folder is changed, into one that keeps the folders of the earlier one. -/
theorem entry (hother : ∀ k', k' ≠ k → child? k' es' = child? k' es)
    (hsame : ∀ n, child? k es = some n → n.isFolder = true →
      ∃ m, child? k es' = some m ∧ n.KeepsFolders m) :
    (folder es).KeepsFolders (folder es') := by
  intro q fs hq
  cases q with
  | nil => exact ⟨es', rfl⟩
  | cons k' ks =>
    obtain ⟨n, hn, hks⟩ := Option.bind_eq_some_iff.1 hq
    by_cases hk : k' = k
    · subst hk
      have hfolder : n.isFolder = true := by
        cases n with
        | folder => rfl
        | file c => cases ks <;> cases hks
      obtain ⟨m, hm, hkeeps⟩ := hsame n hn hfolder
      obtain ⟨fs', hfs'⟩ := hkeeps ks fs hks
      exact ⟨fs', by simp only [get?, hm, Option.bind_some, hfs']⟩
    · exact ⟨fs, by simp only [get?, hother k' hk, hn, Option.bind_some, hks]⟩

/-- The changed entry was no folder. -/
theorem entry_of_file (hother : ∀ k', k' ≠ k → child? k' es' = child? k' es)
    (hfile : ∀ fs, (folder es).get? [k] ≠ some (folder fs)) : (folder es).KeepsFolders (folder es') := by
  refine entry hother fun n hn hfolder => ?_
  cases n with
  | file c => cases hfolder
  | folder fs => exact absurd (by simp only [get?, hn, Option.bind_some]) (hfile fs)

theorem setEntry (hn : child? k es = some n) (h : n.KeepsFolders m) :
    (folder es).KeepsFolders (folder (setEntry k m es)) := by
  refine entry (k := k) (fun k' hk => by rw [child?_setEntry, if_neg hk]) fun n' hn' _ => ?_
  obtain rfl : n = n' := Option.some.inj (hn.symm.trans hn')
  exact ⟨m, by rw [child?_setEntry, if_pos rfl], h⟩

/-- The change is further down, where there was no folder. -/
theorem below {change : Node → Node} {ks : List String}
    (hchange : ∀ n : Node, (∀ fs, n.get? ks ≠ some (folder fs)) → n.KeepsFolders (change n))
    (h : ∀ fs, (folder es).get? (k :: ks) ≠ some (folder fs)) :
    (folder es).KeepsFolders (match child? k es with
      | some n => folder (Node.setEntry k (change n) es)
      | none => folder es) := by
  cases hn : child? k es with
  | none => exact .refl _
  | some n =>
    refine .setEntry hn (hchange n fun fs hfs => h fs ?_)
    simp only [get?, hn, Option.bind_some]
    exact hfs

theorem set (h : ∀ es, n.get? p ≠ some (folder es)) : n.KeepsFolders (n.set p new) := by
  induction p generalizing n with
  | nil =>
    cases n with
    | file c => exact .file c _
    | folder es => exact absurd rfl (h es)
  | cons k ks ih =>
    cases n with
    | file c => exact .file c _
    | folder es =>
      cases ks with
      | nil => exact entry_of_file (fun k' hk => by rw [child?_setEntry, if_neg hk]) h
      | cons k' ks =>
        rw [set_cons (by simp)]
        exact below (fun _ => ih) h

theorem erase (h : ∀ es, n.get? p ≠ some (folder es)) : n.KeepsFolders (n.erase p) := by
  induction p generalizing n with
  | nil => exact .refl _
  | cons k ks ih =>
    cases n with
    | file c => exact .file c _
    | folder es =>
      cases ks with
      | nil => exact entry_of_file (fun k' hk => by rw [child?_filter, if_neg hk]) h
      | cons k' ks =>
        rw [erase_cons (by simp)]
        exact below (fun _ => ih) h

end KeepsFolders

end Node

/-! ## Following a path again -/

namespace Disk

variable {root root' : Node} {here xs ps p : List String} {name path : String}

theorem all_eq_false_of_name (hname : Path.IsName name) (xs : List String) :
    (xs ++ [name]).all (· = "") = false := by
  simp [hname.ne_empty]

/-- A path that ends in a name leads to an entry of that name, and still does where what was a folder
    is one. -/
theorem follow_name (hname : Path.IsName name) (hkeeps : root.KeepsFolders root') :
    ∀ (xs here : List String), follow root here (xs ++ [name]) = .ok p →
      (∃ ps, p = ps ++ [name]) ∧ follow root' here (xs ++ [name]) = .ok p
  | [], here, h => by
    rw [List.nil_append, follow_last hname] at h ⊢
    cases h
    exact ⟨⟨_, rfl⟩, rfl⟩
  | x :: xs, here, h => by
    rw [List.cons_append] at h ⊢
    by_cases hskip : (decide (x = "") || decide (x = ".")) = true
    · rw [follow_skip hskip] at h ⊢
      exact follow_name hname hkeeps xs here h
    by_cases hup : x = ".."
    · subst hup
      rw [follow_up] at h ⊢
      exact follow_name hname hkeeps xs _ h
    · rw [follow_pass hskip hup (by simp)] at h ⊢
      cases hget : root.get? (x :: here).reverse with
      | none =>
        rw [hget] at h
        simp only [all_eq_false_of_name hname] at h
        cases h
      | some n =>
        rw [hget] at h
        cases n with
        | file c => cases h
        | folder es =>
          obtain ⟨es', hget'⟩ := hkeeps _ es hget
          rw [hget']
          exact follow_name hname hkeeps xs _ h

/-! ## Entries -/

/-- At `ps` there is a folder with the entries that `look` tells by their names. -/
def Folder (d : Disk) (ps : List String) (look : String → Option Node) : Prop :=
  ∃ es, d.root.get? ps = some (.folder es) ∧ ∀ k, Node.child? k es = look k

/-- The path leads to the entry `name` of the folder at `ps`. -/
structure Entry (d : Disk) (path : String) (ps : List String) (name : String)
    (look : String → Option Node) : Prop where
  parts : ∃ xs, Path.parts path = xs ++ [name]
  isName : Path.IsName name
  locate : d.locate path = .ok (ps ++ [name])
  folder : d.Folder ps look

/-- Between `d` and `d'` the folder at `ps` got the entries `look`. -/
structure Turns (d : Disk) (ps : List String) (look : String → Option Node) (d' : Disk) : Prop where
  here : d'.here = d.here
  keeps : d.root.KeepsFolders d'.root
  folder : d'.Folder ps look

variable {d d' d'' : Disk} {look look' : String → Option Node} {c : Content}

theorem Turns.refl (h : d.Folder ps look) : d.Turns ps look d := ⟨rfl, .refl _, h⟩

theorem Turns.trans (h : d.Turns ps look d') (h' : d'.Turns ps look' d'') : d.Turns ps look' d'' :=
  ⟨h'.here.trans h.here, h.keeps.trans h'.keeps, h'.folder⟩

theorem locate_of_keepsFolders (hparts : Path.parts path = xs ++ [name]) (hname : Path.IsName name)
    (hhere : d'.here = d.here) (hkeeps : d.root.KeepsFolders d'.root) (h : d.locate path = .ok p) :
    (∃ ps, p = ps ++ [name]) ∧ d'.locate path = .ok p := by
  unfold Disk.locate at h ⊢
  split at h
  · cases h
  · rename_i hne
    rw [if_neg hne, hhere, hparts]
    rw [hparts] at h
    exact follow_name hname hkeeps xs _ h

namespace Entry

theorem turns (h : d.Entry path ps name look) (ht : d.Turns ps look' d') :
    d'.Entry path ps name look' := by
  obtain ⟨xs, hparts⟩ := h.parts
  exact ⟨h.parts, h.isName, (locate_of_keepsFolders hparts h.isName ht.here ht.keeps h.locate).2, ht.folder⟩

theorem endsWith_slash (h : d.Entry path ps name look) : path.endsWith "/" = false := by
  rw [← Bool.not_eq_true, Path.endsWith_slash_iff]
  rintro ⟨cs, hcs⟩
  obtain ⟨xs, hparts⟩ := h.parts
  have hlast : Path.parts path = Path.parts (.ofList cs) ++ [""] := Path.parts_eq_append (by simp) hcs
  rw [hparts] at hlast
  exact h.isName.ne_empty (List.cons.inj (List.append_inj_right' hlast rfl)).1

theorem get? (h : d.Entry path ps name look) : d.root.get? (ps ++ [name]) = look name := by
  obtain ⟨es, hes, hlook⟩ := h.folder
  rw [Node.get?_append, hes, ← hlook]
  show (Node.child? name es).bind (fun n => n.get? []) = Node.child? name es
  cases Node.child? name es <;> rfl

theorem has (h : d.Entry path ps name look) : d.has path = (look name).isSome := by
  rw [Disk.has, node?, h.locate]
  exact congrArg Option.isSome h.get?

theorem read (h : d.Entry path ps name look) (hc : look name = some (.file c)) :
    d.read path = .ok c := by
  simp only [Disk.read, h.locate, h.get?, hc, h.endsWith_slash]
  rfl

/-- A file is written where there is no folder. -/
theorem write (h : d.Entry path ps name look) (hfile : ∀ fs, look name ≠ some (.folder fs))
    (c : Content) :
    ∃ d', d.write path c = .ok d' ∧ d.Turns ps (Function.update look name (some (.file c))) d' := by
  obtain ⟨es, hes, hlook⟩ := h.folder
  refine ⟨{ d with root := d.root.set (ps ++ [name]) (.file c) }, ?_, rfl, ?_, _, Node.get?_set hes, ?_⟩
  · simp only [Disk.write, h.locate, h.get?, h.endsWith_slash, List.dropLast_concat, hes]
    cases hn : look name with
    | none => rfl
    | some n =>
      cases n with
      | file c => rfl
      | folder fs => exact absurd hn (hfile fs)
  · exact .set fun fs => by rw [h.get?]; exact hfile fs
  · intro k
    rw [Node.child?_setEntry, hlook, Function.update_apply]

theorem remove (h : d.Entry path ps name look) (hc : look name = some (.file c)) :
    ∃ d', d.remove path = .ok d' ∧ d.Turns ps (Function.update look name none) d' := by
  obtain ⟨es, hes, hlook⟩ := h.folder
  refine ⟨{ d with root := d.root.erase (ps ++ [name]) }, ?_, rfl, ?_, _, Node.get?_erase hes, ?_⟩
  · simp only [Disk.remove, h.locate, h.get?, hc]
  · refine .erase fun fs => ?_
    rw [h.get?, hc]
    simp
  · intro k
    rw [Node.child?_filter, hlook, Function.update_apply]

end Entry

/-- A path that a file was written to leads to an entry of a folder, which was none. -/
theorem exists_entry_of_write (hparts : Path.parts path = xs ++ [name]) (hname : Path.IsName name)
    (h : d.write path c = .ok d') :
    ∃ ps look, d.Entry path ps name look ∧ ∀ fs, look name ≠ some (.folder fs) := by
  unfold Disk.write at h
  split at h
  · cases h
  · rename_i p hp
    obtain ⟨⟨ps, rfl⟩, -⟩ := locate_of_keepsFolders hparts hname rfl (.refl d.root) hp
    have hget : d.root.get? (ps ++ [name]) = (d.root.get? ps).bind fun n => n.get? [name] :=
      Node.get?_append d.root ps [name]
    have hentry : ∀ es, d.root.get? ps = some (.folder es) →
        (∀ fs, d.root.get? (ps ++ [name]) ≠ some (.folder fs)) →
        ∃ ps look, d.Entry path ps name look ∧ ∀ fs, look name ≠ some (.folder fs) := by
      intro es hes hfile
      have he : d.Entry path ps name fun k => Node.child? k es :=
        ⟨⟨xs, hparts⟩, hname, hp, es, hes, fun _ => rfl⟩
      exact ⟨ps, _, he, fun fs => by rw [← he.get?]; exact hfile fs⟩
    split at h
    · cases h
    · rename_i c' hc'
      rw [hc'] at hget hentry
      obtain ⟨n, hn, hn'⟩ := Option.bind_eq_some_iff.1 hget.symm
      cases n with
      | file => cases hn'
      | folder es => exact hentry es hn (by simp)
    · rename_i hnone
      rw [hnone] at hentry
      split at h
      · cases h
      · split at h
        · rename_i hany
          rw [List.dropLast_concat] at hany
          obtain ⟨n, hn, hfolder⟩ := (Option.any_eq_true _ _).1 hany
          cases n with
          | file => cases hfolder
          | folder es => exact hentry es hn (by simp)
        · cases h

end Disk

end ReportMigration
