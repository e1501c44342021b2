import ReportMigration.Files.Unpacking
import ReportMigration.Proofs.Files.Growth
/-!
Which files a step on the disk leaves alone.

* `Path.resolve place parts`: where the parts of a path lead from a place, by their texts alone;
* `Disk.placeOf d path`: so the place that a path names, and `Disk.eq_placeOf`: a path that leads anywhere
  leads there. Another suffix names another file in the same folder (`Disk.placeOf_withSuffix`);
* `Disk.Spares area d d'`: all files outside the area are in `d'` as they are in `d`. Making folders
  spares all files, writing spares what lies outside an area that the path leads to
  (`Disk.spares_makeFolders`, `Disk.spares_write`, `Disk.spares_clear`).
-/
namespace ReportMigration

/-! ## Resolving a path -/

namespace Path

variable {p x : String} {place xs ys : List String}

/-- The place that one part of a path leads to. -/
def goOn (place : List String) (part : String) : List String :=
  if part = "" ∨ part = "." then place
  else if part = ".." then place.dropLast
  else place ++ [part]

/-- The place that the parts of a path lead to. -/
def resolve (place parts : List String) : List String := parts.foldl goOn place

theorem goOn_skip (hx : x = "" ∨ x = ".") : goOn place x = place := if_pos hx

theorem goOn_pass (hx : ¬ (x = "" ∨ x = ".")) (hup : x ≠ "..") : goOn place x = place ++ [x] := by
  rw [goOn, if_neg hx, if_neg hup]

theorem goOn_name (hx : IsName x) : goOn place x = place ++ [x] :=
  goOn_pass (not_or.2 ⟨hx.ne_empty, hx.ne_dot⟩) hx.ne_dots

theorem resolve_cons : resolve place (x :: xs) = resolve (goOn place x) xs := rfl

theorem resolve_append : resolve place (xs ++ ys) = resolve (resolve place xs) ys := List.foldl_append

theorem resolve_concat_name (hx : IsName x) : resolve place (xs ++ [x]) = resolve place xs ++ [x] := by
  rw [resolve_append]
  exact goOn_name hx

theorem resolve_of_isName (hxs : ∀ x ∈ xs, IsName x) : resolve place xs = place ++ xs := by
  induction xs using List.reverseRecOn with
  | nil => exact (List.append_nil place).symm
  | append_singleton xs x ih =>
    rw [resolve_concat_name (hxs x (by simp)), ih fun y hy => hxs y (List.mem_append_left _ hy),
      List.append_assoc]

/-- Empty parts and single dots lead nowhere else. -/
theorem resolve_filter (place xs : List String) :
    resolve place (xs.filter fun n => n ≠ "" && n ≠ ".") = resolve place xs := by
  induction xs generalizing place with
  | nil => rfl
  | cons x xs ih =>
    by_cases hx : x = "" ∨ x = "."
    · rw [List.filter_cons_of_neg (by simpa using not_and_or.2 (hx.imp not_not_intro not_not_intro)), ih,
        resolve_cons, goOn_skip hx]
    · rw [List.filter_cons_of_pos (by simpa using not_or.1 hx)]
      exact ih (goOn place x)

theorem resolve_names (place : List String) (p : String) :
    resolve place (names p) = resolve place (parts p) := resolve_filter place (parts p)

theorem resolve_empty (hxs : ∀ x ∈ xs, x = "") : resolve place xs = place := by
  rw [← resolve_filter, List.filter_eq_nil_iff.2 fun x hx => by simp [hxs x hx]]
  rfl

/-! ## Parts -/

theorem parts_eq_singleton (hx : '/' ∉ x.toList) : parts x = [x] := by
  have h := parts_intercalate (List.cons_ne_nil x []) (by simpa using hx)
  rwa [String.intercalate_singleton] at h

theorem lastName_of_isName (hx : IsName x) : lastName x = x := by
  have h : parts x = [] ++ [x] := parts_eq_singleton hx.slash_notMem
  exact lastName_of_parts h hx

theorem parts_slash_append (s : String) : parts ("/" ++ s) = "" :: parts s := by
  have h := parts_append "" s
  rwa [String.empty_append, show parts "" = [""] by decide] at h

/-- Names that are joined are found again, double dots among them. -/
theorem names_intercalate_names (hxs : ∀ x ∈ xs, '/' ∉ x.toList ∧ x ≠ "" ∧ x ≠ ".") :
    names ("/".intercalate xs) = xs := by
  cases xs with
  | nil => decide
  | cons y ys =>
    rw [names, parts_intercalate (by simp) fun x hx => (hxs x hx).1, List.filter_eq_self]
    intro x hx
    simpa using (hxs x hx).2

theorem of_mem_names (h : x ∈ names p) : '/' ∉ x.toList ∧ x ≠ "" ∧ x ≠ "." :=
  ⟨slash_notMem_of_parts (mem_names.1 h).1, (mem_names.1 h).2⟩

theorem startsWith_slash_iff_parts :
    p.startsWith "/" = true ↔ ∃ zs, zs ≠ [] ∧ parts p = "" :: zs := by
  rw [startsWith_slash_iff]
  constructor
  · intro h
    obtain ⟨cs, hcs⟩ := List.head?_eq_some_iff.1 h
    obtain rfl : p = "/" ++ .ofList cs := String.toList_inj.1 (by simp [hcs])
    exact ⟨parts (.ofList cs), by simp [parts], parts_slash_append _⟩
  · rintro ⟨zs, hzs, hparts⟩
    cases zs with
    | nil => exact absurd rfl hzs
    | cons z zs =>
      have hslash : ∀ y ∈ "" :: z :: zs, '/' ∉ y.toList := fun y hy => slash_notMem_of_parts (hparts ▸ hy)
      rw [← intercalate_parts p, hparts, ← List.singleton_append,
        intercalate_append (by simp) (by simp) (by simp)
          fun y hy => hslash y (List.mem_cons_of_mem _ hy)]
      simp

/-- Whether a path starts at the root is seen from what comes before its last part. -/
theorem startsWith_slash_iff_head (h : parts p = xs ++ [x]) (hxs : xs ≠ []) :
    p.startsWith "/" = true ↔ xs.head? = some "" := by
  rw [startsWith_slash_iff_parts, h]
  cases xs with
  | nil => exact absurd rfl hxs
  | cons y ys =>
    rw [List.head?_cons, Option.some.injEq]
    constructor
    · rintro ⟨zs, -, hzs⟩
      exact (List.cons.inj hzs).1
    · rintro rfl
      exact ⟨ys ++ [x], by simp, rfl⟩

/-- A tidied path from the root starts there, and has the names of the path in its end. -/
theorem parts_tidy (h : p.startsWith "/" = true) : ∃ zs, zs ≠ [] ∧ (∀ z ∈ zs, z = "") ∧
    parts (tidy p) = zs ++ parts ("/".intercalate (names p)) := by
  unfold tidy
  dsimp only
  rw [if_pos h]
  split
  next =>
    refine ⟨["", ""], by simp, by simp, ?_⟩
    rw [show "//" = "/" ++ "/" by decide, String.append_assoc, parts_slash_append, parts_slash_append,
      List.cons_append, List.singleton_append]
  next => exact ⟨[""], by simp, by simp, by rw [parts_slash_append, List.singleton_append]⟩

/-- Another suffix changes the last part. -/
theorem parts_withSuffix {ext : String} (h : parts p = ys ++ [x]) (hlast : lastName p = x)
    (hext : '/' ∉ ext.toList) : parts (withSuffix p ext) = ys ++ [stem x ++ ext] := by
  have hslash : ∀ y ∈ ys ++ [x], '/' ∉ y.toList := fun y hy => slash_notMem_of_parts (h ▸ hy)
  have hnew : '/' ∉ (stem x ++ ext).toList := by
    rw [String.toList_append, List.mem_append]
    rintro (hstem | hsuffix)
    · exact hslash x (by simp) (mem_stem hstem)
    · exact hext hsuffix
  have hp : p = "/".intercalate (ys ++ [x]) := by rw [← h, intercalate_parts]
  rw [withSuffix, hlast]
  cases ys with
  | nil =>
    rw [List.nil_append, String.intercalate_singleton] at hp
    subst hp
    simp [parts_eq_singleton hnew]
  | cons y ys =>
    have hhead : ∀ z ∈ y :: ys, '/' ∉ z.toList := fun z hz => hslash z (List.mem_append_left _ hz)
    rw [intercalate_append (by simp) (by simp) hhead (by simpa using hslash x (by simp)),
      String.intercalate_singleton] at hp
    have htake : p.toList.take (p.length - x.length) = ("/".intercalate (y :: ys) ++ "/").toList := by
      rw [← String.length_toList, ← String.length_toList, hp, String.toList_append, List.length_append,
        Nat.add_sub_cancel, List.take_left]
    rw [htake, String.ofList_toList, String.append_assoc, parts_append, parts_eq_singleton hnew,
      parts_intercalate (by simp) hhead]

end Path

namespace Disk

variable {d d' d'' : Disk} {root : Node} {path : String} {area p : List String} {c : Content}

theorem eq_resolve_of_follow {here xs : List String} (h : follow root here xs = .ok p) :
    p = Path.resolve here.reverse xs := by
  fun_induction follow root here xs with
  | case1 here =>
    cases h
    rfl
  | case2 here x rest hx ih => rw [ih h, Path.resolve_cons, Path.goOn_skip (by simpa using hx)]
  | case3 here rest hx ih =>
    have hgo : Path.goOn here.reverse ".." = (here.drop 1).reverse := by
      rw [Path.goOn, if_neg (by decide), if_pos rfl, List.dropLast_reverse, List.drop_one]
    rw [ih h, Path.resolve_cons, hgo]
  | case4 here x hx hup =>
    cases h
    rw [Path.resolve_cons, Path.goOn_pass (by simpa using hx) hup, List.reverse_cons]
    rfl
  | case5 here x rest hx hup es' hget hrest ih =>
    rw [ih h, Path.resolve_cons, Path.goOn_pass (by simpa using hx) hup, List.reverse_cons]
  | case6 => cases h
  | case7 here x rest hx hup hnone hall hrest =>
    rw [if_pos hall] at h
    cases h
    have hskips : rest.filter (fun n => n ≠ "" && n ≠ ".") = [] := by
      rw [List.filter_eq_nil_iff]
      intro y hy
      have hempty := List.all_eq_true.1 hall y hy
      simp [of_decide_eq_true hempty]
    rw [Path.resolve_cons, Path.goOn_pass (by simpa using hx) hup, ← Path.resolve_filter, hskips,
      List.reverse_cons]
    rfl
  | case8 here x rest hx hup hnone hall hrest =>
    rw [if_neg hall] at h
    cases h

/-- The place that a path names, by its text alone. -/
def placeOf (d : Disk) (path : String) : List String :=
  Path.resolve (if path.startsWith "/" then [] else d.here) (Path.parts path)

/-- **A path leads to the place that it names**, if it leads anywhere. -/
theorem eq_placeOf (h : d.locate path = .ok p) : p = d.placeOf path := by
  rw [locate] at h
  split at h
  next => cases h
  next =>
    rw [placeOf, eq_resolve_of_follow h]
    split
    next => rfl
    next => rw [List.reverse_reverse]

theorem placeOf_congr (h : d'.here = d.here) (path : String) : d'.placeOf path = d.placeOf path := by
  rw [placeOf, h, placeOf]

/-- Another suffix is another name in the same folder. -/
theorem placeOf_withSuffix {xs : List String} {x : String} (d : Disk) (ext : String)
    (h : Path.parts path = xs ++ [x]) (hxs : xs ≠ []) (hx : Path.IsName x) (hext : '/' ∉ ext.toList)
    (hlength : 2 < ext.length) :
    ∃ q, d.placeOf path = q ++ [x] ∧
      d.placeOf (Path.withSuffix path ext) = q ++ [Path.stem x ++ ext] := by
  have hparts := Path.parts_withSuffix h (Path.lastName_of_parts h hx) hext
  have hstart : (Path.withSuffix path ext).startsWith "/" = path.startsWith "/" := by
    rw [Bool.eq_iff_iff, Path.startsWith_slash_iff_head hparts hxs, Path.startsWith_slash_iff_head h hxs]
  refine ⟨Path.resolve (if path.startsWith "/" then [] else d.here) xs, ?_, ?_⟩
  · rw [placeOf, h, Path.resolve_concat_name hx]
  · rw [placeOf, hparts, hstart, Path.resolve_concat_name (Path.isName_withSuffix hx hext hlength)]

end Disk

/-! ## Files that are left alone -/

namespace Node

variable {n new : Node} {p q : List String} {c : Content}

/-- Files in a folder with one entry set are those of the new entry, and the others. -/
theorem get?_setEntry_iff {k : String} {es : List (String × Node)} {m : Node}
    (h : ∀ ls, q = k :: ls →
      (m.get? ls = some (.file c) ↔ (folder es).get? (k :: ls) = some (.file c))) :
    (folder (setEntry k m es)).get? q = some (.file c) ↔ (folder es).get? q = some (.file c) := by
  cases q with
  | nil => exact iff_of_false nofun nofun
  | cons l ls =>
    by_cases hl : l = k
    · subst hl
      rw [← h ls rfl]
      simp only [get?, child?_setEntry, if_true, Option.bind_some]
    · simp only [get?, child?_setEntry, if_neg hl]

/-- A node with nothing in it that is set where no folder is changes no file but the one in its place,
    and none at all if it is a folder in the place of nothing. -/
theorem get?_set_iff (hp : ∀ x, n.get? p = some x → x.isFolder = false)
    (hnew : ∀ k ks, new.get? (k :: ks) = none) (hq : q = p → new.isFolder = true ∧ n.get? p = none) :
    (n.set p new).get? q = some (.file c) ↔ n.get? q = some (.file c) := by
  induction p generalizing n q with
  | nil =>
    cases n with
    | folder es => cases hp _ rfl
    | file c' =>
      cases q with
      | nil => cases (hq rfl).2
      | cons k ks =>
        have hset : (Node.file c').set [] new = new := rfl
        rw [hset, hnew]
        rfl
  | cons k ks ih =>
    cases n with
    | file c' => cases ks <;> rfl
    | folder es =>
      cases hk : child? k es with
      | some x =>
        have hget : ∀ ls, (folder es).get? (k :: ls) = x.get? ls := fun ls => by
          rw [get?, hk, Option.bind_some]
        rw [set_of_child hk]
        refine get?_setEntry_iff fun ls hls => ?_
        rw [hget]
        refine ih (fun y hy => hp y (by rw [hget, hy])) fun heq => ?_
        rw [← hget]
        exact hq (by rw [hls, heq])
      | none =>
        have hget : ∀ ls, (folder es).get? (k :: ls) = none := fun ls => by rw [get?, hk]; rfl
        cases ks with
        | cons => rw [set_cons (by simp), hk]
        | nil =>
          refine get?_setEntry_iff fun ls hls => ?_
          rw [hget]
          cases ls with
          | cons => rw [hnew]
          | nil =>
            have hfolder := (hq hls).1
            cases new with
            | file => cases hfolder
            | folder => exact iff_of_false (fun h => by cases h) fun h => by cases h

/-- What is erased changes no file elsewhere. -/
theorem get?_erase_iff (hq : ¬ p <+: q) :
    (n.erase p).get? q = some (.file c) ↔ n.get? q = some (.file c) := by
  induction p generalizing n q with
  | nil => exact absurd List.nil_prefix hq
  | cons k ks ih =>
    cases n with
    | file c' => cases ks <;> rfl
    | folder es =>
      cases ks with
      | nil =>
        cases q with
        | nil => exact iff_of_false nofun nofun
        | cons l ls =>
          have hl : l ≠ k := by
            rintro rfl
            exact hq ⟨ls, rfl⟩
          simp only [erase, get?, child?_filter, if_neg hl]
      | cons k' ks =>
        rw [erase_cons (by simp)]
        cases hk : child? k es with
        | none => rfl
        | some x =>
          refine get?_setEntry_iff fun ls hls => ?_
          rw [get?, hk, Option.bind_some]
          refine ih fun hwithin => hq ?_
          rw [hls]
          exact List.cons_prefix_cons.2 ⟨rfl, hwithin⟩

end Node

namespace Disk

variable {d d' d'' : Disk} {path : String} {area p : List String} {c : Content}

/-- All files outside the area are as before. -/
structure Spares (area : List String) (d d' : Disk) : Prop where
  here : d'.here = d.here
  files : ∀ p, ¬ area <+: p → ∀ c, d'.root.get? p = some (.file c) ↔ d.root.get? p = some (.file c)

theorem Spares.refl (area : List String) (d : Disk) : d.Spares area d := ⟨rfl, fun _ _ _ => .rfl⟩

theorem Spares.trans (h : d.Spares area d') (h' : d'.Spares area d'') : d.Spares area d'' :=
  ⟨h'.here.trans h.here, fun p hp c => (h'.files p hp c).trans (h.files p hp c)⟩

theorem spares_write (hin : ∀ p, d.locate path = .ok p → area <+: p) (h : d.write path c = .ok d') :
    d.Spares area d' := by
  obtain ⟨p, hp, hfile, rfl⟩ := write_eq_ok h
  refine ⟨rfl, fun q hq c' => Node.get?_set_iff hfile (fun _ _ => rfl) ?_⟩
  rintro rfl
  exact absurd (hin q hp) hq

theorem spares_makeFolder (area : List String) (h : d.makeFolder path = .ok d') : d.Spares area d' := by
  obtain ⟨p, hp, hnone, rfl⟩ := makeFolder_eq_ok h
  refine ⟨rfl, fun q hq c => Node.get?_set_iff ?_ (fun _ _ => rfl) fun _ => ⟨rfl, hnone⟩⟩
  intro x hx
  cases hnone.symm.trans hx

theorem spares_makeNext (area : List String) (h : d.makeNext path = .ok d') : d.Spares area d' := by
  unfold makeNext at h
  split at h
  next hmake =>
    cases h
    exact spares_makeFolder area hmake
  next =>
    split at h
    · cases h
      exact .refl area d
    · cases h

theorem spares_foldlM_makeNext (area : List String) : ∀ {ps : List String} {d d' : Disk},
    ps.foldlM makeNext d = .ok d' → d.Spares area d'
  | [], d, d', h => by
    cases h
    exact .refl area d
  | p :: ps, d, d', h => by
    rw [List.foldlM_cons] at h
    cases hnext : d.makeNext p with
    | error e => rw [hnext] at h; cases h
    | ok d₁ =>
      rw [hnext] at h
      exact (spares_makeNext area hnext).trans (spares_foldlM_makeNext area h)

theorem spares_makeFolders (area : List String) (h : d.makeFolders path = .ok d') :
    d.Spares area d' := by
  have hpath : path ≠ "" := by
    rintro rfl
    cases h
  rw [makeFolders_eq hpath] at h
  split at h
  next hgo =>
    cases h
    exact spares_foldlM_makeNext area hgo
  next => cases h

theorem spares_clear (hin : ∀ p, d.locate path = .ok p → area <+: p) : d.Spares area (d.clear path) := by
  unfold clear removeFolder
  cases hp : d.locate path with
  | error e => exact .refl area d
  | ok p =>
    cases hget : d.root.get? p with
    | none => simp only [hget]; exact .refl area d
    | some n =>
      cases n with
      | file c => simp only [hget]; exact .refl area d
      | folder es =>
        simp only [hget]
        exact ⟨rfl, fun q hq c => Node.get?_erase_iff fun h => hq ((hin p hp).trans h)⟩

/-- A file that is written is found in its place. -/
theorem get?_of_write (h : d.write path c = .ok d') :
    ∃ p, d.locate path = .ok p ∧ d'.root.get? p = some (.file c) := by
  obtain ⟨p, hp, rfl⟩ := write_eq_ok_iff.1 h
  exact ⟨p, hp.locate, Node.get?_set_in_folder hp.folder⟩

end Disk

end ReportMigration
