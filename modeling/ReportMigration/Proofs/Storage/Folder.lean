import Mathlib.Data.List.Basic
import Mathlib.Data.List.Nodup
import Mathlib.Data.List.TakeWhile
import ReportMigration.Proofs.Execution
/-!
The folder of a report and its place in the archive.

* `Id.WellFormed`: the text of an identifier is 32 hexadecimal digits in five groups;
* `ObjectStore.mem_keysUnder`: the keys under a text are those that hold something and start with
  it, and each is listed once (`nodup_keysUnder`);
* `ReportFolder.not_source_prefix_archiveKey`: the place of an object in the archive is never under
  the folder itself, whatever the organisation is called;
* `ReportFolder.archiveKey_inj`: different objects of a folder have different places in the archive;
* `flatMap_pages`: the pages of a listing hold each key once;
* `Outages.listed`: the keys of the pages before the first that cannot be listed, and
  `snd_exec_listing`: what is done page by page is done on these keys.
-/
namespace ReportMigration

/-! ## Identifiers -/

/-- The text is that of an identifier: 32 hexadecimal digits in five groups. -/
def Id.WellFormed (i : Id) : Prop :=
  ∃ ds : List Char, ds.length = 32 ∧ (∀ c ∈ ds, (Json.hexValue? c).isSome) ∧ i.text = grouped ds

namespace Id.WellFormed

variable {i : Id}

theorem length_toList (h : i.WellFormed) : i.text.toList.length = 36 := by
  obtain ⟨ds, hl, -, ht⟩ := h
  rw [ht, grouped, String.toList_ofList]
  simp only [List.length_append, List.length_cons, List.length_take, List.length_drop, hl]
  decide

theorem slash_notMem (h : i.WellFormed) : '/' ∉ i.text.toList := by
  obtain ⟨ds, -, hd, ht⟩ := h
  have hds : '/' ∉ ds := fun hm => absurd (hd _ hm) (by decide)
  rw [ht, grouped]
  simp only [String.toList_ofList, List.mem_append, List.mem_cons, not_or]
  have htake : ∀ n (l : List Char), '/' ∉ l → '/' ∉ l.take n := fun n l hl hm =>
    hl (List.mem_of_mem_take hm)
  have hdrop : ∀ n, '/' ∉ ds.drop n := fun n hm => hds (List.mem_of_mem_drop hm)
  exact ⟨⟨⟨⟨htake _ _ hds, by decide, htake _ _ (hdrop _)⟩, by decide, htake _ _ (hdrop _)⟩,
    by decide, htake _ _ (hdrop _)⟩, by decide, hdrop _⟩

end Id.WellFormed

/-! ## Keys of a store -/

namespace ObjectStore

variable {s : ObjectStore} {start k : String}

theorem mem_keys_iff : k ∈ s.entries.map (·.1) ↔ ∃ c, s.get? k = some c := by
  unfold get?
  constructor
  · intro h
    obtain ⟨e, he, rfl⟩ := List.mem_map.1 h
    have hf : (s.entries.find? fun x => x.1 = e.1).isSome := List.find?_isSome.2 ⟨e, he, by simp⟩
    obtain ⟨x, hx⟩ := Option.isSome_iff_exists.1 hf
    exact ⟨x.2, by rw [hx]; rfl⟩
  · rintro ⟨c, hc⟩
    obtain ⟨e, he, rfl⟩ := Option.map_eq_some_iff.1 hc
    have hk : e.1 = k := by simpa using List.find?_some he
    exact hk ▸ List.mem_map_of_mem (List.mem_of_find?_eq_some he)

theorem mem_keysUnder :
    k ∈ s.keysUnder start ↔ (∃ c, s.get? k = some c) ∧ start.toList <+: k.toList := by
  rw [keysUnder, List.mem_filter, mem_keys_iff, List.isPrefixOf_iff_prefix]

theorem nodup_keysUnder (s : ObjectStore) (start : String) : (s.keysUnder start).Nodup := by
  refine List.Nodup.filter _ ?_
  refine (List.pairwise_map.2 s.sorted).imp ?_
  intro a b hab he
  exact absurd (he ▸ hab) (String.lt_irrefl _)

end ObjectStore

/-! ## The place in the archive -/

/-- Where a text that begins a shift of itself by `Archive/` has its slashes. -/
theorem slash_of_prefix_archive {xs ys : List Char}
    (h : xs <+: "Archive/".toList ++ (xs ++ ys)) :
    ∀ k, k < xs.length → k % 8 = 7 → xs[k]? = some '/' := by
  obtain ⟨zs, hz⟩ := h
  have hstep : ∀ k, k < xs.length → xs[k]? = ("Archive/".toList ++ (xs ++ ys))[k]? := by
    intro k hk
    rw [← hz, List.getElem?_append_left hk]
  have hlen : "Archive/".toList.length = 8 := by decide
  intro k
  induction k using Nat.strongRecOn with
  | ind k ih =>
    intro hk hmod
    rw [hstep k hk]
    by_cases hlt : k < 8
    · have : k = 7 := by omega
      subst this
      rw [List.getElem?_append_left (by rw [hlen]; omega)]
      decide
    · rw [List.getElem?_append_right (by rw [hlen]; omega), hlen,
        List.getElem?_append_left (by omega)]
      exact ih (k - 8) (by omega) (by omega) (by omega)

namespace ReportFolder

variable {f : ReportFolder} {k k' : String}

/-- The part of a folder's keys after the common beginning. -/
def trail (f : ReportFolder) : List Char :=
  f.orgName.toList ++ '/' :: (f.reportId.text.toList ++ ['/'])

theorem source_eq (f : ReportFolder) :
    f.source = "BI-Portfinal/" ++ f.orgName ++ "/" ++ f.reportId.text ++ "/" := by
  delta source
  rfl

theorem toList_source (f : ReportFolder) :
    f.source.toList = "BI-Portfinal/".toList ++ f.trail := by
  have hslash : "/".toList = ['/'] := by decide
  simp only [source_eq, trail, String.toList_append, hslash, List.append_assoc, List.cons_append,
    List.nil_append]

theorem archive_eq (f : ReportFolder) :
    f.archive = "BI-Portfinal/" ++ "Archive/" ++ f.orgName ++ "/" ++ f.reportId.text ++ "/" := by
  have hstart : "BI-Portfinal/Archive/" = "BI-Portfinal/" ++ "Archive/" := by decide
  exact congrArg (fun s => s ++ f.orgName ++ "/" ++ f.reportId.text ++ "/") hstart

theorem toList_archive (f : ReportFolder) :
    f.archive.toList = "BI-Portfinal/".toList ++ ("Archive/".toList ++ f.trail) := by
  have hslash : "/".toList = ['/'] := by decide
  simp only [archive_eq, trail, String.toList_append, hslash, List.append_assoc, List.cons_append,
    List.nil_append]

theorem toList_archiveKey (f : ReportFolder) (k : String) :
    (f.archiveKey k).toList = f.archive.toList ++ k.toList.drop f.source.toList.length := by
  simp only [archiveKey, String.toList_append, String.toList_ofList, String.length_toList]

/-- The place of an object in the archive: another folder before the same rest. -/
theorem archiveKey_source_append (f : ReportFolder) (r : String) :
    f.archiveKey (f.source ++ r) = f.archive ++ r := by
  apply String.toList_inj.1
  rw [toList_archiveKey, String.toList_append, String.toList_append, List.drop_left]

/-- The identifier is longer than `Archive/` and has no slash, so that one of its characters would
    stand where the shift by `Archive/` puts a slash. -/
theorem not_trail_prefix_archive (hid : f.reportId.WellFormed) (ys : List Char) :
    ¬ f.trail <+: "Archive/".toList ++ (f.trail ++ ys) := by
  intro h
  have hlen := hid.length_toList
  obtain ⟨m, hm, hmod⟩ : ∃ m < 8, (f.orgName.toList.length + 1 + m) % 8 = 7 :=
    ⟨7 - (f.orgName.toList.length + 1) % 8, by omega, by omega⟩
  have hget : f.trail[f.orgName.toList.length + 1 + m]? = f.reportId.text.toList[m]? := by
    rw [trail, List.getElem?_append_right (by omega),
      show f.orgName.toList.length + 1 + m - f.orgName.toList.length = m + 1 by omega,
      List.getElem?_cons_succ, List.getElem?_append_left (by omega)]
  have hslash := slash_of_prefix_archive h (f.orgName.toList.length + 1 + m)
    (by simp only [trail, List.length_append, List.length_cons, hlen]; omega) hmod
  rw [hget] at hslash
  exact hid.slash_notMem (List.mem_of_getElem? hslash)

/-- **An object in the archive is never under the folder it came from.** -/
theorem not_source_prefix_archiveKey (hid : f.reportId.WellFormed) (k : String) :
    ¬ f.source.toList <+: (f.archiveKey k).toList := by
  rw [toList_archiveKey, toList_archive, toList_source, List.append_assoc,
    List.prefix_append_right_inj, List.append_assoc]
  exact not_trail_prefix_archive hid _

theorem ne_archiveKey (hid : f.reportId.WellFormed) (hk : f.source.toList <+: k.toList)
    (x : String) : k ≠ f.archiveKey x :=
  fun h => not_source_prefix_archiveKey hid x (h ▸ hk)

theorem archiveKey_inj (hk : f.source.toList <+: k.toList) (hk' : f.source.toList <+: k'.toList)
    (h : f.archiveKey k = f.archiveKey k') : k = k' := by
  obtain ⟨r, hr⟩ := hk
  obtain ⟨r', hr'⟩ := hk'
  have hl : (f.archiveKey k).toList = (f.archiveKey k').toList := by rw [h]
  rw [toList_archiveKey, toList_archiveKey, List.append_cancel_left_eq, ← hr, ← hr',
    List.drop_left, List.drop_left] at hl
  apply String.toList_inj.1
  rw [← hr, ← hr', hl]

end ReportFolder

/-! ## Listing page by page -/

theorem flatMap_range_pages (size : Nat) (keys : List String) (n : Nat) :
    ((List.range n).flatMap fun i => (keys.drop (i * size)).take size) = keys.take (n * size) := by
  induction n with
  | zero => simp
  | succ n ih =>
    rw [List.range_succ, List.flatMap_append, ih, Nat.succ_mul, List.take_add]
    simp

/-- The pages hold each key once, in the order of the keys. -/
theorem flatMap_pages {size : Nat} (hsize : 0 < size) (keys : List String) :
    (pages size keys).flatMap (·.2) = keys := by
  have hlen : keys.length ≤ ((keys.length - 1) / size + 1) * size := by
    have h := Nat.lt_div_mul_add hsize (a := keys.length - 1)
    rw [Nat.succ_mul]
    omega
  rw [pages, List.flatMap_map]
  exact (flatMap_range_pages size keys _).trans (List.take_of_length_le hlen)

/-- No page is empty, but for that of an empty listing. -/
theorem ne_nil_of_mem_pages {size : Nat} (hsize : 0 < size) {keys : List String} (hkeys : keys ≠ [])
    {x : Nat × List String} (h : x ∈ pages size keys) : x.2 ≠ [] := by
  obtain ⟨n, hn, rfl⟩ := List.mem_map.1 h
  have hlen := List.length_pos_of_ne_nil hkeys
  have hstart : n * size ≤ keys.length - 1 :=
    (Nat.le_div_iff_mul_le hsize).1 (Nat.lt_succ_iff.1 (List.mem_range.1 hn))
  refine List.ne_nil_of_length_pos ?_
  rw [List.length_take, List.length_drop]
  omega

namespace Outages

variable {o : Outages} {start : String} {ps : List (Nat × List String)}

/-- Whether the listing of all pages fails somewhere. -/
def breaksOff (o : Outages) (start : String) (ps : List (Nat × List String)) : Bool :=
  ps.any fun p => o.hits .list start p.1

/-- The keys of the pages before the first that cannot be listed. -/
def seen (o : Outages) (start : String) (ps : List (Nat × List String)) : List String :=
  (ps.takeWhile fun p => !o.hits .list start p.1).flatMap (·.2)

theorem seen_prefix (o : Outages) (start : String) (ps : List (Nat × List String)) :
    o.seen start ps <+: ps.flatMap (·.2) := by
  obtain ⟨rest, hrest⟩ := List.takeWhile_prefix (l := ps) fun p => !o.hits .list start p.1
  exact ⟨rest.flatMap (·.2), by rw [seen, ← List.flatMap_append, hrest]⟩

theorem seen_of_not_breaksOff (h : o.breaksOff start ps = false) :
    o.seen start ps = ps.flatMap (·.2) := by
  have hall : ∀ p ∈ ps, !o.hits .list start p.1 := by simpa [breaksOff] using h
  rw [seen, List.takeWhile_eq_self_iff.2 hall]

theorem seen_eq_nil (h : ∀ n, o.hits .list start n = true) : o.seen start ps = [] := by
  cases ps with
  | nil => rfl
  | cons x ps => simp [seen, h]

/-- The keys under a beginning that a listing gets to see: none if the service cannot be reached, and
    else those of the pages before the first that cannot be listed. -/
def listed (o : Outages) (size : Nat) (start : String) (s : ObjectStore) : List String :=
  if o.unreachable .list start then [] else o.seen start (pages size (s.keysUnder start))

variable {size : Nat} {s : ObjectStore} {k : String}

theorem listed_prefix (hsize : 0 < size) (o : Outages) (start : String) (s : ObjectStore) :
    o.listed size start s <+: s.keysUnder start := by
  unfold listed
  split
  · exact List.nil_prefix
  · have h := o.seen_prefix start (pages size (s.keysUnder start))
    rwa [flatMap_pages hsize] at h

theorem mem_listed (hsize : 0 < size) (h : k ∈ o.listed size start s) :
    (∃ c, s.get? k = some c) ∧ start.toList <+: k.toList :=
  ObjectStore.mem_keysUnder.1 ((o.listed_prefix hsize start s).subset h)

theorem nodup_listed (hsize : 0 < size) (o : Outages) (start : String) (s : ObjectStore) :
    (o.listed size start s).Nodup :=
  (o.listed_prefix hsize start s).sublist.nodup (ObjectStore.nodup_keysUnder s start)

end Outages

section
variable {σ α : Type} {start : String} {work : σ → List String → Op σ}
  (hnil : ∀ s, work s [] = pure s) (happend : ∀ s ks ks', work s (ks ++ ks') = work s ks >>= (work · ks'))
  (hkeeps : ∀ s ks, Op.Keeps (·.outages) (work s ks))
include hnil happend hkeeps

/-- Work that is done page by page is done on all keys that are seen, and then breaks off if the
    listing did. -/
theorem exec_foldPages : ∀ (ps : List (Nat × List String)) (s : σ) (d : Deployment),
    (Op.foldPages start work s ps).exec d =
      (work s (d.outages.seen start ps) >>= fun s' =>
        if d.outages.breaksOff start ps then throw (d.outages.fault .list start) else pure s').exec d
  | [], s, d => by
    rw [show d.outages.seen start [] = [] from rfl, hnil]
    rfl
  | (n, page) :: ps, s, d => by
    have hreach := Op.exec_reach .list start n d
    by_cases h : d.outages.hits .list start n = true
    · rw [if_pos h] at hreach
      have hseen : d.outages.seen start ((n, page) :: ps) = [] := by simp [Outages.seen, h]
      have hbreaks : d.outages.breaksOff start ((n, page) :: ps) = true := by
        simp [Outages.breaksOff, h]
      rw [Op.foldPages, Op.exec_bind_error hreach, hseen, hnil, hbreaks]
      rfl
    · rw [if_neg h] at hreach
      have hseen : d.outages.seen start ((n, page) :: ps) = page ++ d.outages.seen start ps := by
        simp [Outages.seen, h]
      have hbreaks : d.outages.breaksOff start ((n, page) :: ps) = d.outages.breaksOff start ps := by
        simp [Outages.breaksOff, h]
      rw [Op.foldPages, Op.exec_bind_ok hreach, hseen, happend, hbreaks, bind_assoc]
      rw [Op.exec_bind, Op.exec_bind]
      have ho : ((work s page).exec d).2.outages = d.outages := hkeeps s page d
      rcases hpage : (work s page).exec d with ⟨r, d'⟩
      rw [hpage] at ho
      cases r with
      | error e => rfl
      | ok s' =>
        have ih := exec_foldPages ps s' d'
        rw [ho] at ih
        exact ih

variable (start work) in
/-- **What a folder's listing leads to**, as far as the state is concerned: the work on all keys that
    are listed, if what comes after it only answers. -/
theorem snd_exec_listing (next : σ → Op α) (hnext : ∀ s d, ((next s).exec d).2 = d) (size : Nat)
    (s : σ) (d : Deployment) :
    ((do
        Op.connect .list start
        next (← Op.foldPages start work s (← Op.pagesUnder size start))).exec d).2 =
      ((work s (d.outages.listed size start d.store)).exec d).2 := by
  have hconnect := Op.exec_connect .list start 0 d
  unfold Outages.listed
  by_cases h : d.outages.unreachable .list start = true
  · rw [if_pos h] at hconnect
    rw [if_pos h, Op.exec_bind_error hconnect, hnil]
    rfl
  · rw [if_neg h] at hconnect
    rw [if_neg h, Op.exec_bind_ok hconnect, Op.exec_bind_ok (Op.exec_pagesUnder size start d),
      Op.exec_bind, exec_foldPages hnil happend hkeeps, Op.exec_bind]
    rcases (work s _).exec d with ⟨r, d'⟩
    cases r with
    | error e => rfl
    | ok s' =>
      dsimp only
      cases d.outages.breaksOff start (pages size (d.store.keysUnder start)) with
      | true => rfl
      | false => exact hnext s' d'

end

end ReportMigration
