import ReportMigration.Files.Disk
/-!
Object storage: contents by key, in the order of the keys.

* `ObjectStore.get?` looks a key up, `put` and `erase` write (`get?_put`, `get?_erase`);
* `ObjectStore.keysUnder` lists the keys that start with a text.
-/
namespace ReportMigration

/-- Contents by key. -/
structure ObjectStore where
  entries : List (String × Content)
  sorted : entries.Pairwise fun a b => a.1 < b.1

namespace ObjectStore

def empty : ObjectStore := ⟨[], .nil⟩

instance : Inhabited ObjectStore := ⟨empty⟩

/-- The entries with one set, in the order of the keys. -/
def insertEntry (k : String) (c : Content) : List (String × Content) → List (String × Content)
  | [] => [(k, c)]
  | e :: es =>
    if k < e.1 then (k, c) :: e :: es
    else if k = e.1 then (k, c) :: es
    else e :: insertEntry k c es

theorem mem_insertEntry {k : String} {c : Content} {es : List (String × Content)}
    {x : String × Content} (h : x ∈ insertEntry k c es) : x = (k, c) ∨ x ∈ es := by
  induction es with
  | nil => simpa [insertEntry] using h
  | cons e es ih =>
    rw [insertEntry] at h
    split at h
    · simpa using h
    · split at h
      · rcases List.mem_cons.1 h with h | h
        · exact .inl h
        · exact .inr (List.mem_cons_of_mem _ h)
      · rcases List.mem_cons.1 h with rfl | h
        · exact .inr List.mem_cons_self
        · exact (ih h).imp id (List.mem_cons_of_mem _)

theorem sorted_insertEntry {k : String} {c : Content} {es : List (String × Content)}
    (h : es.Pairwise fun a b => a.1 < b.1) :
    (insertEntry k c es).Pairwise fun a b => a.1 < b.1 := by
  induction es with
  | nil => simp [insertEntry]
  | cons e es ih =>
    obtain ⟨he, hes⟩ := List.pairwise_cons.1 h
    rw [insertEntry]
    split
    · rename_i hk
      refine List.pairwise_cons.2 ⟨fun x hx => ?_, h⟩
      rcases List.mem_cons.1 hx with rfl | hx
      · exact hk
      · exact String.lt_trans hk (he x hx)
    · split
      · rename_i hk
        exact List.pairwise_cons.2 ⟨fun x hx => hk ▸ he x hx, hes⟩
      · rename_i hlt hne
        refine List.pairwise_cons.2 ⟨fun x hx => ?_, ih hes⟩
        rcases mem_insertEntry hx with rfl | hx
        · show e.1 < k
          have hle : e.1 ≤ k := String.not_lt.1 hlt
          exact Classical.byContradiction fun hn => hne (String.le_antisymm (String.not_lt.1 hn) hle)
        · exact he x hx

/-- The content at a key. -/
def get? (s : ObjectStore) (k : String) : Option Content :=
  (s.entries.find? fun e => e.1 = k).map (·.2)

/-- The storage with a content at a key. -/
def put (s : ObjectStore) (k : String) (c : Content) : ObjectStore :=
  ⟨insertEntry k c s.entries, sorted_insertEntry s.sorted⟩

/-- The storage without a key. -/
def erase (s : ObjectStore) (k : String) : ObjectStore :=
  ⟨s.entries.filter fun e => e.1 ≠ k, s.sorted.filter _⟩

/-- The keys that start with `start`, in order. -/
def keysUnder (s : ObjectStore) (start : String) : List String :=
  (s.entries.map (·.1)).filter fun k => start.toList.isPrefixOf k.toList

/-- The storage that holds the given contents, of several at one key the last. -/
def ofList (es : List (String × Content)) : ObjectStore :=
  es.foldl (fun s e => s.put e.1 e.2) empty

theorem find?_insertEntry (k k' : String) (c : Content) (es : List (String × Content)) :
    ((insertEntry k c es).find? fun e => e.1 = k').map (·.2) =
      if k' = k then some c else (es.find? fun e => e.1 = k').map (·.2) := by
  induction es with
  | nil =>
    by_cases h : k' = k
    · simp [insertEntry, h]
    · simp [insertEntry, h, Ne.symm h]
  | cons e es ih =>
    rw [insertEntry]
    split
    · by_cases h : k' = k
      · simp [h]
      · simp [h, Ne.symm h]
    · split
      · rename_i hk
        subst hk
        by_cases h : k' = e.1
        · simp [h]
        · simp [h, Ne.symm h]
      · rename_i hne
        by_cases h : e.1 = k'
        · subst h
          simp [Ne.symm hne]
        · simp only [List.find?_cons, h, decide_false]
          exact ih

@[simp] theorem get?_put (s : ObjectStore) (k k' : String) (c : Content) :
    (s.put k c).get? k' = if k' = k then some c else s.get? k' :=
  find?_insertEntry k k' c s.entries

@[simp] theorem get?_erase (s : ObjectStore) (k k' : String) :
    (s.erase k).get? k' = if k' = k then none else s.get? k' := by
  unfold get? erase
  rw [List.find?_filter]
  split
  · rename_i h
    subst h
    rw [List.find?_eq_none.2 (by simp)]
    rfl
  · rename_i h
    congr 2
    funext e
    by_cases he : e.1 = k' <;> simp [he, h]

end ObjectStore

end ReportMigration
