import ReportMigration.Proofs.Execution
import ReportMigration.Proofs.Json.RoundTrip
import ReportMigration.Value
/-!
Values and their written form.

* `Value.Regular plain v`: names within a map differ, and there is one number that is none; if `plain`,
  there are no values but those of JSON, and no fractions;
* `Value.Regular.proper_written`: the written form of a regular value can be read back;
* `Value.Regular.written_eq`: a plain value has one, which is the form in which it is reported;
* `Value.toJson_ofJson`, `Value.isTruthy_ofJson`, `Value.field?_ofFields`: JSON values as values.
-/
namespace ReportMigration.Value

variable {plain : Bool} {v w : Value} {k : String} {xs : List Value} {fs : List (String × Value)}

/-- A value in which the names within a map differ, with one number that is none; if `plain`, only JSON
    values other than fractions occur. -/
inductive Regular (plain : Bool) : Value → Prop where
  | null : Regular plain .null
  | bool (b : Bool) : Regular plain (.bool b)
  | int (n : Int) : Regular plain (.int n)
  | text (s : String) : Regular plain (.text s)
  | list {xs : List Value} (h : ∀ x ∈ xs, Regular plain x) : Regular plain (.list xs)
  | map {fs : List (String × Value)} (distinct : (fs.map (·.1)).Nodup)
      (h : ∀ f ∈ fs, Regular plain f.2) : Regular plain (.map fs)
  | real (hp : plain = false) {x : Double} (h : x.isNaN = true → x = .nan) : Regular plain (.real x)
  | id (hp : plain = false) (i : Id) : Regular plain (.id i)
  | time (hp : plain = false) (t : Timestamp) : Regular plain (.time t)
  | record (hp : plain = false) (fs : List (String × Value)) : Regular plain (.record fs)
  | reply (hp : plain = false) {d e s : Value} (hd : Regular plain d) (he : Regular plain e)
      (hs : Regular plain s) : Regular plain (.reply d e s)
  | file (hp : plain = false) (name : String) (c : Content) : Regular plain (.file name c)
  | tasks (hp : plain = false) : Regular plain .tasks
  | method (hp : plain = false) (name : String) : Regular plain (.method name)
  | settings (hp : plain = false) (kind : String) : Regular plain (.settings kind)
  | member (hp : plain = false) (set name : String) {j : Json} (hj : j.Proper) :
    Regular plain (.member set name j)

namespace Regular

/-! ## Parts of a value -/

theorem nodup (h : Regular plain (.map fs)) : (fs.map (·.1)).Nodup := by
  cases h with
  | map distinct => exact distinct

theorem of_mem {f : String × Value} (h : Regular plain (.map fs)) (hf : f ∈ fs) : Regular plain f.2 := by
  cases h with
  | map _ h => exact h f hf

theorem field? (h : Regular plain (.map fs)) (hv : Value.field? k fs = some v) : Regular plain v := by
  obtain ⟨f, hf, rfl⟩ := Option.map_eq_some_iff.1 hv
  exact h.of_mem (List.mem_of_find?_eq_some hf)

theorem setField (h : Regular plain (.map fs)) (hv : Regular plain v) :
    Regular plain (.map (Value.setField k v fs)) := by
  refine .map (nodup_of_set (Value.setField k v) rfl (fun _ _ => rfl) h.nodup) fun f hf => ?_
  rcases mem_of_mem_set (Value.setField k v) rfl (fun _ _ => rfl) hf with rfl | hf
  · exact hv
  · exact h.of_mem hf

theorem filter (h : Regular plain (.map fs)) (p : String × Value → Bool) :
    Regular plain (.map (fs.filter p)) :=
  .map (h.nodup.sublist (List.filter_sublist.map _)) fun _ hf => h.of_mem (List.mem_of_mem_filter hf)

/-- What a value can be gone through for. -/
theorem elements (h : Regular plain v) (hxs : v.elements = .ok xs) : ∀ x ∈ xs, Regular plain x := by
  cases h <;> try cases hxs
  case list h => exact h
  case map =>
    intro x hx
    obtain ⟨f, -, rfl⟩ := List.mem_map.1 hx
    exact .text _
  case text =>
    intro x hx
    obtain ⟨c, -, rfl⟩ := List.mem_map.1 hx
    exact .text _
  case reply hp hd he hs =>
    intro x hx
    simp only [List.mem_cons, List.not_mem_nil, or_false] at hx
    rcases hx with rfl | rfl | rfl
    · exact hd
    · exact he
    · exact hs

theorem withElements (h : Regular plain v) (hxs : ∀ x ∈ xs, Regular plain x) :
    Regular plain (v.withElements xs) := by
  unfold Value.withElements
  split
  · exact .list hxs
  · cases h with
    | reply hp => exact .reply hp (hxs _ (by simp)) (hxs _ (by simp)) (hxs _ (by simp))
  · exact h

/-! ## The written form -/

theorem proper_writtenItems {finite : Bool} {js : List Json}
    (h : ∀ x ∈ xs, ∀ j, written finite x = .ok j → j.Proper) (hjs : writtenItems finite xs = .ok js) :
    ∀ j ∈ js, j.Proper := by
  induction xs generalizing js with
  | nil =>
    rw [writtenItems] at hjs
    cases hjs
    simp
  | cons x xs ih =>
    rw [writtenItems] at hjs
    cases hx : written finite x with
    | error e => rw [hx] at hjs; cases hjs
    | ok j =>
      cases hr : writtenItems finite xs with
      | error e => rw [hx, hr] at hjs; cases hjs
      | ok rest =>
        rw [hx, hr] at hjs
        cases hjs
        intro j' hj'
        rcases List.mem_cons.1 hj' with rfl | hj'
        · exact h x List.mem_cons_self j' hx
        · exact ih (fun y hy => h y (List.mem_cons_of_mem _ hy)) hr j' hj'

theorem proper_writtenFields {finite : Bool} {js : List (String × Json)}
    (h : ∀ f ∈ fs, ∀ j, written finite f.2 = .ok j → j.Proper) (hjs : writtenFields finite fs = .ok js) :
    js.map (·.1) = fs.map (·.1) ∧ ∀ j ∈ js, j.2.Proper := by
  induction fs generalizing js with
  | nil =>
    rw [writtenFields] at hjs
    cases hjs
    simp
  | cons f fs ih =>
    obtain ⟨k, v⟩ := f
    rw [writtenFields] at hjs
    cases hx : written finite v with
    | error e => rw [hx] at hjs; cases hjs
    | ok j =>
      cases hr : writtenFields finite fs with
      | error e => rw [hx, hr] at hjs; cases hjs
      | ok rest =>
        rw [hx, hr] at hjs
        cases hjs
        obtain ⟨hnames, hproper⟩ := ih (fun g hg => h g (List.mem_cons_of_mem _ hg)) hr
        refine ⟨congrArg (k :: ·) hnames, fun j' hj' => ?_⟩
        rcases List.mem_cons.1 hj' with rfl | hj'
        · exact h (k, v) List.mem_cons_self j hx
        · exact hproper j' hj'

theorem exists_of_map_eq_ok {α β : Type} {r : Except Fault α} {f : α → β} {b : β} (h : r.map f = .ok b) :
    ∃ a, r = .ok a ∧ f a = b := by
  cases r with
  | error e => cases h
  | ok a => exact ⟨a, rfl, Except.ok.inj h⟩

/-- The written form of a regular value can be read back. -/
theorem proper_written {finite : Bool} (h : Regular plain v) {j : Json} (hj : written finite v = .ok j) :
    j.Proper := by
  induction h generalizing j with rw [written] at hj
  | null => cases hj; exact .null
  | bool b => cases hj; exact .bool b
  | int n => cases hj; exact .int n
  | text s => cases hj; exact .str s
  | list h ih =>
    obtain ⟨js, hjs, rfl⟩ := exists_of_map_eq_ok hj
    exact .arr (proper_writtenItems (fun x hx j => ih x hx) hjs)
  | map distinct h ih =>
    obtain ⟨js, hjs, rfl⟩ := exists_of_map_eq_ok hj
    obtain ⟨hnames, hproper⟩ := proper_writtenFields (fun f hf j => ih f hf) hjs
    exact .obj (hnames ▸ distinct) hproper
  | real hp h =>
    split at hj
    · cases hj
    · cases hj
      exact .real h
  | @reply hp d e s hd he hs ihd ihe ihs =>
    obtain ⟨jd, hjd, hj⟩ := exists_of_bind_eq_ok hj
    obtain ⟨je, hje, hj⟩ := exists_of_bind_eq_ok hj
    obtain ⟨js, hjs, hj⟩ := exists_of_bind_eq_ok hj
    cases hj
    refine .arr fun j hj => ?_
    simp only [List.mem_cons, List.not_mem_nil, or_false] at hj
    rcases hj with rfl | rfl | rfl
    · exact ihd hjd
    · exact ihe hje
    · exact ihs hjs
  | member hp set name h =>
    cases hj
    exact h
  | _ => cases hj

/-- The written form of a plain value is the one in which it is reported. -/
theorem written_eq (h : Regular true v) (finite : Bool) : written finite v = .ok v.toJson := by
  induction h with
  | null => rw [written, toJson]
  | bool b => rw [written, toJson]
  | int n => rw [written, toJson]
  | text s => rw [written, toJson]
  | @list xs h ih =>
    have hitems : ∀ xs : List Value, (∀ x ∈ xs, written finite x = .ok x.toJson) →
        writtenItems finite xs = .ok (itemsToJson xs) := by
      intro xs h
      induction xs with
      | nil => rw [writtenItems, itemsToJson]
      | cons x xs ih =>
        rw [writtenItems, itemsToJson, h x List.mem_cons_self,
          ih fun y hy => h y (List.mem_cons_of_mem _ hy)]
        rfl
    rw [written, toJson, hitems xs ih]
    rfl
  | @map fs distinct h ih =>
    have hfields : ∀ fs : List (String × Value), (∀ f ∈ fs, written finite f.2 = .ok f.2.toJson) →
        writtenFields finite fs = .ok (fieldsToJson fs) := by
      intro fs h
      induction fs with
      | nil => rw [writtenFields, fieldsToJson]
      | cons f fs ih =>
        obtain ⟨k, v⟩ := f
        rw [writtenFields, fieldsToJson, h (k, v) List.mem_cons_self,
          ih fun g hg => h g (List.mem_cons_of_mem _ hg)]
        rfl
    rw [written, toJson, hfields fs ih]
    rfl
  | real hp | id hp | time hp | record hp | reply hp | file hp | tasks hp | method hp | settings hp
  | member hp => cases hp

end Regular

/-! ## JSON values as they are -/

mutual

@[simp] theorem toJson_ofJson : ∀ j : Json, (ofJson j).toJson = j
  | .null | .bool _ | .int _ | .real _ | .str _ => by simp only [ofJson, toJson]
  | .arr js => by rw [ofJson, toJson, itemsToJson_ofItems js]
  | .obj fs => by rw [ofJson, toJson, fieldsToJson_ofFields fs]

theorem itemsToJson_ofItems : ∀ js : List Json, itemsToJson (ofItems js) = js
  | [] => by rw [ofItems, itemsToJson]
  | j :: js => by rw [ofItems, itemsToJson, toJson_ofJson j, itemsToJson_ofItems js]

theorem fieldsToJson_ofFields : ∀ fs : List (String × Json), fieldsToJson (ofFields fs) = fs
  | [] => by rw [ofFields, fieldsToJson]
  | (k, j) :: fs => by rw [ofFields, fieldsToJson, toJson_ofJson j, fieldsToJson_ofFields fs]

end

@[simp] theorem isTruthy_ofJson (j : Json) : (ofJson j).isTruthy = j.isTruthy := by
  cases j with
  | arr js => cases js <;> simp [ofJson, ofItems, isTruthy, Json.isTruthy]
  | obj fs => cases fs <;> simp [ofJson, ofFields, isTruthy, Json.isTruthy]
  | _ => simp [ofJson, isTruthy, Json.isTruthy]

theorem field?_ofFields (k : String) (fs : List (String × Json)) :
    field? k (ofFields fs) = (Json.getField? k fs).map ofJson := by
  induction fs with
  | nil => simp [ofFields, field?, Json.getField?]
  | cons f fs ih =>
    obtain ⟨k', j⟩ := f
    unfold field? Json.getField? at ih ⊢
    by_cases h : k' = k
    · simp [ofFields, h]
    · simpa [ofFields, h] using ih

end ReportMigration.Value
