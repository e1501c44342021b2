import ReportMigration.Number.Double
/-!
JSON values. The fields of an object keep their order, and whole numbers are kept apart from
numbers in double precision.

* `Json.get?` looks a field up; `Json.set` writes one, in place if it is there already and at the
  end otherwise; `Json.ofFields` builds an object from fields of which the last of a name counts;
* `Json.isTruthy` tells values that count as present from those that count as absent.
-/
namespace ReportMigration

/-- A JSON value. -/
inductive Json where
  | null
  | bool (b : Bool)
  | int (n : Int)
  | real (x : Double)
  | str (s : String)
  | arr (xs : List Json)
  | obj (fs : List (String × Json))
  deriving BEq, Inhabited

namespace Json

/-- The fields `fs` with the field `k` set to `v`. -/
def setField (k : String) (v : Json) : List (String × Json) → List (String × Json)
  | [] => [(k, v)]
  | (k', v') :: fs => if k' = k then (k, v) :: fs else (k', v') :: setField k v fs

/-- The fields `fs` without the field `k`. -/
def eraseField (k : String) (fs : List (String × Json)) : List (String × Json) :=
  fs.filter fun f => f.1 ≠ k

/-- The value of the field `k` among `fs`. -/
def getField? (k : String) (fs : List (String × Json)) : Option Json :=
  (fs.find? fun f => f.1 = k).map (·.2)

/-- The value of the field `k`, if this is an object that has it. -/
def get? (k : String) : Json → Option Json
  | obj fs => getField? k fs
  | _ => none

/-- An object from fields in the order given; of several with one name the last counts, in the
    place of the first. -/
def ofFields (fs : List (String × Json)) : List (String × Json) :=
  fs.foldl (fun acc f => setField f.1 f.2 acc) []

/-- A text or null. -/
def ofText? : Option String → Json
  | none => null
  | some s => str s

/-- A whole number or null. -/
def ofInt? : Option Int → Json
  | none => null
  | some n => int n

/-- A truth value or null. -/
def ofBool? : Option Bool → Json
  | none => null
  | some b => bool b

/-- Whether a value counts as present: null, false, zero and everything empty do not. -/
def isTruthy : Json → Bool
  | null => false
  | bool b => b
  | int n => n ≠ 0
  | real x => !x.isZero
  | str s => !s.isEmpty
  | arr xs => !xs.isEmpty
  | obj fs => !fs.isEmpty

theorem getField?_setField_self (k : String) (v : Json) (fs : List (String × Json)) :
    getField? k (setField k v fs) = some v := by
  induction fs with
  | nil => simp [setField, getField?]
  | cons f fs ih =>
    obtain ⟨k', v'⟩ := f
    by_cases h : k' = k
    · simp [setField, getField?, h]
    · simpa [setField, getField?, h] using ih

theorem getField?_setField_of_ne {k k' : String} (h : k' ≠ k) (v : Json)
    (fs : List (String × Json)) : getField? k' (setField k v fs) = getField? k' fs := by
  induction fs with
  | nil => simp [setField, getField?, Ne.symm h]
  | cons f fs ih =>
    obtain ⟨a, b⟩ := f
    by_cases ha : a = k
    · subst ha
      simp [setField, getField?, Ne.symm h]
    · by_cases hk : a = k'
      · subst hk
        simp [setField, getField?, ha]
      · simpa [setField, getField?, ha, hk] using ih

end Json

end ReportMigration
