import Mathlib.Logic.Function.Basic
import ReportMigration.Id
import ReportMigration.Json.Reader
/-!
Identifiers that are drawn.

* `Json.hexNumber?_hexPadded`: a number can be read back from its hexadecimal digits;
* `Id.drawn_injective`: hence no identifier is drawn twice;
* `Id.slash_notMem_drawn`: an identifier can stand between slashes.
-/
namespace ReportMigration

/-- The hexadecimal digits, by their values. -/
theorem Json.hexValue?_digitChar {n : Nat} (h : n < 16) : hexValue? n.digitChar = some n :=
  List.all_eq_true.1 (show (List.range 16).all (fun n => hexValue? n.digitChar = some n) = true by
    decide) n (List.mem_range.2 h) |> of_decide_eq_true

theorem Json.hexNumber?_append (cs : List Char) (c : Char) :
    hexNumber? (cs ++ [c]) = (hexNumber? cs).bind fun n => (hexValue? c).map (n * 16 + ·) := by
  simp [hexNumber?, List.foldlM_append]

theorem Json.hexNumber?_toDigits (n : Nat) : hexNumber? (Nat.toDigits 16 n) = some n := by
  induction n using Nat.strongRecOn with
  | ind n ih =>
    by_cases h : n < 16
    · simp [Nat.toDigits_of_lt_base h, hexNumber?, hexValue?_digitChar h]
    · have hmod : n % 16 < 16 := Nat.mod_lt n (by decide)
      rw [Nat.toDigits_of_base_le (by decide) (by omega), hexNumber?_append,
        ih (n / 16) (by omega), hexValue?_digitChar hmod]
      simp only [Option.bind_some, Option.map_some, Option.some.injEq]
      omega

theorem Json.hexNumber?_replicate_append (k : Nat) (cs : List Char) :
    hexNumber? (List.replicate k '0' ++ cs) = hexNumber? cs := by
  induction k with
  | zero => rfl
  | succ k ih => exact ih

/-- **A number can be read back from its digits.** -/
theorem Json.hexNumber?_hexPadded (width n : Nat) :
    hexNumber? (Text.hexPadded width n) = some n := by
  rw [Text.hexPadded, hexNumber?_replicate_append, hexNumber?_toDigits]

namespace Id

theorem toList_drawn (n : Nat) :
    (drawn n).text.toList = "aaaaaaaa-0000-4000-8000-".toList ++ Text.hexPadded 12 n :=
  String.toList_append.trans (congrArg _ String.toList_ofList)

/-- **No identifier is drawn twice.** -/
theorem drawn_injective : Function.Injective drawn := by
  intro m n h
  have htext : (drawn m).text.toList = (drawn n).text.toList := by rw [h]
  rw [toList_drawn, toList_drawn, List.append_cancel_left_eq] at htext
  have hread := congrArg Json.hexNumber? htext
  rw [Json.hexNumber?_hexPadded, Json.hexNumber?_hexPadded] at hread
  exact Option.some.inj hread

theorem slash_notMem_toDigits (n : Nat) : '/' ∉ Nat.toDigits 16 n := by
  have hdigit : ∀ m < 16, '/' ≠ m.digitChar := by
    intro m hm he
    have hval := Json.hexValue?_digitChar hm
    rw [← he] at hval
    cases hval
  induction n using Nat.strongRecOn with
  | ind n ih =>
    by_cases h : n < 16
    · rw [Nat.toDigits_of_lt_base h, List.mem_singleton]
      exact hdigit n h
    · rw [Nat.toDigits_of_base_le (by decide) (by omega), List.mem_append, List.mem_singleton]
      rintro (hm | hm)
      · exact ih (n / 16) (by omega) hm
      · exact hdigit _ (Nat.mod_lt n (by decide)) hm

theorem slash_notMem_drawn (n : Nat) : '/' ∉ (drawn n).text.toList := by
  rw [toList_drawn, Text.hexPadded, List.mem_append, List.mem_append, not_or, not_or]
  exact ⟨by decide +kernel, fun h => absurd (List.eq_of_mem_replicate h) (by decide),
    slash_notMem_toDigits n⟩

end Id

end ReportMigration
