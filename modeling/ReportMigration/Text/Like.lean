import ReportMigration.Text.Letter
/-!
Matching of stored text against a search pattern, as SQLite does it where nothing else is said: a percent
sign stands for any text and an underscore for any one character, upper and lower case are not told apart
for the ASCII letters, but for all others, and there is no escape character. Other databases fold more
letters or take a backslash as an escape.

* `Like p s` says when the pattern `p` matches the text `s`;
* `like` decides it (`like_iff`).
-/
namespace ReportMigration.Text

/-- The pattern `p` matches the text `s` by the `LIKE` of SQLite: no escape character, and only ASCII letters
    match in either case. -/
inductive Like : List Char → List Char → Prop
  | nil : Like [] []
  | skip {p s : List Char} : Like p s → Like ('%' :: p) s
  | take {p s : List Char} (c : Char) : Like ('%' :: p) s → Like ('%' :: p) (c :: s)
  | one {p s : List Char} (c : Char) : Like p s → Like ('_' :: p) (c :: s)
  | char {p s : List Char} (a c : Char) : a ≠ '%' → a ≠ '_' → foldAsciiChar a = foldAsciiChar c →
      Like p s → Like (a :: p) (c :: s)

/-- Whether a suffix of `s` satisfies `f`. -/
def anySuffix (f : List Char → Bool) : List Char → Bool
  | [] => f []
  | c :: s => f (c :: s) || anySuffix f s

/-- Whether the pattern matches the text. -/
def likeList : List Char → List Char → Bool
  | [], s => s.isEmpty
  | a :: p, s =>
    if a = '%' then anySuffix (likeList p) s
    else match s with
      | [] => false
      | c :: s => (a = '_' || foldAsciiChar a = foldAsciiChar c) && likeList p s

/-- Whether the stored text `s` matches the pattern `p`. -/
def like (s p : String) : Bool := likeList p.toList s.toList

theorem anySuffix_eq_true {f : List Char → Bool} {s : List Char} :
    anySuffix f s = true ↔ ∃ t, t <:+ s ∧ f t = true := by
  induction s with
  | nil => simp [anySuffix]
  | cons c s ih =>
    simp only [anySuffix, Bool.or_eq_true, ih, List.suffix_cons_iff]
    constructor
    · rintro (h | ⟨t, ht, h⟩)
      · exact ⟨_, .inl rfl, h⟩
      · exact ⟨t, .inr ht, h⟩
    · rintro ⟨t, rfl | ht, h⟩
      · exact .inl h
      · exact .inr ⟨t, ht, h⟩

theorem like_percent_iff {p s : List Char} : Like ('%' :: p) s ↔ ∃ t, t <:+ s ∧ Like p t := by
  constructor
  · intro h
    generalize hq : '%' :: p = q at h
    induction h with
    | nil => cases hq
    | skip h => cases hq; exact ⟨_, List.suffix_rfl, h⟩
    | take c _ ih =>
      obtain ⟨t, ht, h⟩ := ih hq
      exact ⟨t, ht.trans (List.suffix_cons c _), h⟩
    | one => simp at hq
    | char a _ ha => cases hq; exact absurd rfl ha
  · rintro ⟨t, ⟨u, rfl⟩, h⟩
    induction u with
    | nil => exact .skip h
    | cons c u ih => exact .take c ih

theorem likeList_iff {p s : List Char} : likeList p s = true ↔ Like p s := by
  induction p generalizing s with
  | nil =>
    cases s with
    | nil => simp [likeList, Like.nil]
    | cons c s => simp only [likeList, List.isEmpty_cons, Bool.false_eq_true, false_iff]; nofun
  | cons a p ih =>
    by_cases ha : a = '%'
    · subst ha
      simp [likeList, anySuffix_eq_true, like_percent_iff, ih]
    · cases s with
      | nil =>
        simp only [likeList, ha, if_false, Bool.false_eq_true, false_iff]
        intro h; cases h; exact ha rfl
      | cons c s =>
        simp only [likeList, ha, if_false, Bool.and_eq_true, Bool.or_eq_true, decide_eq_true_eq, ih]
        constructor
        · rintro ⟨rfl | h, hs⟩
          · exact .one c hs
          · by_cases hu : a = '_'
            · subst hu; exact .one c hs
            · exact .char a c ha hu h hs
        · intro h
          cases h with
          | skip => exact absurd rfl ha
          | take => exact absurd rfl ha
          | one _ h => exact ⟨.inl rfl, h⟩
          | char _ _ _ _ h hs => exact ⟨.inr h, hs⟩

theorem like_iff {s p : String} : like s p = true ↔ Like p.toList s.toList := likeList_iff

end ReportMigration.Text
