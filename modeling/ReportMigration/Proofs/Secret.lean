import ReportMigration.Proofs.Execution
import ReportMigration.Proofs.Json.RoundTrip
import ReportMigration.Proofs.Text.Base64
import ReportMigration.Proofs.Text.Octets
import ReportMigration.Secret
/-!
Lists of credentials and their texts.

* `Secret.decode_encode`: every secret is read back from its written form;
* `Secret.IsCredential fs`: fields with different names, whose password is a text if there is one;
* `Secret.decodeList_encodeList`: a list of credentials is read back from its text, in which all
  passwords are in base64.
-/
namespace ReportMigration

/-! ## Fields -/

namespace Json

variable {k : String} {v w : Json} {fs : List (String × Json)}

theorem getField?_eq_none_iff : getField? k fs = none ↔ k ∉ fs.map (·.1) := by
  simp only [getField?, Option.map_eq_none_iff, List.find?_eq_none, decide_eq_true_eq, List.mem_map,
    not_exists, not_and]

theorem setField_setField (k : String) (v w : Json) (fs : List (String × Json)) :
    setField k w (setField k v fs) = setField k w fs := by
  induction fs with
  | nil => simp [setField]
  | cons f fs ih =>
    obtain ⟨k', v'⟩ := f
    by_cases h : k' = k
    · simp [setField, h]
    · simp [setField, h, ih]

/-- A field that is set to the value it has. -/
theorem setField_of_getField? (h : getField? k fs = some v) : setField k v fs = fs := by
  induction fs with
  | nil => cases h
  | cons f fs ih =>
    obtain ⟨k', v'⟩ := f
    by_cases hk : k' = k
    · subst hk
      simp_all [setField, getField?]
    · rw [setField, if_neg hk, ih (by simpa [getField?, hk] using h)]

theorem Proper.setField (h : Proper (.obj fs)) (hv : Proper v) : Proper (.obj (setField k v fs)) := by
  cases h with
  | obj distinct h =>
    refine .obj (nodup_of_set (Json.setField k v) rfl (fun _ _ => rfl) distinct) fun f hf => ?_
    rcases mem_of_mem_set (Json.setField k v) rfl (fun _ _ => rfl) hf with rfl | hf
    · exact hv
    · exact h f hf

end Json

/-! ## Secrets -/

namespace Secret

/-- **Every secret is read back from its written form.** -/
theorem decode_encode (s : String) : decode (encode s) = .ok s := by
  rw [decode, encode, String.toList_ofList, Base64.decode_encode]
  exact Text.ofOctets_octets s

theorem isText_encode (s : String) : Base64.IsText (encode s).toList := by
  rw [encode, String.toList_ofList]
  exact Base64.isText_encode _

/-! ## Credentials -/

variable {fs : List (String × Json)}

/-- Fields with different names, of which the password is a text if there is one. -/
structure IsCredential (fs : List (String × Json)) : Prop where
  proper : Json.Proper (.obj fs)
  isText : ∀ v, Json.getField? "password" fs = some v → ∃ s, v = .str s

/-- The credential, with an empty password if it has none. -/
def withPassword (fs : List (String × Json)) : List (String × Json) :=
  if (Json.getField? "password" fs).isSome then fs else fs ++ [("password", .str "")]

/-- The second credential is the first with its password in base64. -/
structure Seals (fs gs : List (String × Json)) : Prop where
  password : ∃ e, Json.getField? "password" gs = some (.str e) ∧ Base64.IsText e.toList
  other : ∀ k ≠ "password", Json.getField? k gs = Json.getField? k fs

/-- The password of a credential, empty if it has none. -/
def passwordText (fs : List (String × Json)) : String :=
  match Json.getField? "password" fs with
  | some (.str s) => s
  | _ => ""

/-- The fields of a credential with its password in written form. -/
def sealedFields (fs : List (String × Json)) : List (String × Json) :=
  Json.setField "password" (.str (encode (passwordText fs))) fs

theorem seals_sealedFields (fs : List (String × Json)) : Seals fs (sealedFields fs) :=
  ⟨⟨_, Json.getField?_setField_self .., isText_encode _⟩, fun _ hk => Json.getField?_setField_of_ne hk ..⟩

theorem IsCredential.proper_sealedFields (h : IsCredential fs) : Json.Proper (.obj (sealedFields fs)) :=
  h.proper.setField (.str _)

theorem IsCredential.password_eq (h : IsCredential fs) :
    password (.obj fs) = .ok (fs, .str (passwordText fs)) := by
  unfold passwordText
  simp only [password]
  cases hv : Json.getField? "password" fs with
  | none => rfl
  | some v =>
    obtain ⟨s, rfl⟩ := h.isText v hv
    rfl

theorem IsCredential.sealed_eq (h : IsCredential fs) : sealed (.obj fs) = .ok (.obj (sealedFields fs)) := by
  rw [sealed, h.password_eq]
  rfl

theorem IsCredential.setField_passwordText (h : IsCredential fs) :
    Json.setField "password" (.str (passwordText fs)) fs = withPassword fs := by
  unfold passwordText withPassword
  cases hv : Json.getField? "password" fs with
  | none => exact Json.setField_of_notMem _ (Json.getField?_eq_none_iff.1 hv)
  | some v =>
    obtain ⟨s, rfl⟩ := h.isText v hv
    exact Json.setField_of_getField? hv

/-- Opening a sealed credential gives it back. -/
theorem IsCredential.unsealed_eq (h : IsCredential fs) :
    unsealed (.obj (sealedFields fs)) = .ok (.obj (withPassword fs)) := by
  have hascii : (encode (passwordText fs)).toList.any (fun c => c.toNat ≥ 128) = false := by
    rw [List.any_eq_false]
    intro c hc
    have := (isText_encode (passwordText fs)).toNat_lt hc
    simpa using this
  have hpassword : password (.obj (sealedFields fs)) =
      .ok (sealedFields fs, .str (encode (passwordText fs))) := by
    simp only [password, sealedFields, Json.getField?_setField_self, Option.getD_some]
  simp only [unsealed, hpassword, bind, Except.bind, hascii, Bool.false_eq_true, if_false,
    decode_encode, pure, Except.pure]
  rw [sealedFields, Json.setField_setField, h.setField_passwordText]

/-! ## Lists of credentials -/

theorem isTruthy_spaced (v : Json) : (Json.str v.spaced).isTruthy = true := by
  obtain ⟨c, cs, htext, -⟩ := Json.beginsWell_write Json.spacedLayout 0 v
  have hne : v.spaced ≠ "" := fun he => by
    rw [Json.spaced, ← String.toList_eq_nil_iff, htext] at he
    cases he
  simpa [Json.isTruthy] using hne

theorem mapM_obj {f : Json → Except Fault Json} {g h : List (String × Json) → List (String × Json)}
    {cs : List (List (String × Json))} (hf : ∀ fs ∈ cs, f (.obj (g fs)) = .ok (.obj (h fs))) :
    (cs.map fun fs => Json.obj (g fs)).mapM f = .ok (cs.map fun fs => .obj (h fs)) := by
  induction cs with
  | nil => rfl
  | cons fs cs ih =>
    rw [List.map_cons, List.mapM_cons, hf fs List.mem_cons_self,
      ih fun gs hgs => hf gs (List.mem_cons_of_mem _ hgs)]
    rfl

/-- **Lists of credentials survive their text.** The text of a list that is not empty holds the same
    credentials with their passwords in base64, and the list is read back from it, with empty passwords
    where there were none. -/
theorem decodeList_encodeList {cs : List (List (String × Json))} (hne : cs ≠ [])
    (hcs : ∀ fs ∈ cs, IsCredential fs) :
    ∃ t sealed, encodeList (.arr (cs.map .obj)) = .ok (some t) ∧
      Json.read t = .ok (.arr (sealed.map .obj)) ∧ List.Forall₂ Seals cs sealed ∧
      decodeList (.str t) = .ok (some (.arr (cs.map fun fs => .obj (withPassword fs)))) := by
  have hread : Json.read (Json.spaced (.arr (cs.map fun fs => .obj (sealedFields fs)))) =
      .ok (.arr (cs.map fun fs => .obj (sealedFields fs))) := by
    refine Json.read_write Json.plain_spacedLayout (.arr fun j hj => ?_) 0
    obtain ⟨fs, hfs, rfl⟩ := List.mem_map.1 hj
    exact (hcs fs hfs).proper_sealedFields
  have hseal : (cs.map Json.obj).mapM sealed = .ok (cs.map fun fs => .obj (sealedFields fs)) :=
    mapM_obj (g := id) fun fs hfs => (hcs fs hfs).sealed_eq
  have hopen := mapM_obj fun fs hfs => (hcs fs hfs).unsealed_eq
  refine ⟨Json.spaced (.arr (cs.map fun fs => .obj (sealedFields fs))), cs.map sealedFields, ?_, ?_, ?_, ?_⟩
  · have htruthy : (Json.arr (cs.map .obj)).isTruthy = true := by simpa [Json.isTruthy] using hne
    simp only [encodeList, htruthy, Json.elements, bind, Except.bind, pure, Except.pure, Bool.not_true,
      Bool.false_eq_true, if_false]
    rw [hseal]
  · rw [hread, List.map_map]
    rfl
  · exact List.forall₂_map_right_iff.2 (List.forall₂_same.2 fun fs _ => seals_sealedFields fs)
  · simp only [decodeList, isTruthy_spaced, Json.elements, bind, Except.bind, pure, Except.pure, Bool.not_true,
      Bool.false_eq_true, if_false, hread]
    rw [hopen]

/-- A credential with a password beyond ASCII, and one without a password. -/
def mixedCredentials : List (List (String × Json)) :=
  [[("user", .str "ann"), ("password", .str "pä😀")], [("ports", .arr [.int 80, .null])]]

theorem decodeList_encodeList_mixed :
    (mixedCredentials ≠ [] ∧ ∀ fs ∈ mixedCredentials, IsCredential fs) ∧
      ∃ t sealed, encodeList (.arr (mixedCredentials.map .obj)) = .ok (some t) ∧
        Json.read t = .ok (.arr (sealed.map .obj)) ∧ List.Forall₂ Seals mixedCredentials sealed ∧
        decodeList (.str t) = .ok (some (.arr
          [.obj [("user", .str "ann"), ("password", .str "pä😀")],
            .obj [("ports", .arr [.int 80, .null]), ("password", .str "")]])) := by
  have hne : mixedCredentials ≠ [] := by simp [mixedCredentials]
  have hports : Json.Proper (.arr [.int 80, .null]) := .arr (by simp [Json.Proper.int, Json.Proper.null])
  have hcs : ∀ fs ∈ mixedCredentials, IsCredential fs := by
    refine List.forall_mem_cons.2 ⟨⟨.obj (by decide) (by simp [Json.Proper.str]), ?_⟩,
      List.forall_mem_singleton.2 ⟨.obj (by decide) (by simp [hports]), ?_⟩⟩
    · rintro v ⟨⟩
      exact ⟨_, rfl⟩
    · rintro v ⟨⟩
  exact ⟨⟨hne, hcs⟩, decodeList_encodeList hne hcs⟩

end Secret

end ReportMigration
