import Mathlib.Data.List.Basic
import ReportMigration.Proofs.Execution
import ReportMigration.Proofs.Text.Percent
import ReportMigration.Storage.Transfer
/-!
Signed addresses of objects in containers.

* `Container.connectionString items`: a connection string with these items, and
  `Container.connectionFields_connectionString`: all of them are read back, whatever equals signs their
  values hold;
* `Container.LastItem`: the item of a name that counts;
* `Container.exec_signedUrl`: when there is an address, and which;
* `Container.signedUrl_iff`: it names the account, the container and the object, and nothing else.
-/
namespace ReportMigration

namespace Deployment

/-- The value of a field of settings. -/
def settingOf (d : Deployment) (k : SettingsKind) (name : String) : String :=
  fieldValue (k.fields d.env) name

end Deployment

namespace Op

theorem exec_field (k : SettingsKind) (name : String) (d : Deployment) :
    (field k name).exec d = (.ok (d.settingOf k name), d) := rfl

end Op

namespace Container

variable {d : Deployment} {items : List (String × String)} {name value : String}

/-! ## Connection strings -/

/-- A name and a value that can be told from each other, and from the items around them. -/
structure IsItem (f : String × String) : Prop where
  name_equals : '=' ∉ f.1.toList
  name_semicolon : ';' ∉ f.1.toList
  value_semicolon : ';' ∉ f.2.toList

/-- An item of a connection string. -/
def itemText (f : String × String) : String := f.1 ++ "=" ++ f.2

/-- The connection string of some items. -/
def connectionString (items : List (String × String)) : String :=
  ";".intercalate (items.map itemText)

/-- The item of a name that counts has this value: no later one has the name. -/
def LastItem (items : List (String × String)) (name value : String) : Prop :=
  ∃ before after, items = before ++ (name, value) :: after ∧ ∀ f ∈ after, f.1 ≠ name

theorem toList_itemText (f : String × String) :
    (itemText f).toList = f.1.toList ++ '=' :: f.2.toList := by
  simp [itemText]

theorem IsItem.semicolon_notMem {f : String × String} (hf : IsItem f) : ';' ∉ (itemText f).toList := by
  rw [toList_itemText, List.mem_append, List.mem_cons]
  rintro (h | h | h)
  · exact hf.name_semicolon h
  · cases h
  · exact hf.value_semicolon h

/-- The first equals sign of an item ends its name. -/
theorem IsItem.parts {f : String × String} (hf : IsItem f) :
    (itemText f).toList.takeWhile (· ≠ '=') = f.1.toList ∧
      ((itemText f).toList.dropWhile (· ≠ '=')).drop 1 = f.2.toList := by
  have hname : ∀ c ∈ f.1.toList, decide (c ≠ '=') = true :=
    fun c hc => decide_eq_true fun h => hf.name_equals (h ▸ hc)
  rw [toList_itemText, List.takeWhile_append_of_pos hname, List.dropWhile_append_of_pos hname]
  simp

/-- **Every item of a connection string is read back.** -/
theorem connectionFields_connectionString (hitems : ∀ f ∈ items, IsItem f) :
    connectionFields (connectionString items) = items := by
  cases items with
  | nil => rfl
  | cons f fs =>
    have hsplit : (connectionString (f :: fs)).toList.splitOn ';' =
        (f :: fs).map fun f => (itemText f).toList := by
      rw [connectionString, String.toList_intercalate, List.map_map]
      refine List.splitOn_intercalate ';' ?_ (by simp)
      intro l hl
      obtain ⟨g, hg, rfl⟩ := List.mem_map.1 hl
      exact (hitems g hg).semicolon_notMem
    rw [connectionFields, hsplit, List.filterMap_map]
    refine (List.filterMap_congr fun g hg => ?_).trans List.filterMap_some
    obtain ⟨hname, hvalue⟩ := (hitems g hg).parts
    have hequals : (itemText g).toList.contains '=' = true := by
      simp [toList_itemText]
    simp only [Function.comp_apply, if_pos hequals, hname, hvalue, String.ofList_toList]

theorem LastItem.lastValue?_eq (h : LastItem items name value) : lastValue? items name = some value := by
  obtain ⟨before, after, rfl, hafter⟩ := h
  have hnone : after.reverse.find? (fun f => decide (f.1 = name)) = none :=
    List.find?_eq_none.2 fun f hf => by simpa using hafter f (List.mem_reverse.1 hf)
  simp [lastValue?, List.reverse_append, List.find?_append, hnone]

/-! ## Addresses -/

theorem address_injective (account container : String) :
    Function.Injective (address account container) := by
  intro key other h
  exact Percent.encode_injective (String.append_right_inj _ |>.1 h)

/-- **When there is a signed address, and which.** The connection string must name an account and its
    key, the address must expire while there are dates, and the service that signs must be reached. -/
theorem exec_signedUrl {fields : List (String × String)} {account accountKey : String}
    (hfields : connectionFields (d.settingOf .container "connection_string") = fields)
    (haccount : lastValue? fields "AccountName" = some account) (hne : account ≠ "")
    (hkey : lastValue? fields "AccountKey" = some accountKey) (hne' : accountKey ≠ "")
    (key : String) (seconds : Int) :
    ((signedUrl key seconds).exec d).1 = .ok
      (if (d.nextTime.addSeconds seconds).isOnCalendar = true ∧ d.outages.hits .presign key = false then
        some (address account (d.settingOf .container "container_name") key ++ "?" ++
          d.signToken ⟨account, accountKey, d.settingOf .container "container_name", key, d.nextTime,
            d.nextTime.addSeconds seconds⟩)
      else none) := by
  have hempty : ¬ (account.isEmpty || accountKey.isEmpty) = true := by
    simp [hne, hne']
  rw [signedUrl, Op.exec_bind_ok (Op.exec_field _ _ d), Op.exec_bind_ok (Op.exec_field _ _ d), hfields,
    haccount, hkey]
  simp only [Option.getD_some, if_neg hempty]
  rw [Op.exec_bind_ok (Op.exec_now d)]
  by_cases hdate : (d.nextTime.addSeconds seconds).isOnCalendar = true
  · simp only [hdate, Bool.not_true, Bool.false_eq_true, if_false, true_and]
    rw [Op.exec_bind_ok (Op.exec_succeeds _ _), Op.exec_reach]
    by_cases hout : d.outages.hits .presign key = true
    · simp only [hout]
      rfl
    · simp only [hout]
      rfl
  · simp only [hdate]
    rfl

/-- **A signed address names exactly its object**: it is made of the account, the container and the key
    in encoded form, and of a token for just these and the whole account key. Encoded keys hold nothing
    that means something else in an address; the key is read back from them, so they differ where the
    keys do. -/
theorem signedUrl_iff {account accountKey : String}
    (hitems : ∀ f ∈ items, IsItem f)
    (hconnection : d.settingOf .container "connection_string" = connectionString items)
    (haccount : LastItem items "AccountName" account) (hne : account ≠ "")
    (hkey : LastItem items "AccountKey" accountKey) (hne' : accountKey ≠ "") (key url : String)
    (seconds : Int) :
    let container := d.settingOf .container "container_name"
    let expiry := d.nextTime.addSeconds seconds
    (((signedUrl key seconds).exec d).1 = .ok (some url) ↔
      (expiry.isOnCalendar = true ∧ d.outages.hits .presign key = false) ∧
        url = "https://" ++ account ++ ".blob.core.windows.net/" ++ container ++ "/" ++
          Percent.encode key ++ "?" ++
          d.signToken ⟨account, accountKey, container, key, d.nextTime, expiry⟩) ∧
      Percent.Encoded (Percent.encode key).toList ∧
      (Percent.decode (Percent.encode key)).map List.toByteArray = some key.toUTF8 ∧
      ∀ other, address account container other = address account container key → other = key := by
  intro container expiry
  have hfields := (congrArg connectionFields hconnection).trans (connectionFields_connectionString hitems)
  refine ⟨?_, Percent.encoded_encode key, ?_, fun other h => address_injective account container h⟩
  · rw [exec_signedUrl hfields haccount.lastValue?_eq hne hkey.lastValue?_eq hne' key seconds]
    by_cases h : expiry.isOnCalendar = true ∧ d.outages.hits .presign key = false
    · rw [if_pos h, Except.ok.injEq, Option.some.injEq, eq_comm, and_iff_right h]
      rfl
    · rw [if_neg h]
      exact ⟨nofun, fun hurl => absurd hurl.1 h⟩
  · rw [Percent.decode_encode, Option.map_some, Text.toByteArray_octets]

/-- A connection string with an account key that ends in equals signs, and a name that is given
    twice. -/
def paddedItems : List (String × String) :=
  [("AccountKey", "a2V5Zg=="), ("AccountName", "old"), ("", "="), ("AccountName", "acc")]

def paddedDeployment : Deployment where
  env := [("CONNECTION_STRING", connectionString paddedItems), ("container_name", "files")]

theorem signedUrl_iff_padded :
    ((signedUrl "a b/é?%.twb" 60).exec paddedDeployment).1 = .ok (some
      ("https://acc.blob.core.windows.net/files/a%20b/%C3%A9%3F%25.twb?" ++
        paddedDeployment.signToken ⟨"acc", "a2V5Zg==", "files", "a b/é?%.twb", paddedDeployment.nextTime,
          paddedDeployment.nextTime.addSeconds 60⟩)) := by
  have hitems : ∀ f ∈ paddedItems, IsItem f := by
    intro f hf
    simp only [paddedItems, List.mem_cons, List.not_mem_nil, or_false] at hf
    rcases hf with rfl | rfl | rfl | rfl <;> exact ⟨by decide, by decide, by decide⟩
  have haccount : LastItem paddedItems "AccountName" "acc" := ⟨paddedItems.take 3, [], rfl, nofun⟩
  have hkey : LastItem paddedItems "AccountKey" "a2V5Zg==" :=
    ⟨[], paddedItems.drop 1, rfl, by decide⟩
  have hencode : Percent.encode "a b/é?%.twb" = "a%20b/%C3%A9%3F%25.twb" := by decide +kernel
  have hcontainer : paddedDeployment.settingOf .container "container_name" = "files" := by decide +kernel
  have hurl := signedUrl_iff (d := paddedDeployment) hitems (by decide +kernel) haccount (by decide) hkey
    (by decide) "a b/é?%.twb"
    ("https://acc.blob.core.windows.net/files/a%20b/%C3%A9%3F%25.twb?" ++
        paddedDeployment.signToken ⟨"acc", "a2V5Zg==", "files", "a b/é?%.twb", paddedDeployment.nextTime,
          paddedDeployment.nextTime.addSeconds 60⟩) 60
  rw [hcontainer] at hurl
  refine hurl.1.2 ⟨by decide +kernel, ?_⟩
  rw [hencode]
  rfl

end Container

end ReportMigration
