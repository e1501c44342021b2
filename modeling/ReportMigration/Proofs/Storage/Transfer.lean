import ReportMigration.Proofs.Execution
import ReportMigration.Proofs.Files.Writing
import ReportMigration.Storage.Provider
/-!
Objects and the files they are loaded from and saved to, for either provider.

* `Deployment.lasting` is what a look at an object and a download leave as it was, whatever happens
  (`Provider.keeps_has`, `Provider.keeps_download`);
* `Provider.Looks p o key`: the look at an object is not out of order;
* `Provider.exec_has`, `Provider.exec_upload` and `Provider.exec_download` say what the three operations
  answer and leave behind where they are in order.
-/
namespace ReportMigration

/-- The deployment but for its files and the looks that find a copy unfinished. -/
def Deployment.lasting (d : Deployment) : Deployment := { d with disk := {}, pendingCopies := 0 }

theorem Deployment.exists_of_lasting {d d' : Deployment} (h : d'.lasting = d.lasting) :
    ∃ disk n, d' = { d with disk := disk, pendingCopies := n } := by
  refine ⟨d'.disk, d'.pendingCopies, ?_⟩
  have h' := congrArg (fun x : Deployment => { x with disk := d'.disk, pendingCopies := d'.pendingCopies }) h
  exact h'

/-- Whether a file cannot be stored at a key, after so many other attempts. -/
def Outages.refuses (o : Outages) (key : String) (attempt : Nat := 0) : Bool :=
  o.unreachable .upload key attempt || o.hits .upload key attempt

/-- Whether the object of a key does not arrive, or not whole. -/
def Outages.withholds (o : Outages) (key : String) : Bool :=
  o.hits .download key || (o.part key).isSome

theorem Outages.withholds_eq_false {o : Outages} {key : String} (h : o.withholds key = false) :
    o.hits .download key = false ∧ o.part key = none := by
  simpa [withholds] using h

namespace Op

variable {d : Deployment}

theorem exec_onDisk (f : Disk → Except Fault Disk) (d : Deployment) :
    (onDisk f).exec d = match f d.disk with
      | .ok disk => (.ok (), { d with disk := disk })
      | .error e => (.error e, d) := by
  simp only [onDisk, exec_bind, exec_get]
  cases f d.disk <;> rfl

theorem exec_onDisk_ok {f : Disk → Except Fault Disk} {disk : Disk} (h : f d.disk = .ok disk) :
    (onDisk f).exec d = (.ok (), { d with disk := disk }) := by
  rw [exec_onDisk, h]

theorem eq_of_exec_onDisk {f : Disk → Except Fault Disk} {u : Unit} {d' : Deployment}
    (h : (onDisk f).exec d = (.ok u, d')) :
    ∃ disk, f d.disk = .ok disk ∧ d' = { d with disk := disk } := by
  rw [exec_onDisk] at h
  cases hf : f d.disk with
  | error e => rw [hf] at h; cases h
  | ok disk =>
    rw [hf] at h
    cases h
    exact ⟨disk, rfl, rfl⟩

theorem exec_reach_ok {kind : OutageKind} {key : String} {turn : Nat}
    (h : d.outages.hits kind key turn = false) : (reach kind key turn).exec d = (.ok (), d) := by
  rw [exec_reach, h]
  rfl

theorem exec_connect_ok {kind : OutageKind} {key : String} {turn : Nat}
    (h : d.outages.unreachable kind key turn = false) :
    (connect kind key turn).exec d = (.ok (), d) := by
  rw [exec_connect, h]
  rfl

theorem Keeps.onDisk (f : Disk → Except Fault Disk) : Keeps Deployment.lasting (Op.onDisk f) := by
  intro d
  rw [exec_onDisk]
  cases f d.disk <;> rfl

theorem Keeps.ofExcept {α γ : Type} {v : Deployment → γ} (r : Except Fault α) : Keeps v (Op.ofExcept r) :=
  .of_exec fun d => by rw [exec_ofExcept]

theorem Keeps.eq_of_exec {α γ : Type} {v : Deployment → γ} {x : Op α} {r : Except Fault α}
    {d' : Deployment} (hx : Keeps v x) (h : x.exec d = (r, d')) : v d' = v d := by
  have hd := hx d
  rwa [h] at hd

/-- A check of an answer that ends the operation. -/
theorem Keeps.unless {γ : Type} {v : Deployment → γ} {x : Op Bool} (hx : Keeps v x) (f : Fault) :
    Keeps v (do if !(← x) then MonadExcept.throw f) :=
  hx.bind fun _ => .ite (.throw f) (.pure _)

theorem Keeps.save {fetch : Op Content} (h : Keeps Deployment.lasting fetch) (path key : String) :
    Keeps Deployment.lasting (Op.save path key fetch) := by
  refine (Keeps.onDisk _).bind fun _ => h.bind fun _ => .bind (.of_exec fun _ => rfl) fun d => ?_
  dsimp only
  split
  · exact .onDisk _
  · exact (Keeps.onDisk _).bind fun _ => .throw _

/-- What is fetched whole is saved where there is no folder. -/
theorem exec_save {path key name : String} {ps : List String} {look : String → Option Node}
    {c : Content} {fetch : Op Content} (he : d.disk.Entry path ps name look)
    (hfile : ∀ fs, look name ≠ some (.folder fs)) (hpart : d.outages.part key = none)
    (hfetch : ∀ disk, fetch.exec { d with disk := disk } = (.ok c, { d with disk := disk })) :
    ∃ disk, (save path key fetch).exec d = (.ok (), { d with disk := disk }) ∧
      d.disk.Turns ps (Function.update look name (some (.file c))) disk := by
  obtain ⟨disk₁, hwrite, hturns⟩ := he.write hfile (.text "")
  obtain ⟨disk₂, hwrite', hturns'⟩ := (he.turns hturns).write (by simp) c
  rw [Function.update_idem] at hturns'
  refine ⟨disk₂, ?_, hturns.trans hturns'⟩
  rw [save, exec_bind_ok (exec_onDisk_ok hwrite), exec_bind_ok (hfetch disk₁),
    exec_bind_ok (exec_get _)]
  dsimp only
  rw [hpart]
  exact exec_onDisk_ok hwrite'

/-- What arrives in part is saved so far as it came. -/
theorem exec_save_part {path key name : String} {ps : List String} {look : String → Option Node}
    {c part : Content} {fetch : Op Content} (he : d.disk.Entry path ps name look)
    (hfile : ∀ fs, look name ≠ some (.folder fs)) (hpart : d.outages.part key = some part)
    (hfetch : ∀ disk, fetch.exec { d with disk := disk } = (.ok c, { d with disk := disk })) :
    ∃ disk, ((save path key fetch).exec d).2 = { d with disk := disk } ∧
      d.disk.Turns ps (Function.update look name (some (.file part))) disk := by
  obtain ⟨disk₁, hwrite, hturns⟩ := he.write hfile (.text "")
  obtain ⟨disk₂, hwrite', hturns'⟩ := (he.turns hturns).write (by simp) part
  rw [Function.update_idem] at hturns'
  refine ⟨disk₂, ?_, hturns.trans hturns'⟩
  rw [save, exec_bind_ok (exec_onDisk_ok hwrite), exec_bind_ok (hfetch disk₁),
    exec_bind_ok (exec_get _)]
  dsimp only
  rw [hpart]
  have hrest : (onDisk (·.write path part)).exec { d with disk := disk₁ } =
      (.ok (), { d with disk := disk₂ }) := exec_onDisk_ok hwrite'
  rw [exec_bind_ok hrest]
  rfl

/-- What either service does with a file that can be read, once its connection is open. -/
theorem exec_sendFile {connect : Op Unit} {path : String} {c : Content}
    (key : String) (attempt : Nat) (hread : d.disk.read path = .ok c)
    (hconnect : ∃ e, connect.exec d =
      if d.outages.unreachable .upload key attempt then (.error e, d) else (.ok (), d)) :
    (succeeds (do
      connect
      let c ← ofDisk (·.read path)
      reach .upload key attempt
      storeObject key c)).exec d =
      (.ok (!d.outages.refuses key attempt),
        { d with
          store := if d.outages.refuses key attempt then d.store else d.store.put key c }) := by
  obtain ⟨e, hconnect⟩ := hconnect
  have hdisk : (ofDisk (·.read path)).exec d = (.ok c, d) := by rw [exec_ofDisk, hread]
  have hreach := exec_reach .upload key attempt d
  rw [exec_succeeds]
  by_cases h₁ : d.outages.unreachable .upload key attempt = true
  · rw [if_pos h₁] at hconnect
    simp [exec_bind_error hconnect, Outages.refuses, h₁, Except.isOk, Except.toBool]
  · rw [if_neg h₁] at hconnect
    rw [exec_bind_ok hconnect, exec_bind_ok hdisk]
    by_cases h₂ : d.outages.hits .upload key attempt = true
    · rw [if_pos h₂] at hreach
      simp [exec_bind_error hreach, Outages.refuses, h₂, Except.isOk, Except.toBool]
    · rw [if_neg h₂] at hreach
      rw [exec_bind_ok hreach]
      simp only [Outages.refuses, h₁, h₂]
      rfl

end Op

namespace Container

variable {d : Deployment} {kind : OutageKind} {key : String} {turn : Nat}

theorem exec_opened (kind : OutageKind) (key : String) (turn : Nat) (d : Deployment) :
    (opened kind key turn).exec d =
      if d.outages.unreachable kind key turn then (.error neverOpened, d) else (.ok (), d) := by
  rw [opened, Op.exec_bind_ok (Op.exec_succeeds _ d), Op.exec_connect]
  cases d.outages.unreachable kind key turn <;> rfl

theorem exec_opened_ok (h : d.outages.unreachable kind key turn = false) :
    (opened kind key turn).exec d = (.ok (), d) := by
  rw [exec_opened, h]
  rfl

theorem keeps_opened {γ : Type} {v : Deployment → γ} : Op.Keeps v (opened kind key turn) :=
  .unless (.succeeds (.connect _ _ _)) _

theorem exec_properties {c : Content} (h : d.outages.hits .headOther key = false)
    (hc : d.store.get? key = some c) : ((properties key).exec d).1.isOk = true := by
  rw [properties, Op.exec_bind_ok (Op.exec_reach_ok h), Op.exec_bind, Op.exec_object, hc]
  dsimp only
  rw [Op.exec_bind, Op.exec_get]
  dsimp only
  split <;> rfl

theorem exec_properties_missing (h : d.outages.hits .headOther key = false)
    (hc : d.store.get? key = none) : (properties key).exec d = (.error notFound, d) := by
  rw [properties, Op.exec_bind_ok (Op.exec_reach_ok h), Op.exec_bind, Op.exec_object, hc]

end Container

namespace Provider

variable {d : Deployment} {key path : String} {c : Content}

/-! ## The look at an object -/

/-- The look at an object is not out of order. -/
structure Looks (p : Provider) (o : Outages) (key : String) : Prop where
  connect : o.unreachable .headOther key = false
  other : o.hits .headOther key = false
  head : p = .aws → o.hits .head key = false

theorem keeps_has {γ : Type} {v : Deployment → γ} (hv : ∀ d n, v { d with pendingCopies := n } = v d)
    (p : Provider) (key : String) : Op.Keeps v (p.has key) := by
  cases p with
  | aws =>
    refine .bind (.connect _ _ _) fun _ => fun d => ?_
    rw [Bucket.head, Op.exec_bind, Op.exec_get]
    dsimp only
    split
    · rfl
    · exact Op.Keeps.bind (.reach _ _ _) (fun _ => .of_exec fun _ => rfl) d
  | azure =>
    refine Container.keeps_opened.bind fun _ => (Op.Keeps.properties hv key 0).attempt.bind fun r => ?_
    split
    · exact .pure _
    · exact .pure _
    · exact .throw _

theorem exec_has (p : Provider) (h : p.Looks d.outages key) :
    ((p.has key).exec d).1 = .ok (d.store.get? key).isSome := by
  cases p with
  | aws =>
    rw [has, Bucket.has, Op.exec_bind_ok (Op.exec_connect_ok h.connect), Bucket.head,
      Op.exec_bind_ok (Op.exec_get d), h.head rfl, if_neg Bool.false_ne_true,
      Op.exec_bind_ok (Op.exec_reach_ok h.other)]
    rfl
  | azure =>
    rw [has, Container.has, Op.exec_bind_ok (Container.exec_opened_ok h.connect),
      Op.exec_bind_ok (Op.exec_attempt _ d)]
    cases hc : d.store.get? key with
    | none =>
      rw [Container.exec_properties_missing h.other hc]
      rfl
    | some c =>
      have hok := Container.exec_properties h.other hc
      cases hr : ((Container.properties key).exec d).1 with
      | error f => rw [hr] at hok; cases hok
      | ok b => rfl

/-! ## Downloads and uploads -/

theorem keeps_download (p : Provider) (key path : String) :
    Op.Keeps Deployment.lasting (p.download key path) := by
  cases p with
  | aws =>
    refine .unless (.succeeds (.bind (.onDisk _) fun _ =>
      .bind (.connect _ _ _) fun _ => .save ?_ _ _)) _
    exact .bind (.reach _ _ _) fun _ => .object _ _
  | azure =>
    refine .unless (.succeeds (.bind (.unless (.succeeds (.onDisk _)) _) fun _ =>
      .bind Container.keeps_opened fun _ => .save ?_ _ _)) _
    exact .bind (.reach _ _ _) fun _ => .object _ _

theorem exec_fetch {missing : Fault} (hdown : d.outages.hits .download key = false)
    (hc : d.store.get? key = some c) :
    (do Op.reach .download key; Op.object key missing : Op Content).exec d = (.ok c, d) := by
  rw [Op.exec_bind_ok (Op.exec_reach_ok hdown), Op.exec_object, hc]

/-- A download into a folder that is there. -/
theorem exec_download (p : Provider) {name : String} {ps : List String} {look : String → Option Node}
    (hconnect : d.outages.unreachable .download key = false)
    (hdown : d.outages.withholds key = false) (hc : d.store.get? key = some c)
    (hmake : d.disk.makeFolders (Path.dirName path) = .ok d.disk)
    (he : d.disk.Entry path ps name look) (hfile : ∀ fs, look name ≠ some (.folder fs)) :
    ∃ disk, (p.download key path).exec d = (.ok (), { d with disk := disk }) ∧
      d.disk.Turns ps (Function.update look name (some (.file c))) disk := by
  have hfolder : (Op.onDisk (·.makeFolders (Path.dirName path))).exec d = (.ok (), d) := by
    rw [Op.exec_onDisk, hmake]
  obtain ⟨hdown, hpart⟩ := Outages.withholds_eq_false hdown
  cases p with
  | aws =>
    obtain ⟨disk, hsave, hturns⟩ := Op.exec_save he hfile hpart fun disk =>
      show (Bucket.download key).exec { d with disk := disk } = _ from exec_fetch hdown hc
    refine ⟨disk, ?_, hturns⟩
    rw [download, Bucket.downloadFile, Op.exec_bind, Op.exec_succeeds, Op.exec_bind_ok hfolder,
      Op.exec_bind_ok (Op.exec_connect_ok hconnect), hsave]
    rfl
  | azure =>
    obtain ⟨disk, hsave, hturns⟩ := Op.exec_save he hfile hpart fun disk =>
      show (Container.download key).exec { d with disk := disk } = _ from exec_fetch hdown hc
    have hfolder' : (Container.makeFolders (Path.dirName path)).exec d = (.ok (), d) := by
      rw [Container.makeFolders, Op.exec_bind, Op.exec_succeeds, hfolder]
      rfl
    refine ⟨disk, ?_, hturns⟩
    rw [download, Container.downloadFile, Op.exec_bind, Op.exec_succeeds, Op.exec_bind_ok hfolder',
      Op.exec_bind_ok (Container.exec_opened_ok hconnect), hsave]
    rfl

/-- An upload of a file that can be read. -/
theorem exec_upload (p : Provider) (key : String) (attempt : Nat) (hread : d.disk.read path = .ok c) :
    (p.upload path key attempt).exec d = (.ok (!d.outages.refuses key attempt),
      { d with
        store := if d.outages.refuses key attempt then d.store else d.store.put key c }) := by
  cases p with
  | aws => exact Op.exec_sendFile key attempt hread ⟨_, Op.exec_connect .upload key attempt d⟩
  | azure => exact Op.exec_sendFile key attempt hread ⟨_, Container.exec_opened .upload key attempt d⟩

end Provider

end ReportMigration
