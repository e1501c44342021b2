import ReportMigration.Proofs.Flows.Desk
import ReportMigration.Proofs.Servers.SiteData
/-!
The steps of an extraction.

Once an upload is on the disk, an extraction writes files and makes folders below the folder of working
files, and removes this folder in the end. The tools that it employs come from outside, and all that is
assumed of them is that they write what they are asked for and nothing else:

* `Disk.Written paths d d'`: the disk `d'` came about from `d` by writing to the paths;
* `Tool.Writes tool targets`: the tool does nothing else, whatever comes of it, and `Flow.Orderly d`: so do
  the tools of a deployment. This holds of tools that copy (`Flow.orderly_copying`).

What each step of an extraction keeps to, all of them do:

* `Flow.Steady R`: writing and making folders there keeps to the relation `R` between the disk before
  and after;
* `Flow.Moves R x`: so does the operation `x` with orderly tools, whatever comes of it;
* `Flow.Sweeps R x`: so does `x`, but for the removal of the folder in the end, if it answers;
* `Flow.moves_document`, `Flow.moves_unpackFlow`, `Flow.sweeps_deliver`: the parts of an extraction.
-/
namespace ReportMigration

variable {α β : Type}

/-! ## Storage and the disk -/

namespace Provider

theorem exec_chosen (d : Deployment) :
    chosen.exec d = (.ok (if d.providerName = "azure" then .azure else .aws), d) := rfl

/-- An upload changes the object at its key alone. -/
theorem keeps_upload {γ : Type} {v : Deployment → γ} (p : Provider) (path key : String)
    (hv : ∀ d c, v { d with store := d.store.put key c } = v d) : Op.Keeps v (p.upload path key) := by
  cases p with
  | aws =>
    exact .succeeds (.bind (.connect _ _ _) fun _ => .bind (.ofDisk _) fun c =>
      .bind (.reach _ _ _) fun _ => fun d => hv d c)
  | azure =>
    exact .succeeds (.bind Container.keeps_opened fun _ => .bind (.ofDisk _) fun c =>
      .bind (.reach _ _ _) fun _ => fun d => hv d c)

/-- A signed address may need a look at the clock and changes nothing else. -/
theorem keeps_signedUrl {γ : Type} {v : Deployment → γ} (p : Provider) (key : String)
    (hv : ∀ d n, v { d with ticks := n } = v d) : Op.Keeps v (p.signedUrl key) := by
  cases p with
  | aws =>
    refine .bind (.attempt (.bind (.connect _ _ _) fun _ => .reach _ _ _)) fun r => ?_
    cases r with
    | error f => exact .pure _
    | ok u => exact .bind (fun _ => rfl) fun _ => .bind (fun _ => rfl) fun _ => .pure _
  | azure =>
    refine .bind (fun _ => rfl) fun connection => .bind (fun _ => rfl) fun container => ?_
    refine .ite (.pure _) (.bind (fun d => hv d _) fun start => ?_)
    refine .ite (.pure _) (.bind (.succeeds (.reach _ _ _)) fun ok => ?_)
    exact .ite (.pure _) (.bind (fun _ => rfl) fun _ => .pure _)

end Provider

/-! ## Tools -/

/-- The disk came about by writing to some paths. -/
inductive Disk.Written (paths : List String) (d : Disk) : Disk → Prop
  | refl : Written paths d d
  | write {d₁ d₂ : Disk} {path : String} {c : Content} (h : Written paths d d₁) (hpath : path ∈ paths)
      (hwrite : d₁.write path c = .ok d₂) : Written paths d d₂

namespace Tool

/-- Whatever comes of it, the tool writes to its targets and does nothing else on the disk. -/
def Writes (tool : Tool) (targets : String → List String) : Prop :=
  ∀ (source target : String) (d : Disk), d.Written (targets target) (tool source target d).2

theorem writes_copying (targets : String → List String) : (copying targets).Writes targets := by
  intro source target d
  have hgo : ∀ paths ⊆ targets target, ∀ d₁, d.Written (targets target) d₁ →
      d.Written (targets target) (copying.go source paths d₁).2 := by
    intro paths
    induction paths with
    | nil => exact fun _ _ h => h
    | cons path paths ih =>
      intro hpaths d₁ h
      obtain ⟨hpath, hpaths⟩ := List.cons_subset.1 hpaths
      rw [copying.go]
      cases hcopy : d₁.read source >>= d₁.write path with
      | error f => exact h
      | ok d₂ =>
        obtain ⟨c, -, hwrite⟩ := exists_of_bind_eq_ok hcopy
        exact ih hpaths d₂ (h.write hpath hwrite)
  exact hgo _ (List.Subset.refl _) d .refl

end Tool

namespace Flow

open Disk

variable {R : Disk → Disk → Prop} {d d' : Disk} {qs : List String}

/-- The paths of the two documents of a flow. -/
def documentPaths (target : String) : List String := [target, Path.withSuffix target ".docx"]

/-- The tools of a deployment write what they are asked for and nothing else. -/
structure Orderly (d : Deployment) : Prop where
  converter : d.converter.Writes fun target => [target]
  documenter : d.documenter.Writes documentPaths

theorem orderly_copying {d : Deployment} (hconverter : d.converter = .copying fun target => [target])
    (hdocumenter : d.documenter = .copying documentPaths) : Orderly d where
  converter := hconverter ▸ Tool.writes_copying _
  documenter := hdocumenter ▸ Tool.writes_copying _

/-- What the tools work on, and the tools. -/
def workshop (d : Deployment) : Disk × Tool × Tool := (d.disk, d.converter, d.documenter)

/-! ## Steps on the disk -/

/-- Files that are written and folders that are made below the folder of working files keep to the
    relation, and so do such steps one after another. -/
structure Steady (R : Disk → Disk → Prop) : Prop where
  refl : ∀ d, R d d
  trans : ∀ {d d' d'' : Disk}, R d d' → R d' d'' → R d d''
  write : ∀ {d d' : Disk} {qs : List String} {c : Content}, (∀ q ∈ qs, Path.IsName q) →
    d.write (inner qs) c = .ok d' → R d d'
  makeFolder : ∀ {d d' : Disk} {qs : List String}, (∀ q ∈ qs, Path.IsName q) →
    d.makeFolder (inner qs) = .ok d' → R d d'
  makeFolders : ∀ {d d' : Disk} {qs : List String}, (∀ q ∈ qs, Path.IsName q) →
    d.makeFolders (inner qs) = .ok d' → R d d'

theorem Steady.written (hR : Steady R) {paths : List String}
    (hpaths : ∀ p ∈ paths, ∃ qs, (∀ q ∈ qs, Path.IsName q) ∧ p = inner qs)
    (h : d.Written paths d') : R d d' := by
  induction h with
  | refl => exact hR.refl d
  | write _ hpath hwrite ih =>
    obtain ⟨qs, hqs, rfl⟩ := hpaths _ hpath
    exact hR.trans ih (hR.write hqs hwrite)

/-- The names of the path of an entry, below the folder that an archive is unpacked to. -/
theorem names_entryPath (name : String) :
    (entryPath name).startsWith "/" = false ∧ ∀ q ∈ Path.names (entryPath name), Path.IsName q := by
  unfold entryPath
  generalize hxs : ((Path.parts name).filter fun n => n ≠ "" && n ≠ "." && n ≠ "..") = xs
  have hname : ∀ x ∈ xs, Path.IsName x := by
    intro x hx
    obtain ⟨hpart, hx⟩ := List.mem_filter.1 (hxs ▸ hx)
    simp only [Bool.and_eq_true, decide_eq_true_eq] at hx
    exact ⟨hx.1.1, hx.1.2, hx.2, Path.slash_notMem_of_parts hpart⟩
  cases xs with
  | nil => exact ⟨by decide +kernel, by decide +kernel⟩
  | cons x xs =>
    refine ⟨Path.startsWith_slash_of_parts (Path.empty_notMem_parts (by simp) hname), ?_⟩
    rw [Path.names_intercalate (by simp) hname]
    exact hname

theorem Steady.unpackEntry (hR : Steady R) (hqs : ∀ q ∈ qs, Path.IsName q) (hne : qs ≠ [])
    {entry : String × String} (h : d.unpackEntry (inner qs) entry = .ok d') : R d d' := by
  obtain ⟨hstart, hnames⟩ := names_entryPath entry.1
  have hall : ∀ q ∈ qs ++ Path.names (entryPath entry.1), Path.IsName q := fun q hq =>
    (List.mem_append.1 hq).elim (hqs q) (hnames q)
  obtain ⟨rs, r, hrs⟩ : ∃ rs r, qs ++ Path.names (entryPath entry.1) = rs ++ [r] :=
    ⟨_, _, (List.dropLast_append_getLast (by simp [hne])).symm⟩
  have hpath : Path.below (inner qs) (entryPath entry.1) = inner (rs ++ [r]) := by
    rw [below_inner hqs hstart, hrs]
  rw [hrs] at hall
  have hall' : ∀ q ∈ rs, Path.IsName q := fun q hq => hall q (List.mem_append_left _ hq)
  have hupper : Path.dirName (inner (rs ++ [r])) = inner rs := by
    rw [inner, ← List.append_assoc, Path.dirName_intercalate outputNames_append_ne
      (isName_inner hall') (hall r (by simp)), inner]
  have hput : ∀ d₁ : Disk, (if entry.1.endsWith "/" then
        if d₁.isFolder (inner (rs ++ [r])) then pure d₁
        else (d₁.makeFolder (inner (rs ++ [r]))).mapError (PathError.fault (inner (rs ++ [r])))
      else d₁.write (inner (rs ++ [r])) (.text entry.2)) = .ok d' → R d₁ d' := by
    intro d₁ hd
    split at hd
    · split at hd
      · cases hd
        exact hR.refl d'
      · cases hmake : d₁.makeFolder (inner (rs ++ [r])) with
        | error e => rw [hmake] at hd; cases hd
        | ok d₂ =>
          rw [hmake] at hd
          cases hd
          exact hR.makeFolder hall hmake
    · exact hR.write hall hd
  simp only [Disk.unpackEntry, hpath, hupper] at h
  split at h
  · exact hput d h
  · obtain ⟨d₁, hfolders, hd⟩ := exists_of_bind_eq_ok h
    exact hR.trans (hR.makeFolders hall' hfolders) (hput d₁ hd)

/-! ## Operations -/

/-- Whatever comes of the operation, it keeps to the relation if the tools are orderly, which they stay. -/
def Moves (R : Disk → Disk → Prop) (x : Op α) : Prop :=
  ∀ d, Orderly d → R d.disk (x.exec d).2.disk ∧ Orderly (x.exec d).2

/-- The operation keeps to the relation, and if it answers, it removes the working files then. -/
def Sweeps (R : Disk → Disk → Prop) (x : Op α) : Prop :=
  ∀ d, Orderly d → Orderly (x.exec d).2 ∧ ∃ disk, R d.disk disk ∧
    ((∃ a, (x.exec d).1 = .ok a) ∧ (x.exec d).2.disk = disk.clear outputFolder ∨
      (∃ f, (x.exec d).1 = .error f) ∧ (x.exec d).2.disk = disk)

theorem Orderly.congr {d d' : Deployment} (h : Orderly d) (hconverter : d'.converter = d.converter)
    (hdocumenter : d'.documenter = d.documenter) : Orderly d' where
  converter := hconverter ▸ h.converter
  documenter := hdocumenter ▸ h.documenter

section
variable (hR : Steady R)

namespace Moves

include hR in
theorem of_keeps {x : Op α} (h : Op.Keeps workshop x) : Moves R x := by
  intro d hd
  obtain ⟨hdisk, hconverter, hdocumenter⟩ : (x.exec d).2.disk = d.disk ∧
      (x.exec d).2.converter = d.converter ∧ (x.exec d).2.documenter = d.documenter := by
    simpa only [workshop, Prod.mk.injEq] using h d
  rw [hdisk]
  exact ⟨hR.refl d.disk, hd.congr hconverter hdocumenter⟩

include hR in
theorem bind {x : Op α} {k : α → Op β} (hx : Moves R x) (hk : ∀ a, Moves R (k a)) :
    Moves R (x >>= k) := by
  intro d hd
  obtain ⟨hdisk, hd₁⟩ := hx d hd
  rw [Op.exec_bind]
  rcases h : x.exec d with ⟨r, d₁⟩
  rw [h] at hdisk hd₁
  cases r with
  | error f => exact ⟨hdisk, hd₁⟩
  | ok a =>
    obtain ⟨hdisk', hd₂⟩ := hk a d₁ hd₁
    exact ⟨hR.trans hdisk hdisk', hd₂⟩

include hR in
theorem onDisk {f : Disk → Except Fault Disk} (h : ∀ d d', f d = .ok d' → R d d') :
    Moves R (Op.onDisk f) := by
  intro d hd
  rw [Op.exec_onDisk]
  cases hf : f d.disk with
  | error e => exact ⟨hR.refl d.disk, hd⟩
  | ok disk => exact ⟨h d.disk disk hf, hd.congr rfl rfl⟩

/-- A call of a service, and the work of the tool that follows it. -/
theorem employ {tool : Deployment → Tool} {name source target : String} {args : List Value}
    {targets : String → List String} (htool : ∀ d cs, tool { d with calls := cs } = tool d)
    (hwrites : ∀ d, Orderly d → (tool d).Writes targets)
    (hsteps : ∀ d d', d.Written (targets target) d' → R d d') :
    Moves R (do let _ ← Op.call name args; Op.employ (tool (← get)) source target) := by
  intro d hd
  rw [Op.exec_bind, Op.exec_call_eq]
  cases d.answer name args with
  | error f => exact ⟨hsteps _ _ .refl, hd.congr rfl rfl⟩
  | ok v =>
    dsimp only
    rw [Op.exec_bind_ok (Op.exec_get _), htool]
    exact ⟨hsteps _ _ (hwrites d hd source target d.disk), hd.congr rfl rfl⟩

include hR in
theorem forM {γ : Type} {f : γ → Op PUnit} (h : ∀ x, Moves R (f x)) :
    ∀ xs : List γ, Moves R (xs.forM f)
  | [] => of_keeps hR (.pure _)
  | x :: xs => bind hR (h x) fun _ => forM h xs

end Moves

include hR in
theorem Sweeps.bind {x : Op α} {k : α → Op β} (hx : Moves R x) (hk : ∀ a, Sweeps R (k a)) :
    Sweeps R (x >>= k) := by
  intro d hd
  obtain ⟨hdisk, hd₁⟩ := hx d hd
  rw [Op.exec_bind]
  rcases h : x.exec d with ⟨r, d₁⟩
  rw [h] at hdisk hd₁
  cases r with
  | error f => exact ⟨hd₁, d₁.disk, hdisk, .inr ⟨⟨f, rfl⟩, rfl⟩⟩
  | ok a =>
    obtain ⟨hd₂, disk, hdisk', hcases⟩ := hk a d₁ hd₁
    exact ⟨hd₂, disk, hR.trans hdisk hdisk', hcases⟩

/-! ## The parts of an extraction -/

theorem moves_convert (source : String) {target : String} (h : ∀ d d', d.Written [target] d' → R d d') :
    Moves R (convert source target) :=
  .employ (fun _ _ => rfl) (fun _ hd => hd.converter) h

include hR

theorem moves_document (flow : String) {k : String} (hk : Path.IsName k) :
    Moves R (document flow (inner [k])) := by
  have hk' : Path.IsName (Path.stem k ++ ".docx") := Path.isName_withSuffix hk (by decide) (by decide)
  refine .employ (fun _ _ => rfl) (fun _ hd => hd.documenter) fun _ _ => hR.written ?_
  rw [documentPaths, withSuffix_inner_name hk (by decide)]
  intro p hp
  rcases List.mem_pair.1 hp with rfl | rfl
  · exact ⟨[k], by simpa using hk, rfl⟩
  · exact ⟨[_], by simpa using hk', rfl⟩

theorem moves_unpack (path : String) (hqs : ∀ q ∈ qs, Path.IsName q) (hne : qs ≠ []) :
    Moves R (unpack path (inner qs)) := by
  refine .bind hR (.of_keeps hR (.ofDisk _)) fun c => ?_
  cases c with
  | text s => exact .of_keeps hR (.throw _)
  | archive es => exact .forM hR (fun e => .onDisk hR fun _ _ h => hR.unpackEntry hqs hne h) es

theorem moves_findFlow (folder : String) : Moves R (findFlow folder) := by
  refine .bind hR (.of_keeps hR fun _ => rfl) fun d => ?_
  split
  · exact .of_keeps hR (.throw _)
  · refine .bind hR (.of_keeps hR (.ofDisk _)) fun c => ?_
    split
    · exact .of_keeps hR (.throw _)
    · exact .of_keeps hR (.pure _)

theorem moves_unpackFlow (path : String) : Moves R (unpackFlow path) := by
  have hqs : ∀ q ∈ ["extracted_files"], Path.IsName q := by decide
  have hunpack : Moves R (Op.attempt (unpack path (inner ["extracted_files"]))) :=
    moves_unpack hR path hqs (by simp)
  unfold unpackFlow
  rw [below_outputFolder_name (hqs _ (by simp))]
  refine .bind hR (.onDisk hR fun _ _ h => hR.makeFolders hqs h) fun _ => ?_
  refine .bind hR hunpack fun r => ?_
  split
  · exact moves_findFlow hR _
  · exact .of_keeps hR (.throw _)
  · exact .of_keeps hR (.throw _)

/-- **What follows the upload** stays below the folder of working files, and an answer removes it. -/
theorem sweeps_deliver (storage : Provider) (uploaded : Upload) :
    Sweeps R (deliver storage uploaded) := by
  have hk : Path.IsName (Path.stem (Path.lastName uploaded.name) ++ ".json") := by
    refine Path.isName_extended (fun h => ?_) (by decide) (by decide)
    exact Path.slash_notMem_lastName _ (Path.mem_stem h)
  have hdocument : ∀ flow, Moves R (document flow
      (Path.below outputFolder (Path.stem (Path.lastName uploaded.name) ++ ".json"))) := fun flow => by
    rw [below_outputFolder_name hk]
    exact moves_document hR flow hk
  unfold deliver
  refine .bind hR (.of_keeps hR (storage.keeps_upload _ _ fun _ _ => rfl)) fun _ => ?_
  refine .bind hR (moves_unpackFlow hR _) fun flow => ?_
  refine .bind hR (hdocument flow) fun _ => ?_
  refine .bind hR (.of_keeps hR (storage.keeps_upload _ _ fun _ _ => rfl)) fun _ => ?_
  refine .bind hR (.of_keeps hR (storage.keeps_upload _ _ fun _ _ => rfl)) fun _ => ?_
  refine .bind hR (.of_keeps hR (storage.keeps_signedUrl _ fun _ _ => rfl)) fun _ => ?_
  refine .bind hR (.of_keeps hR (storage.keeps_signedUrl _ fun _ _ => rfl)) fun _ => ?_
  -- nothing fails from here on, and the working files go
  exact fun d hd => ⟨hd.congr rfl rfl, d.disk, hR.refl d.disk, .inl ⟨⟨_, rfl⟩, rfl⟩⟩

end

end Flow

end ReportMigration
