import ReportMigration.Proofs.Files.Confinement
import ReportMigration.Proofs.Flows.Leftovers
/-!
Where an extraction writes.

An extraction works in one folder, but the name of its upload comes from outside. The tools are taken to
write what they are asked for and nothing else (`Flow.Orderly`).

* `Flow.uploadPlace d name`: the place that the upload of a name is written to;
* `Flow.Received d name content d'`: all that can become of an upload on the disk, and
  `Flow.extract_received`: the rest of an extraction spares what lies outside the folder;
* `Flow.Writable d name`: the upload can be written at all;
* `Flow.extract_spares_iff`: exactly the names that lead out of the folder to a place that can be
  written are dangerous.
-/
namespace ReportMigration

namespace Flow

open Disk

variable {d d' disk : Disk} {name : String} {content : Content} {p : List String}

/-! ## The place of an upload -/

/-- The place that the upload of a name is written to: double dots lead upwards, and a name that starts
    with a slash leads from the root. -/
def uploadPlace (d : Disk) (name : String) : List String :=
  Path.resolve (if name.startsWith "/" then [] else place d) (Path.parts name)

/-- The path of an upload. -/
def uploadPath (name : String) : String := Path.below outputFolder name

theorem parts_uploadPath_of_relative (h : name.startsWith "/" = false) :
    Path.parts (uploadPath name) = outputNames ++ Path.names name := by
  rw [uploadPath, below_outputFolder h, inner, Path.parts_intercalate outputNames_append_ne]
  intro x hx
  rcases List.mem_append.1 hx with hx | hx
  · exact (isName_outputNames x hx).slash_notMem
  · exact (Path.of_mem_names hx).1

theorem parts_uploadPath_of_absolute (h : name.startsWith "/" = true) :
    ∃ zs, zs ≠ [] ∧ (∀ z ∈ zs, z = "") ∧
      Path.parts (uploadPath name) = zs ++ Path.parts ("/".intercalate (Path.names name)) := by
  rw [uploadPath, Path.below, if_pos h]
  exact Path.parts_tidy h

/-- The last name of an upload ends its path, and something comes before. -/
theorem exists_parts_uploadPath {qs : List String} {q : String} (h : Path.names name = qs ++ [q]) :
    ∃ xs, xs ≠ [] ∧ Path.parts (uploadPath name) = xs ++ [q] := by
  cases hstart : name.startsWith "/" with
  | false =>
    refine ⟨outputNames ++ qs, outputNames_append_ne, ?_⟩
    rw [parts_uploadPath_of_relative hstart, h, List.append_assoc]
  | true =>
    obtain ⟨zs, hne, -, hzs⟩ := parts_uploadPath_of_absolute hstart
    refine ⟨zs ++ qs, by simp [hne], ?_⟩
    rw [hzs, Path.parts_intercalate (by simp [h]) fun x hx => (Path.of_mem_names hx).1, h,
      List.append_assoc]

theorem placeOf_uploadPath (d : Disk) (name : String) :
    d.placeOf (uploadPath name) = uploadPlace d name := by
  cases hstart : name.startsWith "/" with
  | false =>
    have hparts := parts_uploadPath_of_relative hstart
    have hrelative : (uploadPath name).startsWith "/" = false := by
      rw [← Bool.not_eq_true, Path.startsWith_slash_iff_parts, hparts]
      rintro ⟨zs, -, hzs⟩
      exact absurd (List.cons.inj hzs).1 (by decide)
    rw [placeOf, hrelative, hparts, Path.resolve_append, uploadPlace, hstart]
    simp only [Bool.false_eq_true, if_false]
    rw [Path.resolve_of_isName isName_outputNames, Path.resolve_names, place]
  | true =>
    obtain ⟨zs, hne, hempty, hzs⟩ := parts_uploadPath_of_absolute hstart
    have habsolute : (uploadPath name).startsWith "/" = true := by
      rw [Path.startsWith_slash_iff_parts, hzs]
      cases zs with
      | nil => exact absurd rfl hne
      | cons z zs =>
        obtain rfl := hempty z (by simp)
        exact ⟨_, by simp [Path.parts], rfl⟩
    have hbody := Path.names_intercalate_names fun x hx => Path.of_mem_names (p := name) hx
    rw [placeOf, habsolute, hzs, Path.resolve_append, Path.resolve_empty hempty,
      ← Path.resolve_names, hbody, Path.resolve_names, uploadPlace, hstart]
    rfl

/-- A name without double dots that does not start with a slash leads into the folder. -/
theorem Inside.prefix_uploadPlace (h : Inside name) : place d <+: uploadPlace d name := by
  rw [uploadPlace, h.1, if_neg (by simp), ← Path.resolve_names, Path.resolve_of_isName h.isName]
  exact List.prefix_append _ _

/-! ## What becomes of an upload -/

/-- The disk after an upload was received: it could not be written, it was written, or it was of the
    older form and something may have been written beside it. -/
inductive Received (d : Disk) (name : String) (content : Content) : Disk → Prop
  | refused (h : d.opens (uploadPath name) = false) : Received d name content d
  | written {d₁ : Disk} (h : d.write (uploadPath name) content = .ok d₁) : Received d name content d₁
  | converted {d₁ d₂ : Disk} (h : d.write (uploadPath name) content = .ok d₁)
      (hsuffix : Text.lower (Path.suffix (Path.lastName name)) = ".tfl")
      (hwritten : d₁.Written [Path.withSuffix (uploadPath name) ".tflx"] d₂) :
      Received d name content d₂

theorem receive_received {d : Deployment} (hd : Orderly d) (name : String) (content : Content) :
    Received d.disk name content ((receive name content).exec d).2.disk ∧
      Orderly ((receive name content).exec d).2 := by
  rw [receive, ← uploadPath, Op.exec_bind, Op.exec_onDisk]
  cases hwrite : d.disk.write (uploadPath name) content with
  | error f =>
    refine ⟨.refused ?_, hd⟩
    rw [← Bool.not_eq_true, opens_iff content]
    rintro ⟨d', h⟩
    cases hwrite.symm.trans h
  | ok d₁ =>
    dsimp only
    split
    next hsuffix =>
      obtain ⟨hwritten, hd'⟩ := moves_convert (uploadPath name) (fun _ _ h => h)
        { d with disk := d₁ } (hd.congr rfl rfl)
      rw [Op.exec_map_snd]
      exact ⟨.converted hwrite hsuffix hwritten, hd'⟩
    next => exact ⟨.written hwrite, hd.congr rfl rfl⟩

/-- All files outside the folder of working files are as before. -/
def Kept (d d' : Disk) : Prop := d.Spares (place d) d'

theorem place_congr (h : d'.here = d.here) : place d' = place d := by rw [place, h, place]

theorem steady_kept : Steady Kept where
  refl d := .refl (place d) d
  trans h h' := by
    have h'' := h'
    rw [Kept, place_congr h.here] at h''
    exact h.trans h''
  write hqs h := spares_write (fun p hp => ⟨_, (eq_of_locate_inner hqs hp).symm⟩) h
  makeFolder _ h := spares_makeFolder _ h
  makeFolders _ h := spares_makeFolders _ h

theorem kept_clear (d : Disk) : Kept d (d.clear outputFolder) := by
  refine spares_clear fun p hp => ?_
  rw [outputFolder_eq] at hp
  exact ⟨_, (eq_of_locate_inner (by simp) hp).symm⟩

theorem spares_written {paths : List String} (area : List String)
    (hin : ∀ path ∈ paths, area <+: d.placeOf path) (h : d.Written paths d') : d.Spares area d' := by
  induction h with
  | refl => exact .refl area d
  | write _ hpath hwrite ih =>
    refine ih.trans (spares_write (fun p hp => ?_) hwrite)
    rw [eq_placeOf hp, placeOf_congr ih.here]
    exact hin _ hpath

/-- What a conversion makes has another name than the upload and lies beside it. -/
theorem exists_placeOf_converted (d : Disk)
    (h : Text.lower (Path.suffix (Path.lastName name)) = ".tfl") :
    ∃ r q q', q' ≠ q ∧ uploadPlace d name = r ++ [q] ∧
      d.placeOf (Path.withSuffix (uploadPath name) ".tflx") = r ++ [q'] := by
  obtain ⟨qs, q, hqs, hup⟩ := exists_names_of_suffix h
  have hq : Path.IsName q := Path.isName_of_mem_names (p := name) (by simp [hqs]) hup
  obtain ⟨xs, hxs, hparts⟩ := exists_parts_uploadPath hqs
  obtain ⟨r, hupload, hcopy⟩ := placeOf_withSuffix d ".tflx" hparts hxs hq (by decide) (by decide)
  rw [placeOf_uploadPath] at hupload
  refine ⟨r, q, _, fun heq => ?_, hupload, hcopy⟩
  -- with the same name the upload would be of the newer form already
  rw [Path.lastName, hqs, List.getLastD_concat] at h
  have hstem : Path.stem q ≠ "" := by
    refine Path.stem_ne_empty fun hempty => ?_
    rw [hempty] at h
    exact absurd h (by decide +kernel)
  have hnew : Path.suffix (Path.stem q ++ .ofList ('.' :: "tflx".toList)) = ".tflx" :=
    Path.suffix_append hstem (by decide) (by decide)
  have htflx : String.ofList ('.' :: "tflx".toList) = ".tflx" := by decide
  rw [htflx, heq] at hnew
  rw [hnew] at h
  exact absurd h (by decide +kernel)

namespace Received

theorem here (h : Received d name content d') : d'.here = d.here := by
  cases h with
  | refused => rfl
  | written h => exact (sameFolders_of_write h).here
  | converted h _ hwritten =>
    have hspares := spares_written [] (fun _ _ => List.nil_prefix) hwritten
    exact hspares.here.trans (sameFolders_of_write h).here

/-- The upload is found in its place, also when something was written beside it. -/
theorem get? (h : Received d name content d') (hopens : d.opens (uploadPath name) = true) :
    d'.root.get? (uploadPlace d name) = some (.file content) := by
  have hwritten : ∀ {d₁ : Disk}, d.write (uploadPath name) content = .ok d₁ →
      d₁.root.get? (uploadPlace d name) = some (.file content) := fun h => by
    obtain ⟨p, hp, hget⟩ := get?_of_write h
    rwa [eq_placeOf hp, placeOf_uploadPath] at hget
  cases h with
  | refused h => cases h.symm.trans hopens
  | written h => exact hwritten h
  | converted h hsuffix hbeside =>
    obtain ⟨r, q, q', hne, hupload, hcopy⟩ := exists_placeOf_converted d hsuffix
    rw [← placeOf_congr (sameFolders_of_write h).here] at hcopy
    have hspares := spares_written (r ++ [q']) (by simp [hcopy]) hbeside
    refine (hspares.files _ (fun hin => ?_) content).2 (hwritten h)
    rw [hupload, List.prefix_append_right_inj] at hin
    exact hne (List.cons_prefix_cons.1 hin).1

/-- If the upload can only be written into the folder of working files, all files outside are as
    before. -/
theorem kept (h : Received d name content d') (hfolder : d.isFolder outputFolder = true)
    (hin : d.opens (uploadPath name) = true → place d <+: uploadPlace d name) : Kept d d' := by
  have hwritten : ∀ {d₁ : Disk}, d.write (uploadPath name) content = .ok d₁ →
      place d <+: uploadPlace d name ∧ Kept d d₁ := fun h => by
    have hwithin := hin ((opens_iff content).2 ⟨_, h⟩)
    refine ⟨hwithin, spares_write (fun p hp => ?_) h⟩
    rwa [eq_placeOf hp, placeOf_uploadPath]
  cases h with
  | refused => exact steady_kept.refl d
  | written h => exact (hwritten h).2
  | converted h hsuffix hbeside =>
    obtain ⟨hwithin, hkept⟩ := hwritten h
    have hhere := (sameFolders_of_write h).here
    refine steady_kept.trans hkept (spares_written _ (fun path hpath => ?_) hbeside)
    obtain ⟨r, q, q', -, hupload, hcopy⟩ := exists_placeOf_converted d hsuffix
    rw [List.mem_singleton.1 hpath, place_congr hhere, placeOf_congr hhere, hcopy]
    rw [hupload] at hwithin
    refine ((List.prefix_concat_iff.1 hwithin).resolve_left fun heq => ?_).trans (List.prefix_append _ _)
    -- the folder itself is no file that could be written
    obtain ⟨es, ps, hps, hes⟩ := isFolder_iff.1 hfolder
    rw [outputFolder_eq] at hps
    obtain ⟨p, hp, hfile, -⟩ := write_eq_ok h
    rw [eq_placeOf hp, placeOf_uploadPath, hupload, ← heq] at hfile
    rw [eq_of_locate_inner (by simp) hps, List.append_nil] at hes
    cases hfile _ hes

end Received

/-! ## Extractions -/

/-- Once the folder of working files is there, the upload is received, and what follows spares all
    files outside. -/
theorem extract_received {d : Deployment} (hd : Orderly d) (name : String) (content : Content)
    (h : d.disk.makeFolders outputFolder = .ok disk) :
    ∃ disk', Received disk name content disk' ∧
      Kept disk' ((extract name content).exec d).2.disk := by
  rw [exec_extract h]
  generalize hd₀ : { d with disk := disk } = d₀
  have hdisk : d₀.disk = disk := by rw [← hd₀]
  have hd₁ : Orderly d₀ := hd₀ ▸ hd.congr rfl rfl
  obtain ⟨hreceived, hrest⟩ := receive_received hd₁ name content
  rw [hdisk] at hreceived
  refine ⟨_, hreceived, ?_⟩
  rw [Op.exec_bind]
  rcases hr : (receive name content).exec d₀ with ⟨r, d₁⟩
  rw [hr] at hrest
  cases r with
  | error f => exact steady_kept.refl _
  | ok uploaded =>
    obtain ⟨-, disk', hkept, ⟨-, hclear⟩ | ⟨-, hsame⟩⟩ := sweeps_deliver steady_kept _ uploaded d₁ hrest
    · dsimp only
      rw [hclear]
      exact steady_kept.trans hkept (kept_clear disk')
    · dsimp only
      rw [hsame]
      exact hkept

/-- Nothing is written if the folder of working files cannot be made. -/
theorem extract_unmade {d : Deployment} {f : Fault} (name : String) (content : Content)
    (h : d.disk.makeFolders outputFolder = .error f) :
    ((extract name content).exec d).2.disk = d.disk := by
  rw [extract, Op.exec_bind_ok (Provider.exec_chosen d), Op.exec_bind, Op.exec_onDisk, h]

/-- The upload of a name can be written. -/
def Writable (d : Disk) (name : String) : Prop :=
  ∃ d', d.makeFolders outputFolder = .ok d' ∧ d'.opens (uploadPath name) = true

theorem uploadPlace_congr (h : d'.here = d.here) (name : String) :
    uploadPlace d' name = uploadPlace d name := by
  rw [uploadPlace, place_congr h, uploadPlace]

/-- Where the upload can only be written into the folder, the extraction stays there. -/
theorem extract_spares {d : Deployment} (hd : Orderly d)
    (h : Writable d.disk name → place d.disk <+: uploadPlace d.disk name) (content : Content) :
    d.disk.Spares (place d.disk) ((extract name content).exec d).2.disk := by
  cases hmake : d.disk.makeFolders outputFolder with
  | error f =>
    rw [extract_unmade name content hmake]
    exact .refl _ _
  | ok disk =>
    obtain ⟨hpath, hhere, -, hleads⟩ := leads_of_makeFolders hmake
    obtain ⟨disk', hreceived, hkept⟩ := extract_received hd name content hmake
    have hin : disk.opens (uploadPath name) = true → place disk <+: uploadPlace disk name := by
      intro hopens
      rw [place_congr hhere, uploadPlace_congr hhere]
      exact h ⟨disk, hmake, hopens⟩
    have hmade : Kept d.disk disk := spares_makeFolders _ hmake
    exact steady_kept.trans hmade
      (steady_kept.trans (hreceived.kept (hleads.isFolder hpath) hin) hkept)

/-- Where the upload can be written outside the folder, it is found there in the end. -/
theorem extract_writes {d : Deployment} (hd : Orderly d) (h : Writable d.disk name)
    (hout : ¬ place d.disk <+: uploadPlace d.disk name) (content : Content) :
    ((extract name content).exec d).2.disk.root.get? (uploadPlace d.disk name) =
      some (.file content) := by
  obtain ⟨disk, hmake, hopens⟩ := h
  obtain ⟨-, hhere, -, -⟩ := leads_of_makeFolders hmake
  obtain ⟨disk', hreceived, hkept⟩ := extract_received hd name content hmake
  have hfile := hreceived.get? hopens
  rw [uploadPlace_congr hhere] at hfile
  rw [Kept, place_congr (hreceived.here.trans hhere)] at hkept
  exact (hkept.files _ hout content).2 hfile

/-- **Exactly the names that lead out of the folder of working files are dangerous**: with tools that write
    what they are asked for and nothing else, an extraction leaves all files outside the folder as they
    were, whatever is uploaded and whatever comes of it, if and only if the upload cannot be written or its
    name leads into the folder. Where the name leads out, the upload is what is found there then. Names
    without double dots that do not start with a slash never do. -/
theorem extract_spares_iff {d : Deployment} (hd : Orderly d) (name : String) :
    ((∀ content, d.disk.Spares (place d.disk) ((extract name content).exec d).2.disk) ↔
      (Writable d.disk name → place d.disk <+: uploadPlace d.disk name)) ∧
    (Writable d.disk name → ¬ place d.disk <+: uploadPlace d.disk name →
      ∀ content, ((extract name content).exec d).2.disk.root.get? (uploadPlace d.disk name) =
        some (.file content)) ∧
    (Inside name →
      ∀ content, d.disk.Spares (place d.disk) ((extract name content).exec d).2.disk) := by
  refine ⟨⟨fun hall hwritable => ?_, extract_spares hd⟩, extract_writes hd,
    fun hin => extract_spares hd fun _ => hin.prefix_uploadPlace⟩
  by_contra hout
  -- any content that was not there before tells
  obtain ⟨content, hnew⟩ : ∃ content,
      d.disk.root.get? (uploadPlace d.disk name) ≠ some (.file content) := by
    by_cases hempty : d.disk.root.get? (uploadPlace d.disk name) = some (.file (.text ""))
    · exact ⟨.archive [], fun h => by cases hempty.symm.trans h⟩
    · exact ⟨_, hempty⟩
  exact hnew (((hall content).files _ hout content).1 (extract_writes hd hwritable hout content))

/-- Two double dots lead out of the folder of working files, and a file can be written there. -/
theorem extract_spares_iff_upwards :
    Orderly {} ∧ Writable ({} : Deployment).disk "../../escape.tflx" ∧
      ¬ ∀ content, ({} : Deployment).disk.Spares (place ({} : Deployment).disk)
        ((extract "../../escape.tflx" content).exec {}).2.disk := by
  have htools : Orderly {} := orderly_copying rfl rfl
  have hvacant : Vacant ({} : Deployment).disk := rfl
  have hwritable : Writable ({} : Deployment).disk "../../escape.tflx" :=
    ⟨_, makeFolders_outputFolder hvacant (.inr ⟨rfl, .inl rfl⟩) rfl, by decide +kernel⟩
  have hout : ¬ place ({} : Deployment).disk <+: uploadPlace ({} : Deployment).disk "../../escape.tflx" := by
    decide +kernel
  exact ⟨htools, hwritable,
    fun h => hout ((extract_spares_iff htools "../../escape.tflx").1.1 h hwritable)⟩

end Flow

end ReportMigration
