import ReportMigration.Proofs.Flows.Steps
/-!
What one extraction leaves for the next.

Extractions share one folder of working files, which only an answered one removes. The tools are taken to
write what they are asked for and nothing else (`Flow.Orderly`).

* `Flow.Grown base d d'`: nothing changes on the disk but the working files, and they grow. All steps of an
  extraction keep to this (`Flow.steady_grown`);
* `Flow.Littered d ss`: in the run of the submissions `ss` one failed after its file was written, and
  none was answered since;
* `Flow.extract_of_empty`, `Flow.extract_of_filed`: the working files that one extraction leaves, and
  `Flow.run_cases`: those that a run leaves;
* `Flow.outcome_of_empty`, `Flow.exists_outcome_ne`: where there are none the next extraction comes out
  as in an empty working folder, and where there are some it need not.
-/
namespace ReportMigration

namespace Flow

open Disk

variable {base : Disk} {n : Node} {d : Deployment} {name : String} {content : Content}
  {qs : List String}

/-- The tree of working files grows, and nothing else changes. -/
def Grown (base d d' : Disk) : Prop := ∀ n, d = desk base n → ∃ n', n.Grows n' ∧ d' = desk base n'

/-! ## The parts of an extraction -/

/-- The name of an upload leads below the folder that it is put in. -/
def Inside (name : String) : Prop := name.startsWith "/" = false ∧ ".." ∉ Path.parts name

/-- What follows the writing of an upload. -/
def received (name : String) : Op Upload := do
  if Text.lower (Path.suffix (Path.lastName name)) = ".tfl" then
    let converted := Path.withSuffix (inner (Path.names name)) ".tflx"
    convert (inner (Path.names name)) converted
    return ⟨converted, Path.lastName converted⟩
  else return ⟨inner (Path.names name), name⟩

theorem Inside.isName (h : Inside name) : ∀ q ∈ Path.names name, Path.IsName q := fun _ hq =>
  Path.isName_of_mem_names hq fun hup => h.2 (hup ▸ (Path.mem_names.1 hq).1)

theorem receive_eq (h : Inside name) (content : Content) : receive name content = (do
    Op.onDisk (·.write (inner (Path.names name)) content)
    received name) := by
  rw [receive, below_outputFolder h.1]
  rfl

/-- An upload of the older form has a last name, which is not the way up. -/
theorem exists_names_of_suffix (h : Text.lower (Path.suffix (Path.lastName name)) = ".tfl") :
    ∃ qs q, Path.names name = qs ++ [q] ∧ q ≠ ".." := by
  rcases List.eq_nil_or_concat (Path.names name) with hnil | ⟨qs, q, hqs⟩
  · rw [Path.lastName, hnil] at h
    exact absurd h (by decide +kernel)
  · rw [List.concat_eq_append] at hqs
    refine ⟨qs, q, hqs, ?_⟩
    rintro rfl
    rw [Path.lastName, hqs, List.getLastD_concat] at h
    exact absurd h (by decide +kernel)

/-- An extraction starts from the working files that it finds. -/
theorem exec_extract {disk : Disk} (h : d.disk.makeFolders outputFolder = .ok disk) :
    (extract name content).exec d = (do
      let uploaded ← receive name content
      deliver (if d.providerName = "azure" then .azure else .aws) uploaded).exec { d with disk := disk } := by
  rw [extract, Op.exec_bind_ok (Provider.exec_chosen d), Op.exec_bind_ok (Op.exec_onDisk_ok h)]

/-- A file lies in the folder of working files itself. -/
def Filed (n : Node) : Prop := ∃ k c, Path.IsName k ∧ n.get? [k] = some (.file c)

theorem Filed.isFolder (h : Filed n) : n.isFolder = true := by
  obtain ⟨k, c, -, hc⟩ := h
  cases n with
  | file => cases hc
  | folder => rfl

theorem Filed.grows {n' : Node} (h : Filed n) (hn : n.Grows n') : Filed n' := by
  obtain ⟨k, c, hk, hc⟩ := h
  obtain ⟨y, hy, hkind⟩ := hn _ _ hc
  cases y with
  | folder => cases hkind
  | file c' => exact ⟨k, c', hk, hy⟩

section
variable (hb : Vacant base)
include hb

theorem steady_grown : Steady (Grown base) where
  refl d n hd := ⟨n, .refl n, hd⟩
  trans h h' n hd := by
    obtain ⟨n₁, hn₁, hd₁⟩ := h n hd
    obtain ⟨n₂, hn₂, hd₂⟩ := h' n₁ hd₁
    exact ⟨n₂, hn₁.trans hn₂, hd₂⟩
  write hqs h n hd := stays_write hb hqs _ n _ (hd ▸ h)
  makeFolder hqs h n hd := stays_makeFolder hb hqs n _ (hd ▸ h)
  makeFolders hqs h n hd := stays_makeFolders hb hqs n _ (hd ▸ h)

theorem moves_received (h : Inside name) : Moves (Grown base) (received name) := by
  have hR := steady_grown hb
  unfold received
  split
  next htfl =>
    obtain ⟨qs, q, hqs, -⟩ := exists_names_of_suffix htfl
    have hnames := h.isName
    rw [hqs] at hnames ⊢
    rw [withSuffix_inner hnames (by decide)]
    have hq : Path.IsName (Path.stem q ++ ".tflx") :=
      Path.isName_withSuffix (hnames q (by simp)) (by decide) (by decide)
    have hconverted : ∀ x ∈ qs ++ [Path.stem q ++ ".tflx"], Path.IsName x := by
      intro x hx
      rcases List.mem_append.1 hx with hx | hx
      · exact hnames x (List.mem_append_left _ hx)
      · exact (List.mem_singleton.1 hx) ▸ hq
    refine .bind hR (moves_convert _ fun _ _ => hR.written fun p hp => ?_) fun _ => .of_keeps hR (.pure _)
    exact ⟨_, hconverted, List.mem_singleton.1 hp⟩
  next => exact .of_keeps hR (.pure _)

/-- If an operation that removes the working files in the end answers, they are gone; if it fails, they
    have grown. -/
theorem ends_of_sweeps {α : Type} {x : Op α} (h : Sweeps (Grown base) x) (hd : Orderly d)
    (hdisk : d.disk = desk base n) (hn : n.isFolder = true) :
    (∀ a, (x.exec d).1 = .ok a → (x.exec d).2.disk = swept base) ∧
      ∀ f, (x.exec d).1 = .error f → ∃ n', n.Grows n' ∧ (x.exec d).2.disk = desk base n' := by
  obtain ⟨-, disk, hgrown, hcases⟩ := h d hd
  obtain ⟨n', hn', rfl⟩ := hgrown n hdisk
  rcases hcases with ⟨⟨a, ha⟩, hclear⟩ | ⟨⟨f, hf⟩, hkept⟩
  · refine ⟨fun _ _ => hclear.trans (clear_outputFolder hb (hn'.isFolder.trans hn)), fun f hf => ?_⟩
    cases ha.symm.trans hf
  · refine ⟨fun a ha => ?_, fun _ _ => ⟨n', hn', hkept⟩⟩
    cases hf.symm.trans ha

/-! ## One extraction -/

/-- What an extraction leaves if the upload cannot be written. -/
theorem exec_extract_unwritten {f : Fault} (h : Holds base d.disk n) (hn : n.isFolder = true)
    (hin : Inside name) (hwrite : (desk base n).write (inner (Path.names name)) content = .error f) :
    ((extract name content).exec d).1 = .error f ∧
      ((extract name content).exec d).2.disk = desk base n := by
  rw [exec_extract (makeFolders_outputFolder hb h hn)]
  generalize hd₀ : { d with disk := desk base n } = d₀
  have hdisk : d₀.disk = desk base n := by rw [← hd₀]
  have hreceive : (receive name content).exec d₀ = (.error f, d₀) := by
    rw [receive_eq hin, Op.exec_bind, Op.exec_onDisk, hdisk, hwrite]
  rw [Op.exec_bind_error hreceive]
  exact ⟨rfl, hdisk⟩

/-- What an extraction leaves if the upload is written. -/
theorem exec_extract_written {n₁ : Node} (hd : Orderly d) (h : Holds base d.disk n)
    (hn : n.isFolder = true) (hin : Inside name) (hn₁ : n₁.isFolder = true)
    (hwrite : (desk base n).write (inner (Path.names name)) content = .ok (desk base n₁)) :
    (∀ a, ((extract name content).exec d).1 = .ok a →
      ((extract name content).exec d).2.disk = swept base) ∧
    ∀ f, ((extract name content).exec d).1 = .error f →
      ∃ n', n₁.Grows n' ∧ ((extract name content).exec d).2.disk = desk base n' := by
  rw [exec_extract (makeFolders_outputFolder hb h hn)]
  generalize hd₀ : { d with disk := desk base n } = d₀
  generalize (if d.providerName = "azure" then Provider.azure else .aws) = storage
  have hdisk : d₀.disk = desk base n := by rw [← hd₀]
  have hR := steady_grown hb
  have hrests : Sweeps (Grown base) (do deliver storage (← received name)) :=
    .bind hR (moves_received hb hin) fun u => sweeps_deliver hR storage u
  have hd₁ : Orderly { d₀ with disk := desk base n₁ } := by
    rw [← hd₀]
    exact hd.congr rfl rfl
  have hreceive : (receive name content).exec d₀ =
      (received name).exec { d₀ with disk := desk base n₁ } := by
    rw [receive_eq hin, Op.exec_bind, Op.exec_onDisk, hdisk, hwrite]
  have hrest : (do deliver storage (← receive name content)).exec d₀ =
      (do deliver storage (← received name)).exec { d₀ with disk := desk base n₁ } := by
    rw [Op.exec_bind, Op.exec_bind, hreceive]
  rw [hrest]
  exact ends_of_sweeps hb hrests hd₁ rfl hn₁

/-- An extraction that finds no working files leaves some exactly if it fails and its name is a
    single one. -/
theorem extract_of_empty (hd : Orderly d) (h : Holds base d.disk (.folder [])) (hin : Inside name) :
    (∀ a, ((extract name content).exec d).1 = .ok a →
      Holds base ((extract name content).exec d).2.disk (.folder [])) ∧
    ∀ f, ((extract name content).exec d).1 = .error f →
      (Path.names name).length ≠ 1 ∧ Holds base ((extract name content).exec d).2.disk (.folder []) ∨
      (Path.names name).length = 1 ∧
        ∃ n, Holds base ((extract name content).exec d).2.disk n ∧ Filed n := by
  rcases write_inner_cases hb hin.isName content with ⟨k, hk, hname, hwrite⟩ | ⟨hlength, f, hwrite⟩
  · obtain ⟨hok, herror⟩ := exec_extract_written hb hd h rfl hin rfl hwrite
    refine ⟨fun a ha => .inr ⟨rfl, .inr (hok a ha)⟩, fun f hf => .inr ⟨by rw [hk]; rfl, ?_⟩⟩
    obtain ⟨n', hgrows, hdisk⟩ := herror f hf
    have hfiled : Filed (.folder [(k, .file content)]) :=
      ⟨k, content, hname, by simp [Node.get?, Node.child?]⟩
    exact ⟨n', .inl hdisk, hfiled.grows hgrows⟩
  · obtain ⟨hf, hdisk⟩ := exec_extract_unwritten hb h rfl hin hwrite
    refine ⟨fun a ha => ?_, fun _ _ => .inl ⟨hlength, .inl hdisk⟩⟩
    cases hf.symm.trans ha

/-- An extraction that finds working files leaves some exactly if it fails. -/
theorem extract_of_filed (hd : Orderly d) (h : Holds base d.disk n) (hn : Filed n) (hin : Inside name) :
    (∀ a, ((extract name content).exec d).1 = .ok a →
      Holds base ((extract name content).exec d).2.disk (.folder [])) ∧
    ∀ f, ((extract name content).exec d).1 = .error f →
      ∃ n, Holds base ((extract name content).exec d).2.disk n ∧ Filed n := by
  cases hwrite : (desk base n).write (inner (Path.names name)) content with
  | error f =>
    obtain ⟨hf, hdisk⟩ := exec_extract_unwritten hb h hn.isFolder hin hwrite
    refine ⟨fun a ha => ?_, fun _ _ => ⟨n, .inl hdisk, hn⟩⟩
    cases hf.symm.trans ha
  | ok disk =>
    obtain ⟨n₁, hgrows, rfl⟩ := stays_write hb hin.isName content n disk hwrite
    have hn₁ := hn.grows hgrows
    obtain ⟨hok, herror⟩ := exec_extract_written hb hd h hn.isFolder hin hn₁.isFolder hwrite
    refine ⟨fun a ha => .inr ⟨rfl, .inr (hok a ha)⟩, fun f hf => ?_⟩
    obtain ⟨n', hgrows', hdisk⟩ := herror f hf
    exact ⟨n', .inl hdisk, hn₁.grows hgrows'⟩

end

theorem orderly_extract (hd : Orderly d) (name : String) (content : Content) :
    Orderly ((extract name content).exec d).2 := by
  -- no step does anything to the tools, wherever it writes
  have hR : Steady fun _ _ => True := by constructor <;> intros <;> trivial
  have hreceive : Moves (fun _ _ => True) (receive name content) := by
    refine .bind hR (.onDisk hR fun _ _ _ => trivial) fun _ => ?_
    split
    · exact .bind hR (moves_convert _ fun _ _ _ => trivial) fun _ => .of_keeps hR (.pure _)
    · exact .of_keeps hR (.pure _)
  have hextract : Sweeps (fun _ _ => True) (extract name content) := by
    refine .bind hR (.of_keeps hR fun _ => rfl) fun storage => ?_
    refine .bind hR (.onDisk hR fun _ _ _ => trivial) fun _ => ?_
    exact .bind hR hreceive fun uploaded => sweeps_deliver hR storage uploaded
  exact (hextract d hd).1

/-! ## Runs -/

/-- A file that is submitted for extraction. -/
structure Submission where
  name : String
  content : Content

/-- What comes of a submission: the answer or the fault, and the objects that are stored then. -/
def outcome (s : Submission) (d : Deployment) : Except Fault Json × ObjectStore :=
  (((extract s.name s.content).exec d).1, ((extract s.name s.content).exec d).2.store)

/-- The deployment after a run of submissions. -/
def after (d : Deployment) (ss : List Submission) : Deployment :=
  ss.foldl (fun d s => ((extract s.name s.content).exec d).2) d

/-- A submission failed after its file was written, and none was answered since. -/
inductive Littered (d : Deployment) : List Submission → Prop
  | failed {ss : List Submission} {s : Submission} {f : Fault} (hname : (Path.names s.name).length = 1)
      (hf : (outcome s (after d ss)).1 = .error f) : Littered d (ss ++ [s])
  | still {ss : List Submission} {s : Submission} {f : Fault} (hss : Littered d ss)
      (hf : (outcome s (after d ss)).1 = .error f) : Littered d (ss ++ [s])

variable {ss : List Submission} {s : Submission}

theorem after_append (d : Deployment) (ss : List Submission) (s : Submission) :
    after d (ss ++ [s]) = ((extract s.name s.content).exec (after d ss)).2 := by
  rw [after, List.foldl_append]
  rfl

theorem not_littered_nil : ¬ Littered d [] := by
  intro h
  generalize hss : ([] : List Submission) = ss at h
  cases h <;> simp at hss

theorem littered_append_iff : Littered d (ss ++ [s]) ↔
    ((Path.names s.name).length = 1 ∨ Littered d ss) ∧
      ∃ f, ((extract s.name s.content).exec (after d ss)).1 = .error f := by
  constructor
  · intro h
    generalize hts : ss ++ [s] = ts at h
    cases h with
    | failed hname hf =>
      obtain ⟨rfl, hs⟩ := List.append_inj' hts rfl
      cases hs
      exact ⟨.inl hname, _, hf⟩
    | still hss hf =>
      obtain ⟨rfl, hs⟩ := List.append_inj' hts rfl
      cases hs
      exact ⟨.inr hss, _, hf⟩
  · rintro ⟨hname | hss, f, hf⟩
    · exact .failed hname hf
    · exact .still hss hf

theorem orderly_after (hd : Orderly d) (ss : List Submission) : Orderly (after d ss) := by
  induction ss using List.reverseRecOn with
  | nil => exact hd
  | append_singleton ss s ih =>
    rw [after_append]
    exact orderly_extract ih s.name s.content

/-- The working files after a run. -/
theorem run_cases (htools : Orderly d) (hd : Vacant d.disk) (hss : ∀ s ∈ ss, Inside s.name) :
    ∃ n, Holds d.disk (after d ss).disk n ∧
      (¬ Littered d ss ∧ n = .folder [] ∨ Littered d ss ∧ Filed n) := by
  induction ss using List.reverseRecOn with
  | nil => exact ⟨.folder [], .inr ⟨rfl, .inl rfl⟩, .inl ⟨not_littered_nil, rfl⟩⟩
  | append_singleton ss s ih =>
    have hin : Inside s.name := hss s (by simp)
    obtain ⟨n, hn, hcases⟩ := ih fun t ht => hss t (List.mem_append_left _ ht)
    have htools' := orderly_after htools ss
    rw [after_append, littered_append_iff]
    rcases hr : ((extract s.name s.content).exec (after d ss)).1 with f | a
    · rcases hcases with ⟨hclean, rfl⟩ | ⟨hlittered, hfiled⟩
      · rcases (extract_of_empty hd htools' hn hin).2 f hr with ⟨hlength, h⟩ | ⟨hlength, n', h, hfiled⟩
        · exact ⟨_, h, .inl ⟨by simp [hlength, hclean], rfl⟩⟩
        · exact ⟨n', h, .inr ⟨⟨.inl hlength, f, rfl⟩, hfiled⟩⟩
      · obtain ⟨n', h, hfiled'⟩ := (extract_of_filed hd htools' hn hfiled hin).2 f hr
        exact ⟨n', h, .inr ⟨⟨.inr hlittered, f, rfl⟩, hfiled'⟩⟩
    · refine ⟨.folder [], ?_, .inl ⟨by simp, rfl⟩⟩
      rcases hcases with ⟨-, rfl⟩ | ⟨-, hfiled⟩
      · exact (extract_of_empty hd htools' hn hin).1 a hr
      · exact (extract_of_filed hd htools' hn hfiled hin).1 a hr

/-! ## Independence -/

/-- Where no working files are, an extraction comes out as in the empty working folder. -/
theorem outcome_of_empty (hb : Vacant base) (h : Holds base d.disk (.folder [])) (s : Submission) :
    outcome s d = outcome s { d with disk := base } := by
  have hstart : Holds base base (.folder []) := .inr ⟨rfl, .inl rfl⟩
  rw [outcome, outcome, exec_extract (makeFolders_outputFolder hb h rfl),
    exec_extract (d := { d with disk := base }) (makeFolders_outputFolder hb hstart rfl)]
  rfl

/-- A name below that of a file makes a difference: the file is no folder, in its place is none. -/
theorem exists_outcome_ne (hb : Vacant base) (h : Holds base d.disk n) (hn : Filed n) :
    ∃ s, outcome s d ≠ outcome s { d with disk := base } := by
  have hfolder := hn.isFolder
  obtain ⟨k, c, hk, hc⟩ := hn
  have hx : Path.IsName "x" := by decide
  have hnames : ∀ y ∈ [k, "x"], Path.IsName y := by simp [hk, hx]
  have hin : Inside ("/".intercalate [k, "x"]) := by
    refine ⟨Path.startsWith_slash_of_parts (Path.empty_notMem_parts (by simp) hnames), ?_⟩
    rw [Path.parts_of_names (by simp) hnames]
    exact fun hup => (hnames _ hup).ne_dots rfl
  have hstart : Holds base base (.folder []) := .inr ⟨rfl, .inl rfl⟩
  refine ⟨⟨"/".intercalate [k, "x"], .text ""⟩, fun heq => ?_⟩
  have hfile := write_inner_file hb hk hx hc (.text "")
  have hmissing := write_inner_missing hb hnames (.text "")
  rw [← Path.names_intercalate (by simp) hnames] at hfile hmissing
  have hleft := (exec_extract_unwritten hb h hfolder hin hfile).1
  have hright := (exec_extract_unwritten (d := { d with disk := base }) hb hstart rfl hin hmissing).1
  have hfaults := hleft.symm.trans ((congrArg Prod.fst heq).trans hright)
  cases hfaults

theorem get?_folder_nil_ne_file (q : List String) (c : Content) :
    (Node.folder []).get? q ≠ some (.file c) := by
  intro h
  cases q <;> cases h

/-- The files that are found in the place of the working files are those of the tree. -/
theorem exists_file_iff (hb : Vacant base) {disk : Disk} (h : Holds base disk n) :
    (∃ q c, disk.root.get? (place base ++ q) = some (.file c)) ↔ ∃ q c, n.get? q = some (.file c) := by
  obtain rfl | ⟨rfl, hdisk⟩ := h
  · simp only [get?_desk hb]
  · have hnone : ∀ q, disk.root.get? (place base ++ q) = none := by
      intro q
      rw [place, List.append_assoc, Node.get?_append]
      obtain rfl | rfl := hdisk
      · rw [hb]
        rfl
      · rw [swept, Node.get?_set_self hb]
        rfl
    simp only [hnone, get?_folder_nil_ne_file, reduceCtorEq, exists_false]

/-- After any run of submissions from an empty working folder, with tools that write what they are asked
    for and nothing else, the next extraction comes out as in an empty working folder, whatever is
    submitted, exactly if no submission since the last one that was answered failed after its file was
    written. Otherwise there are working files left. -/
theorem extractions_independent_iff (htools : Orderly d) (hd : Vacant d.disk)
    (hss : ∀ s ∈ ss, Inside s.name) :
    ((∀ s, outcome s (after d ss) = outcome s { after d ss with disk := d.disk }) ↔
      ¬ Littered d ss) ∧
    ((∃ q c, (after d ss).disk.root.get? (place d.disk ++ q) = some (.file c)) ↔ Littered d ss) := by
  obtain ⟨n, hn, ⟨hclean, rfl⟩ | ⟨hlittered, hfiled⟩⟩ := run_cases htools hd hss
  · refine ⟨iff_of_true (outcome_of_empty hd hn) hclean, ?_⟩
    rw [exists_file_iff hd hn]
    refine iff_of_false ?_ hclean
    rintro ⟨q, c, hc⟩
    exact get?_folder_nil_ne_file q c hc
  · obtain ⟨s, hs⟩ := exists_outcome_ne hd hn hfiled
    refine ⟨iff_of_false (fun h => hs (h s)) (not_not_intro hlittered), ?_⟩
    obtain ⟨k, c, -, hc⟩ := hfiled
    rw [exists_file_iff hd hn]
    exact iff_of_true ⟨[k], c, hc⟩ hlittered

/-- An archive that cannot be unpacked, because a file would have to lie in another. -/
def broken : Submission := ⟨"a.tflx", .archive [("flow", "first"), ("flow/x", "y")]⟩

/-- The broken archive leaves working files, on which the next extraction depends. -/
theorem extractions_independent_iff_broken :
    Orderly {} ∧ Vacant ({} : Deployment).disk ∧ (∀ s ∈ [broken], Inside s.name) ∧
      ¬ ∀ s, outcome s (after {} [broken]) =
        outcome s { after {} [broken] with disk := ({} : Deployment).disk } := by
  have htools : Orderly {} := orderly_copying rfl rfl
  have hvacant : Vacant ({} : Deployment).disk := rfl
  have hin : ∀ s ∈ [broken], Inside s.name := by
    intro s hs
    obtain rfl := List.mem_singleton.1 hs
    exact ⟨by decide +kernel, by decide +kernel⟩
  have hlittered : Littered {} ([] ++ [broken]) := by
    have hfails : (outcome broken (after {} [])).1.isOk = false := by decide +kernel
    cases hr : (outcome broken (after {} [])).1 with
    | ok a => rw [hr] at hfails; cases hfails
    | error f => exact .failed (by decide +kernel) hr
  exact ⟨htools, hvacant, hin,
    fun h => (extractions_independent_iff htools hvacant hin).1.1 h hlittered⟩

end Flow

end ReportMigration
