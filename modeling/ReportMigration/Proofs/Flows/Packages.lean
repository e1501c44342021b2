import ReportMigration.Flows.Package
import ReportMigration.Proofs.Files.Opening
import ReportMigration.Proofs.Flows.Confinement
/-!
The names of packages.

An extraction names the document with the structure of a flow after the stem of its file, and the package
is named after that document: by what comes before the first marker in its name.

* `Flow.before_append`, `Flow.not_infix_before`: the text before the first occurrence of a word whose first
  character does not occur again in it;
* `Flow.IsBase t s`: `t` is what names the package of a flow with the stem `s`; there is one such text, and
  it is the one that `Flow.baseName` finds (`Flow.isBase_iff`);
* `Flow.Packs r base`: a request changes no object but the package `base`;
* `Flow.packages_apart_iff`: two flows have packages of their own exactly if their stems have no base in
  common, and for each flow there is another one that takes its package.
-/
namespace ReportMigration

namespace Flow

/-! ## What comes before a marker -/

section
variable {w cs t : List Char}

theorem before_eq_nil {c : Char} (h : w <+: c :: cs) : before w (c :: cs) = [] := by
  have hw := List.isPrefixOf_iff_prefix.2 h
  rw [before, if_pos hw]

theorem before_cons {c : Char} (h : ¬ w <+: c :: cs) : before w (c :: cs) = c :: before w cs := by
  rw [before, if_neg fun hw => h <| List.isPrefixOf_iff_prefix.1 hw]

theorem isPrefix_before (w cs : List Char) : before w cs <+: cs := by
  induction cs with
  | nil => exact List.nil_prefix
  | cons c cs ih =>
    by_cases hw : w <+: c :: cs
    · rw [before_eq_nil hw]
      exact List.nil_prefix
    · rw [before_cons hw]
      exact (List.prefix_cons_inj c).2 ih

theorem not_infix_before (hne : w ≠ []) (cs : List Char) : ¬ w <:+: before w cs := by
  induction cs with
  | nil => exact fun h => hne (List.infix_nil.1 h)
  | cons c cs ih =>
    by_cases hw : w <+: c :: cs
    · rw [before_eq_nil hw]
      exact fun h => hne (List.infix_nil.1 h)
    · rw [before_cons hw]
      intro h
      rcases List.infix_cons_iff.1 h with h | h
      · exact hw (h.trans ((List.prefix_cons_inj c).2 (isPrefix_before w cs)))
      · exact ih h

theorem exists_eq_before_append (h : w <:+: cs) : ∃ r, cs = before w cs ++ w ++ r := by
  induction cs with
  | nil =>
    obtain rfl := List.infix_nil.1 h
    exact ⟨[], rfl⟩
  | cons c cs ih =>
    by_cases hw : w <+: c :: cs
    · obtain ⟨r, hr⟩ := hw
      exact ⟨r, by rw [before_eq_nil ⟨r, hr⟩, List.nil_append, hr]⟩
    · obtain ⟨r, hr⟩ := ih ((List.infix_cons_iff.1 h).resolve_left hw)
      exact ⟨r, by rw [before_cons hw, List.cons_append, List.cons_append, ← hr]⟩

/-- Behind a text without it, a word is found where it was put, if its first character does not occur in
    it again. -/
theorem before_append {m : Char} {ms : List Char} (hm : m ∉ ms) (ht : ¬ m :: ms <:+: t) (r : List Char) :
    before (m :: ms) (t ++ m :: ms ++ r) = t := by
  induction t with
  | nil => exact before_eq_nil (List.prefix_append (m :: ms) r)
  | cons c t ih =>
    have hw : ¬ m :: ms <+: c :: (t ++ m :: ms ++ r) := by
      intro h
      have hct : c :: t <+: c :: (t ++ m :: ms ++ r) := by
        rw [List.append_assoc]
        exact List.prefix_append (c :: t) _
      rcases List.prefix_or_prefix_of_prefix h hct with h' | ⟨u, hu⟩
      · exact ht h'.isInfix
      cases u with
      | nil => exact ht (by rw [← hu, List.append_nil])
      | cons x u =>
        -- the word would go on behind the text, and there it starts
        obtain ⟨rfl, hms⟩ := List.cons.inj hu
        have htail := (List.cons_prefix_cons.1 h).2
        rw [← hms, List.append_eq, List.append_assoc, List.prefix_append_right_inj] at htail
        obtain ⟨rfl, -⟩ := List.cons_prefix_cons.1 htail
        exact hm (by simp [← hms])
    exact (before_cons hw).trans (congrArg (c :: ·) (ih fun h => ht (List.infix_cons h)))

end

/-! ## The base of a stem -/

variable {s t name base document : String} {r : Value} {content : Content} {d d' : Deployment} {v : Json}

/-- The stem of the file of a flow. -/
def stemOf (name : String) : String := Path.stem (Path.lastName name)

/-- What names the package of a flow, by the stem of its file: the stem up to a marker in it, and with no
    marker before. -/
def IsBase (t s : String) : Prop :=
  ¬ marker <:+: t.toList ∧ (t = s ∨ t.toList ++ marker <+: s.toList)

/-- What names the package of a flow, by the document that an extraction makes. -/
def baseOf (name : String) : String := baseName (structureName (stemOf name))

instance : Decidable (IsBase t s) := inferInstanceAs (Decidable (_ ∧ _))

theorem before_marker_append {t : List Char} (ht : ¬ marker <:+: t) (r : List Char) :
    before marker (t ++ marker ++ r) = t :=
  before_append (by decide) ht r

theorem toList_structureName (s : String) :
    (structureName s).toList = s.toList ++ marker ++ ".json".toList := by
  rw [structureName, String.toList_append, List.append_assoc]
  rfl

theorem baseName_of_isBase (h : IsBase t s) : baseName (structureName s) = t := by
  rw [baseName, toList_structureName]
  obtain ⟨hno, rfl | ⟨r, hr⟩⟩ := h
  · rw [before_marker_append hno, String.ofList_toList]
  · have hs : s.toList ++ marker ++ ".json".toList = t.toList ++ marker ++ (r ++ marker ++ ".json".toList) := by
      simp only [← hr, List.append_assoc]
    rw [hs, before_marker_append hno, String.ofList_toList]

theorem exists_isBase (s : String) : ∃ t, IsBase t s := by
  by_cases h : marker <:+: s.toList
  · obtain ⟨r, hr⟩ := exists_eq_before_append h
    refine ⟨.ofList (before marker s.toList), ?_, .inr ⟨r, ?_⟩⟩
    · rw [String.toList_ofList]
      exact not_infix_before (by decide) s.toList
    · rw [String.toList_ofList, ← hr]
  · exact ⟨s, h, .inl rfl⟩

/-- A stem has one base, and it is the one that names the package. -/
theorem isBase_iff : IsBase t s ↔ baseName (structureName s) = t := by
  refine ⟨baseName_of_isBase, ?_⟩
  rintro rfl
  obtain ⟨t, ht⟩ := exists_isBase s
  rwa [baseName_of_isBase ht]

theorem baseOf_eq_stemOf_iff (name : String) :
    baseOf name = stemOf name ↔ ¬ marker <:+: (stemOf name).toList := by
  rw [baseOf, ← isBase_iff, IsBase]
  simp

theorem baseOf_eq_iff (a b : String) :
    baseOf a = baseOf b ↔ ∃ t, IsBase t (stemOf a) ∧ IsBase t (stemOf b) := by
  simp only [isBase_iff, baseOf]
  constructor
  · exact fun h => ⟨_, h, rfl⟩
  · rintro ⟨t, ha, hb⟩
    exact ha.trans hb.symm

theorem append_append_inj (p e : String) : p ++ s ++ e = p ++ t ++ e ↔ s = t := by
  rw [String.append_left_inj, String.append_right_inj]

theorem packageKey_inj : packageKey s = packageKey t ↔ s = t := append_append_inj _ _

theorem slash_notMem_stemOf (name : String) : '/' ∉ (stemOf name).toList := fun h =>
  Path.slash_notMem_lastName name (Path.mem_stem h)

theorem stem_append_tflx (hs : s ≠ "") : Path.stem (s ++ ".tflx") = s := by
  have h : (".tflx" : String) = .ofList ('.' :: "tflx".toList) := by decide
  rw [h]
  exact Path.stem_append hs (by decide) (by decide)

/-- A file whose name has the marker behind the stem of another has the same base. -/
theorem exists_baseOf_eq (name : String) : ∃ other, stemOf other ≠ stemOf name ∧ baseOf other = baseOf name := by
  have hname : Path.IsName (stemOf name ++ .ofList marker ++ ".tflx") := by
    refine Path.isName_extended (fun h => ?_) (by decide) (by decide)
    rw [String.toList_append, String.toList_ofList, List.mem_append] at h
    exact h.elim (slash_notMem_stemOf name) (by decide)
  have hne : String.ofList marker ≠ "" := by decide
  have hstem : stemOf (stemOf name ++ .ofList marker ++ ".tflx") = stemOf name ++ .ofList marker := by
    rw [stemOf, Path.lastName_of_isName hname, stem_append_tflx]
    simp [hne]
  refine ⟨stemOf name ++ .ofList marker ++ ".tflx", ?_, ?_⟩
  · rw [hstem]
    simp [hne]
  · obtain ⟨hno, hbase⟩ := isBase_iff.2 (rfl : baseName (structureName (stemOf name)) = baseOf name)
    rw [baseOf, hstem]
    refine isBase_iff.1 ⟨hno, .inr ?_⟩
    rw [String.toList_append, String.toList_ofList]
    rcases hbase with hbase | hbase
    · rw [baseOf, hbase]
    · exact hbase.trans (List.prefix_append _ _)

/-! ## The document that an extraction names -/

theorem stem_converted {p q : String} {xs : List String} (h : Path.parts p = xs ++ [q]) (hq : Path.IsName q)
    (hstem : Path.stem q ≠ "") : stemOf (Path.lastName (Path.withSuffix p ".tflx")) = Path.stem q := by
  have hnew := Path.parts_withSuffix h (Path.lastName_of_parts h hq) (show '/' ∉ ".tflx".toList by decide)
  have hname : Path.IsName (Path.stem q ++ ".tflx") := Path.isName_withSuffix hq (by decide) (by decide)
  rw [Path.lastName_of_parts hnew hname, stemOf, Path.lastName_of_isName hname, stem_append_tflx hstem]

/-- An upload of the older form keeps its stem in the newer one. -/
theorem stemOf_receive {u : Upload} (h : (receive name content).exec d = (.ok u, d')) :
    stemOf u.name = stemOf name := by
  obtain ⟨-, d₁, -, h⟩ := Op.exists_of_exec_bind h
  split at h
  next htfl =>
    obtain ⟨qs, q, hqs, hup⟩ := exists_names_of_suffix htfl
    obtain ⟨xs, -, hparts⟩ := exists_parts_uploadPath hqs
    have hq : Path.IsName q := Path.isName_of_mem_names (by rw [hqs]; simp) hup
    have hlast : Path.lastName name = q := by rw [Path.lastName, hqs, List.getLastD_concat]
    have hstem : Path.stem q ≠ "" := by
      refine Path.stem_ne_empty fun hempty => ?_
      rw [hlast, hempty] at htfl
      exact absurd htfl (by decide +kernel)
    rw [uploadPath] at hparts
    obtain ⟨-, d₂, -, h⟩ := Op.exists_of_exec_bind h
    rw [Op.exec_pure] at h
    obtain rfl := Except.ok.inj (Prod.mk.inj h).1
    rw [stem_converted hparts hq hstem, stemOf, hlast]
  next =>
    rw [Op.exec_pure] at h
    obtain rfl := Except.ok.inj (Prod.mk.inj h).1
    rfl

/-- The answer to an extraction names the document with the structure of the flow. -/
def Names (v : Json) (document : String) : Prop :=
  ∃ link, v.get? "flow_json" = some link ∧ link.get? "name" = some (.str document)

theorem names_of_deliver {storage : Provider} {u : Upload}
    (h : (deliver storage u).exec d = (.ok v, d')) : Names v (structureName (stemOf u.name)) := by
  obtain ⟨_, _, -, h⟩ := Op.exists_of_exec_bind h
  obtain ⟨flow, _, -, h⟩ := Op.exists_of_exec_bind h
  obtain ⟨_, _, -, h⟩ := Op.exists_of_exec_bind h
  obtain ⟨_, _, -, h⟩ := Op.exists_of_exec_bind h
  obtain ⟨_, _, -, h⟩ := Op.exists_of_exec_bind h
  obtain ⟨structureUrl, _, -, h⟩ := Op.exists_of_exec_bind h
  obtain ⟨analysisUrl, _, -, h⟩ := Op.exists_of_exec_bind h
  obtain ⟨_, _, -, h⟩ := Op.exists_of_exec_bind h
  rw [Op.exec_pure] at h
  obtain rfl := Except.ok.inj (Prod.mk.inj h).1
  exact ⟨_, rfl, rfl⟩

theorem names_of_extract (h : (extract name content).exec d = (.ok v, d')) :
    Names v (structureName (stemOf name)) := by
  obtain ⟨storage, _, -, h⟩ := Op.exists_of_exec_bind h
  obtain ⟨_, _, -, h⟩ := Op.exists_of_exec_bind h
  obtain ⟨u, _, hreceive, h⟩ := Op.exists_of_exec_bind h
  rw [← stemOf_receive hreceive]
  exact names_of_deliver h

/-! ## Where a package goes -/

/-- What is stored and what is out of order, which no step changes before the upload of the package. -/
def remote (d : Deployment) : ObjectStore × Outages := (d.store, d.outages)

theorem keeps_call (name : String) (args : List Value) : Op.Keeps remote (Op.call name args) :=
  (Op.Keeps.call name args []).map remote

theorem keeps_onDisk (f : Disk → Except Fault Disk) : Op.Keeps remote (Op.onDisk f) :=
  (Op.Keeps.onDisk f).map remote

theorem keeps_download (storage : Provider) (key path : String) :
    Op.Keeps remote (storage.download key path) :=
  (storage.keeps_download key path).map remote

theorem keeps_unpack (path folder : String) : Op.Keeps remote (unpack path folder) := by
  refine .bind (.ofDisk _) fun c => ?_
  cases c with
  | text s => exact .throw _
  | archive es => exact .forM (fun e => keeps_onDisk _) es

theorem keeps_readStructure (path : String) : Op.Keeps remote (readStructure path) :=
  .bind (.ofDisk _) fun _ => .bind (.ofExcept _) fun _ => .ofExcept _

theorem keeps_assemble (storage : Provider) (document : Value) (name : String) :
    Op.Keeps remote (assemble storage document name) := by
  unfold assemble
  refine .bind (keeps_onDisk _) fun _ => .bind (keeps_onDisk _) fun _ => ?_
  refine .bind (keeps_call _ _) fun key => ?_
  refine .bind (keeps_download _ _ _) fun _ => .bind (keeps_download _ _ _) fun _ => ?_
  refine .bind (keeps_unpack _ _) fun _ => .bind (keeps_readStructure _) fun structure_ => ?_
  refine .bind (keeps_call _ _) fun levels => .bind (.ofExcept _) fun queries => ?_
  refine .bind (keeps_onDisk _) fun _ => .bind (keeps_call _ _) fun sources => ?_
  exact .bind (keeps_call _ _) fun columns => .bind (keeps_call _ _) fun _ => .pure _

theorem keeps_send {k : String} (storage : Provider) (hk : k ≠ packageKey base) :
    Op.Keeps (fun d => d.store.get? k) (send storage base) := by
  refine .bind (fun _ => rfl) fun d₀ => .bind ((keeps_onDisk _).map (·.1.get? k)) fun _ => ?_
  refine .bind (storage.keeps_upload _ _ fun d c => ?_) fun _ => ?_
  · rw [ObjectStore.get?_put, if_neg hk]
  · refine .bind (storage.keeps_signedUrl _ fun _ _ => rfl) fun url => ?_
    exact .bind (fun _ => rfl) fun _ => .bind (fun _ => rfl) fun _ => .pure _

/-- An answer tells the name of the package, which is stored unless that is refused. -/
theorem of_exec_send {storage : Provider} (h : (send storage base).exec d = (.ok v, d')) :
    v.get? "file_name" = some (.str base) ∧
      (d.outages.refuses (packageKey base) = false → d'.store.get? (packageKey base) =
        some (.archive (d.disk.textsBelow (Path.below storageFolder packageFolder) packageFolder))) := by
  rw [send, Op.exec_bind_ok (Op.exec_get d)] at h
  generalize d.disk.textsBelow (Path.below storageFolder packageFolder) packageFolder = files at h ⊢
  obtain ⟨_, d₁, hwrite, h⟩ := Op.exists_of_exec_bind h
  obtain ⟨disk, hdisk, rfl⟩ := Op.eq_of_exec_onDisk hwrite
  have hupload :=
    storage.exec_upload (packageKey base) 0 (d := { d with disk := disk }) (Disk.read_written hdisk)
  rw [Op.exec_bind_ok hupload] at h
  obtain ⟨url, d₂, hurl, h⟩ := Op.exists_of_exec_bind h
  have hstore := (storage.keeps_signedUrl _ fun _ _ => rfl : Op.Keeps (·.store) _).eq_of_exec hurl
  obtain ⟨_, d₃, hclear, h⟩ := Op.exists_of_exec_bind h
  obtain rfl := (Prod.mk.inj hclear).2
  obtain ⟨provider, d₄, hprovider, h⟩ := Op.exists_of_exec_bind h
  obtain rfl := (Prod.mk.inj hprovider).2
  obtain ⟨hv, rfl⟩ := Prod.mk.inj h
  obtain rfl := Except.ok.inj hv
  refine ⟨rfl, fun hrefuses => ?_⟩
  have hput : d₂.store = d.store.put (packageKey base) (.archive files) := by
    refine hstore.trans ?_
    change (if d.outages.refuses (packageKey base) = true then d.store else _) = _
    rw [hrefuses, if_neg Bool.false_ne_true]
  change d₂.store.get? (packageKey base) = _
  rw [hput, ObjectStore.get?_put, if_pos rfl]

/-- A request for the package of the flow with a document. -/
def Requests (r : Value) (document : String) : Prop := r.attr "prep_flow_file" = .ok (.text document)

theorem exec_makePackage (hr : Requests r document) (hname : Path.IsName document) (d : Deployment) :
    ∃ storage, (makePackage r).exec d =
      (do assemble storage (.text document) document; send storage (baseName document)).exec d := by
  have hattr : (Op.ofExcept (r.attr "prep_flow_file")).exec d = (.ok (.text document), d) := by
    rw [Op.exec_ofExcept, hr]
  have hdocument : (Op.ofExcept (documentName (.text document))).exec d = (.ok document, d) := by
    rw [Op.exec_ofExcept, documentName, Path.lastName_of_isName hname]
  refine ⟨if d.providerName = "azure" then .azure else .aws, ?_⟩
  rw [makePackage, Op.exec_bind_ok (Provider.exec_chosen d), Op.exec_bind_ok hattr, Op.exec_bind_ok hdocument]

/-- A package is made as asked; only the fault is told in another way. -/
theorem exec_package (r : Value) (d : Deployment) :
    ((package r).exec d).2 = ((makePackage r).exec d).2 ∧
      ∀ v, ((package r).exec d).1 = .ok v → ((makePackage r).exec d).1 = .ok v := by
  rw [package, Op.exec_bind_ok (Op.exec_attempt _ d)]
  rcases (makePackage r).exec d with ⟨f | v, d'⟩
  · exact ⟨rfl, fun v h => by cases h⟩
  · exact ⟨rfl, fun v h => h⟩

/-- A request leaves alone every object but the package of a name, which is stored by an answer unless the
    upload is refused; and the answer tells this name. -/
structure Packs (r : Value) (base : String) : Prop where
  elsewhere : ∀ d k, k ≠ packageKey base → ((package r).exec d).2.store.get? k = d.store.get? k
  named : ∀ d v, ((package r).exec d).1 = .ok v → v.get? "file_name" = some (.str base)
  stored : ∀ d v, ((package r).exec d).1 = .ok v → d.outages.refuses (packageKey base) = false →
    ∃ files, ((package r).exec d).2.store.get? (packageKey base) = some (.archive files)

theorem packs_of_requests (hr : Requests r document) (hname : Path.IsName document) :
    Packs r (baseName document) := by
  -- an answer comes from the last part, which finds the store and the outages as they were
  have hanswer : ∀ d v, ((package r).exec d).1 = .ok v → ∃ d₁ storage, d₁.outages = d.outages ∧
      (send storage (baseName document)).exec d₁ = (.ok v, ((package r).exec d).2) := by
    intro d v hv
    obtain ⟨hsnd, hfst⟩ := exec_package r d
    obtain ⟨storage, hmake⟩ := exec_makePackage hr hname d
    have h : (makePackage r).exec d = (.ok v, ((package r).exec d).2) := Prod.ext (hfst v hv) hsnd.symm
    rw [hmake] at h
    obtain ⟨_, d₁, hassemble, hsend⟩ := Op.exists_of_exec_bind h
    have hremote := (keeps_assemble storage (.text document) document).eq_of_exec hassemble
    exact ⟨d₁, storage, (Prod.mk.inj hremote).2, hsend⟩
  refine ⟨fun d k hk => ?_, fun d v hv => ?_, fun d v hv hrefuses => ?_⟩
  · obtain ⟨storage, hmake⟩ := exec_makePackage hr hname d
    rw [(exec_package r d).1, hmake]
    exact Op.Keeps.bind ((keeps_assemble storage (.text document) document).map (·.1.get? k))
      (fun _ => keeps_send storage hk) d
  · obtain ⟨d₁, storage, -, hsend⟩ := hanswer d v hv
    exact (of_exec_send hsend).1
  · obtain ⟨d₁, storage, houtages, hsend⟩ := hanswer d v hv
    exact ⟨_, (of_exec_send hsend).2 (houtages ▸ hrefuses)⟩

/-- The package of a flow file is called `base`: an extraction names a document, and a request for the
    package of this document makes the one of that name. -/
structure Packaged (name base : String) : Prop where
  names : ∀ content d v, ((extract name content).exec d).1 = .ok v → Names v (structureName (stemOf name))
  packs : ∀ r, Requests r (structureName (stemOf name)) → Packs r base

theorem packaged_baseOf (name : String) : Packaged name (baseOf name) where
  names _ _ _ hv := names_of_extract (Prod.ext hv rfl)
  packs _ hr := packs_of_requests hr (Path.isName_extended (slash_notMem_stemOf name) (by decide) (by decide))

/-- **Which packages collide**: that of a flow is named after the stem of its file exactly if there is no
    marker in the stem, two flows have packages of their own exactly if their stems have no base in common,
    and for every flow there is one with another stem that takes its package. -/
theorem packages_apart_iff (a : String) :
    Packaged a (baseOf a) ∧ (baseOf a = stemOf a ↔ ¬ marker <:+: (stemOf a).toList) ∧
      (∀ b, packageKey (baseOf a) ≠ packageKey (baseOf b) ↔
        ¬ ∃ t, IsBase t (stemOf a) ∧ IsBase t (stemOf b)) ∧
      ∃ b, stemOf b ≠ stemOf a ∧ packageKey (baseOf b) = packageKey (baseOf a) := by
  refine ⟨packaged_baseOf a, baseOf_eq_stemOf_iff a, fun b => ?_, ?_⟩
  · rw [ne_eq, packageKey_inj, baseOf_eq_iff]
  · obtain ⟨b, hstem, hbase⟩ := exists_baseOf_eq a
    exact ⟨b, hstem, congrArg packageKey hbase⟩

/-- A store with a template and a document, and services that know the document. -/
def sampleDesk : Deployment where
  store := (ObjectStore.empty.put "s" (.text "{}")).put "Prep_files/powerbi/Superstore_prep.zip" (.archive [])
  script := [("build_s3_key", .value (.text "s")), ("generate_power_query_blocks", .value (.list []))]

def requestFor (document : String) : Value := .record [("prep_flow_file", .text document)]

/-- The second version of a flow takes the package of the first: a request for its document is answered,
    and what it stores lies where that of the first belongs. -/
theorem packages_apart_iff_versions :
    stemOf "sales.tflx" ≠ stemOf "sales_structured_v2.tflx" ∧
      packageKey (baseOf "sales.tflx") = packageKey (baseOf "sales_structured_v2.tflx") ∧
      ∃ files, ((package (requestFor "sales_structured_v2_structured.json")).exec sampleDesk).2.store.get?
        (packageKey (baseOf "sales.tflx")) = some (.archive files) := by
  have hshared : ∃ t, IsBase t (stemOf "sales.tflx") ∧ IsBase t (stemOf "sales_structured_v2.tflx") :=
    ⟨"sales", by decide +kernel, by decide +kernel⟩
  have hkey : packageKey (baseOf "sales.tflx") = packageKey (baseOf "sales_structured_v2.tflx") := by
    by_contra h
    exact ((packages_apart_iff "sales.tflx").2.2.1 "sales_structured_v2.tflx").1 h hshared
  have hname : structureName (stemOf "sales_structured_v2.tflx") = "sales_structured_v2_structured.json" := by
    decide +kernel
  have hpacks := (packages_apart_iff "sales_structured_v2.tflx").1.packs
    (requestFor "sales_structured_v2_structured.json") (by rw [hname]; rfl)
  refine ⟨by decide +kernel, hkey, ?_⟩
  have hok : ((package (requestFor "sales_structured_v2_structured.json")).exec sampleDesk).1.isOk = true := by
    decide +kernel
  cases hv : ((package (requestFor "sales_structured_v2_structured.json")).exec sampleDesk).1 with
  | error f => rw [hv] at hok; cases hok
  | ok v =>
    rw [hkey]
    exact hpacks.stored sampleDesk v hv rfl

end Flow

end ReportMigration
