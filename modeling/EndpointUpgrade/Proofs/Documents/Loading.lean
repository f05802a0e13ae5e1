import EndpointUpgrade.Documents.Loader
import EndpointUpgrade.Proofs.Endpoint.Keys
import EndpointUpgrade.Proofs.Reading.Written
import EndpointUpgrade.Proofs.Yaml.ReadBack
import EndpointUpgrade.Proofs.Yaml.Short

/-!
# Files of written documents

A file that holds the YAML text of documents is loaded as these documents: its bytes are decoded to
the text, in which no line end has to be changed, the text is read, and every document of it is a
mapping. What the documents of records have to be like for this is said by `Yaml.Keeps`.
-/

namespace EndpointUpgrade.Documents

open Document Endpoint Files Text

variable {d : Document} {documents : List Document} {process : Process} {tree : Tree} {path : Path}

/-! ## Texts of files -/

theorem toList_loop (bytes : ByteArray) (i : Nat) (read : List UInt8) :
    ByteArray.toList.loop bytes i read = read.reverse ++ bytes.data.toList.drop i := by
  induction i, read using ByteArray.toList.loop.induct bytes with
  | case1 i read hi ih =>
    have hlength : i < bytes.data.toList.length := hi
    have hget : bytes.get! i = bytes.data.toList[i] := by
      rw [Array.getElem_toList]
      exact getElem!_pos bytes.data i hi
    rw [ByteArray.toList.loop, if_pos hi, ih, List.drop_eq_getElem_cons hlength, hget,
      List.reverse_cons, List.append_assoc, List.singleton_append]
  | case2 i read hi =>
    have hlength : bytes.data.toList.length ≤ i := Nat.not_lt.mp hi
    rw [ByteArray.toList.loop, if_neg hi, List.drop_eq_nil_of_le hlength, List.append_nil]

theorem fromUTF8?_toUTF8 (s : String) : String.fromUTF8? ⟨s.toUTF8.toList.toArray⟩ = some s := by
  have hbytes : s.toUTF8.toList = s.toUTF8.data.toList := toList_loop s.toUTF8 0 []
  rw [hbytes, Array.toArray_toList, String.fromUTF8?]
  exact dif_pos s.isValidUTF8

theorem unixLines_of_notMem {cs : List Char} (h : '\r' ∉ cs) : unixLines cs = cs := by
  induction cs with
  | nil => rfl
  | cons c cs ih =>
    rw [List.mem_cons, not_or] at h
    have hc : c ≠ '\r' := fun eq => h.1 eq.symm
    rw [unixLines]
    · rw [if_neg hc, ih h.2]
    · exact fun _ eq _ => hc eq

/-- A text without carriage returns is decoded from its bytes. -/
theorem decode_toUTF8 {s : String} (h : '\r' ∉ s.toList) : decode s.toUTF8.toList = some s := by
  rw [decode, fromUTF8?_toUTF8, Option.map_some, unixLines_of_notMem h, String.ofList_toList]

theorem return_notMem_write (documents : List Document) : '\r' ∉ (Yaml.write documents).toList := by
  intro hreturn
  exact absurd (Yaml.clean_write documents _ hreturn) (by decide)

/-! ## Documents of files -/

theorem toValue_of_keeps (h : Yaml.Keeps d) : d.toValue = .map d.entries := by
  cases d with
  | mapping es => rw [toValue, entries]
  | text s => exact h.elim
  | number n => exact h.elim
  | list items => exact h.elim

section

variable {order : List Value → List Value}

theorem toValues_eq_map (items : List Document) : toValues items = items.map toValue := by
  induction items with
  | nil => rfl
  | cons d rest ih => rw [toValues, ih, List.map_cons]

theorem allArranged_map {items : List Document}
    (h : ∀ d ∈ items, d.toValue.arranged order = d.toValue) :
    Value.allArranged order (items.map toValue) = items.map toValue := by
  induction items with
  | nil => rfl
  | cons d rest ih =>
    rw [List.forall_mem_cons] at h
    rw [List.map_cons, Value.allArranged, h.1, ih h.2]

theorem entriesArranged_toEntries {es : List (String × Document)}
    (h : ∀ e ∈ es, e.2.toValue.arranged order = e.2.toValue) :
    Value.entriesArranged order (toEntries es) = toEntries es := by
  induction es with
  | nil => rfl
  | cons e rest ih =>
    rw [List.forall_mem_cons] at h
    rw [toEntries, Value.entriesArranged, h.1, ih h.2]

/-- A written document has no sets. -/
theorem arranged_toValue (order : List Value → List Value) (d : Document) :
    d.toValue.arranged order = d.toValue := by
  induction d using Document.induct with
  | text s => rfl
  | number n => rfl
  | list items ih => rw [toValue, toValues_eq_map, Value.arranged, allArranged_map ih]
  | mapping es ih => rw [toValue, Value.arranged, entriesArranged_toEntries ih]

end

theorem mappings_map (position : Nat) (h : ∀ d ∈ documents, d.toValue = .map d.entries) :
    mappings path position (documents.map toValue) = .ok (documents.map entries) := by
  induction documents generalizing position with
  | nil => rfl
  | cons d rest ih =>
    rw [List.map_cons, List.map_cons, h d List.mem_cons_self, mappings,
      ih (position + 1) fun x hx => h x (List.mem_cons_of_mem _ hx)]
    rfl

/-- A file that is there has its content. -/
theorem contentAt_eq_ok {content : List UInt8}
    (h : tree.entry? path = .ok (some (.file content))) : tree.contentAt path = .ok content := by
  unfold Tree.entry? at h
  unfold Tree.contentAt
  split at h
  · next l hlocate =>
    rw [hlocate]
    dsimp only
    rw [Except.ok.inj h]
  · contradiction
  · exact absurd (Except.ok.inj h) nofun

/-- A file that holds the text of documents has the documents that the text is read as. -/
theorem fileDocuments_write (process : Process) {meant : List Document}
    (hsuffix : FileFormat.ofSuffix? path.suffix = some .yaml)
    (hfile : tree.entry? path = .ok (some (.file (Yaml.write documents).toUTF8.toList)))
    (hshallow : Yaml.isShallow (Yaml.write documents) = true)
    (hread : Yaml.read (Yaml.write documents) = .ok (meant.map toValue))
    (hmappings : ∀ d ∈ meant, d.toValue = .map d.entries) :
    fileDocuments process tree path = .ok (meant.map entries) := by
  have hparse : parse process path .yaml (Yaml.write documents).toUTF8.toList =
      .ok (meant.map toValue) := by
    rw [parse, decode_toUTF8 (return_notMem_write documents)]
    dsimp only
    rw [yamlDocuments, process.roomy _ hshallow, hread, if_neg (by decide)]
    dsimp only
    rw [allArranged_map fun d _ => arranged_toValue process.order d]
  rw [fileDocuments, hsuffix]
  dsimp only
  rw [contentAt_eq_ok hfile]
  dsimp only
  rw [hparse]
  exact mappings_map 0 hmappings

theorem load_result {entry : Entry} (h : tree.entry? path = .ok (some entry)) :
    (load process tree path).result = fileDocuments process tree path := by
  rw [load, h]
  dsimp only
  cases fileDocuments process tree path <;> rfl

theorem ofSuffix?_yaml {suffix : String} (h : lower suffix = ".yaml" ∨ lower suffix = ".yml") :
    FileFormat.ofSuffix? suffix = some .yaml := by
  rw [FileFormat.ofSuffix?]
  exact if_pos h

/-! ## Files of records -/

def resourceWithNote (note : String) : V3 where
  metadata := ⟨"node-lab-job-eth0", none, ⟨[(.whole "note", note)], by simp⟩⟩
  spec :=
    { orchestrator := "lab", workload := some "job", node := "node", containerId := "", pod := none
      endpoint := "eth0", networks := [], mappings := [], gateway4 := none, gateway6 := none
      profiles := [], interfaceName := "", mac := none, ports := [] }

theorem pairs_resourceWithNote (note : String) :
    (resourceWithNote note).metadata.labels.pairs = [("note", note)] := rfl

theorem ns_resourceWithNote (note : String) : (resourceWithNote note).metadata.ns = none := rfl

def resourcesPath : Path := ⟨"", ["resources.yaml"]⟩

/-- The file tree that holds the text of a resource. -/
def treeWithResource (r : V3) : Tree :=
  ⟨[], [(["resources.yaml"], .file (Yaml.write [r.document]).toUTF8.toList)]⟩

theorem lower_suffix_resourcesPath : lower resourcesPath.suffix = ".yaml" := by decide +kernel

theorem treeWithResource_holds (r : V3) : Tree.entry? (treeWithResource r) resourcesPath =
    .ok (some (.file (Yaml.write [r.document]).toUTF8.toList)) := rfl

/-- A YAML file with the text of records is loaded as the documents of these records, in order and
entry by entry, if no document loses anything in being written. -/
theorem load_write (process : Process) (tree : Tree) (path : Path) (records : List AnyRecord)
    (hsuffix : lower path.suffix = ".yaml" ∨ lower path.suffix = ".yml")
    (hfile : tree.entry? path =
      .ok (some (.file (Yaml.write (records.map AnyRecord.document)).toUTF8.toList)))
    (hkept : ∀ r ∈ records, Yaml.Keeps r.document) :
    (load process tree path).result = .ok (records.map fun r => r.document.entries) := by
  have hkept' : ∀ d ∈ records.map AnyRecord.document, Yaml.Keeps d := by
    intro d hd
    obtain ⟨r, hr, rfl⟩ := List.mem_map.mp hd
    exact hkept r hr
  have horderly : ∀ d ∈ records.map AnyRecord.document, Yaml.Orderly 16 d := by
    intro d hd
    obtain ⟨r, -, rfl⟩ := List.mem_map.mp hd
    exact r.orderly
  have hdocuments := fileDocuments_write process (ofSuffix?_yaml hsuffix) hfile
    (Yaml.isShallow_write_of_kinds (Yaml.kinds_tokens hkept') horderly)
    (Yaml.read_write hkept' horderly) fun d hd => toValue_of_keeps (hkept' d hd)
  rw [load_result hfile, hdocuments, List.map_map]
  rfl

theorem load_write_lineFeed :
    Yaml.Keeps (resourceWithNote "yes:\n'no'").document ∧
      (load .fresh (treeWithResource (resourceWithNote "yes:\n'no'")) resourcesPath).result =
        .ok [(resourceWithNote "yes:\n'no'").document.entries] := by
  have hkept : Yaml.Keeps (resourceWithNote "yes:\n'no'").document :=
    Yaml.keeps_mapping_of_isShort (by decide)
  exact ⟨hkept, load_write .fresh _ _ [.v3 (resourceWithNote "yes:\n'no'")]
    (Or.inl lower_suffix_resourcesPath) (treeWithResource_holds _)
    (List.forall_mem_singleton.mpr hkept)⟩

/-- The next-line character is written as the end of a line, which is read as a space. -/
theorem load_nextLine :
    (load .fresh (treeWithResource (resourceWithNote "#a\x85b")) resourcesPath).result =
        .ok [(resourceWithNote "#a b").document.entries] ∧
      [(resourceWithNote "#a b").document.entries] ≠
        [(resourceWithNote "#a\x85b").document.entries] := by
  have hkept : Yaml.Keeps (resourceWithNote "#a b").document :=
    Yaml.keeps_mapping_of_isShort (by decide)
  have hkinds : (Yaml.tokens
      ([(resourceWithNote "#a\x85b").document].flatMap Yaml.documentChars)).map (·.kind) =
        Yaml.streamKinds [(resourceWithNote "#a b").document] := by decide +kernel
  have horderly : Yaml.Orderly 16 (resourceWithNote "#a b").document := V3.orderly _
  have hread := Yaml.read_write_of_kinds hkinds
    (List.forall_mem_singleton.mpr (hkept.proper horderly))
  have hshallow := Yaml.isShallow_write_of_kinds hkinds (List.forall_mem_singleton.mpr horderly)
  have hdocuments := fileDocuments_write .fresh
    (ofSuffix?_yaml (Or.inl lower_suffix_resourcesPath))
    (treeWithResource_holds (resourceWithNote "#a\x85b")) hshallow hread
    (List.forall_mem_singleton.mpr (toValue_of_keeps hkept))
  refine ⟨(load_result (treeWithResource_holds _)).trans hdocuments, fun h => ?_⟩
  simp [V3.document, V3.Metadata.document, entries, toEntries, toValue, ofFields, pairs,
    pairs_resourceWithNote, ns_resourceWithNote] at h

end EndpointUpgrade.Documents
