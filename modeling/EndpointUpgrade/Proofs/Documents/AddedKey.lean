import EndpointUpgrade.Proofs.Documents.Failures
import EndpointUpgrade.Proofs.Endpoint.AddedKey

/-!
# Keys added to documents

No key of a document is ignored. A document that is read as a record is refused as soon as one of
its records has a key that no field asks for, whatever the value of the key and wherever it stands,
and the refusal names this key and nothing else. Only for a key with halves of characters that stand
alone it names the record instead.
-/

namespace EndpointUpgrade

open Reading

/-! ## Keys that are taken out first -/

namespace Value

variable {name : String} {key : Value} {before after : List (Value × Value)}

theorem without_around_of_ne (h : key ≠ .text name) (x : Value) :
    without name (before ++ (key, x) :: after) =
      without name before ++ (key, x) :: without name after := by
  unfold without
  rw [List.filter_append, List.filter_cons_of_pos]
  cases key with
  | text s => simpa using h
  | _ => rfl

theorem without_append (es fs : List (Value × Value)) :
    without name (es ++ fs) = without name es ++ without name fs := List.filter_append ..

theorem mem_keys_without {key : String} {es : List (Value × Value)} (h : key ≠ name)
    (hmem : .text key ∈ es.map Prod.fst) : .text key ∈ (without name es).map Prod.fst := by
  obtain ⟨⟨_, v⟩, he, rfl⟩ := List.mem_map.mp hmem
  exact List.mem_map_of_mem (f := Prod.fst) (List.mem_filter.mpr ⟨he, by simpa using h⟩)

theorem lookup?_without_of_ne {key : String} {es : List (Value × Value)} (h : name ≠ key) :
    lookup? name (without key es) = lookup? name es := by
  induction es with
  | nil => rfl
  | cons e es ih =>
    obtain ⟨k, v⟩ := e
    cases k with
    | text s =>
      by_cases hkey : s = key
      · have hne : s ≠ name := fun eq => h (eq.symm.trans hkey)
        rw [without, List.filter_cons_of_neg (by simpa using hkey), lookup?, if_neg hne]
        exact ih
      · rw [without, List.filter_cons_of_pos (by simpa using hkey), lookup?, lookup?]
        split
        · rfl
        · exact ih
    | _ => exact ih

theorem notMem_keys_without {k : Value} {es : List (Value × Value)} (h : k ∉ es.map Prod.fst) :
    k ∉ (without name es).map Prod.fst :=
  fun hmem => h ((List.filter_sublist.map Prod.fst).subset hmem)

end Value

namespace Documents

open Endpoint

variable {known : Net.Masks} {es fs : Entries} {key : Value} {path : List Step}

/-- A key that is foreign to a mapping is foreign to what is left of it when one field is taken
out. -/
theorem foreign_without {head : String} {names : List FieldName}
    (apart : ∀ f ∈ names, head ∉ f.names) (h : Foreign (.only head :: names) es key) :
    key ≠ .text head ∧ Foreign names (Value.without head es) key := by
  cases h with
  | unknown hall =>
    rw [List.forall_mem_cons] at hall
    exact ⟨fun eq => hall.1 (FieldName.mem_names.mpr (.inl (Value.text.inj eq))), .unknown hall.2⟩
  | torn points => exact ⟨nofun, .torn points⟩
  | @twice key f hf hplain hne hwire =>
    cases List.mem_cons.mp hf with
    | inl eq => exact absurd (by rw [eq]; rfl) hne
    | inr hf =>
      have hapart := apart f hf
      rw [FieldName.mem_names, not_or] at hapart
      refine ⟨fun eq => hapart.2 (Value.text.inj eq ▸ hplain), .twice hf hplain hne ?_⟩
      exact Value.mem_keys_without (Ne.symm hapart.1) hwire

/-- A key that is added to a mapping is added to what is left of it when one field is taken out, and
that field stays as it is. -/
theorem addsKey_without {head : String} {fields : List (FieldName × Schema)}
    (apart : ∀ f ∈ fields.map Prod.fst, head ∉ f.names)
    (h : AddsKey key (.record ((.only head, .leaf) :: fields)) path (.map es) (.map fs)) :
    AddsKey key (.record fields) path (.map (Value.without head es))
        (.map (Value.without head fs)) ∧
      Value.lookup? head fs = Value.lookup? head es := by
  cases h with
  | here x hforeign =>
    obtain ⟨hne, hrest⟩ := foreign_without apart hforeign
    rw [Value.without_append] at hrest
    rw [Value.without_append, Value.without_around_of_ne hne, Value.lookup?_around_of_ne hne]
    exact ⟨.here x hrest, rfl⟩
  | @field _ f inner name path v w before after hmem hname habsent hinner =>
    cases List.mem_cons.mp hmem with
    | inl eq =>
      -- the field that is taken out holds no record
      rw [(Prod.mk.inj eq).2] at hinner
      contradiction
    | inr hmem =>
      have hf : f ∈ fields.map Prod.fst := List.mem_map_of_mem (f := Prod.fst) hmem
      have hne : Value.text name ≠ .text head := fun eq => apart f hf (Value.text.inj eq ▸ hname)
      rw [Value.without_around_of_ne hne, Value.without_around_of_ne hne,
        Value.lookup?_around_of_ne hne, Value.lookup?_around_of_ne hne]
      exact ⟨.field hmem hname (Value.notMem_keys_without habsent) hinner, rfl⟩

/-! ## Documents -/

namespace Record

def recordName : Record → String
  | .v1 _ => V1.recordName
  | .stored _ => Stored.recordName

def fields : Record → List (FieldName × Schema)
  | .v1 _ => V1.fields
  | .stored _ => Stored.fields

/-- A document has a kind and a version besides the fields of its record. -/
def schema (r : Record) : Schema :=
  .record ((.only kindKey, .leaf) :: (.only versionKey, .leaf) :: r.fields)

/-- The refusal of a document for a key that no field asks for. -/
def refusal (r : Record) (path : List Step) (key : Value) : Failure :=
  .invalidBody r.kind ⟨r.recordName, [foreignIssue path key]⟩

/-- No field of a record is called like the kind or the version of its document. -/
theorem apart_fields (r : Record) :
    ∀ f ∈ r.fields.map Prod.fst, kindKey ∉ f.names ∧ versionKey ∉ f.names := by
  have hv1 : ∀ f ∈ V1.fields.map Prod.fst, kindKey ∉ f.names ∧ versionKey ∉ f.names := by decide
  have hstored : ∀ f ∈ Stored.fields.map Prod.fst, kindKey ∉ f.names ∧ versionKey ∉ f.names := by
    decide
  cases r with
  | v1 e => exact hv1
  | stored e => exact hstored

end Record

/-- Where a key is added to a document, it is added to the body, and kind and version stay as they
are. -/
theorem addsKey_body {r : Record} (h : AddsKey key r.schema path (.map es) (.map fs)) :
    AddsKey key (.record r.fields) path (.map (body es)) (.map (body fs)) ∧
      kindOf fs = kindOf es ∧ versionOf fs = versionOf es := by
  have hne : versionKey ≠ kindKey := by decide
  have hkinds : ∀ f ∈ ((FieldName.only versionKey, Schema.leaf) :: r.fields).map Prod.fst,
      kindKey ∉ f.names :=
    List.forall_mem_cons.mpr ⟨by decide, fun f hf => (r.apart_fields f hf).1⟩
  obtain ⟨hadds, hkind⟩ := addsKey_without hkinds h
  obtain ⟨hadds, hversion⟩ := addsKey_without (fun f hf => (r.apart_fields f hf).2) hadds
  rw [Value.lookup?_without_of_ne hne, Value.lookup?_without_of_ne hne] at hversion
  unfold kindOf versionOf
  rw [hkind, hversion]
  exact ⟨hadds, rfl, rfl⟩

/-- A document states the kind of its record, and its body is read as the record where some masks
are known. -/
inductive Holds (known : Net.Masks) (es : Entries) : Record → Prop
  | v1 {e : V1} : kindOf es = .text V1.kind → versionOf es = .text V1.apiVersion →
      V1.read known (.map (body es)) = .ok e → Holds known es (.v1 e)
  | stored {e : Stored} : kindOf es = .text Stored.kind →
      Stored.read known (.map (body es)) = .ok e → Holds known es (.stored e)

theorem rejected_map_eq_ok {α β : Type} {kind name : String} {x : Checked α} {f : α → β} {b : β}
    (h : (rejected kind x name).map f = .ok b) : ∃ a, x = .ok a ∧ f a = b := by
  cases x with
  | ok a => exact ⟨a, rfl, Except.ok.inj h⟩
  | _ => contradiction

theorem holds_of_record {r : Record} (h : record known es = .ok r) : Holds known es r := by
  cases hkey : (kindOf es).unkeyable? with
  | some part =>
    rw [record_of_unkeyable hkey] at h
    contradiction
  | none =>
    by_cases hv1 : kindOf es = .text V1.kind
    · by_cases hversion : versionOf es = .text V1.apiVersion
      · rw [record_of_v1 hv1 hversion] at h
        obtain ⟨e, hbody, rfl⟩ := rejected_map_eq_ok h
        exact .v1 hv1 hversion hbody
      · rw [record_of_version hv1 hversion] at h
        contradiction
    · by_cases hstored : kindOf es = .text Stored.kind
      · rw [record_of_stored hstored] at h
        obtain ⟨e, hbody, rfl⟩ := rejected_map_eq_ok h
        exact .stored hstored hbody
      · rw [record_of_kind hkey hv1 hstored] at h
        contradiction

/-- A document that is read is refused for every key that is added to one of its records and that no
field asks for: with a report on a document that cannot be loaded, and with a single issue, which is
found at this key, or at the record if the key is torn. -/
theorem readRecord_of_addedKey {r : Record} (hread : (readRecord known es).result = .ok r)
    (h : AddsKey key r.schema path (.map es) (.map fs)) :
    (readRecord known fs).result = .error (r.refusal path key) ∧
      (r.refusal path key).report?.map Report.kind = some .documentLoad := by
  refine ⟨?_, rfl⟩
  rw [readRecord_result] at hread ⊢
  obtain ⟨hbody, hkind, hversion⟩ := addsKey_body h
  cases holds_of_record hread with
  | v1 hk hv hok =>
    rw [record_of_v1 (hkind.trans hk) (hversion.trans hv), V1.detects_read known hok hbody]
    rfl
  | stored hk hok =>
    rw [record_of_stored (hkind.trans hk), Stored.detects_read known hok hbody]
    rfl

def mappingDocument (mapping : Entries) : Entries :=
  [(.text kindKey, .text V1.kind), (.text versionKey, .text V1.apiVersion),
    (.text "metadata", .map
      [(.text "name", .text "eth0"), (.text "workload", .text "job"),
        (.text "orchestrator", .text "lab"), (.text "node", .text "node-a")])] ++
    [(.text "spec", .map [(.text "ipNATs", .list [.map mapping])])]

/-- The mapping gives both addresses under their names in documents. -/
def mappedAddresses : Entries :=
  [(.text "internalIP", .text "10.0.0.1")] ++ [(.text "externalIP", .text "172.0.0.1")]

/-- The inner address is given once more, under its plain name. -/
def addressTwice : Entries :=
  [(.text "internalIP", .text "10.0.0.1")] ++
    (.text "internal_ip", .null) :: [(.text "externalIP", .text "172.0.0.1")]

def mappedEndpoint : V1 :=
  ⟨⟨⟨"node-a", "lab", "job", "eth0"⟩, "", ∅⟩,
    { V1.Spec.empty with mappings := [⟨.v4 ⟨10, 0, 0, 1⟩, .v4 ⟨172, 0, 0, 1⟩⟩] }⟩

theorem addsKey_addressTwice :
    AddsKey (.text "internal_ip") (Record.v1 mappedEndpoint).schema
      [.field "spec", .field "ipNATs", .index 0] (.map (mappingDocument mappedAddresses))
      (.map (mappingDocument addressTwice)) := by
  have hpair : AddsKey (.text "internal_ip") (AddressPair.schema .v1) [] (.map mappedAddresses)
      (.map addressTwice) := by
    apply AddsKey.here
    apply Foreign.twice (f := AddressPair.Shape.v1.internal)
    · exact List.mem_cons_self
    · rfl
    · decide
    · exact List.mem_cons_self
  have hlist : AddsKey (.text "internal_ip") (.items (AddressPair.schema .v1)) [.index 0]
      (.list [.map mappedAddresses]) (.list [.map addressTwice]) :=
    @AddsKey.item _ _ .list [] _ _ [] [] .list hpair
  have hspec : AddsKey (.text "internal_ip") V1.Spec.schema [.field "ipNATs", .index 0]
      (.map [(.text "ipNATs", .list [.map mappedAddresses])])
      (.map [(.text "ipNATs", .list [.map addressTwice])]) :=
    @AddsKey.field _ _ V1.Spec.mappingsField _ _ _ _ _ [] [] (by simp) List.mem_cons_self
      List.not_mem_nil hlist
  exact .field (f := V1.specField) (by simp [Record.fields, V1.fields]) List.mem_cons_self
    (by simp [kindKey, versionKey]) hspec

theorem readRecord_of_addedKey_addressTwice :
    (readRecord .empty (mappingDocument mappedAddresses)).result = .ok (.v1 mappedEndpoint) ∧
      AddsKey (.text "internal_ip") (Record.v1 mappedEndpoint).schema
        [.field "spec", .field "ipNATs", .index 0] (.map (mappingDocument mappedAddresses))
        (.map (mappingDocument addressTwice)) ∧
      (readRecord .empty (mappingDocument addressTwice)).result =
        .error (.invalidBody "workloadEndpoint" ⟨"WorkloadEndpointV1",
          [⟨[.field "spec", .field "ipNATs", .index 0, .field "internal_ip"], .extra⟩]⟩) := by
  have hread : (readRecord .empty (mappingDocument mappedAddresses)).result =
      .ok (.v1 mappedEndpoint) := rfl
  exact ⟨hread, addsKey_addressTwice, (readRecord_of_addedKey hread addsKey_addressTwice).1⟩

/-- Half of a character as a further key of the mapping. -/
def tornMapping : Entries := (.tornText [0xD800], .null) :: mappedAddresses

/-- A torn key is found at the record that has it, and not at the key. -/
theorem readRecord_tornMapping :
    (readRecord .empty (mappingDocument mappedAddresses)).result = .ok (.v1 mappedEndpoint) ∧
      (readRecord .empty (mappingDocument tornMapping)).result =
        .error (.invalidBody "workloadEndpoint" ⟨"WorkloadEndpointV1",
          [⟨[.field "spec", .field "ipNATs", .index 0], .noUnicode⟩]⟩) ∧
      Reading.Fault.noUnicode ≠ .extra := ⟨rfl, rfl, nofun⟩

end Documents

end EndpointUpgrade
