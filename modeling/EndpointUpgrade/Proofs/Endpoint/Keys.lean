import EndpointUpgrade.Endpoint.AnyRecord
import EndpointUpgrade.Proofs.Labels
import EndpointUpgrade.Proofs.Yaml.Values

/-!
# Keys and levels of the documents of records

No mapping in the document of a record has a key twice: the fields of a record have different names,
and labels have each key once. A record holds records in lists, and these hold no others, so that
its document has few levels.
-/

namespace EndpointUpgrade

open Document Yaml

namespace Yaml.Orderly

variable {n : Nat}

theorem listOf {β : Type} {write : β → Document} (h : ∀ b, Orderly n (write b)) (bs : List β) :
    Orderly (n + 1) (.list (bs.map write)) := by
  refine .list fun d hd => ?_
  obtain ⟨b, -, rfl⟩ := List.mem_map.mp hd
  exact h b

theorem ofTexts (ss : List String) : Orderly (n + 1) (texts ss) := listOf .text ss

theorem ofLabels (ls : Labels) : Orderly (n + 1) (pairs ls.pairs) := by
  have hkeys : (ls.pairs.map fun e => (e.1, Document.text e.2)).map Prod.fst =
      ls.pairs.map Prod.fst := by
    rw [List.map_map]
    rfl
  refine .mapping (hkeys ▸ ls.nodup_pairs) fun e he => ?_
  obtain ⟨label, -, rfl⟩ := List.mem_map.mp he
  exact .text label.2

theorem keys_ofFields_sublist (fields : List Field) :
    ((fields.filterMap fun f => f.2.map fun d => (f.1, d)).map Prod.fst).Sublist
      (fields.map Prod.fst) := by
  induction fields with
  | nil => exact .slnil
  | cons field fields ih =>
    obtain ⟨name, d | d⟩ := field
    · exact ih.cons name
    · exact ih.cons_cons name

/-- The fields that have a value have different names if all fields have. -/
theorem ofFields {fields : List Field} (hnames : (fields.map Prod.fst).Nodup)
    (h : ∀ f ∈ fields, ∀ d ∈ f.2, Orderly n d) : Orderly (n + 1) (ofFields fields) := by
  refine .mapping (hnames.sublist (keys_ofFields_sublist fields)) fun e he => ?_
  obtain ⟨field, hfield, hsome⟩ := List.mem_filterMap.mp he
  obtain ⟨d, hd, rfl⟩ := Option.map_eq_some_iff.mp hsome
  exact h field hfield d hd

theorem ofOption {β : Type} {write : β → Document} (h : ∀ b, Orderly n (write b))
    (value : Option β) : ∀ d ∈ value.map write, Orderly n d := by
  intro d hd
  obtain ⟨b, -, rfl⟩ := Option.map_eq_some_iff.mp hd
  exact h b

theorem ofSome {d : Document} (h : Orderly n d) : ∀ x ∈ some d, Orderly n x := by
  intro x hx
  exact Option.some.inj hx ▸ h

end Yaml.Orderly

namespace Endpoint

open Orderly

variable {n : Nat}

theorem AddressPair.orderly {α : Type} {shape : Shape} (write : α → String)
    (hnames : shape.internal.wire ≠ shape.external.wire) (m : AddressPair α) :
    Orderly (n + 1) (m.document shape write) := by
  refine .mapping (by simpa using hnames) ?_
  simp only [List.forall_mem_cons]
  exact ⟨.text _, .text _, nofun⟩

theorem Port.orderly (p : Port) : Orderly (n + 1) p.document := by
  have hprotocol : Orderly n p.protocol.document := by
    cases p.protocol with
    | name s => exact .text s
    | number k => exact .number k
  refine .mapping (by simp) ?_
  simp only [List.forall_mem_cons]
  exact ⟨.text _, hprotocol, .number _, nofun⟩

theorem V1.Metadata.orderly (m : V1.Metadata) : Orderly (n + 2) m.document := by
  refine .mapping (by simp only [List.map_cons, List.map_nil]; decide) ?_
  simp only [List.forall_mem_cons]
  exact ⟨.text _, .text _, .text _, .text _, .text _, ofLabels _, nofun⟩

theorem V1.Spec.orderly (s : V1.Spec) : Orderly (n + 3) s.document := by
  refine ofFields (by simp only [List.map_cons, List.map_nil]; decide) ?_
  simp only [List.forall_mem_cons]
  exact ⟨ofSome (ofTexts _), ofSome (listOf (AddressPair.orderly _ (by decide)) _),
    ofOption (fun _ => .text _) _, ofOption (fun _ => .text _) _, ofSome (ofTexts _),
    ofSome (.text _), ofOption (fun _ => .text _) _, ofSome (listOf Port.orderly _), nofun⟩

theorem V1.orderly (e : V1) : Orderly (n + 4) e.document := by
  refine .mapping (by simp only [List.map_cons, List.map_nil]; decide) ?_
  simp only [List.forall_mem_cons]
  exact ⟨.text _, .text _, e.metadata.orderly, e.spec.orderly, nofun⟩

theorem Stored.Key.orderly (i : Identity.Identifiers) :
    Orderly (n + 1) (Stored.Key.document i) := by
  refine .mapping (by simp only [List.map_cons, List.map_nil]; decide) ?_
  simp only [List.forall_mem_cons]
  exact ⟨.text _, .text _, .text _, .text _, nofun⟩

theorem Stored.Value.orderly (v : Stored.Value) : Orderly (n + 3) v.document := by
  have hmappings (ms : List Mapping) : Orderly (n + 2) (mappingsDocument ms) :=
    listOf (AddressPair.orderly _ (by decide)) ms
  refine ofFields (by simp only [List.map_cons, List.map_nil]; decide) ?_
  simp only [List.forall_mem_cons]
  exact ⟨ofSome (.text _), ofSome (.text _), ofSome (.text _), ofOption (fun _ => .text _) _,
    ofSome (ofTexts _), ofSome (ofTexts _), ofSome (ofTexts _), ofSome (hmappings _),
    ofSome (hmappings _), ofSome (ofLabels _), ofOption (fun _ => .text _) _,
    ofOption (fun _ => .text _) _, ofSome (listOf Port.orderly _), nofun⟩

theorem Stored.orderly (e : Stored) : Orderly (n + 4) e.document := by
  refine .mapping (by simp only [List.map_cons, List.map_nil]; decide) ?_
  simp only [List.forall_mem_cons]
  exact ⟨.text _, Key.orderly e.key, e.value.orderly, nofun⟩

theorem V3.Metadata.orderly (m : V3.Metadata) : Orderly (n + 2) m.document := by
  refine ofFields (by simp only [List.map_cons, List.map_nil]; decide) ?_
  simp only [List.forall_mem_cons]
  exact ⟨ofSome (.text _), ofOption .text _, ofSome (ofLabels _), nofun⟩

theorem V3.Spec.orderly (s : V3.Spec) : Orderly (n + 3) s.document := by
  refine ofFields (by simp only [List.map_cons, List.map_nil]; decide) ?_
  simp only [List.forall_mem_cons]
  exact ⟨ofSome (.text _), ofOption .text _, ofSome (.text _), ofSome (.text _),
    ofOption .text _, ofSome (.text _), ofSome (ofTexts _),
    ofSome (listOf (AddressPair.orderly _ (by decide)) _), ofOption .text _,
    ofOption .text _, ofSome (ofTexts _), ofSome (.text _), ofOption .text _,
    ofSome (listOf Port.orderly _), nofun⟩

theorem V3.orderly (r : V3) : Orderly (n + 4) r.document := by
  refine .mapping (by simp only [List.map_cons, List.map_nil]; decide) ?_
  simp only [List.forall_mem_cons]
  exact ⟨.text _, .text _, r.metadata.orderly, r.spec.orderly, nofun⟩

/-- No mapping in the document of a record has a key twice, and at most four collections are within
each other. -/
theorem AnyRecord.orderly (r : AnyRecord) : Orderly (n + 4) r.document := by
  cases r with
  | port p => exact p.orderly
  | mappingV1 m => exact AddressPair.orderly _ (by decide) m
  | metadataV1 m => exact m.orderly
  | specV1 s => exact s.orderly
  | v1 e => exact e.orderly
  | storedMapping m => exact AddressPair.orderly _ (by decide) m
  | storedKey i => exact Stored.Key.orderly i
  | storedValue v => exact v.orderly
  | stored e => exact e.orderly
  | mappingV3 m => exact AddressPair.orderly _ (by decide) m
  | metadataV3 m => exact m.orderly
  | specV3 s => exact s.orderly
  | v3 r => exact r.orderly

end Endpoint

end EndpointUpgrade
