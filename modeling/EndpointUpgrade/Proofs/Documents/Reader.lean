import EndpointUpgrade.Documents.Reader
import EndpointUpgrade.Proofs.Endpoint.RoundTrip

/-!
# Records read back from their documents

The document of a record states the kind and the version that reading looks for, and its body is
read as an equal record, labels in their order included, if no half of a character stands alone in
a key of its labels. In every case the record that is read has the same document again.
-/

namespace EndpointUpgrade.Documents

open Endpoint Reading Document

theorem toValue_document_v1 (e : V1) :
    e.document.toValue = .map ((.text versionKey, .text V1.apiVersion) ::
      (.text kindKey, .text V1.kind) :: e.bodyEntries) := by
  rw [V1.document, toValue_mapping]
  rfl

theorem toValue_document_stored (e : Stored) :
    e.document.toValue = .map ((.text kindKey, .text Stored.kind) :: e.bodyEntries) := by
  rw [Stored.document, toValue_mapping]
  rfl

theorem entries_of_toValue {d : Document} {es : Entries} (h : d.toValue = .map es) :
    d.entries = es := by
  cases d with
  | mapping fields =>
    rw [toValue, Value.map.injEq] at h
    exact h
  | text s => rw [toValue] at h; exact absurd h (by simp)
  | number n => rw [toValue] at h; exact absurd h (by simp)
  | list items => rw [toValue] at h; exact absurd h (by simp)

theorem record_document_v1 (known : Net.Masks) (e : V1) :
    record known e.document.entries = .ok (.v1 e.shown) := by
  have hbody : rejected V1.kind (V1.read known (.map e.bodyEntries)) V1.recordName =
      .ok e.shown := by
    rw [V1.read_bodyEntries]
    rfl
  rw [entries_of_toValue (toValue_document_v1 e), record]
  change (rejected V1.kind (V1.read known (.map e.bodyEntries)) V1.recordName >>= fun e =>
    pure (Record.v1 e)) = _
  rw [hbody]
  rfl

theorem record_document_stored (known : Net.Masks) (e : Stored) :
    record known e.document.entries = .ok (.stored e.shown) := by
  have hbody : rejected Stored.kind (Stored.read known (.map e.bodyEntries)) Stored.recordName =
      .ok e.shown := by
    rw [Stored.read_bodyEntries]
    rfl
  rw [entries_of_toValue (toValue_document_stored e), record]
  change (rejected Stored.kind (Stored.read known (.map e.bodyEntries)) Stored.recordName >>=
    fun e => pure (Record.stored e)) = _
  rw [hbody]
  rfl

namespace Record

/-- The record with prefix lengths as numbers. Records are equal if they are the same in this
form. -/
def plain : Record → Record
  | .v1 e => .v1 e.plain
  | .stored e => .stored e.plain

def shown : Record → Record
  | .v1 e => .v1 e.shown
  | .stored e => .stored e.shown

def HasWholeKeys : Record → Prop
  | .v1 e => e.metadata.labels.WholeKeys
  | .stored e => e.value.labels.WholeKeys

theorem plain_shown_eq_iff (r : Record) : r.shown.plain = r.plain ↔ r.HasWholeKeys := by
  cases r with
  | v1 e => exact (v1.injEq ..).to_iff.trans V1.plain_shown_eq_iff
  | stored e => exact (stored.injEq ..).to_iff.trans Stored.plain_shown_eq_iff

theorem document_shown (r : Record) : r.shown.document = r.document := by
  cases r with
  | v1 e => exact e.document_shown
  | stored e => exact e.document_shown

end Record

theorem record_document (known : Net.Masks) (r : Record) :
    record known r.document.entries = .ok r.shown := by
  cases r with
  | v1 e => exact record_document_v1 known e
  | stored e => exact record_document_stored known e

/-- The document of every record is a mapping from which a record with the same document is read,
whatever masks are known. It is equal to the first one, its labels in the same order, exactly if no
half of a character stands alone in a key of the labels. -/
theorem readRecord_document (known : Net.Masks) (r : Record) :
    r.document.toValue = .map r.document.entries ∧
      (readRecord known r.document.entries).result = .ok r.shown ∧
      (r.shown.plain = r.plain ↔ r.HasWholeKeys) ∧
      r.shown.document = r.document := by
  have hvalue : r.document.toValue = .map r.document.entries := by
    cases r with
    | v1 e => exact congrArg Value.map (entries_of_toValue (toValue_document_v1 e)).symm
    | stored e => exact congrArg Value.map (entries_of_toValue (toValue_document_stored e)).symm
  have hresult : (readRecord known r.document.entries).result = .ok r.shown := by
    rw [readRecord, record_document]
    rfl
  exact ⟨hvalue, hresult, r.plain_shown_eq_iff, r.document_shown⟩

def labelledDocument (key : Value) : Entries :=
  [(.text versionKey, .text V1.apiVersion), (.text kindKey, .text V1.kind),
    (.text "metadata", .map
      [(.text "name", .text "eth0"), (.text "workload", .text "job"),
        (.text "orchestrator", .text "lab"), (.text "node", .text "node"),
        (.text "labels", .map [(key, .text "web")])])]

def labelledEndpoint (key : Text.RawText) : V1 :=
  ⟨⟨⟨"node", "lab", "job", "eth0"⟩, "", .ofPairs [(key, "web")]⟩, .empty⟩

/-- A half of a character in the key of a label is not what its document is read back as. -/
theorem readRecord_document_tornKey :
    (readRecord .empty (labelledDocument (.tornText [0xD800]))).result =
        .ok (.v1 (labelledEndpoint (.torn [0xD800]))) ∧
      (readRecord .empty (labelledEndpoint (.torn [0xD800])).document.entries).result =
        .ok (.v1 (labelledEndpoint (.whole "\uFFFD\uFFFD\uFFFD"))) ∧
      (labelledEndpoint (.whole "\uFFFD\uFFFD\uFFFD")).plain ≠
        (labelledEndpoint (.torn [0xD800])).plain := by
  have hshown : (labelledEndpoint (.torn [0xD800])).shown =
      labelledEndpoint (.whole "\uFFFD\uFFFD\uFFFD") := by decide +kernel
  refine ⟨rfl, ?_, ?_⟩
  · rw [readRecord, record_document_v1, hshown]
    rfl
  · rw [← hshown, Ne, V1.plain_shown_eq_iff]
    decide

end EndpointUpgrade.Documents
