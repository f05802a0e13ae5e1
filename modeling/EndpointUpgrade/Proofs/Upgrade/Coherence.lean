import EndpointUpgrade.Proofs.Identity.Recovery
import EndpointUpgrade.Proofs.Reading.Written
import EndpointUpgrade.Proofs.Upgrade.Resource

/-!
# Resources that agree with themselves

The name of a resource, its namespace, its host and its workload are made apart from each other. They
agree all the same: the name consists of the fields of the payload, the namespace and the pod stand
in the document exactly for `k8s` and the workload exactly for every other orchestrator, and together
they give back the key that the resource comes from, up to the case of the host.
-/

namespace EndpointUpgrade

open Document

/-- The part of a value that is found by going down from key to key. -/
def Value.atPath? : List String → Value → Option Value
  | [], v => some v
  | key :: path, .map entries => (Value.lookup? key entries).bind (atPath? path)
  | _ :: _, _ => none

/-- A field without a value is no key of the document, and one with a value is, whatever it is. -/
theorem atPath?_ofFields {fields : List Field} (name : String) {d : Option Document}
    (distinct : (fields.map Prod.fst).Nodup) (h : (name, d) ∈ fields) (path : List String) :
    (ofFields fields).toValue.atPath? (name :: path) =
      (d.map toValue).bind (Value.atPath? path) := by
  rw [toValue_ofFields, Value.atPath?, lookup?_of_mem distinct h]

/-- An optional text is a key of the document exactly if there is one, be it empty. -/
theorem isSome_optionalText {fields : List Field} (name : String) {s : Option String}
    (distinct : (fields.map Prod.fst).Nodup) (h : (name, s.map .text) ∈ fields) :
    ((ofFields fields).toValue.atPath? [name]).isSome = s.isSome := by
  rw [atPath?_ofFields name distinct h]
  cases s <;> rfl

namespace Upgrade

open Endpoint Identity Text

/-! ## Fields that a document has or has not -/

section Document

variable (r : V3)

theorem document_eq_ofFields : r.document = .ofFields
    [("apiVersion", some (.text V3.apiVersion)), ("kind", some (.text V3.kind)),
      (V3.metadataField.wire, some r.metadata.document),
      (V3.specField.wire, some r.spec.document)] := rfl

theorem atPath?_metadata (path : List String) :
    r.document.toValue.atPath? ("metadata" :: path) = r.metadata.document.toValue.atPath? path := by
  rw [document_eq_ofFields]
  exact atPath?_ofFields V3.metadataField.wire (d := some r.metadata.document)
    (by simp only [List.map_cons, List.map_nil]; decide) (by simp) path

theorem atPath?_spec (path : List String) :
    r.document.toValue.atPath? ("spec" :: path) = r.spec.document.toValue.atPath? path := by
  rw [document_eq_ofFields]
  exact atPath?_ofFields V3.specField.wire (d := some r.spec.document)
    (by simp only [List.map_cons, List.map_nil]; decide) (by simp) path

theorem isSome_namespace :
    (r.document.toValue.atPath? ["metadata", "namespace"]).isSome = r.metadata.ns.isSome := by
  rw [atPath?_metadata, V3.Metadata.document]
  exact isSome_optionalText V3.Metadata.nsField.wire
    (by simp only [List.map_cons, List.map_nil]; decide) (by simp)

theorem isSome_pod :
    (r.document.toValue.atPath? ["spec", "pod"]).isSome = r.spec.pod.isSome := by
  rw [atPath?_spec, V3.Spec.document]
  exact isSome_optionalText V3.Spec.podField.wire
    (by simp only [List.map_cons, List.map_nil]; decide) (by simp)

theorem isSome_workload :
    (r.document.toValue.atPath? ["spec", "workload"]).isSome = r.spec.workload.isSome := by
  rw [atPath?_spec, V3.Spec.document]
  exact isSome_optionalText V3.Spec.workloadField.wire
    (by simp only [List.map_cons, List.map_nil]; decide) (by simp)

end Document

/-! ## What a resource shows of its key -/

/-- The workload that a resource shows: for `k8s` its pod, for every other orchestrator its
workload, beside the namespace if it has one. -/
def shownWorkload? (r : V3) : Option Workload :=
  (if r.spec.orchestrator = k8s then r.spec.pod else r.spec.workload).map fun name =>
    ⟨r.metadata.ns, name⟩

def shownKey? (r : V3) : Option Identifiers :=
  (shownWorkload? r).map fun w => ⟨r.spec.node, r.spec.orchestrator, w.id, r.spec.endpoint⟩

section Resource

variable {e : Stored} {w : Workload}

theorem shownWorkload?_resourceOf : shownWorkload? (resourceOf e w) = some w := by
  unfold shownWorkload? resourceOf
  dsimp only
  split <;> rfl

theorem shownKey?_resourceOf (h : w.id = e.key.workloadId) :
    shownKey? (resourceOf e w) = some e.key.lowered := by
  rw [shownKey?, shownWorkload?_resourceOf, Option.map_some, h]
  rfl

theorem name_resourceOf : (resourceOf e w).metadata.name =
    lower e.key.host ++ "-" ++ e.key.orchestrator ++ "-" ++ escape w.name ++ "-" ++
      e.key.endpointId := by
  apply String.toList_injective
  change (nameOf e.key.host e.key.orchestrator w.name e.key.endpointId).toList = _
  simp [toList_nameOf, escape]

theorem isSome_ns_iff (h : w.Fits e.key.orchestrator) :
    w.ns.isSome ↔ e.key.orchestrator = k8s := by
  unfold Workload.Fits at h
  cases hns : w.ns with
  | none =>
    rw [hns] at h
    exact iff_of_false nofun h
  | some ns =>
    rw [hns] at h
    exact iff_of_true rfl h.1

end Resource

/-- The name of a resource consists of the host, the orchestrator, the workload with its hyphens
doubled and the endpoint id, as its payload has them. Its document has a namespace and a pod exactly
for `k8s` and a workload exactly for every other orchestrator, also if these are empty. It shows the
key that it comes from, with the host in lower case. -/
theorem resource_shows_key (e : Stored) (r : V3) (h : (toResource e).result = .ok r) :
    (∃ w, shownWorkload? r = some w ∧
        r.metadata.name = r.spec.node ++ "-" ++ r.spec.orchestrator ++ "-" ++ escape w.name ++
          "-" ++ r.spec.endpoint) ∧
      ((r.document.toValue.atPath? ["metadata", "namespace"]).isSome ↔
        r.spec.orchestrator = k8s) ∧
      ((r.document.toValue.atPath? ["spec", "pod"]).isSome ↔ r.spec.orchestrator = k8s) ∧
      ((r.document.toValue.atPath? ["spec", "workload"]).isSome ↔ r.spec.orchestrator ≠ k8s) ∧
      shownKey? r = some e.key.lowered := by
  obtain ⟨w, hw, rfl⟩ := toResource_result_eq_ok_iff.mp h
  obtain ⟨hfits, hid⟩ := decodeWorkloadId_eq_ok_iff.mp hw
  refine ⟨⟨w, shownWorkload?_resourceOf, name_resourceOf⟩, ?_, ?_, ?_, shownKey?_resourceOf hid⟩
  · rw [isSome_namespace]
    exact isSome_ns_iff hfits
  · rw [isSome_pod]
    by_cases hk : e.key.orchestrator = k8s <;> simp [resourceOf, hk]
  · rw [isSome_workload]
    by_cases hk : e.key.orchestrator = k8s <;> simp [resourceOf, hk]

/-- An endpoint whose namespace and pod are empty. -/
def namelessPod : Stored := storedUnder ⟨"NODE-A", "k8s", ".", "eth0"⟩

theorem resource_shows_key_namelessPod :
    (toResource namelessPod).result = .ok (resourceOf namelessPod ⟨some "", ""⟩) ∧
      (∃ w, shownWorkload? (resourceOf namelessPod ⟨some "", ""⟩) = some w ∧
        nameOf "NODE-A" "k8s" "" "eth0" =
          lower "NODE-A" ++ "-" ++ "k8s" ++ "-" ++ escape w.name ++ "-" ++ "eth0") ∧
      ((resourceOf namelessPod ⟨some "", ""⟩).document.toValue.atPath?
        ["metadata", "namespace"]).isSome ∧
      ((resourceOf namelessPod ⟨some "", ""⟩).document.toValue.atPath? ["spec", "pod"]).isSome ∧
      ¬((resourceOf namelessPod ⟨some "", ""⟩).document.toValue.atPath?
        ["spec", "workload"]).isSome ∧
      shownKey? (resourceOf namelessPod ⟨some "", ""⟩) =
        some ⟨lower "NODE-A", "k8s", ".", "eth0"⟩ := by
  have h : (toResource namelessPod).result = .ok (resourceOf namelessPod ⟨some "", ""⟩) :=
    toResource_result_eq_ok_iff.mpr ⟨⟨some "", ""⟩, rfl, rfl⟩
  obtain ⟨hname, hns, hpod, hworkload, hkey⟩ := resource_shows_key _ _ h
  exact ⟨h, hname, hns.mpr rfl, hpod.mpr rfl, fun hsome => hworkload.mp hsome rfl, hkey⟩

end Upgrade

end EndpointUpgrade
