import EndpointUpgrade.Endpoint.AnyRecord
import EndpointUpgrade.Proofs.Net.Mac
import EndpointUpgrade.Proofs.Upgrade.Merging
import EndpointUpgrade.Proofs.Upgrade.Renaming
import EndpointUpgrade.Proofs.Upgrade.Resource

/-!
# What a resource forgets

Two stored endpoints become the same resource exactly if they are alike: they may differ in the case
of the host, in the scopes of IPv6 networks, in the two ways to name the profile of a namespace, in
labels that become the same and in the state. The key is found again in the payload and the
namespace, although the name alone does not determine it. Networks are alike only if their prefix
lengths were given in the same way.
-/

namespace EndpointUpgrade.Upgrade

open Endpoint Net Identity Text

/-- Stored endpoints that agree in everything that a resource shows. -/
structure Alike (e₁ e₂ : Stored) : Prop where
  host : lower e₁.key.host = lower e₂.key.host
  orchestrator : e₁.key.orchestrator = e₂.key.orchestrator
  workloadId : e₁.key.workloadId = e₂.key.workloadId
  endpointId : e₁.key.endpointId = e₂.key.endpointId
  activeInstanceId : e₁.value.activeInstanceId = e₂.value.activeInstanceId
  interfaceName : e₁.value.interfaceName = e₂.value.interfaceName
  mac : e₁.value.mac = e₂.value.mac
  ports : e₁.value.ports = e₂.value.ports
  gateway4 : e₁.value.gateway4 = e₂.value.gateway4
  gateway6 : e₁.value.gateway6 = e₂.value.gateway6
  mappings4 : e₁.value.mappings.v4 = e₂.value.mappings.v4
  mappings6 : e₁.value.mappings.v6 = e₂.value.mappings.v6
  networks4 : e₁.value.networks.v4 = e₂.value.networks.v4
  networks6 : e₁.value.networks.v6.map Interface.unscoped =
    e₂.value.networks.v6.map Interface.unscoped
  profiles : List.Forall₂ SameProfile e₁.value.profiles e₂.value.profiles
  labels : (labels e₁.value.labels).Same (labels e₂.value.labels)

/-- The workload stands in one field for `k8s` and in another one for everything else. -/
theorem workload_eq_of_fields {orchestrator a b : String}
    (hworkload : (if orchestrator = k8s then none else some a) =
      if orchestrator = k8s then none else some b)
    (hpod : (if orchestrator = k8s then some a else none) =
      if orchestrator = k8s then some b else none) : a = b := by
  split at hpod
  · exact Option.some.inj hpod
  · next hk =>
    rw [if_neg hk, if_neg hk] at hworkload
    exact Option.some.inj hworkload

variable {e₁ e₂ : Stored} {w₁ w₂ : Workload}

theorem alike_of_same
    (hw₁ : decodeWorkloadId e₁.key.orchestrator e₁.key.workloadId = .ok w₁)
    (hw₂ : decodeWorkloadId e₂.key.orchestrator e₂.key.workloadId = .ok w₂)
    (h : (resourceOf e₁ w₁).Same (resourceOf e₂ w₂)) : Alike e₁ e₂ := by
  obtain ⟨⟨-, hns, hlabels⟩, hspec⟩ := h
  simp only [resourceOf, V3.Spec.mk.injEq] at hns hlabels hspec
  obtain ⟨ho, hworkload, hhost, hinstance, hpod, hendpoint, hnetworks, hmappings, hgateway4,
    hgateway6, hprofiles, hinterface, hmac, hports⟩ := hspec
  rw [ho] at hw₁ hworkload hpod
  have hname : w₁.name = w₂.name := workload_eq_of_fields hworkload hpod
  have hid : e₁.key.workloadId = e₂.key.workloadId :=
    workloadId_eq_of_parts hw₁ hw₂ hname fun _ => hns
  obtain ⟨hnetworks4, hnetworks6⟩ := networkTexts_eq_iff.mp hnetworks
  obtain ⟨hmappings4, hmappings6⟩ := ByFamily.eq_iff.mp (mappingTexts_eq_iff.mp hmappings)
  exact
    { host := hhost
      orchestrator := ho
      workloadId := hid
      endpointId := hendpoint
      activeInstanceId := hinstance
      interfaceName := hinterface
      mac := Option.map_injective Mac.text_injective hmac
      ports := hports
      gateway4 := Option.map_injective V4.text_injective hgateway4
      gateway6 := Option.map_injective V6.text_injective hgateway6
      mappings4 := hmappings4
      mappings6 := hmappings6
      networks4 := hnetworks4
      networks6 := hnetworks6
      profiles := map_profileId_eq_iff.mp hprofiles
      labels := hlabels }

theorem same_of_alike
    (hw₁ : decodeWorkloadId e₁.key.orchestrator e₁.key.workloadId = .ok w₁)
    (hw₂ : decodeWorkloadId e₂.key.orchestrator e₂.key.workloadId = .ok w₂)
    (h : Alike e₁ e₂) : (resourceOf e₁ w₁).Same (resourceOf e₂ w₂) := by
  rw [h.orchestrator, h.workloadId] at hw₁
  obtain rfl : w₁ = w₂ := Except.ok.inj (hw₁.symm.trans hw₂)
  have hname : nameOf e₁.key.host e₁.key.orchestrator w₁.name e₁.key.endpointId =
      nameOf e₂.key.host e₂.key.orchestrator w₁.name e₂.key.endpointId := by
    unfold nameOf
    rw [h.host, h.orchestrator, h.endpointId]
  have hnetworks := networkTexts_eq_iff.mpr ⟨h.networks4, h.networks6⟩
  have hmappings := mappingTexts_eq_iff.mpr (ByFamily.eq_iff.mpr ⟨h.mappings4, h.mappings6⟩)
  have hprofiles := map_profileId_eq_iff.mpr h.profiles
  refine ⟨⟨hname, rfl, h.labels⟩, ?_⟩
  unfold resourceOf
  rw [V3.Spec.mk.injEq, h.orchestrator, h.host, h.activeInstanceId, h.endpointId, hnetworks,
    hmappings, h.gateway4, h.gateway6, hprofiles, h.interfaceName, h.mac, h.ports]
  simp only [and_self]

theorem eq_of_alike (h : Alike e₁ e₂) (hhost : e₁.key.host = e₂.key.host)
    (hnetworks6 : e₁.value.networks.v6 = e₂.value.networks.v6)
    (hprofiles : e₁.value.profiles = e₂.value.profiles)
    (hlabels : e₁.value.labels = e₂.value.labels) :
    { e₁ with value.state := e₂.value.state } = e₂ := by
  have hnetworks : e₁.value.networks = e₂.value.networks :=
    ByFamily.eq_iff.mpr ⟨h.networks4, hnetworks6⟩
  have hmappings : e₁.value.mappings = e₂.value.mappings :=
    ByFamily.eq_iff.mpr ⟨h.mappings4, h.mappings6⟩
  obtain ⟨⟨host₁, orchestrator₁, workloadId₁, endpointId₁⟩, value₁⟩ := e₁
  obtain ⟨⟨host₂, orchestrator₂, workloadId₂, endpointId₂⟩, value₂⟩ := e₂
  cases value₁
  cases value₂
  simp only [Stored.mk.injEq, Identifiers.mk.injEq, Stored.Value.mk.injEq, true_and]
  exact ⟨⟨hhost, h.orchestrator, h.workloadId, h.endpointId⟩, h.interfaceName,
    h.activeInstanceId, h.mac, hprofiles, hnetworks, hmappings, hlabels, h.gateway4, h.gateway6,
    h.ports⟩

/-- Two stored endpoints become the same resource exactly if they are alike. If they also agree in
what a resource shows incompletely, they can only differ in the state, which it does not show. -/
theorem same_iff_alike (e₁ e₂ : Stored) (r₁ r₂ : V3)
    (h₁ : (toResource e₁).result = .ok r₁) (h₂ : (toResource e₂).result = .ok r₂) :
    (r₁.Same r₂ ↔ Alike e₁ e₂) ∧
      (r₁.Same r₂ → e₁.key.host = e₂.key.host → e₁.value.networks.v6 = e₂.value.networks.v6 →
        e₁.value.profiles = e₂.value.profiles → e₁.value.labels = e₂.value.labels →
        { e₁ with value.state := e₂.value.state } = e₂) := by
  obtain ⟨w₁, hw₁, rfl⟩ := toResource_result_eq_ok_iff.mp h₁
  obtain ⟨w₂, hw₂, rfl⟩ := toResource_result_eq_ok_iff.mp h₂
  refine ⟨⟨alike_of_same hw₁ hw₂, same_of_alike hw₁ hw₂⟩, ?_⟩
  intro hsame hhost hnetworks6 hprofiles hlabels
  exact eq_of_alike (alike_of_same hw₁ hw₂ hsame) hhost hnetworks6 hprofiles hlabels

def linkLocal : V6 := ⟨[0xFE80, 0, 0, 0, 0, 0, 0, 1], rfl, Scope.ofChars? ['e', 't', 'h', '0']⟩

/-- An endpoint of one network, with what a resource forgets left open. -/
def endpointOn (host state : String) (address : V6) (profile : String)
    (labels : Labels) : Stored where
  key := ⟨host, k8s, "ns.web-1", "eth0"⟩
  value :=
    { state := state, interfaceName := "cali1", activeInstanceId := "", mac := none
      profiles := [profile, "k8s_ns"]
      networks := .ofList Interface.family [.ofNetwork (.ofAddress (.v6 address))]
      mappings := .empty, labels := labels, gateway4 := none, gateway6 := some linkLocal
      ports := [] }

/-- An endpoint with a capital, a scope and the v1 names. -/
def scopedEndpoint : Stored :=
  endpointOn "A" "active" linkLocal "k8s_ns.ns"
    (.ofPairs [(namespaceKeyV1, "ns"), (.whole "app", "web")])

/-- The same endpoint in small letters, without scope and with the v3 names. -/
def unscopedEndpoint : Stored :=
  endpointOn "a" "" linkLocal.unscoped "kns.ns"
    (.ofPairs [(.whole "app", "web"), (namespaceKeyV3, "ns")])

theorem same_iff_alike_scope :
    (toResource scopedEndpoint).result = .ok (resourceOf scopedEndpoint ⟨some "ns", "web-1"⟩) ∧
      (toResource unscopedEndpoint).result =
        .ok (resourceOf unscopedEndpoint ⟨some "ns", "web-1"⟩) ∧
      (resourceOf scopedEndpoint ⟨some "ns", "web-1"⟩).Same
        (resourceOf unscopedEndpoint ⟨some "ns", "web-1"⟩) := by
  have hw : decodeWorkloadId k8s "ns.web-1" = .ok ⟨some "ns", "web-1"⟩ := rfl
  have h₁ := toResource_result_eq_ok_iff (e := scopedEndpoint) |>.mpr ⟨_, hw, rfl⟩
  have h₂ := toResource_result_eq_ok_iff (e := unscopedEndpoint) |>.mpr ⟨_, hw, rfl⟩
  have h : Alike scopedEndpoint unscopedEndpoint :=
    { host := by decide +kernel
      orchestrator := rfl
      workloadId := rfl
      endpointId := rfl
      activeInstanceId := rfl
      interfaceName := rfl
      mac := rfl
      ports := rfl
      gateway4 := rfl
      gateway6 := rfl
      mappings4 := rfl
      mappings6 := rfl
      networks4 := rfl
      networks6 := rfl
      profiles := .cons (Or.inr ⟨"ns", Or.inl ⟨rfl, rfl⟩⟩) (.cons (Or.inl rfl) .nil)
      labels := by decide +kernel }
  exact ⟨h₁, h₂, (same_iff_alike _ _ _ _ h₁ h₂).1.mpr h⟩

/-- The prefix length one, given as a truth value. -/
def truthLength : PrefixLength 32 := ⟨⟨1, by decide⟩, true, fun _ => Nat.le_refl 1⟩

/-- An endpoint whose network was given with a truth value as its mask. -/
def truthEndpoint : Stored :=
  { scopedEndpoint with
    value.networks := .ofList Interface.family [.v4 ⟨10, 0, 0, 0⟩ truthLength] }

/-- The truth value shows in the resource, although the endpoint is equal to the one with a number
in its place. -/
theorem truthEndpoint_not_same_plain :
    (AnyRecord.stored truthEndpoint).same (.stored truthEndpoint.plain) = true ∧
      (toResource truthEndpoint).result = .ok (resourceOf truthEndpoint ⟨some "ns", "web-1"⟩) ∧
      (toResource truthEndpoint.plain).result =
        .ok (resourceOf truthEndpoint.plain ⟨some "ns", "web-1"⟩) ∧
      ¬(resourceOf truthEndpoint ⟨some "ns", "web-1"⟩).Same
        (resourceOf truthEndpoint.plain ⟨some "ns", "web-1"⟩) := by
  have hw : decodeWorkloadId k8s "ns.web-1" = .ok ⟨some "ns", "web-1"⟩ := rfl
  refine ⟨by decide +kernel, toResource_result_eq_ok_iff.mpr ⟨_, hw, rfl⟩,
    toResource_result_eq_ok_iff.mpr ⟨_, hw, rfl⟩, fun h => ?_⟩
  have htexts := congrArg V3.Spec.networks h.2
  exact absurd htexts (by decide +kernel)

end EndpointUpgrade.Upgrade
