import EndpointUpgrade.Proofs.Identity.Name
import EndpointUpgrade.Upgrade.Conversion

/-!
# Resources and the keys behind them

A stored endpoint becomes a resource whenever its workload id can be taken apart, and the resource
is then given by its fields. Its name and namespace are shared by no endpoint with another key, apart
from the case of the host, as long as orchestrators and endpoint ids keep clear of hyphens. Hosts
and workloads may have them anywhere.
-/

namespace EndpointUpgrade.Upgrade

open Endpoint Identity Text

/-- What the conversion of a stored endpoint gives, if it gives a resource. -/
theorem toResource_result_eq_ok_iff {e : Stored} {r : V3} :
    (toResource e).result = .ok r ↔
      ∃ w, decodeWorkloadId e.key.orchestrator e.key.workloadId = .ok w ∧ resourceOf e w = r := by
  rw [toResource, resource]
  cases decodeWorkloadId e.key.orchestrator e.key.workloadId with
  | error reason => simp [Logged.failure]
  | ok w => simp [Logged.noted]

/-- The endpoint stored under a key of which nothing else is known. -/
def storedUnder (key : Identifiers) : Stored where
  key := key
  value :=
    { state := "", interfaceName := "", activeInstanceId := "", mac := none, profiles := [],
      networks := .empty, mappings := .empty, labels := ∅, gateway4 := none, gateway6 := none,
      ports := [] }

/-- Resources of one name in one namespace come from keys that differ at most in the case of the
host. -/
theorem key_eq_of_name_eq (e₁ e₂ : Stored) (r₁ r₂ : V3)
    (h₁ : (toResource e₁).result = .ok r₁) (h₂ : (toResource e₂).result = .ok r₂)
    (ho₁ : e₁.key.orchestrator ≠ "") (ho₁' : '-' ∉ e₁.key.orchestrator.toList)
    (he₁ : '-' ∉ e₁.key.endpointId.toList)
    (ho₂ : e₂.key.orchestrator ≠ "") (ho₂' : '-' ∉ e₂.key.orchestrator.toList)
    (he₂ : '-' ∉ e₂.key.endpointId.toList)
    (hname : r₁.metadata.name = r₂.metadata.name) (hns : r₁.metadata.ns = r₂.metadata.ns) :
    lower e₁.key.host = lower e₂.key.host ∧ e₁.key.orchestrator = e₂.key.orchestrator ∧
      e₁.key.workloadId = e₂.key.workloadId ∧ e₁.key.endpointId = e₂.key.endpointId := by
  obtain ⟨w₁, hw₁, rfl⟩ := toResource_result_eq_ok_iff.mp h₁
  obtain ⟨w₂, hw₂, rfl⟩ := toResource_result_eq_ok_iff.mp h₂
  obtain ⟨hhost, horchestrator, hworkload, hendpoint⟩ :=
    fields_eq_of_nameOf_eq ho₁ ho₁' he₁ ho₂ ho₂' he₂ hname
  rw [horchestrator] at hw₁
  exact ⟨hhost, horchestrator, workloadId_eq_of_parts hw₁ hw₂ hworkload fun _ => hns, hendpoint⟩

theorem key_eq_of_name_eq_hyphens :
    (toResource (storedUnder ⟨"A-", "k8s", "a.-b--c.-", ""⟩)).result =
        .ok (resourceOf (storedUnder ⟨"A-", "k8s", "a.-b--c.-", ""⟩) ⟨some "a", "-b--c.-"⟩) ∧
      (toResource (storedUnder ⟨"a-", "k8s", "a.-b--c.-", ""⟩)).result =
        .ok (resourceOf (storedUnder ⟨"a-", "k8s", "a.-b--c.-", ""⟩) ⟨some "a", "-b--c.-"⟩) ∧
      nameOf "A-" "k8s" "-b--c.-" "" = nameOf "a-" "k8s" "-b--c.-" "" ∧
      lower "A-" = lower "a-" ∧ "k8s" = "k8s" ∧ "a.-b--c.-" = "a.-b--c.-" ∧ "" = "" := by
  have h₁ := toResource_result_eq_ok_iff (e := storedUnder ⟨"A-", "k8s", "a.-b--c.-", ""⟩)
    |>.mpr ⟨⟨some "a", "-b--c.-"⟩, rfl, rfl⟩
  have h₂ := toResource_result_eq_ok_iff (e := storedUnder ⟨"a-", "k8s", "a.-b--c.-", ""⟩)
    |>.mpr ⟨⟨some "a", "-b--c.-"⟩, rfl, rfl⟩
  have hname : nameOf "A-" "k8s" "-b--c.-" "" = nameOf "a-" "k8s" "-b--c.-" "" := by
    decide +kernel
  have h := key_eq_of_name_eq _ _ _ _ h₁ h₂ (by decide) (by decide) (by decide)
    (by decide) (by decide) (by decide) hname rfl
  exact ⟨h₁, h₂, hname, h⟩

end EndpointUpgrade.Upgrade
