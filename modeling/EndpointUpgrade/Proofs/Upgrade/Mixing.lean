import EndpointUpgrade.Proofs.Endpoint.Accepted
import EndpointUpgrade.Proofs.Endpoint.ByFamily
import EndpointUpgrade.Upgrade.Conversion

/-!
# What a stored endpoint forgets

Storing an endpoint of the v1 API forgets how its networks, and its mappings, of the two families
were mixed, and nothing else. Every stored endpoint in the active state comes from an endpoint of
the v1 API: from the one that has those of IPv4 first.
-/

namespace EndpointUpgrade.Upgrade

open Endpoint Net

/-- Lists with the same items of each family in the same order. -/
structure SameFamilies {α : Type} (family : α → Family) (xs ys : List α) : Prop where
  v4 : xs.filter (fun x => family x = .v4) = ys.filter fun x => family x = .v4
  v6 : xs.filter (fun x => family x = .v6) = ys.filter fun x => family x = .v6

variable {α : Type} {family : α → Family} {xs ys : List α}

theorem ofList_eq_iff_sameFamilies :
    ByFamily.ofList family xs = ByFamily.ofList family ys ↔ SameFamilies family xs ys := by
  constructor
  · intro h
    obtain ⟨h4, h6⟩ := ByFamily.eq_iff.mp h
    exact ⟨h4, h6⟩
  · intro h
    exact ByFamily.eq_iff.mpr ⟨h.v4, h.v6⟩

/-- Two lists have the same items of each family exactly if both are mixtures of the same two
lists of one family each. -/
theorem sameFamilies_iff_mixed :
    SameFamilies family xs ys ↔
      ∃ b : ByFamily family, Mixed b.v4 b.v6 xs ∧ Mixed b.v4 b.v6 ys := by
  rw [← ofList_eq_iff_sameFamilies]
  constructor
  · intro h
    exact ⟨_, ByFamily.ofList_eq_iff_mixed.mp rfl, ByFamily.ofList_eq_iff_mixed.mp h.symm⟩
  · rintro ⟨b, hxs, hys⟩
    rw [ByFamily.ofList_eq_iff_mixed.mpr hxs, ByFamily.ofList_eq_iff_mixed.mpr hys]

theorem sameFamilies_map_iff {β : Type} {f : β → α} (hf : Function.Injective f) {xs ys : List β} :
    SameFamilies family (xs.map f) (ys.map f) ↔ SameFamilies (fun x => family (f x)) xs ys := by
  have hfilter (a : Family) :
      (xs.map f).filter (fun x => family x = a) = (ys.map f).filter (fun x => family x = a) ↔
        xs.filter (fun x => family (f x) = a) = ys.filter fun x => family (f x) = a := by
    rw [List.filter_map, List.filter_map, (List.map_injective_iff.mpr hf).eq_iff]
    rfl
  constructor
  · intro h
    exact ⟨(hfilter .v4).mp h.v4, (hfilter .v6).mp h.v6⟩
  · intro h
    exact ⟨(hfilter .v4).mpr h.v4, (hfilter .v6).mpr h.v6⟩

/-- Plain networks are split alike exactly if the networks themselves are. -/
theorem ofList_plain_eq_iff {is js : List Interface} :
    ByFamily.ofList Interface.family (is.map Interface.plain) =
        ByFamily.ofList Interface.family (js.map Interface.plain) ↔
      SameFamilies Network.family (is.map Interface.network) (js.map Interface.network) := by
  have hplain (is : List Interface) :
      is.map Interface.plain = (is.map Interface.network).map Interface.ofNetwork := by
    rw [List.map_map]
    rfl
  have hinjective : Function.Injective Interface.ofNetwork :=
    Function.LeftInverse.injective Interface.network_ofNetwork
  rw [ofList_eq_iff_sameFamilies, hplain, hplain, sameFamilies_map_iff hinjective]
  simp only [Interface.family, Interface.network_ofNetwork]

/-- Endpoints that agree in everything but how the families are mixed in their two lists. -/
structure AgreeUpToMixing (e₁ e₂ : V1) : Prop where
  metadata : e₁.metadata.Same e₂.metadata
  networks : SameFamilies Network.family (e₁.spec.networks.map Interface.network)
    (e₂.spec.networks.map Interface.network)
  mappings : SameFamilies AddressPair.family e₁.spec.mappings e₂.spec.mappings
  spec : { e₁.spec with networks := e₂.spec.networks, mappings := e₂.spec.mappings } = e₂.spec

theorem stored_same_iff {e₁ e₂ : V1} :
    (stored e₁).Same (stored e₂) ↔ AgreeUpToMixing e₁ e₂ := by
  obtain ⟨⟨identity₁, instance₁, labels₁⟩, spec₁⟩ := e₁
  obtain ⟨⟨identity₂, instance₂, labels₂⟩, spec₂⟩ := e₂
  cases spec₁
  cases spec₂
  constructor
  · rintro ⟨hkey, hlabels, hvalue⟩
    simp only [stored, Stored.Value.mk.injEq, true_and] at hvalue
    obtain ⟨hinterface, hinstance, hmac, hprofiles, hnetworks, hmappings, hgateway4, hgateway6,
      hports⟩ := hvalue
    refine ⟨⟨hkey, hinstance, hlabels⟩, ofList_plain_eq_iff.mp hnetworks,
      ofList_eq_iff_sameFamilies.mp hmappings, ?_⟩
    simp only [V1.Spec.mk.injEq, true_and]
    exact ⟨hgateway4, hgateway6, hprofiles, hinterface, hmac, hports⟩
  · rintro ⟨⟨hkey, hinstance, hlabels⟩, hnetworks, hmappings, hspec⟩
    simp only [V1.Spec.mk.injEq, true_and] at hspec
    obtain ⟨hgateway4, hgateway6, hprofiles, hinterface, hmac, hports⟩ := hspec
    refine ⟨hkey, hlabels, ?_⟩
    simp only [stored, Stored.Value.mk.injEq, true_and]
    exact ⟨hinterface, hinstance, hmac, hprofiles, ofList_plain_eq_iff.mpr hnetworks,
      ofList_eq_iff_sameFamilies.mpr hmappings, hgateway4, hgateway6, hports⟩

/-- The endpoint of the v1 API with the networks and mappings of IPv4 in front of those of IPv6. -/
def declared (b : Stored) : V1 where
  metadata := ⟨b.key, b.value.activeInstanceId, b.value.labels⟩
  spec :=
    { networks := b.value.networks.v4 ++ b.value.networks.v6
      mappings := b.value.mappings.v4 ++ b.value.mappings.v6
      gateway4 := b.value.gateway4
      gateway6 := b.value.gateway6
      profiles := b.value.profiles
      interfaceName := b.value.interfaceName
      mac := b.value.mac
      ports := b.value.ports }

theorem stored_declared (b : Stored) :
    stored (declared b) = { b.plain with value.state := activeState } := by
  have hnetworks : ByFamily.ofList Interface.family
      ((b.value.networks.v4 ++ b.value.networks.v6).map Interface.plain) =
        b.value.networks.map Interface.plain Interface.family_plain := by
    rw [ByFamily.ofList_map]
    exact congrArg (ByFamily.map _ _) b.value.networks.ofList_toList
  have hmappings : ByFamily.ofList AddressPair.family
      (b.value.mappings.v4 ++ b.value.mappings.v6) = b.value.mappings :=
    b.value.mappings.ofList_toList
  unfold stored declared
  dsimp only
  rw [hnetworks, hmappings]
  rfl

/-- Two endpoints are stored alike exactly if they agree up to mixing, where lists agree exactly if
both are mixtures of the same two lists. A stored endpoint, with prefix lengths as numbers, comes
from its declared one exactly if it is active, and every endpoint of the v1 API is one that reading
accepts. -/
theorem stored_kernel_and_image :
    (∀ e₁ e₂ : V1, (stored e₁).Same (stored e₂) ↔ AgreeUpToMixing e₁ e₂) ∧
      (∀ (α : Type) (family : α → Family) (xs ys : List α), SameFamilies family xs ys ↔
        ∃ b : ByFamily family, Mixed b.v4 b.v6 xs ∧ Mixed b.v4 b.v6 ys) ∧
      (∀ b : Stored, stored (declared b) = b.plain ↔ b.value.state = activeState) ∧
      ∀ e : V1, ∃ body, V1.read .empty body = .ok e := by
  refine ⟨fun e₁ e₂ => stored_same_iff, fun α family xs ys => sameFamilies_iff_mixed, fun b => ?_,
    V1.exists_read⟩
  rw [stored_declared]
  constructor
  · intro h
    exact (congrArg (fun e => e.value.state) h).symm
  · intro h
    rw [← h]
    rfl

end EndpointUpgrade.Upgrade
