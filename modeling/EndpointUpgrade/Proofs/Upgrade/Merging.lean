import EndpointUpgrade.Proofs.Endpoint.ByFamily
import EndpointUpgrade.Proofs.Net.Interface
import EndpointUpgrade.Upgrade.Conversion
import Mathlib.Data.List.Forall2

/-!
# Merged lists and their parts

A resource has one list of networks and one of mappings, those of IPv4 first. The family of an item
shows in its text, so each merged list determines its two parts: the networks up to the scopes that
their texts leave out, the mappings completely. A prefix length that was given as a truth value
shows in the text of its network.
-/

namespace EndpointUpgrade.Upgrade

open Endpoint Net

theorem map_unscoped_of_v4 {is : List Interface} (his : ∀ i ∈ is, i.family = .v4) :
    is.map Interface.unscoped = is := by
  have hfixed : ∀ i ∈ is, i.unscoped = i := by
    intro i hi
    have hfamily := his i hi
    cases i with
    | v4 a length => rfl
    | v6 a length => exact absurd hfamily nofun
  rw [List.map_congr_left hfixed, List.map_id']

theorem map_cidr_eq_iff {is js : List Interface} :
    is.map Interface.cidr = js.map Interface.cidr ↔
      is.map Interface.unscoped = js.map Interface.unscoped := by
  rw [← List.forall₂_eq_eq_eq, ← List.forall₂_eq_eq_eq]
  simp only [List.forall₂_map_left_iff, List.forall₂_map_right_iff, Interface.cidr_eq_iff]

/-- The texts of merged networks agree exactly if the IPv4 parts are equal and the IPv6 parts are
equal up to scopes, in the way that prefix lengths were given as well. -/
theorem networkTexts_eq_iff {b c : ByFamily Interface.family} :
    networkTexts b.v4 b.v6 = networkTexts c.v4 c.v6 ↔
      b.v4 = c.v4 ∧ b.v6.map Interface.unscoped = c.v6.map Interface.unscoped := by
  have hmap (d : ByFamily Interface.family) : (d.v4 ++ d.v6).map Interface.unscoped =
      (d.map Interface.unscoped Interface.family_unscoped).toList :=
    (ByFamily.toList_map Interface.unscoped Interface.family_unscoped d).symm
  rw [networkTexts, networkTexts, map_cidr_eq_iff, hmap, hmap, ByFamily.toList_injective.eq_iff,
    ByFamily.eq_iff]
  unfold ByFamily.map
  dsimp only
  rw [map_unscoped_of_v4 b.v4_family, map_unscoped_of_v4 c.v4_family]

theorem toText_injective : Function.Injective AddressPair.toText := by
  intro m n h
  obtain ⟨internal, external⟩ := m
  obtain ⟨internal', external'⟩ := n
  unfold AddressPair.toText at h
  rw [AddressPair.mk.injEq] at h
  rw [AddressPair.mk.injEq]
  exact ⟨Address.text_injective h.1, Address.text_injective h.2⟩

theorem mappingTexts_eq_iff {b c : ByFamily AddressPair.family} :
    mappingTexts b.v4 b.v6 = mappingTexts c.v4 c.v6 ↔ b = c := by
  unfold mappingTexts
  rw [List.map_inj_right fun _ _ h => toText_injective h]
  exact ByFamily.toList_injective.eq_iff

end EndpointUpgrade.Upgrade
