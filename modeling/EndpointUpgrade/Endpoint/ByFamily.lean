import EndpointUpgrade.Net.Address

/-!
# Lists by address family

A list whose items have an address family is kept in the backend as two lists, one per family. Going
from one list to two keeps the order within a family and forgets how the families were mixed.
-/

namespace EndpointUpgrade.Endpoint

open Net

/-- The items of each family. -/
structure ByFamily {α : Type} (family : α → Family) where
  v4 : List α
  v6 : List α
  v4_family : ∀ x ∈ v4, family x = .v4
  v6_family : ∀ x ∈ v6, family x = .v6
deriving DecidableEq

/-- A version that belongs to no address family, and the item that has it. -/
structure UnknownVersion (α : Type) where
  version : Int
  item : α
deriving DecidableEq, Repr

/-- Splits items by the versions that they state. The first item of an unknown version is an
error. -/
def partitionByVersion {α : Type} (version : α → Int) :
    List α → Except (UnknownVersion α) (List α × List α)
  | [] => .ok ([], [])
  | x :: rest =>
    if version x = 4 then do
      let (v4, v6) ← partitionByVersion version rest
      return (x :: v4, v6)
    else if version x = 6 then do
      let (v4, v6) ← partitionByVersion version rest
      return (v4, x :: v6)
    else .error ⟨version x, x⟩

namespace ByFamily

variable {α : Type} {family : α → Family}

/-- The items of a list by family, each in the order of the list. -/
def ofList (family : α → Family) (items : List α) : ByFamily family where
  v4 := items.filter fun x => family x = .v4
  v6 := items.filter fun x => family x = .v6
  v4_family := by simp
  v6_family := by simp

/-- All items, those of IPv4 first. -/
def toList (b : ByFamily family) : List α := b.v4 ++ b.v6

/-- Changes all items in a way that keeps their families. -/
def map (f : α → α) (hf : ∀ x, family (f x) = family x) (b : ByFamily family) :
    ByFamily family where
  v4 := b.v4.map f
  v6 := b.v6.map f
  v4_family := by
    intro y hy
    obtain ⟨x, hx, rfl⟩ := List.mem_map.mp hy
    rw [hf, b.v4_family x hx]
  v6_family := by
    intro y hy
    obtain ⟨x, hx, rfl⟩ := List.mem_map.mp hy
    rw [hf, b.v6_family x hx]

def empty : ByFamily family := ⟨[], [], by simp, by simp⟩

theorem ofList_toList (b : ByFamily family) : ofList family b.toList = b := by
  obtain ⟨v4, v6, h4, h6⟩ := b
  have none4 : (v6.filter fun x => decide (family x = .v4)) = [] := by
    simp only [List.filter_eq_nil_iff, decide_eq_true_eq]
    intro x hx
    simp [h6 x hx]
  have none6 : (v4.filter fun x => decide (family x = .v6)) = [] := by
    simp only [List.filter_eq_nil_iff, decide_eq_true_eq]
    intro x hx
    simp [h4 x hx]
  have all4 : (v4.filter fun x => decide (family x = .v4)) = v4 := by
    simpa [List.filter_eq_self] using h4
  have all6 : (v6.filter fun x => decide (family x = .v6)) = v6 := by
    simpa [List.filter_eq_self] using h6
  simp [ofList, toList, List.filter_append, none4, none6, all4, all6]

end ByFamily

end EndpointUpgrade.Endpoint
