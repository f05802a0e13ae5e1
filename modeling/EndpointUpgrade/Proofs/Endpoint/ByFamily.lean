import EndpointUpgrade.Endpoint.ByFamily

/-!
# Two lists as one

The items of both families in one list, those of IPv4 first, determine the two lists, because the
family of every item is known. More generally, the lists that are split into two given ones are
exactly those in which the two are mixed with each other without a change of their orders.
-/

namespace EndpointUpgrade.Endpoint

open Net

namespace ByFamily

variable {α : Type} {family : α → Family}

theorem toList_injective : Function.Injective (toList : ByFamily family → List α) := by
  intro b c h
  rw [← ofList_toList b, h, ofList_toList]

theorem toList_map (f : α → α) (hf : ∀ x, family (f x) = family x) (b : ByFamily family) :
    (b.map f hf).toList = b.toList.map f := by
  unfold toList map
  rw [List.map_append]

theorem eq_iff {b c : ByFamily family} : b = c ↔ b.v4 = c.v4 ∧ b.v6 = c.v6 := by
  obtain ⟨v4, v6, h4, h6⟩ := b
  obtain ⟨w4, w6, k4, k6⟩ := c
  rw [mk.injEq]

theorem ofList_map (f : α → α) (hf : ∀ x, family (f x) = family x) (xs : List α) :
    ofList family (xs.map f) = (ofList family xs).map f hf := by
  have hfilter (a : Family) : (xs.map f).filter (fun x => family x = a) =
      (xs.filter fun x => family x = a).map f := by
    rw [List.filter_map]
    simp only [Function.comp_def, hf]
  exact eq_iff.mpr ⟨hfilter .v4, hfilter .v6⟩

/-- A change that is made once is not made a second time. -/
theorem map_map_self {f : α → α} (hf : ∀ x, family (f x) = family x) (hff : ∀ x, f (f x) = f x)
    (b : ByFamily family) : (b.map f hf).map f hf = b.map f hf := by
  have hcomp : f ∘ f = f := funext hff
  exact eq_iff.mpr ⟨by simp only [map, List.map_map, hcomp], by simp only [map, List.map_map, hcomp]⟩

theorem ofList_cons_v4 {x : α} (hx : family x = .v4) (xs : List α) :
    (ofList family (x :: xs)).v4 = x :: (ofList family xs).v4 ∧
      (ofList family (x :: xs)).v6 = (ofList family xs).v6 := by
  simp [ofList, hx]

theorem ofList_cons_v6 {x : α} (hx : family x = .v6) (xs : List α) :
    (ofList family (x :: xs)).v4 = (ofList family xs).v4 ∧
      (ofList family (x :: xs)).v6 = x :: (ofList family xs).v6 := by
  simp [ofList, hx]

/-- Going through items one by one by their versions splits them in the same way, and meets no
unknown version. -/
theorem partitionByVersion_number (xs : List α) :
    partitionByVersion (fun x => ((family x).number : Int)) xs =
      .ok ((ofList family xs).v4, (ofList family xs).v6) := by
  induction xs with
  | nil => rfl
  | cons x xs ih =>
    rw [partitionByVersion, ih]
    cases hx : family x with
    | v4 =>
      obtain ⟨h4, h6⟩ := ofList_cons_v4 hx xs
      rw [h4, h6]
      rfl
    | v6 =>
      obtain ⟨h4, h6⟩ := ofList_cons_v6 hx xs
      rw [h4, h6]
      rfl

end ByFamily

/-! ## Mixed lists -/

/-- The last list is made of the items of the other two, each in its order. -/
inductive Mixed {α : Type} : List α → List α → List α → Prop
  | nil : Mixed [] [] []
  | left (x : α) {ls rs xs : List α} : Mixed ls rs xs → Mixed (x :: ls) rs (x :: xs)
  | right (x : α) {ls rs xs : List α} : Mixed ls rs xs → Mixed ls (x :: rs) (x :: xs)

namespace ByFamily

variable {α : Type} {family : α → Family}

theorem mixed_ofList (xs : List α) : Mixed (ofList family xs).v4 (ofList family xs).v6 xs := by
  induction xs with
  | nil => exact .nil
  | cons x xs ih =>
    cases hx : family x with
    | v4 =>
      obtain ⟨h4, h6⟩ := ofList_cons_v4 hx xs
      rw [h4, h6]
      exact .left x ih
    | v6 =>
      obtain ⟨h4, h6⟩ := ofList_cons_v6 hx xs
      rw [h4, h6]
      exact .right x ih

theorem ofList_of_mixed {ls rs xs : List α} (h : Mixed ls rs xs)
    (hl : ∀ x ∈ ls, family x = .v4) (hr : ∀ x ∈ rs, family x = .v6) :
    (ofList family xs).v4 = ls ∧ (ofList family xs).v6 = rs := by
  induction h with
  | nil => exact ⟨rfl, rfl⟩
  | left x _ ih =>
    obtain ⟨h4, h6⟩ := ofList_cons_v4 (hl x List.mem_cons_self) _
    obtain ⟨ih4, ih6⟩ := ih (fun y hy => hl y (List.mem_cons_of_mem _ hy)) hr
    rw [h4, h6, ih4, ih6]
    exact ⟨rfl, rfl⟩
  | right x _ ih =>
    obtain ⟨h4, h6⟩ := ofList_cons_v6 (hr x List.mem_cons_self) _
    obtain ⟨ih4, ih6⟩ := ih hl fun y hy => hr y (List.mem_cons_of_mem _ hy)
    rw [h4, h6, ih4, ih6]
    exact ⟨rfl, rfl⟩

/-- A list is split into two exactly if it is a mixture of them. -/
theorem ofList_eq_iff_mixed {xs : List α} {b : ByFamily family} :
    ofList family xs = b ↔ Mixed b.v4 b.v6 xs := by
  constructor
  · rintro rfl
    exact mixed_ofList xs
  · intro h
    exact eq_iff.mpr (ofList_of_mixed h b.v4_family b.v6_family)

end ByFamily

end EndpointUpgrade.Endpoint
