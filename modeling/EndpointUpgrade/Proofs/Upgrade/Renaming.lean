import EndpointUpgrade.Upgrade.Renaming
import Mathlib.Data.List.Forall2

/-!
# Profile ids that become equal

Only the beginning of the profile id of a namespace changes, so two profile ids become equal exactly
if they are equal already or if they name the same namespace with the old beginning and the new one.
-/

namespace EndpointUpgrade.Upgrade

theorem dropStart?_eq_some_iff {α : Type} [DecidableEq α] {start cs rest : List α} :
    dropStart? start cs = some rest ↔ cs = start ++ rest := by
  induction start generalizing cs with
  | nil => rw [dropStart?, List.nil_append, Option.some.injEq]
  | cons s start ih =>
    cases cs with
    | nil => simp [dropStart?]
    | cons c cs =>
      unfold dropStart?
      split
      · next h => rw [ih, h, List.cons_append, List.cons_inj_right]
      · next h =>
        simp only [List.cons_append, List.cons.injEq, reduceCtorEq, false_iff, not_and]
        exact fun eq => absurd eq.symm h

theorem profileId_of_start (s : String) :
    profileId (profileStartV1 ++ s) = profileStartV3 ++ s := by
  have hdrop : dropStart? profileStartV1.toList (profileStartV1 ++ s).toList = some s.toList :=
    dropStart?_eq_some_iff.mpr String.toList_append
  unfold profileId
  rw [hdrop]
  apply String.toList_injective
  rw [String.toList_ofList, String.toList_append]

theorem profileId_of_ne_start {p : String} (h : ∀ s, p ≠ profileStartV1 ++ s) :
    profileId p = p := by
  unfold profileId
  split
  · next rest hdrop =>
    have hp := dropStart?_eq_some_iff.mp hdrop
    refine absurd (String.toList_injective ?_) (h (String.ofList rest))
    rw [hp, String.toList_append, String.toList_ofList]
  · rfl

theorem startV3_ne_startV1 (s t : String) : profileStartV3 ++ s ≠ profileStartV1 ++ t := by
  intro h
  have hsecond := congrArg (fun x : String => x.toList[1]?) h
  simp [profileStartV1, profileStartV3, String.toList_append] at hsecond

/-- Profile ids that are equal, or that name one namespace in the two ways. -/
def SameProfile (p q : String) : Prop :=
  p = q ∨ ∃ s, (p = profileStartV1 ++ s ∧ q = profileStartV3 ++ s) ∨
    (p = profileStartV3 ++ s ∧ q = profileStartV1 ++ s)

theorem profileId_eq_iff {p q : String} : profileId p = profileId q ↔ SameProfile p q := by
  have hV3 (s : String) : profileId (profileStartV3 ++ s) = profileStartV3 ++ s :=
    profileId_of_ne_start fun t => startV3_ne_startV1 s t
  constructor
  · intro h
    by_cases hp : ∃ s, p = profileStartV1 ++ s
    · obtain ⟨s, rfl⟩ := hp
      rw [profileId_of_start] at h
      by_cases hq : ∃ t, q = profileStartV1 ++ t
      · obtain ⟨t, rfl⟩ := hq
        rw [profileId_of_start, String.append_right_inj] at h
        exact Or.inl (congrArg (profileStartV1 ++ ·) h)
      · rw [profileId_of_ne_start fun t eq => hq ⟨t, eq⟩] at h
        exact Or.inr ⟨s, Or.inl ⟨rfl, h.symm⟩⟩
    · rw [profileId_of_ne_start fun s eq => hp ⟨s, eq⟩] at h
      by_cases hq : ∃ t, q = profileStartV1 ++ t
      · obtain ⟨t, rfl⟩ := hq
        rw [profileId_of_start] at h
        exact Or.inr ⟨t, Or.inr ⟨h, rfl⟩⟩
      · rw [profileId_of_ne_start fun t eq => hq ⟨t, eq⟩] at h
        exact Or.inl h
  · rintro (rfl | ⟨s, ⟨rfl, rfl⟩ | ⟨rfl, rfl⟩⟩)
    · rfl
    · rw [profileId_of_start, hV3]
    · rw [profileId_of_start, hV3]

theorem map_profileId_eq_iff {ps qs : List String} :
    ps.map profileId = qs.map profileId ↔ List.Forall₂ SameProfile ps qs := by
  rw [← List.forall₂_eq_eq_eq, List.forall₂_map_left_iff, List.forall₂_map_right_iff]
  simp only [profileId_eq_iff]

end EndpointUpgrade.Upgrade
