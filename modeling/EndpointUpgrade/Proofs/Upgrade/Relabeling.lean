import EndpointUpgrade.Proofs.Labels
import EndpointUpgrade.Upgrade.Renaming

/-!
# Labels under their new keys

The label of the namespace gets its new key, and all other labels stay. If labels have the old key
and the new one, the two become one: in the place of the first, with the value of the second. That
is the only way in which the order of labels matters.
-/

namespace EndpointUpgrade.Upgrade

open Text

variable {ls ms : Labels}

theorem namespaceKeys_ne : namespaceKeyV1 ≠ namespaceKeyV3 := by decide

theorem labelKey_of_ne {key : RawText} (h : key ≠ namespaceKeyV1) : labelKey key = key := if_neg h

/-! ## Keys -/

theorem keys_labels (ls : Labels) : (labels ls).keys = (ls.keys.map labelKey).eraseDups := by
  unfold labels
  rw [Labels.keys_ofPairs, Labels.keys, List.map_map, List.map_map]
  rfl

theorem labelKey_ne_namespaceKeyV1 (key : RawText) : labelKey key ≠ namespaceKeyV1 := by
  unfold labelKey
  split
  · exact namespaceKeys_ne.symm
  · assumption

theorem namespaceKeyV1_notMem_labels (ls : Labels) : namespaceKeyV1 ∉ (labels ls).keys := by
  rw [keys_labels, List.mem_eraseDups, List.mem_map]
  intro ⟨key, _, h⟩
  exact labelKey_ne_namespaceKeyV1 key h

/-- Labels without the old key stay as they are. -/
theorem labels_of_notMem (h : namespaceKeyV1 ∉ ls.keys) : labels ls = ls := by
  have hentries : ls.entries.map (fun e => (labelKey e.1, e.2)) = ls.entries.map id := by
    apply List.map_congr_left
    intro e he
    have hkey : e.1 ≠ namespaceKeyV1 := fun eq =>
      h (eq ▸ List.mem_map_of_mem (f := Prod.fst) he)
    rw [labelKey_of_ne hkey]
    rfl
  unfold labels
  rw [hentries, List.map_id, Labels.ofPairs_entries]

theorem labels_labels (ls : Labels) : labels (labels ls) = labels ls :=
  labels_of_notMem (namespaceKeyV1_notMem_labels ls)

/-! ## Values -/

/-- An entry under its new key. -/
def relabeled (e : RawText × String) : RawText × String := (labelKey e.1, e.2)

/-- The value of a key is that of the last entry that gets this key. -/
theorem get?_labels (ls : Labels) (key : RawText) :
    (labels ls).get? key = Labels.lookup? key (ls.entries.reverse.map relabeled) := by
  rw [List.map_reverse]
  exact Labels.get?_ofPairs _ key

/-- Entries of other keys than the two of the namespace are found under the same key. -/
theorem lookup?_relabeled_of_ne {key : RawText} (h1 : key ≠ namespaceKeyV1)
    (h3 : key ≠ namespaceKeyV3) (es : List (RawText × String)) :
    Labels.lookup? key (es.map relabeled) = Labels.lookup? key es := by
  induction es with
  | nil => rfl
  | cons e es ih =>
    have hkey : labelKey e.1 = key ↔ e.1 = key := by
      by_cases he : e.1 = namespaceKeyV1
      · rw [labelKey, if_pos he, he]
        exact iff_of_false h3.symm h1.symm
      · rw [labelKey_of_ne he]
    rw [List.map_cons, Labels.lookup?, Labels.lookup?, ih]
    simp only [relabeled, hkey]

theorem get?_labels_of_ne {key : RawText} (h1 : key ≠ namespaceKeyV1) (h3 : key ≠ namespaceKeyV3) :
    (labels ls).get? key = ls.get? key := by
  rw [get?_labels, lookup?_relabeled_of_ne h1 h3]
  exact (Labels.lookup?_eq_of_perm ls.nodup ls.entries.reverse_perm.symm).symm

/-- The two keys of the namespace, in either order. -/
inductive NamespaceKeys : RawText → RawText → Prop
  | oldNew : NamespaceKeys namespaceKeyV1 namespaceKeyV3
  | newOld : NamespaceKeys namespaceKeyV3 namespaceKeyV1

/-- A key other than one of the two becomes the new one exactly if it is the other of the two. -/
theorem NamespaceKeys.labelKey_eq_iff {k l key : RawText} (h : NamespaceKeys k l) (hkey : key ≠ k) :
    labelKey key = namespaceKeyV3 ↔ key = l := by
  cases h with
  | oldNew => rw [labelKey_of_ne hkey]
  | newOld =>
    unfold labelKey
    split
    · next h1 => exact iff_of_true rfl h1
    · next h1 => exact iff_of_false hkey h1

/-- Where one of the two keys is absent, the new key finds what the other one has. -/
theorem lookup?_relabeled {k l : RawText} (h : NamespaceKeys k l) {es : List (RawText × String)}
    (hk : k ∉ es.map Prod.fst) :
    Labels.lookup? namespaceKeyV3 (es.map relabeled) = Labels.lookup? l es := by
  induction es with
  | nil => rfl
  | cons e es ih =>
    rw [List.map_cons, List.mem_cons, not_or] at hk
    rw [List.map_cons, Labels.lookup?, Labels.lookup?, ih hk.2]
    simp only [relabeled, h.labelKey_eq_iff (Ne.symm hk.1)]

theorem get?_labels_of_notMem {k l : RawText} (h : NamespaceKeys k l) (hk : k ∉ ls.keys) :
    (labels ls).get? namespaceKeyV3 = ls.get? l := by
  have hrev : k ∉ ls.entries.reverse.map Prod.fst := by
    rw [List.map_reverse, List.mem_reverse]
    exact hk
  rw [get?_labels, lookup?_relabeled h hrev]
  exact (Labels.lookup?_eq_of_perm ls.nodup ls.entries.reverse_perm.symm).symm

/-- If both keys are there, the later one decides. -/
theorem get?_labels_of_precedes {k l : RawText} (h : NamespaceKeys k l) (hp : ls.Precedes k l) :
    (labels ls).get? namespaceKeyV3 = ls.get? l := by
  obtain ⟨front, back, hentries, hk, hl⟩ := Labels.exists_split_of_precedes hp
  have distinct := ls.nodup
  rw [hentries, List.map_append, List.nodup_append] at distinct
  obtain ⟨-, hback, hdisjoint⟩ := distinct
  have hk' : k ∉ back.reverse.map Prod.fst := by
    rw [List.map_reverse, List.mem_reverse]
    intro hmem
    exact hdisjoint k hk k hmem rfl
  have hl' : l ∉ front.map Prod.fst := by
    intro hmem
    exact hdisjoint l hmem l hl rfl
  have hvalue : Labels.lookup? l back ≠ none := by
    rw [Ne, Labels.lookup?_eq_none_iff, not_not]
    exact hl
  have hnew : Labels.lookup? namespaceKeyV3 (back.reverse.map relabeled) =
      Labels.lookup? l back := by
    rw [lookup?_relabeled h hk']
    exact (Labels.lookup?_eq_of_perm hback back.reverse_perm.symm).symm
  rw [get?_labels, Labels.get?, hentries, List.reverse_append, List.map_append,
    Labels.lookup?_append, Labels.lookup?_append, hnew, Labels.lookup?_eq_none_iff.mpr hl',
    Option.none_or]
  exact Option.or_of_isSome (Option.isSome_iff_ne_none.mpr hvalue)

/-! ## Orders of the same labels -/

/-- The two keys of the namespace stand in one order and in the other one. -/
def Swapped (ls ms : Labels) : Prop :=
  ∃ k l, NamespaceKeys k l ∧ ls.Precedes k l ∧ ms.Precedes l k

theorem labels_same_iff_get? (h : ms.entries.Perm ls.entries) :
    (labels ls).Same (labels ms) ↔
      (labels ls).get? namespaceKeyV3 = (labels ms).get? namespaceKeyV3 := by
  rw [Labels.same_iff_get?]
  constructor
  · intro hsame
    exact hsame namespaceKeyV3
  · intro h3 key
    by_cases hkey3 : key = namespaceKeyV3
    · rw [hkey3, h3]
    · by_cases hkey1 : key = namespaceKeyV1
      · rw [hkey1, Labels.get?_eq_none_iff.mpr (namespaceKeyV1_notMem_labels ls),
          Labels.get?_eq_none_iff.mpr (namespaceKeyV1_notMem_labels ms)]
      · rw [get?_labels_of_ne hkey1 hkey3, get?_labels_of_ne hkey1 hkey3,
          Labels.get?_eq_of_perm h]

theorem keys_perm (h : ms.entries.Perm ls.entries) : ms.keys.Perm ls.keys := h.map Prod.fst

/-- If one of the two keys is absent, or if they stand in the same order, both labels get the same
value under the new key. -/
theorem get?_labels_eq_of_not_swapped (h : ms.entries.Perm ls.entries) (hs : ¬Swapped ls ms) :
    (labels ls).get? namespaceKeyV3 = (labels ms).get? namespaceKeyV3 := by
  have habsent {k l : RawText} (hkl : NamespaceKeys k l) (hk : k ∉ ls.keys) :
      (labels ls).get? namespaceKeyV3 = (labels ms).get? namespaceKeyV3 := by
    have hk' : k ∉ ms.keys := mt (keys_perm h).mem_iff.mp hk
    rw [get?_labels_of_notMem hkl hk, get?_labels_of_notMem hkl hk', Labels.get?_eq_of_perm h]
  have hordered {k l : RawText} (hkl : NamespaceKeys k l) (hls : ls.Precedes k l)
      (hms : ms.Precedes k l) :
      (labels ls).get? namespaceKeyV3 = (labels ms).get? namespaceKeyV3 := by
    rw [get?_labels_of_precedes hkl hls, get?_labels_of_precedes hkl hms, Labels.get?_eq_of_perm h]
  by_cases h1 : namespaceKeyV1 ∈ ls.keys
  · by_cases h3 : namespaceKeyV3 ∈ ls.keys
    · have h1' := (keys_perm h).mem_iff.mpr h1
      have h3' := (keys_perm h).mem_iff.mpr h3
      cases Labels.precedes_or_precedes h1 h3 namespaceKeys_ne with
      | inl hls =>
        cases Labels.precedes_or_precedes h1' h3' namespaceKeys_ne with
        | inl hms => exact hordered .oldNew hls hms
        | inr hms => exact absurd ⟨_, _, .oldNew, hls, hms⟩ hs
      | inr hls =>
        cases Labels.precedes_or_precedes h1' h3' namespaceKeys_ne with
        | inl hms => exact absurd ⟨_, _, .newOld, hls, hms⟩ hs
        | inr hms => exact hordered .newOld hls hms
    · exact habsent .newOld h3
  · exact habsent .oldNew h1

/-- If the two keys are swapped, each order gives the new key the value of another one of them. -/
theorem get?_labels_eq_iff_of_swapped (h : ms.entries.Perm ls.entries) (hs : Swapped ls ms) :
    (labels ls).get? namespaceKeyV3 = (labels ms).get? namespaceKeyV3 ↔
      ls.get? namespaceKeyV1 = ls.get? namespaceKeyV3 := by
  obtain ⟨k, l, hkl, hls, hms⟩ := hs
  cases hkl with
  | oldNew =>
    rw [get?_labels_of_precedes .oldNew hls, get?_labels_of_precedes .newOld hms,
      Labels.get?_eq_of_perm h, eq_comm]
  | newOld =>
    rw [get?_labels_of_precedes .newOld hls, get?_labels_of_precedes .oldNew hms,
      Labels.get?_eq_of_perm h]

theorem labels_same_iff (h : ms.entries.Perm ls.entries) :
    (labels ls).Same (labels ms) ↔
      ¬(Swapped ls ms ∧ ls.get? namespaceKeyV1 ≠ ls.get? namespaceKeyV3) := by
  rw [labels_same_iff_get? h]
  by_cases hs : Swapped ls ms
  · rw [get?_labels_eq_iff_of_swapped h hs, and_iff_right hs, not_not]
  · have hvalues := get?_labels_eq_of_not_swapped h hs
    exact iff_of_true hvalues fun hboth => hs hboth.1

/-- The namespace is given under its old key and under its new one, with different values. -/
def TwoNamespaces (ls : Labels) : Prop :=
  ∃ old new, ls.get? namespaceKeyV1 = some old ∧ ls.get? namespaceKeyV3 = some new ∧ old ≠ new

theorem Swapped.mem_keys (h : Swapped ls ms) :
    namespaceKeyV1 ∈ ls.keys ∧ namespaceKeyV3 ∈ ls.keys := by
  obtain ⟨k, l, hkl, hls, -⟩ := h
  have hk : k ∈ ls.keys := hls.subset List.mem_cons_self
  have hl : l ∈ ls.keys := hls.subset (List.mem_cons_of_mem k List.mem_cons_self)
  cases hkl with
  | oldNew => exact ⟨hk, hl⟩
  | newOld => exact ⟨hl, hk⟩

theorem labels_same_of_not_twoNamespaces (h : ls.Same ms) (hone : ¬TwoNamespaces ls) :
    (labels ls).Same (labels ms) := by
  rw [labels_same_iff (Labels.same_iff_perm.mp h).symm]
  intro ⟨hs, hne⟩
  obtain ⟨h1, h3⟩ := hs.mem_keys
  obtain ⟨old, hold⟩ := Labels.exists_get?_of_mem h1
  obtain ⟨new, hnew⟩ := Labels.exists_get?_of_mem h3
  rw [hold, hnew] at hne
  exact hone ⟨old, new, hold, hnew, fun eq => hne (congrArg some eq)⟩

theorem labels_same_iff_of_twoNamespaces (h : ls.Same ms) (htwo : TwoNamespaces ls) :
    (labels ls).Same (labels ms) ↔ ¬Swapped ls ms := by
  obtain ⟨old, new, hold, hnew, hne⟩ := htwo
  have hvalues : ls.get? namespaceKeyV1 ≠ ls.get? namespaceKeyV3 := by
    rw [hold, hnew]
    exact fun eq => hne (Option.some.inj eq)
  rw [labels_same_iff (Labels.same_iff_perm.mp h).symm, and_iff_left hvalues]

/-- The keys keep their order and are renamed, the second of two that become equal being left out.
All values stay but that of the new key, which is the value of the later one of the two, and once is
as good as twice. Labels in another order become the same map, unless the two keys are there with
different values and change places. -/
theorem labels_renamed_in_order (ls : Labels) :
    (labels ls).keys = (ls.keys.map labelKey).eraseDups ∧
      namespaceKeyV1 ∉ (labels ls).keys ∧
      (∀ key, key ≠ namespaceKeyV1 → key ≠ namespaceKeyV3 →
        (labels ls).get? key = ls.get? key) ∧
      (∀ k l, NamespaceKeys k l → (ls.Precedes k l ∨ k ∉ ls.keys) →
        (labels ls).get? namespaceKeyV3 = ls.get? l) ∧
      labels (labels ls) = labels ls ∧
      ∀ ms : Labels, ms.entries.Perm ls.entries →
        ((labels ls).Same (labels ms) ↔
          ¬(Swapped ls ms ∧ ls.get? namespaceKeyV1 ≠ ls.get? namespaceKeyV3)) := by
  refine ⟨keys_labels ls, namespaceKeyV1_notMem_labels ls, ?_, ?_, labels_labels ls, ?_⟩
  · intro key h1 h3
    exact get?_labels_of_ne h1 h3
  · intro k l hkl hk
    cases hk with
    | inl hprecedes => exact get?_labels_of_precedes hkl hprecedes
    | inr habsent => exact get?_labels_of_notMem hkl habsent
  · intro ms h
    exact labels_same_iff h

/-- The value that comes last stands where the first of the two keys stood. -/
example :
    (labels (.ofPairs [(.whole "a", "1"), (namespaceKeyV3, "new"), (.whole "b", "2"),
      (namespaceKeyV1, "old")])).entries =
        [(.whole "a", "1"), (namespaceKeyV3, "old"), (.whole "b", "2")] := by
  decide

end EndpointUpgrade.Upgrade
