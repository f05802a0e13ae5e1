import EndpointUpgrade.Proofs.Endpoint.RoundTrip
import EndpointUpgrade.Proofs.Reading.Agreement
import EndpointUpgrade.Proofs.Upgrade.Forgetting
import Mathlib.Data.List.Forall2

/-!
# Texts of merged lists as a normal form

The texts that a resource shows for networks are read as networks again: those of IPv4 come first,
the order within a family stays, and nothing is lost but the scopes of IPv6 networks. What was read
is written as the same texts, so these are a normal form. Only a prefix length that was given as a
truth value cannot be read again. The texts of address mappings lose nothing at all, and the family
of a mapping is that of its inner address.
-/

namespace EndpointUpgrade.Upgrade

open Endpoint Net Reading

/-- The items of IPv4 and behind them those of IPv6, each family in the order of the list. -/
def v4First {α : Type} (family : α → Family) (xs : List α) : List α :=
  xs.filter (fun x => family x = .v4) ++ xs.filter fun x => family x = .v6

/-- The texts of networks that are split by family and merged again. -/
def mergedNetworkTexts (is : List Interface) : List String :=
  let parts := ByFamily.ofList Interface.family is
  networkTexts parts.v4 parts.v6

/-- The texts of address mappings that are split by family and merged again. -/
def mergedMappingTexts (ms : List Mapping) : List TextMapping :=
  let parts := ByFamily.ofList AddressPair.family ms
  mappingTexts parts.v4 parts.v6

section Order

variable {α : Type} {family : α → Family}

theorem v4First_eq_toList (xs : List α) : v4First family xs = (ByFamily.ofList family xs).toList :=
  rfl

theorem v4First_v4First (xs : List α) :
    v4First family (v4First family xs) = v4First family xs := by
  rw [v4First_eq_toList xs, v4First_eq_toList, ByFamily.ofList_toList]

theorem v4First_map {f : α → α} (hf : ∀ x, family (f x) = family x) (xs : List α) :
    v4First family (xs.map f) = (v4First family xs).map f := by
  rw [v4First_eq_toList, ByFamily.ofList_map f hf, ByFamily.toList_map, v4First_eq_toList]

theorem mem_v4First {xs : List α} {x : α} : x ∈ v4First family xs ↔ x ∈ xs := by
  rw [v4First, List.mem_append, List.mem_filter, List.mem_filter]
  cases family x <;> simp

end Order

/-! ## Networks -/

theorem mergedNetworkTexts_eq (is : List Interface) :
    mergedNetworkTexts is = (v4First Interface.family is).map Interface.cidr := rfl

/-- What the texts of merged networks are read as is written as the same texts. -/
theorem mergedNetworkTexts_map_unscoped (is : List Interface) :
    mergedNetworkTexts ((v4First Interface.family is).map Interface.unscoped) =
      mergedNetworkTexts is := by
  have hunscoped : Interface.unscoped ∘ Interface.unscoped = Interface.unscoped :=
    funext Interface.unscoped_unscoped
  rw [mergedNetworkTexts_eq, mergedNetworkTexts_eq, v4First_map Interface.family_unscoped,
    v4First_v4First, map_cidr_eq_iff, List.map_map, hunscoped]

theorem map_unscoped_eq_self_iff {is : List Interface} :
    is.map Interface.unscoped = is ↔ ∀ i ∈ is, i.scope? = none := by
  calc is.map Interface.unscoped = is ↔ is.map Interface.unscoped = is.map id := by rw [List.map_id]
    _ ↔ ∀ i ∈ is, i.unscoped = i := List.map_inj_left
    _ ↔ ∀ i ∈ is, i.scope? = none := by simp only [Interface.unscoped_eq_self_iff]

section ReadBack

variable {known : Masks} {is : List Interface}

theorem networkList_mergedNetworkTexts (h : ∀ i ∈ is, i.asTruth = false) :
    networkList known (Document.texts (mergedNetworkTexts is)).toValue =
      .ok ((v4First Interface.family is).map Interface.unscoped) := by
  have htexts : mergedNetworkTexts is =
      ((v4First Interface.family is).map Interface.unscoped).map Interface.text := by
    rw [mergedNetworkTexts_eq, List.map_map]
    exact List.map_congr_left fun i hi => Interface.cidr_of_not_asTruth (h i (mem_v4First.mp hi))
  have hplain : ((v4First Interface.family is).map Interface.unscoped).map Interface.plain =
      (v4First Interface.family is).map Interface.unscoped := by
    rw [List.map_map]
    refine List.map_congr_left fun i hi => Interface.plain_eq_self_iff.mpr ?_
    rw [Interface.asTruth_unscoped]
    exact h i (mem_v4First.mp hi)
  rw [htexts, networkList_map_text, hplain]

theorem exists_read?_of_elements {texts : List String} {position : Int} {back : List Interface}
    (h : elements (fun p => network p.1 p.2) position
      (threaded Masks.after known (Document.toValues (texts.map .text))) = .ok back) :
    ∀ s ∈ texts, ∃ n, Network.read? s.toList = some n := by
  induction texts generalizing known position back with
  | nil => exact nofun
  | cons s texts ih =>
    rw [List.map_cons, Document.toValues, threaded, elements, Checked.seq_eq_ok_iff] at h
    obtain ⟨_, rest, hcons, hrest, rfl⟩ := h
    obtain ⟨i, hi, rfl⟩ := Checked.map_eq_ok_iff.mp hcons
    rw [Checked.under_eq_ok_iff, Document.toValue, network, Interface.ofValue] at hi
    refine List.forall_mem_cons.mpr ⟨?_, ih hrest⟩
    cases hread : Network.read? s.toList with
    | some n => exact ⟨n, rfl⟩
    | none =>
      rw [hread] at hi
      contradiction

/-- Every text of a list of networks that is read is the text of a network. -/
theorem exists_read?_of_networkList {texts : List String} {back : List Interface}
    (h : networkList known (Document.texts texts).toValue = .ok back) :
    ∀ s ∈ texts, ∃ n, Network.read? s.toList = some n := by
  rw [Document.texts, Document.toValue] at h
  exact exists_read?_of_elements h

/-- Texts with a truth value are not read. -/
theorem networkList_mergedNetworkTexts_ne_ok {i : Interface} (hi : i ∈ is)
    (htruth : i.asTruth = true) (back : List Interface) :
    networkList known (Document.texts (mergedNetworkTexts is)).toValue ≠ .ok back := by
  intro h
  have hmem : i.cidr ∈ mergedNetworkTexts is :=
    List.mem_map_of_mem (f := Interface.cidr) (mem_v4First.mpr hi)
  obtain ⟨n, hn⟩ := exists_read?_of_networkList h _ hmem
  rw [Interface.cidr, String.toList_ofList, Interface.read?_cidrChars_of_asTruth htruth] at hn
  contradiction

end ReadBack

/-! ## Address mappings -/

/-- A mapping of texts that are read as the addresses of another one. -/
def ReadsAs (t : TextMapping) (m : Mapping) : Prop :=
  address (Document.text t.internal).toValue = .ok m.internal ∧
    address (Document.text t.external).toValue = .ok m.external

theorem readsAs_toText (m : Mapping) : ReadsAs m.toText m :=
  ⟨address_toValue m.internal, address_toValue m.external⟩

/-- The texts of merged networks are read as the networks of IPv4 and then those of IPv6, each
without its scope, and these have the same texts again; no scope is missed exactly if none of the
networks had one. They are not read at all exactly if a prefix length was given as a truth value.
The texts of merged mappings are read as the mappings themselves, ordered by the families of their
inner addresses. -/
theorem merged_texts_read_back (known : Masks) :
    (∀ is : List Interface, (∀ i ∈ is, i.asTruth = false) → ∃ back,
      networkList known (Document.texts (mergedNetworkTexts is)).toValue = .ok back ∧
        back = (v4First Interface.family is).map Interface.unscoped ∧
        (back = v4First Interface.family is ↔ ∀ i ∈ is, i.scope? = none) ∧
        mergedNetworkTexts back = mergedNetworkTexts is) ∧
      (∀ is : List Interface, (∃ i ∈ is, i.asTruth = true) → ∀ back,
        networkList known (Document.texts (mergedNetworkTexts is)).toValue ≠ .ok back) ∧
      ∀ ms : List Mapping, List.Forall₂ ReadsAs (mergedMappingTexts ms)
        (v4First (fun m => m.internal.family) ms) := by
  refine ⟨?_, ?_, ?_⟩
  · intro is h
    refine ⟨_, networkList_mergedNetworkTexts h, rfl, ?_, mergedNetworkTexts_map_unscoped is⟩
    simp only [map_unscoped_eq_self_iff, mem_v4First]
  · rintro is ⟨i, hi, htruth⟩ back
    exact networkList_mergedNetworkTexts_ne_ok hi htruth back
  · intro ms
    change List.Forall₂ ReadsAs ((v4First AddressPair.family ms).map AddressPair.toText) _
    rw [List.forall₂_map_left_iff]
    exact List.forall₂_same.mpr fun m _ => readsAs_toText m

/-- A network of a scoped address in front of one of IPv4. -/
def scopedFirst : List Interface :=
  [.ofNetwork (.v6 linkLocal ⟨64, by decide⟩), .ofNetwork (.v4 ⟨10, 0, 0, 1⟩ ⟨24, by decide⟩)]

theorem merged_texts_read_back_scopedFirst :
    (∀ i ∈ scopedFirst, i.asTruth = false) ∧ mergedNetworkTexts scopedFirst =
        ["10.0.0.1/24", "fe80::1/64"] ∧
      ∃ back, networkList .empty
          (Document.texts (mergedNetworkTexts scopedFirst)).toValue = .ok back ∧
        back = (v4First Interface.family scopedFirst).map Interface.unscoped := by
  have hnumbers : ∀ i ∈ scopedFirst, i.asTruth = false := by decide
  obtain ⟨back, hread, hback, -⟩ := (merged_texts_read_back .empty).1 scopedFirst hnumbers
  exact ⟨hnumbers, by decide +kernel, back, hread, hback⟩

/-- The truth value of a pair stands in the text of its network, which is not read again. -/
theorem mergedNetworkTexts_truth :
    networkList .empty (.list [.tuple [.text "10.0.0.0", .bool true]]) =
        .ok [.v4 ⟨10, 0, 0, 0⟩ truthLength] ∧
      mergedNetworkTexts [.v4 ⟨10, 0, 0, 0⟩ truthLength] = ["10.0.0.0/True"] ∧
      networkList .empty (Document.texts ["10.0.0.0/True"]).toValue =
        .faulty [⟨[.index 0], .noNetwork⟩] := by
  decide +kernel

end EndpointUpgrade.Upgrade
