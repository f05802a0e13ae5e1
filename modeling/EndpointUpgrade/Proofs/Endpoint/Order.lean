import EndpointUpgrade.Endpoint.Stored
import EndpointUpgrade.Endpoint.V1
import EndpointUpgrade.Proofs.Labels
import EndpointUpgrade.Proofs.Reading.Agreement

/-!
# Endpoints without regard to order

Labels are read as the same map in whatever order their entries stand, and every record of the v1
API and of the backend is read as the same record, or with the same issues, in whatever order the
entries of its mappings stand.
-/

namespace EndpointUpgrade

open Reading Text Value
open scoped Relator

/-! ## Labels -/

namespace Labels

variable {es fs gs : List (Value × Value)} {ps qs : List (RawText × String)}

theorem readPairs_of_forall₂ (h : List.Forall₂ ReorderedEntry es fs) :
    readPairs es = readPairs fs := by
  induction h with
  | nil => rfl
  | cons he _ ih =>
    cases he with
    | mk key hvalue => rw [readPairs, readPairs, readPair, readPair, text_of_reordered hvalue, ih]

theorem ends_readPair (key value : Value) : (readPair key value).Ends :=
  ((((ends_rawText key).under _).under _).map _).seq ((ends_text value).under _)

/-- Two results in front of others can change places. -/
theorem agree_swap {α : Type} {x y : Checked α} (hx : x.Ends) (hy : y.Ends)
    (z : Checked (List α)) :
    Agree List.Perm (List.cons <$> x <*> (List.cons <$> y <*> z))
      (List.cons <$> y <*> (List.cons <$> x <*> z)) := by
  cases x with
  | broken m => exact absurd rfl (hx m)
  | ok a =>
    cases y with
    | ok b =>
      cases z with
      | ok as => exact .ok (.swap b a as)
      | faulty ks => exact .faulty (.refl ks)
      | broken m => exact .broken m
    | faulty js => cases z <;> exact .refl List.Perm.refl _
    | broken m => exact absurd rfl (hy m)
  | faulty is =>
    cases y with
    | ok b => cases z <;> exact .refl List.Perm.refl _
    | faulty js =>
      cases z with
      | ok as => exact .faulty List.perm_append_comm
      | faulty ks => exact .faulty (List.perm_append_comm_assoc is js ks)
      | broken m => exact .broken m
    | broken m => exact absurd rfl (hy m)

/-- Entries in another order are the same pairs, or have the same issues. -/
theorem agree_readPairs_of_perm (h : fs.Perm gs) :
    Agree List.Perm (readPairs fs) (readPairs gs) := by
  induction h with
  | nil => exact .ok .nil
  | cons e _ ih =>
    have hcons : (Eq ⇒ (List.Perm ⇒ List.Perm)) (List.cons (α := RawText × String)) List.cons := by
      intro p _ rfl ps qs hperm
      exact hperm.cons p
    exact (Agree.map hcons (.of_eq rfl)).seq ih
  | swap e f es => exact agree_swap (ends_readPair _ _) (ends_readPair _ _) (readPairs es)
  | trans _ _ ih ih' => exact ih.trans (fun _ _ _ => List.Perm.trans) ih'

theorem rawText_eq_ok {v : Value} {key : RawText} (hkey : isAnyText v = true)
    (h : rawText v = .ok key) : v = valueOf key := by
  cases v with
  | text t => rw [← Checked.ok.inj h]; rfl
  | tornText points => rw [← Checked.ok.inj h]; rfl
  | _ => exact absurd hkey (by simp [isAnyText])

/-- Pairs have the keys of the entries that they are read from. -/
theorem keys_of_readPairs (texts : ∀ e ∈ es, isAnyText e.1 = true) (h : readPairs es = .ok ps) :
    es.map Prod.fst = ps.map fun p => valueOf p.1 := by
  induction es generalizing ps with
  | nil =>
    obtain rfl := Checked.ok.inj h
    rfl
  | cons e es ih =>
    rw [List.forall_mem_cons] at texts
    rw [readPairs, Checked.seq_eq_ok_iff] at h
    obtain ⟨_, rest, hcons, hrest, rfl⟩ := h
    obtain ⟨_, hpair, rfl⟩ := Checked.map_eq_ok_iff.mp hcons
    rw [readPair] at hpair
    obtain ⟨_, value, hmk, -, rfl⟩ := Checked.seq_eq_ok_iff.mp hpair
    obtain ⟨key, hkey, rfl⟩ := Checked.map_eq_ok_iff.mp hmk
    rw [Checked.under_eq_ok_iff, Checked.under_eq_ok_iff] at hkey
    rw [List.map_cons, List.map_cons, rawText_eq_ok texts.1 hkey, ih texts.2 hrest]

theorem ofPairs_same_of_perm (distinct : (ps.map Prod.fst).Nodup) (h : ps.Perm qs) :
    (ofPairs ps).Same (ofPairs qs) := by
  have hps : (ofPairs ps).entries = ps := entries_foldl_insert distinct
  have hqs : (ofPairs qs).entries = qs :=
    entries_foldl_insert ((h.map Prod.fst).nodup_iff.mp distinct)
  rw [same_iff_perm, hps, hqs]
  exact h

theorem orderFree_read : OrderFree Same read := by
  intro v w h
  cases v with
  | map es =>
    obtain ⟨_, gs, rfl, -⟩ := h.exists_entries
    obtain ⟨fs, hentries, hperm⟩ := h.entries
    -- values are replaced in place first, and then the entries change places
    have hpairs : Agree List.Perm (readPairs es) (readPairs gs) := by
      rw [readPairs_of_forall₂ hentries]
      exact agree_readPairs_of_perm hperm
    have hdistinct : Agree (fun ps qs => (ofPairs ps).Same (ofPairs qs)) (readPairs es)
        (readPairs gs) := by
      apply hpairs.mono
      intro ps qs hps hpq
      have hkeys := h.distinct
      rw [keys_of_readPairs (haveTextKeys_iff.mp h.keyed).1 hps] at hkeys
      apply ofPairs_same_of_perm _ hpq
      exact (List.Nodup.of_map valueOf (by rwa [List.map_map]))
    exact hdistinct.map fun _ _ hab => hab
  | _ => cases h.reordered <;> exact .faulty (.refl _)

end Labels

/-! ## Endpoints -/

namespace Endpoint

theorem AddressPair.orderFree_read {α : Type} (shape : Shape) {part : Value → Checked α}
    (hpart : OrderFree Eq part) : OrderFree Eq (AddressPair.read shape part) := by
  apply orderFree_record
  intro es gs h
  exact (agree_required h _ hpart).map_eq _
    |>.seq_eq (agree_required h _ hpart)

theorem Protocol.orderFree_read : OrderFree Eq Protocol.read := by
  apply OrderFree.of_eq
  intro v w h
  cases h <;> rfl

theorem Port.orderFree_read : OrderFree Eq Port.read := by
  apply orderFree_record
  intro es gs h
  exact (agree_required h _ (orderFree_text.thenRule _)).map_eq _
    |>.seq_eq (agree_required h _ Protocol.orderFree_read)
    |>.seq_eq (agree_required h _ (orderFree_integerWithin 1 65535))

theorem orderFree_readMac : OrderFree Eq readMac := orderFree_optionalText.thenRule _

theorem orderFree_readGateway4 (field : String) : OrderFree Eq (readGateway4 field) :=
  orderFree_optionalAddress.thenRule _

theorem orderFree_readGateway6 (field : String) : OrderFree Eq (readGateway6 field) :=
  orderFree_optionalAddress.thenRule _

theorem orderFree_networkList (known : Net.Masks) : OrderFree Eq (networkList known) :=
  .of_eq fun _ _ => networkList_of_reordered

theorem orderFree_readNetworksOf (known : Net.Masks) (family : Net.Family) (field : String) :
    OrderFree Eq (readNetworksOf known family field) :=
  (orderFree_networkList known).thenRule _

theorem orderFree_readMappingsOf (family : Net.Family) (field : String) :
    OrderFree Eq (readMappingsOf family field) :=
  (AddressPair.orderFree_read .backend orderFree_address).listOf.thenRule _

namespace V1

theorem Metadata.orderFree_read : OrderFree Metadata.Same Metadata.read := by
  apply orderFree_record
  intro es gs h
  refine Agree.map (R := Eq) ?make (agree_required h _ orderFree_text)
    |>.seq (agree_required h _ orderFree_text)
    |>.seq (agree_required h _ orderFree_text)
    |>.seq (agree_required h _ orderFree_text)
    |>.seq (agree_optional h _ "" rfl orderFree_text)
    |>.seq (agree_optional h _ ∅ (Labels.same_iff_perm.mpr (.refl _)) Labels.orderFree_read)
  case make =>
    rintro endpointId _ rfl workloadId _ rfl orchestrator _ rfl host _ rfl instanceId _ rfl
    exact fun _ _ hlabels => ⟨rfl, rfl, hlabels⟩

theorem Spec.orderFree_read (known : Net.Masks) : OrderFree Eq (Spec.read known) := by
  apply orderFree_record
  intro es gs h
  exact (agree_optional h _ [] rfl (orderFree_networkList known)).map_eq _
    |>.seq_eq (agree_optional h _ [] rfl (AddressPair.orderFree_read _ orderFree_address).listOf)
    |>.seq_eq (agree_optional h _ none rfl (orderFree_readGateway4 _))
    |>.seq_eq (agree_optional h _ none rfl (orderFree_readGateway6 _))
    |>.seq_eq (agree_optional h _ [] rfl orderFree_text.listOf)
    |>.seq_eq (agree_optional h _ "" rfl orderFree_text)
    |>.seq_eq (agree_optional h _ none rfl orderFree_readMac)
    |>.seq_eq (agree_optional h _ [] rfl Port.orderFree_read.listOf)

theorem orderFree_read (known : Net.Masks) : OrderFree V1.Same (V1.read known) := by
  apply orderFree_record
  intro es gs h
  have hmk : (Metadata.Same ⇒ (Eq ⇒ V1.Same)) V1.mk V1.mk := fun _ _ hm _ _ hs => ⟨hm, hs⟩
  exact Agree.map hmk (agree_required h _ Metadata.orderFree_read)
    |>.seq (agree_optional h _ .empty rfl (Spec.orderFree_read known))

end V1

namespace Stored

theorem Key.orderFree_read : OrderFree Eq Key.read := by
  apply orderFree_record
  intro es gs h
  exact (agree_required h _ orderFree_text).map_eq _
    |>.seq_eq (agree_required h _ orderFree_text)
    |>.seq_eq (agree_required h _ orderFree_text)
    |>.seq_eq (agree_required h _ orderFree_text)

theorem Value.agree_readNetworks (known : Net.Masks) {es gs : Entries}
    (h : Rearranged (.map es) (.map gs)) :
    Agree Eq (readNetworks known es) (readNetworks known gs) := by
  unfold readNetworks
  rw [after_of_rearranged h networks4Field fun _ _ => masksAfterList_of_reordered]
  exact (agree_optional h _ _ rfl (orderFree_readNetworksOf known .v4 _)).map_eq _
    |>.seq_eq (agree_optional h _ _ rfl (orderFree_readNetworksOf _ .v6 _))

theorem Value.orderFree_read (known : Net.Masks) : OrderFree Value.Same (Value.read known) := by
  apply orderFree_record
  intro es gs h
  refine Agree.map (R := Eq) ?make (agree_optional h _ "" rfl orderFree_text)
    |>.seq (agree_optional h _ "" rfl orderFree_text)
    |>.seq (agree_optional h _ "" rfl orderFree_text)
    |>.seq (agree_optional h _ none rfl orderFree_readMac)
    |>.seq (agree_optional h _ [] rfl orderFree_text.listOf)
    |>.seq (agree_readNetworks known h)
    |>.seq (agree_optional h _ _ rfl (orderFree_readMappingsOf .v4 _))
    |>.seq (agree_optional h _ _ rfl (orderFree_readMappingsOf .v6 _))
    |>.seq (agree_optional h _ ∅ (Labels.same_iff_perm.mpr (.refl _)) Labels.orderFree_read)
    |>.seq (agree_optional h _ none rfl (orderFree_readGateway4 _))
    |>.seq (agree_optional h _ none rfl (orderFree_readGateway6 _))
    |>.seq (agree_optional h _ [] rfl Port.orderFree_read.listOf)
  case make =>
    rintro state _ rfl interfaceName _ rfl instanceId _ rfl mac _ rfl profiles _ rfl
    rintro networks _ rfl mappings4 _ rfl mappings6 _ rfl
    rintro labels labels' hlabels gateway4 _ rfl gateway6 _ rfl ports _ rfl
    exact ⟨hlabels, rfl⟩

theorem orderFree_read (known : Net.Masks) : OrderFree Stored.Same (Stored.read known) := by
  apply orderFree_record
  intro es gs h
  have hmk : (Eq ⇒ (Value.Same ⇒ Stored.Same)) Stored.mk Stored.mk :=
    fun _ _ hk _ _ hv => ⟨hk, hv⟩
  exact Agree.map hmk (agree_required h _ Key.orderFree_read)
    |>.seq (agree_required h _ (Value.orderFree_read known))

end Stored

end Endpoint

end EndpointUpgrade
