import EndpointUpgrade.Documents.Upgrade
import EndpointUpgrade.Proofs.Documents.Reader
import EndpointUpgrade.Proofs.Upgrade.Forgetting
import EndpointUpgrade.Proofs.Upgrade.Mixing
import EndpointUpgrade.Proofs.Upgrade.Relabeling
import Mathlib.Data.List.Forall2

/-!
# Upgrading in two stages

Documents can be taken to v3 resources at once, or first to the backend form, whose documents are
taken to v3 resources later. Both ways lead to the same result, whether it is resources or the first
workload id that cannot be decoded, as long as a document of the backend form shows all of its
record: nothing is renamed before the second stage. Not shown is that a prefix length was given as a
truth value, and halves of characters in the keys of labels.
-/

namespace EndpointUpgrade

/-! ## Steps on lists -/

namespace Logged

variable {ε α β : Type}

theorem andThen_result (x : Logged (Except ε α)) (next : α → Logged (Except ε β)) :
    (x.andThen next).result = x.result >>= fun a => (next a).result := by
  obtain ⟨result, log⟩ := x
  cases result <;> rfl

theorem forEach_result (step : α → Logged (Except ε β)) (as : List α) :
    (forEach step as).result = as.mapM fun a => (step a).result := by
  induction as with
  | nil => rfl
  | cons a as ih =>
    rw [forEach, andThen_result, List.mapM_cons]
    congr
    funext b
    rw [andThen_result, ih]
    rfl

end Logged

namespace Documents

open Endpoint Identity Text

section

variable {ε α β γ : Type} {f : α → Except ε β} {g : β → Except ε γ}

theorem mapM_eq_ok_iff {as : List α} {bs : List β} :
    as.mapM f = .ok bs ↔ List.Forall₂ (fun a b => f a = .ok b) as bs := by
  induction as generalizing bs with
  | nil => cases bs <;> simp [pure, Except.pure]
  | cons a as ih =>
    rw [List.mapM_cons]
    cases ha : f a with
    | error e => cases bs <;> simp [bind, Except.bind, ha]
    | ok b =>
      cases has : as.mapM f with
      | error e => cases bs <;> simp [bind, Except.bind, ha, ← ih, has]
      | ok rest => cases bs <;> simp [bind, Except.bind, pure, Except.pure, ha, ← ih, has]

theorem exists_of_mapM_eq_ok {as : List α} {bs : List β} (h : as.mapM f = .ok bs) {a : α}
    (ha : a ∈ as) : ∃ b, f a = .ok b := by
  have hitems := mapM_eq_ok_iff.mp h
  clear h
  induction hitems with
  | nil => exact absurd ha List.not_mem_nil
  | cons hb _ ih =>
    rcases List.mem_cons.mp ha with rfl | hmem
    · exact ⟨_, hb⟩
    · exact ih hmem

/-- Once the first step has succeeded on all items, the second one goes on with its results. -/
theorem mapM_bind_of_ok {as : List α} {bs : List β} (h : as.mapM f = .ok bs) :
    (as.mapM fun a => f a >>= g) = bs.mapM g := by
  have hitems := mapM_eq_ok_iff.mp h
  clear h
  induction hitems with
  | nil => rfl
  | cons hb _ ih =>
    rw [List.mapM_cons, List.mapM_cons, hb, ih]
    rfl

theorem exists_mapM_of_bind {as : List α} {cs : List γ}
    (h : (as.mapM fun a => f a >>= g) = .ok cs) : ∃ bs, as.mapM f = .ok bs := by
  have hitems := mapM_eq_ok_iff.mp h
  clear h
  induction hitems with
  | nil => exact ⟨[], rfl⟩
  | cons hc _ ih =>
    rename_i a c as cs _
    obtain ⟨bs, hbs⟩ := ih
    cases ha : f a with
    | error e =>
      rw [ha] at hc
      exact absurd hc (by simp [bind, Except.bind])
    | ok b =>
      refine ⟨b :: bs, ?_⟩
      rw [List.mapM_cons, ha, hbs]
      rfl

theorem mapM_eq_mapM_iff {f' : α → Except ε β} {as : List α} {bs : List β}
    (h : as.mapM f = .ok bs) : as.mapM f' = as.mapM f ↔ ∀ a ∈ as, f' a = f a := by
  have hitems := mapM_eq_ok_iff.mp h
  rw [h, mapM_eq_ok_iff]
  clear h
  induction hitems with
  | nil => simp
  | cons ha _ ih =>
    rw [List.forall₂_cons, List.forall_mem_cons, ha]
    exact and_congr_right fun _ => ih

end

/-! ## The two stages of one document -/

/-- The stored endpoint of a document, where some masks are known. -/
def readStored (known : Net.Masks) (entries : Entries) : Except Failure Stored :=
  (record known entries).map fun r => (toStored r).result

def readAllStored (known : Net.Masks) (documents : List Entries) : Except Failure (List Stored) :=
  (threaded masksAfter known documents).mapM fun p => readStored p.1 p.2

/-- The resource of a stored endpoint, as a result of the run. -/
def finish (e : Stored) : Except Failure Upgraded := (toTarget .v3 e).result

section

variable {known : Net.Masks}

theorem upgradeDocument_result (target : Target) (known : Net.Masks) (entries : Entries) :
    (upgradeDocument target known entries).result =
      readStored known entries >>= fun e => (toTarget target e).result := by
  rw [upgradeDocument, Logged.andThen_result, readStored, readRecord]
  cases record known entries <;> rfl

theorem upgradeAll_v3_result (known : Net.Masks) (documents : List Entries) :
    (upgradeAll .v3 known documents).result =
      (threaded masksAfter known documents).mapM fun p => readStored p.1 p.2 >>= finish := by
  rw [upgradeAll, Logged.forEach_result]
  congr
  funext p
  exact upgradeDocument_result .v3 p.1 p.2

theorem upgradeAll_backend_result (known : Net.Masks) (documents : List Entries) :
    (upgradeAll .backend known documents).result =
      (readAllStored known documents).map fun es => es.map .stored := by
  rw [upgradeAll, Logged.forEach_result, readAllStored]
  induction threaded masksAfter known documents with
  | nil => rfl
  | cons p rest ih =>
    rw [List.mapM_cons, List.mapM_cons, ih, upgradeDocument_result]
    cases readStored p.1 p.2 with
    | error e => rfl
    | ok e => cases rest.mapM fun p => readStored p.1 p.2 <;> rfl

theorem readStored_document (known : Net.Masks) (e : Stored) :
    readStored known e.document.entries = .ok e.shown := by
  rw [readStored, record_document_stored]
  rfl

/-- The documents of stored endpoints are read whatever masks are known. -/
theorem readAllStored_documents (known : Net.Masks) (es : List Stored) :
    readAllStored known (es.map fun e => e.document.entries) = .ok (es.map Stored.shown) := by
  rw [readAllStored, mapM_eq_ok_iff, List.forall₂_map_right_iff]
  induction es generalizing known with
  | nil => exact .nil
  | cons e es ih => exact .cons (readStored_document known e) (ih _)

end

/-! ## Keys that cannot be decoded -/

/-- A key of `k8s` whose workload id has no point. -/
def Undecodable (key : Identifiers) : Prop :=
  key.orchestrator = k8s ∧ '.' ∉ key.workloadId.toList

theorem toResource_of_undecodable {e : Stored} (h : Undecodable e.key) :
    (Upgrade.toResource e).result = .error (.workloadId e.key.workloadId) := by
  have hdecode : decodeWorkloadId e.key.orchestrator e.key.workloadId =
      .error (.workloadId e.key.workloadId) := by
    rw [decodeWorkloadId, if_neg (by simpa using h.1), cutAt_of_notMem h.2]
  rw [Upgrade.toResource, Upgrade.resource, hdecode]
  rfl

theorem exists_toResource_of_decodable {e : Stored} (h : ¬Undecodable e.key) :
    ∃ r, (Upgrade.toResource e).result = .ok r := by
  have hpoint : e.key.orchestrator = k8s → '.' ∈ e.key.workloadId.toList := by
    intro ho
    by_contra absent
    exact h ⟨ho, absent⟩
  obtain ⟨w, hw⟩ := exists_decodeWorkloadId hpoint
  exact ⟨_, Upgrade.toResource_result_eq_ok_iff.mpr ⟨w, hw, rfl⟩⟩

theorem finish_of_undecodable {e : Stored} (h : Undecodable e.key) :
    finish e = .error (.malformed (.workloadId e.key.workloadId)) := by
  rw [finish, toTarget, Logged.andThen_result, Logged.mapError, toResource_of_undecodable h]
  rfl

theorem finish_eq_ok_iff {e : Stored} {u : Upgraded} :
    finish e = .ok u ↔ ∃ r, (Upgrade.toResource e).result = .ok r ∧ u = .v3 r := by
  rw [finish, toTarget, Logged.andThen_result, Logged.mapError]
  cases (Upgrade.toResource e).result with
  | error reason => simp [Except.mapError, bind, Except.bind]
  | ok r => simp [Except.mapError, bind, Except.bind, Logged.silent, eq_comm]

theorem finish_eq_error {e : Stored} {failure : Failure} (h : finish e = .error failure) :
    Undecodable e.key ∧ failure = .malformed (.workloadId e.key.workloadId) := by
  by_cases hkey : Undecodable e.key
  · rw [finish_of_undecodable hkey] at h
    exact ⟨hkey, (Except.error.inj h).symm⟩
  · obtain ⟨r, hr⟩ := exists_toResource_of_decodable hkey
    rw [finish_eq_ok_iff.mpr ⟨r, hr, rfl⟩] at h
    exact absurd h (by simp)

theorem mapM_finish_eq_ok_iff {es : List Stored} {us : List Upgraded} :
    es.mapM finish = .ok us ↔
      ∃ rs, us = rs.map .v3 ∧
        List.Forall₂ (fun e r => (Upgrade.toResource e).result = .ok r) es rs := by
  rw [mapM_eq_ok_iff]
  constructor
  · intro h
    induction h with
    | nil => exact ⟨[], rfl, .nil⟩
    | cons hu _ ih =>
      obtain ⟨r, hr, rfl⟩ := finish_eq_ok_iff.mp hu
      obtain ⟨rs, rfl, hrs⟩ := ih
      exact ⟨r :: rs, rfl, .cons hr hrs⟩
  · rintro ⟨rs, rfl, hrs⟩
    rw [List.forall₂_map_right_iff]
    exact hrs.imp fun e r hr => finish_eq_ok_iff.mpr ⟨r, hr, rfl⟩

theorem exists_mapM_finish_iff {es : List Stored} :
    (∃ us, es.mapM finish = .ok us) ↔ ∀ e ∈ es, ¬Undecodable e.key := by
  constructor
  · rintro ⟨us, hus⟩ e he hkey
    obtain ⟨u, hu⟩ := exists_of_mapM_eq_ok hus he
    obtain ⟨r, hr, -⟩ := finish_eq_ok_iff.mp hu
    rw [toResource_of_undecodable hkey] at hr
    exact absurd hr (by simp)
  · intro h
    induction es with
    | nil => exact ⟨[], rfl⟩
    | cons e es ih =>
      obtain ⟨us, hus⟩ := ih fun x hx => h x (List.mem_cons_of_mem _ hx)
      obtain ⟨r, hr⟩ := exists_toResource_of_decodable (h e List.mem_cons_self)
      refine ⟨.v3 r :: us, ?_⟩
      rw [List.mapM_cons, finish_eq_ok_iff.mpr ⟨r, hr, rfl⟩, hus]
      rfl

theorem mapM_finish_eq_error {es : List Stored} {failure : Failure}
    (h : es.mapM finish = .error failure) :
    ∃ e ∈ es, Undecodable e.key ∧ failure = .malformed (.workloadId e.key.workloadId) := by
  induction es with
  | nil => exact absurd h (by simp [pure, Except.pure])
  | cons e es ih =>
    rw [List.mapM_cons] at h
    cases he : finish e with
    | error f =>
      rw [he] at h
      obtain rfl : f = failure := Except.error.inj h
      exact ⟨e, List.mem_cons_self, finish_eq_error he⟩
    | ok u =>
      cases hes : es.mapM finish with
      | error f =>
        rw [he, hes] at h
        obtain rfl : f = failure := Except.error.inj h
        obtain ⟨x, hx, hfailure⟩ := ih hes
        exact ⟨x, List.mem_cons_of_mem _ hx, hfailure⟩
      | ok us =>
        rw [he, hes] at h
        exact absurd h (by simp [bind, Except.bind, pure, Except.pure])

/-! ## What documents show of stored endpoints -/

/-- The document of an endpoint shows all of it: no prefix length was given as a truth value, and no
half of a character stands alone in a key of the labels. -/
structure IsShown (e : Stored) : Prop where
  numbers4 : ∀ i ∈ e.value.networks.v4, i.asTruth = false
  numbers6 : ∀ i ∈ e.value.networks.v6, i.asTruth = false
  keys : e.value.labels.WholeKeys

theorem cidr_plain_eq_iff {i : Net.Interface} : i.plain.cidr = i.cidr ↔ i.asTruth = false := by
  rw [Net.Interface.cidr_eq_iff]
  constructor
  · intro h
    rw [← Net.Interface.asTruth_unscoped, ← h, Net.Interface.asTruth_unscoped]
    cases i <;> rfl
  · intro h
    rw [Net.Interface.plain_eq_self_iff.mpr h]

theorem networkTexts_plain_eq_iff {is js : List Net.Interface} :
    Upgrade.networkTexts (is.map Net.Interface.plain) (js.map Net.Interface.plain) =
        Upgrade.networkTexts is js ↔
      (∀ i ∈ is, i.asTruth = false) ∧ ∀ i ∈ js, i.asTruth = false := by
  rw [Upgrade.networkTexts, Upgrade.networkTexts, ← List.map_append, List.map_map,
    List.map_inj_left, ← List.forall_mem_append]
  exact forall₂_congr fun i _ => cidr_plain_eq_iff

theorem labels_shown_eq_iff {ls : Labels} :
    Upgrade.labels ls.shown = Upgrade.labels ls ↔ ls.WholeKeys := by
  constructor
  · intro h key hkey
    have hmem : Upgrade.labelKey key ∈ (Upgrade.labels ls.shown).keys := by
      rw [h, Upgrade.keys_labels, List.mem_eraseDups]
      exact List.mem_map_of_mem hkey
    rw [Upgrade.keys_labels, List.mem_eraseDups] at hmem
    obtain ⟨shown, hshown, heq⟩ := List.mem_map.mp hmem
    have hwhole := ls.wholeKeys_shown shown hshown
    by_cases hkey1 : key = Upgrade.namespaceKeyV1
    · rw [hkey1]
      rfl
    · rw [Upgrade.labelKey_of_ne hkey1] at heq
      rw [← heq, Upgrade.labelKey]
      split
      · rfl
      · exact hwhole
  · intro h
    rw [Labels.shown_eq_self_iff.mpr h]

theorem finish_shown_of_undecodable {e : Stored} (h : Undecodable e.key) :
    finish e.shown = finish e := by
  rw [finish_of_undecodable h, finish_of_undecodable (e := e.shown) h]
  rfl

/-- A stored endpoint and what its document shows become the same resource exactly if the document
shows all of it. -/
theorem finish_shown_eq_iff {e : Stored} (h : ¬Undecodable e.key) :
    finish e.shown = finish e ↔ IsShown e := by
  obtain ⟨r, hr⟩ := exists_toResource_of_decodable h
  obtain ⟨w, hw, rfl⟩ := Upgrade.toResource_result_eq_ok_iff.mp hr
  have hshown : finish e.shown = .ok (.v3 (Upgrade.resourceOf e.shown w)) :=
    finish_eq_ok_iff.mpr ⟨_, Upgrade.toResource_result_eq_ok_iff.mpr ⟨w, hw, rfl⟩, rfl⟩
  rw [hshown, finish_eq_ok_iff.mpr ⟨_, hr, rfl⟩, Except.ok.injEq, Upgraded.v3.injEq]
  constructor
  · intro heq
    have hnetworks := congrArg (fun r => r.spec.networks) heq
    have hlabels := congrArg (fun r => r.metadata.labels) heq
    obtain ⟨numbers4, numbers6⟩ := networkTexts_plain_eq_iff.mp hnetworks
    exact ⟨numbers4, numbers6, labels_shown_eq_iff.mp hlabels⟩
  · intro hall
    have hnetworks := networkTexts_plain_eq_iff.mpr ⟨hall.numbers4, hall.numbers6⟩
    have hlabels := labels_shown_eq_iff.mpr hall.keys
    unfold Upgrade.resourceOf
    rw [← hlabels, ← hnetworks]
    rfl

/-! ## Whole runs -/

/-- What documents are taken to at once and in two stages, when they are taken to the backend form
as the given stored endpoints. The second stage may know other masks than the first one. -/
structure Staged (known : Net.Masks) (documents : List Entries) (es : List Stored) : Prop where
  succeeds : (∃ us, (upgradeAll .v3 known documents).result = .ok us) ↔
    ∀ e ∈ es, ¬Undecodable e.key
  resources : ∀ us, (upgradeAll .v3 known documents).result = .ok us ↔
    ∃ rs, us = rs.map .v3 ∧
      List.Forall₂ (fun e r => (Upgrade.toResource e).result = .ok r) es rs
  fails : ∀ failure, (upgradeAll .v3 known documents).result = .error failure →
    ∃ e ∈ es, Undecodable e.key ∧ failure = .malformed (.workloadId e.key.workloadId)
  again : ∀ known', (upgradeAll .backend known' (es.map fun e => e.document.entries)).result =
    .ok ((es.map Stored.shown).map .stored)
  again_eq_iff : (es.map Stored.shown).map Stored.plain = es.map Stored.plain ↔
    ∀ e ∈ es, e.value.labels.WholeKeys
  later : ∀ known', (upgradeAll .v3 known' (es.map fun e => e.document.entries)).result =
    (upgradeAll .v3 known documents).result ↔
      (∃ e ∈ es, Undecodable e.key) ∨ ∀ e ∈ es, IsShown e

section

variable {es : List Stored}

theorem mapM_finish_shown_of_undecodable (h : ∃ e ∈ es, Undecodable e.key) :
    (es.map Stored.shown).mapM finish = es.mapM finish := by
  induction es with
  | nil => simp at h
  | cons e es ih =>
    rw [List.map_cons, List.mapM_cons, List.mapM_cons]
    by_cases hkey : Undecodable e.key
    · rw [finish_shown_of_undecodable hkey, finish_of_undecodable hkey]
      rfl
    · obtain ⟨x, hx, hxkey⟩ := h
      have hrest : ∃ x ∈ es, Undecodable x.key := by
        rcases List.mem_cons.mp hx with rfl | hmem
        · exact absurd hxkey hkey
        · exact ⟨x, hmem, hxkey⟩
      obtain ⟨r, hr⟩ := exists_toResource_of_decodable hkey
      obtain ⟨rs, hrs⟩ := exists_toResource_of_decodable (e := e.shown) hkey
      rw [ih hrest, finish_eq_ok_iff.mpr ⟨r, hr, rfl⟩, finish_eq_ok_iff.mpr ⟨rs, hrs, rfl⟩]
      cases hfinish : es.mapM finish with
      | error failure => rfl
      | ok us =>
        obtain ⟨x, hx, hxkey⟩ := hrest
        exact absurd hxkey (exists_mapM_finish_iff.mp ⟨us, hfinish⟩ x hx)

theorem mapM_finish_shown_eq_iff :
    (es.map Stored.shown).mapM finish = es.mapM finish ↔
      (∃ e ∈ es, Undecodable e.key) ∨ ∀ e ∈ es, IsShown e := by
  by_cases hkeys : ∃ e ∈ es, Undecodable e.key
  · exact iff_of_true (mapM_finish_shown_of_undecodable hkeys) (.inl hkeys)
  · rw [or_iff_right hkeys]
    push Not at hkeys
    obtain ⟨us, hus⟩ := exists_mapM_finish_iff.mpr hkeys
    rw [List.mapM_map, mapM_eq_mapM_iff hus]
    exact forall₂_congr fun e he => finish_shown_eq_iff (hkeys e he)

theorem staged_of_readAllStored {known : Net.Masks} {documents : List Entries}
    (h : readAllStored known documents = .ok es) : Staged known documents es := by
  have hdirect : (upgradeAll .v3 known documents).result = es.mapM finish := by
    rw [upgradeAll_v3_result]
    exact mapM_bind_of_ok h
  have hlater (known' : Net.Masks) :
      (upgradeAll .v3 known' (es.map fun e => e.document.entries)).result =
        (es.map Stored.shown).mapM finish := by
    rw [upgradeAll_v3_result]
    exact mapM_bind_of_ok (readAllStored_documents known' es)
  exact
    { succeeds := by rw [hdirect]; exact exists_mapM_finish_iff
      resources := fun us => by rw [hdirect]; exact mapM_finish_eq_ok_iff
      fails := fun failure hfailure => mapM_finish_eq_error (hdirect ▸ hfailure)
      again := fun known' => by rw [upgradeAll_backend_result, readAllStored_documents]; rfl
      again_eq_iff := by
        rw [List.map_map, List.map_inj_left]
        exact forall₂_congr fun e _ => Stored.plain_shown_eq_iff
      later := fun known' => by rw [hlater, hdirect]; exact mapM_finish_shown_eq_iff }

end

/-- Documents that can be taken to the backend form are taken to v3 resources at once with the same
result as in two stages, unless a document of the backend form does not show all of its endpoint,
and documents that can be taken to v3 resources can be taken to the backend form. -/
theorem upgradeAll_staged (known : Net.Masks) (documents : List Entries) :
    (∀ us, (upgradeAll .backend known documents).result = .ok us →
      ∃ es, us = es.map .stored ∧ Staged known documents es) ∧
    ∀ us, (upgradeAll .v3 known documents).result = .ok us →
      ∃ us, (upgradeAll .backend known documents).result = .ok us := by
  rw [upgradeAll_backend_result]
  constructor
  · intro us hus
    cases hes : readAllStored known documents with
    | error failure =>
      rw [hes] at hus
      exact absurd hus (by simp [Except.map])
    | ok es =>
      rw [hes] at hus
      exact ⟨es, (Except.ok.inj hus).symm, staged_of_readAllStored hes⟩
  · intro us hus
    rw [upgradeAll_v3_result] at hus
    obtain ⟨es, hes⟩ := exists_mapM_of_bind hus
    exact ⟨es.map .stored, by rw [readAllStored, hes]; rfl⟩

/-- The document of an endpoint of the v1 API and that of a stored one. -/
def mixedDocuments : List Entries :=
  [(Upgrade.declared Upgrade.scopedEndpoint).document.entries,
    Upgrade.unscopedEndpoint.document.entries]

theorem upgradeAll_staged_mixedDocuments :
    (upgradeAll .backend .empty mixedDocuments).result =
        .ok ([Upgrade.scopedEndpoint, Upgrade.unscopedEndpoint].map .stored) ∧
      Staged .empty mixedDocuments [Upgrade.scopedEndpoint, Upgrade.unscopedEndpoint] := by
  have hdeclared : readStored .empty (Upgrade.declared Upgrade.scopedEndpoint).document.entries =
      .ok Upgrade.scopedEndpoint := by
    rw [readStored, record_document_v1]
    exact congrArg Except.ok (by decide +kernel)
  have hunscoped : Upgrade.unscopedEndpoint.shown = Upgrade.unscopedEndpoint := by decide +kernel
  have hread : readAllStored .empty mixedDocuments =
      .ok [Upgrade.scopedEndpoint, Upgrade.unscopedEndpoint] :=
    mapM_eq_ok_iff.mpr
      (.cons hdeclared (.cons ((readStored_document _ _).trans (congrArg _ hunscoped)) .nil))
  have hbackend : (upgradeAll .backend .empty mixedDocuments).result =
      .ok ([Upgrade.scopedEndpoint, Upgrade.unscopedEndpoint].map .stored) := by
    rw [upgradeAll_backend_result, hread]
    rfl
  obtain ⟨es, hes, hstaged⟩ := (upgradeAll_staged .empty mixedDocuments).1 _ hbackend
  have hinjective : Function.Injective Upgraded.stored := fun _ _ h => Upgraded.stored.inj h
  exact ⟨hbackend, List.map_injective_iff.mpr hinjective hes ▸ hstaged⟩

/-- The document of a stored endpoint whose only network is a pair with the given mask. -/
def maskedDocument (mask : Value) : Entries :=
  [(.text kindKey, .text Stored.kind),
    (.text "key", (Stored.Key.document Upgrade.scopedEndpoint.key).toValue),
    (.text "value", .map [(.text "ipv4_nets", .list [.tuple [.text "10.0.0.0", mask]])])]

/-- A stored endpoint whose only network has the given prefix length. -/
def maskedStored (length : Net.PrefixLength 32) : Stored where
  key := Upgrade.scopedEndpoint.key
  value :=
    { state := "", interfaceName := "", activeInstanceId := "", mac := none, profiles := []
      networks := .ofList Net.Interface.family [.v4 ⟨10, 0, 0, 0⟩ length], mappings := .empty
      labels := ∅, gateway4 := none, gateway6 := none, ports := [] }

theorem readStored_maskedDocument {known : Net.Masks} {mask : Value}
    {length : Net.PrefixLength 32}
    (h : Stored.read known (.map (body (maskedDocument mask))) = .ok (maskedStored length)) :
    readStored known (maskedDocument mask) = .ok (maskedStored length) := by
  change Except.map _ (rejected Stored.kind _ Stored.recordName >>= fun e =>
    pure (Record.stored e)) = _
  rw [h]
  rfl

/-- In two stages a truth value as a mask is lost. -/
theorem upgradeAll_maskedDocument_truth :
    (upgradeAll .backend .empty [maskedDocument (.bool true)]).result =
        .ok [.stored (maskedStored Upgrade.truthLength)] ∧
      (upgradeAll .v3 .empty [(maskedStored Upgrade.truthLength).document.entries]).result ≠
        (upgradeAll .v3 .empty [maskedDocument (.bool true)]).result := by
  have hread : readAllStored .empty [maskedDocument (.bool true)] =
      .ok [maskedStored Upgrade.truthLength] :=
    mapM_eq_ok_iff.mpr (.cons (readStored_maskedDocument (by decide +kernel)) .nil)
  have hnot : ¬((∃ e ∈ [maskedStored Upgrade.truthLength], Undecodable e.key) ∨
      ∀ e ∈ [maskedStored Upgrade.truthLength], IsShown e) := by
    simp only [List.mem_singleton, exists_eq_left, forall_eq, not_or]
    refine ⟨fun h => absurd h.2 (by decide), fun h => ?_⟩
    exact absurd h.numbers4 (by decide)
  refine ⟨?_, fun h => hnot (((staged_of_readAllStored hread).later .empty).mp h)⟩
  rw [upgradeAll_backend_result, hread]
  rfl

end Documents

end EndpointUpgrade
