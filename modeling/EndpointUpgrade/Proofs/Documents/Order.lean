import EndpointUpgrade.Documents.Upgrade
import EndpointUpgrade.Proofs.Documents.Failures
import EndpointUpgrade.Proofs.Endpoint.Order
import EndpointUpgrade.Proofs.Upgrade.Relabeling

/-!
# Documents without regard to order

A document in which mappings have texts as keys is read as the same record or refused for the same
reason in whatever order the entries of its mappings stand, on all levels. Its record is upgraded to
the same resource, or refused for the same reason, unless its labels give the namespace under its
old key and under its new one with different values: then the later of the two decides.
-/

namespace EndpointUpgrade.Documents

open Endpoint Value

/-- Two successes or two failures that are related. -/
inductive SameResult {α ε : Type} (R : α → α → Prop) (T : ε → ε → Prop) :
    Except ε α → Except ε α → Prop
  | ok {a b : α} : R a b → SameResult R T (.ok a) (.ok b)
  | error {e f : ε} : T e f → SameResult R T (.error e) (.error f)

/-- Records that are equal, labels as maps. -/
inductive SameRecord : Record → Record → Prop
  | v1 {a b : V1} : a.Same b → SameRecord (.v1 a) (.v1 b)
  | stored {a b : Stored} : a.Same b → SameRecord (.stored a) (.stored b)

/-- Failures of the same cause: with the same version up to order if a version is refused, and with
the same issues up to order if a body is. -/
inductive SameFailure : Failure → Failure → Prop
  | same (f : Failure) : SameFailure f f
  | version {v w : Value} (kind : String) : Reordered v w →
      SameFailure (.unsupportedVersion v kind) (.unsupportedVersion w kind)
  | body {is js : List Reading.Issue} (kind record : String) : is.Perm js →
      SameFailure (.invalidBody kind ⟨record, is⟩) (.invalidBody kind ⟨record, js⟩)

theorem SameFailure.reportKind_eq {f g : Failure} (h : SameFailure f g) :
    f.report?.map Report.kind = g.report?.map Report.kind := by
  cases h with
  | same => rfl
  | version kind hversion => rfl
  | body kind record hperm => rfl

/-! ## Reading -/

variable {known : Net.Masks} {es fs : Entries} {v w : Value}

namespace SameResult

variable {α β ε : Type} {R : α → α → Prop} {T : ε → ε → Prop} {x y : Except ε α}

theorem map {S : β → β → Prop} {f : α → β} (hf : ∀ a b, R a b → S (f a) (f b))
    (h : SameResult R T x y) : SameResult S T (x.map f) (y.map f) := by
  cases h with
  | ok hab => exact .ok (hf _ _ hab)
  | error he => exact .error he

theorem mono {S : α → α → Prop} (hS : ∀ a b, R a b → S a b) (h : SameResult R T x y) :
    SameResult S T x y := by
  cases h with
  | ok hab => exact .ok (hS _ _ hab)
  | error he => exact .error he

end SameResult

theorem sameResult_rejected {α : Type} {R : α → α → Prop} {x y : Reading.Checked α}
    (h : Reading.Agree R x y) (kind name : String) :
    SameResult R SameFailure (rejected kind x name) (rejected kind y name) := by
  cases h with
  | ok hab => exact .ok hab
  | faulty hperm => exact .error (.body kind name hperm)
  | broken m => exact .error (.same _)

theorem sameFailure_refused {f g : Failure} (hvw : Reordered v w) (h : SameFailure f g) :
    SameFailure (refused v f) (refused w g) := by
  unfold refused
  rw [isShowable_of_reordered hvw]
  split
  · exact h
  · exact .same _

theorem eq_text_of_reordered {s : String} (h : Reordered v w) : v = .text s ↔ w = .text s := by
  cases h with
  | same => exact Iff.rfl
  | _ => exact iff_of_false nofun nofun

theorem reordered_getD_lookup? (h : Rearranged (.map es) (.map fs)) (name : String) :
    Reordered ((Value.lookup? name es).getD .null) ((Value.lookup? name fs).getD .null) := by
  have hname := h.lookup? name
  generalize Value.lookup? name es = v, Value.lookup? name fs = w at hname
  cases hname with
  | some hvw => exact hvw.reordered
  | none => exact .same .null

theorem sameResult_record (h : Rearranged (.map es) (.map fs)) :
    SameResult SameRecord SameFailure (record known es) (record known fs) := by
  have hkind : Reordered (kindOf es) (kindOf fs) := reordered_getD_lookup? h kindKey
  have hversion : Reordered (versionOf es) (versionOf fs) := reordered_getD_lookup? h versionKey
  have hbody : Rearranged (.map (body es)) (.map (body fs)) :=
    (h.without kindKey).without versionKey
  obtain ⟨hunkeyable, hkeyable⟩ := unkeyable?_of_reordered hkind
  cases hkey : (kindOf es).unkeyable? with
  | some part =>
    rw [record_of_unkeyable hkey, record_of_unkeyable (hunkeyable ▸ hkey)]
    exact .error (.same _)
  | none =>
    -- a kind that can be looked up holds no mapping, so it is equal in both documents
    have heq := hkeyable hkey
    by_cases hv1 : kindOf es = .text V1.kind
    · by_cases hv : versionOf es = .text V1.apiVersion
      · rw [record_of_v1 hv1 hv,
          record_of_v1 (heq ▸ hv1) ((eq_text_of_reordered hversion).mp hv)]
        exact (sameResult_rejected (V1.orderFree_read known hbody) _ _).map fun _ _ => .v1
      · rw [record_of_version hv1 hv,
          record_of_version (heq ▸ hv1) (mt (eq_text_of_reordered hversion).mpr hv)]
        exact .error (sameFailure_refused hversion (.version _ hversion))
    · by_cases hstored : kindOf es = .text Stored.kind
      · rw [record_of_stored hstored, record_of_stored (heq ▸ hstored)]
        exact (sameResult_rejected (Stored.orderFree_read known hbody) _ _).map fun _ _ => .stored
      · rw [record_of_kind hkey hv1 hstored,
          record_of_kind (hunkeyable ▸ hkey) (heq ▸ hv1) (heq ▸ hstored), heq]
        exact .error (.same _)

/-! ## Upgrading -/

theorem stored_same {a b : V1} (h : a.Same b) : (Upgrade.stored a).Same (Upgrade.stored b) := by
  obtain ⟨⟨hidentity, hinstance, hlabels⟩, hspec⟩ := h
  refine ⟨hidentity, hlabels, ?_⟩
  unfold Upgrade.stored
  rw [hinstance, hspec]

theorem toStored_same {r s : Record} (h : SameRecord r s) :
    (toStored r).result.Same (toStored s).result := by
  cases h with
  | v1 hab => exact stored_same hab
  | stored hab => exact hab

def Record.resource (r : Record) : Except Identity.Malformed V3 :=
  (Upgrade.toResource (toStored r).result).result

def Record.labels (r : Record) : Labels := (toStored r).result.value.labels

/-- Equal records have equal resources if their labels become equal. -/
theorem sameResult_resource {r s : Record} (h : SameRecord r s) :
    SameResult (fun p q => p.Same q ↔ (Upgrade.labels r.labels).Same (Upgrade.labels s.labels)) Eq
      r.resource s.resource := by
  obtain ⟨hkey, -, hvalue⟩ := toStored_same h
  unfold Record.resource Record.labels
  generalize (toStored r).result = a at hkey hvalue
  generalize (toStored s).result = b at hkey hvalue
  obtain ⟨key, value⟩ := b
  -- the two endpoints differ in their labels only
  dsimp only at hkey hvalue ⊢
  generalize value.labels = ls at hvalue ⊢
  subst hkey hvalue
  unfold Upgrade.toResource Upgrade.resource
  cases Identity.decodeWorkloadId a.key.orchestrator a.key.workloadId with
  | error reason => exact .error rfl
  | ok workload =>
    apply SameResult.ok
    constructor
    · exact fun hsame => hsame.1.2.2
    · exact fun hlabels => ⟨⟨rfl, rfl, hlabels⟩, rfl⟩

/-- Reordered documents are read as equal records or refused for the same reason, and the records
are upgraded to equal resources or refused for the same reason. Only labels that give two namespaces
can make a difference, and they do so exactly if the two change places. -/
theorem readRecord_of_reordered (known : Net.Masks) (keyed : isTextKeyed (.map es) = true)
    (h : Reordered (.map es) (.map fs)) :
    SameResult SameRecord SameFailure (readRecord known es).result (readRecord known fs).result ∧
      ∀ r s, (readRecord known es).result = .ok r → (readRecord known fs).result = .ok s →
        (¬Upgrade.TwoNamespaces r.labels → SameResult V3.Same Eq r.resource s.resource) ∧
          (Upgrade.TwoNamespaces r.labels → ∀ p q, r.resource = .ok p → s.resource = .ok q →
            (p.Same q ↔ ¬Upgrade.Swapped r.labels s.labels)) := by
  have hread : SameResult SameRecord SameFailure (readRecord known es).result
      (readRecord known fs).result := by
    rw [readRecord_result, readRecord_result]
    exact sameResult_record ⟨keyed, h⟩
  refine ⟨hread, ?_⟩
  intro r s hr hs
  rw [hr, hs] at hread
  cases hread with
  | ok hrs =>
    have hresource := sameResult_resource hrs
    have hlabels : r.labels.Same s.labels := (toStored_same hrs).2.1
    constructor
    · intro hone
      exact hresource.mono fun p q hpq =>
        hpq.mpr (Upgrade.labels_same_of_not_twoNamespaces hlabels hone)
    · intro htwo p q hp hq
      rw [hp, hq] at hresource
      cases hresource with
      | ok hpq => exact hpq.trans (Upgrade.labels_same_iff_of_twoNamespaces hlabels htwo)

def podLabels : List (Text.RawText × String) :=
  [(Upgrade.namespaceKeyV1, "default"), (.whole "app", "web")]

def podEndpoint (labels : List (Text.RawText × String)) : V1 :=
  ⟨⟨⟨"node-a", "k8s", "default.web", "eth0"⟩, "", .ofPairs labels⟩, .empty⟩

def podMetadata (labels : List (Text.RawText × String)) : Entries :=
  [(.text "name", .text "eth0"), (.text "workload", .text "default.web"),
    (.text "orchestrator", .text "k8s"), (.text "node", .text "node-a"),
    (.text "labels", .map (labels.map fun e => (Labels.valueOf e.1, .text e.2)))]

def podDocument (metadata : Entries) : Entries :=
  [(.text versionKey, .text V1.apiVersion), (.text kindKey, .text V1.kind),
    (.text "metadata", .map metadata)]

def writtenPod : Entries := podDocument (podMetadata podLabels)

/-- All three mappings are reversed. -/
def reversedPod : Entries := (podDocument (podMetadata podLabels.reverse).reverse).reverse

theorem reordered_pod : Reordered (.map writtenPod) (.map reversedPod) := by
  have hlabels : Reordered (.map (podLabels.map fun e => (Labels.valueOf e.1, .text e.2)))
      (.map (podLabels.reverse.map fun e => (Labels.valueOf e.1, .text e.2))) :=
    .ofPerm (podLabels.reverse_perm.symm.map _)
  have hmetadata : Reordered (.map (podMetadata podLabels))
      (.map (podMetadata podLabels.reverse).reverse) := by
    apply Reordered.map _ (List.reverse_perm _).symm
    exact .cons (.refl _) (.cons (.refl _) (.cons (.refl _) (.cons (.refl _)
      (.cons (.mk _ hlabels) .nil))))
  apply Reordered.map _ (List.reverse_perm _).symm
  exact .cons (.refl _) (.cons (.refl _) (.cons (.mk _ hmetadata) .nil))

theorem readRecord_of_reordered_pod :
    isTextKeyed (.map writtenPod) = true ∧ Reordered (.map writtenPod) (.map reversedPod) ∧
      (readRecord .empty writtenPod).result = .ok (.v1 (podEndpoint podLabels)) ∧
      (readRecord .empty reversedPod).result = .ok (.v1 (podEndpoint podLabels.reverse)) ∧
      SameResult SameRecord SameFailure (readRecord .empty writtenPod).result
        (readRecord .empty reversedPod).result ∧
      SameResult V3.Same Eq (Record.v1 (podEndpoint podLabels)).resource
        (Record.v1 (podEndpoint podLabels.reverse)).resource := by
  have hkeyed : isTextKeyed (.map writtenPod) = true := by decide
  have hr : (readRecord .empty writtenPod).result = .ok (.v1 (podEndpoint podLabels)) := rfl
  have hs : (readRecord .empty reversedPod).result =
      .ok (.v1 (podEndpoint podLabels.reverse)) := rfl
  have hone : ¬Upgrade.TwoNamespaces (Record.v1 (podEndpoint podLabels)).labels := by
    intro ⟨old, new, _, hnew, _⟩
    have hnone : (Record.v1 (podEndpoint podLabels)).labels.get? Upgrade.namespaceKeyV3 = none :=
      rfl
    rw [hnone] at hnew
    contradiction
  obtain ⟨hread, hupgrade⟩ := readRecord_of_reordered .empty hkeyed reordered_pod
  exact ⟨hkeyed, reordered_pod, hr, hs, hread, (hupgrade _ _ hr hs).1 hone⟩

end EndpointUpgrade.Documents
