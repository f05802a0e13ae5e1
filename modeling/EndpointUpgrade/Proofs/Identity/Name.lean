import EndpointUpgrade.Proofs.Identity.Splitting

/-!
# What a name tells

A workload id and its two parts determine each other once the orchestrator is known. A name is four
texts with hyphens between them, of which only the third has its hyphens doubled. Read from its end
it gives all four back, provided that the orchestrator and the endpoint id have no hyphen and the
orchestrator is not empty; nothing is asked of the host and of the workload. The runs of hyphens
that a workload's first hyphens form with the separator in front of them are read from the right
as pairs, with the separator left over.
-/

namespace EndpointUpgrade.Identity

open Text

/-! ## Workload ids -/

/-- The id of a workload: its name, behind its namespace and a point if it has one. -/
def Workload.id (w : Workload) : String :=
  match w.ns with
  | none => w.name
  | some ns => ns ++ "." ++ w.name

/-- Whether ids of an orchestrator can stand for a workload: those of `k8s` have a namespace that
ends at the first point, all others have none. -/
def Workload.Fits (w : Workload) (orchestrator : String) : Prop :=
  match w.ns with
  | none => orchestrator ≠ k8s
  | some ns => orchestrator = k8s ∧ '.' ∉ ns.toList

theorem decodeWorkloadId_eq_ok_iff {orchestrator workloadId : String} {w : Workload} :
    decodeWorkloadId orchestrator workloadId = .ok w ↔
      w.Fits orchestrator ∧ w.id = workloadId := by
  obtain ⟨ns, name⟩ := w
  by_cases ho : orchestrator = k8s
  · subst ho
    rw [decodeWorkloadId, if_neg (by simp)]
    constructor
    · intro h
      split at h
      · next front pod hcut =>
        simp only [Except.ok.injEq, Workload.mk.injEq] at h
        obtain ⟨rfl, rfl⟩ := h
        obtain ⟨hfront, hid⟩ := cutAt_eq_some_iff.mp hcut
        refine ⟨⟨rfl, by simpa using hfront⟩, String.toList_injective ?_⟩
        simp [Workload.id, hid]
      · simp at h
    · rintro ⟨hfits, hid⟩
      cases ns with
      | none => exact absurd rfl hfits
      | some ns =>
        have hcut : cutAt '.' workloadId.toList = (ns.toList, some name.toList) := by
          refine cutAt_eq_some_iff.mpr ⟨hfits.2, ?_⟩
          simp [← hid, Workload.id]
        simp [hcut]
  · rw [decodeWorkloadId, if_pos ho]
    constructor
    · intro h
      simp only [Except.ok.injEq, Workload.mk.injEq] at h
      obtain ⟨rfl, rfl⟩ := h
      exact ⟨ho, rfl⟩
    · rintro ⟨hfits, hid⟩
      cases ns with
      | none =>
        have hname : name = workloadId := hid
        rw [hname]
      | some ns => exact absurd hfits.1 ho

/-- A workload id can be taken apart unless it is one of `k8s` without a point. -/
theorem exists_decodeWorkloadId {orchestrator workloadId : String}
    (h : orchestrator = k8s → '.' ∈ workloadId.toList) :
    ∃ w, decodeWorkloadId orchestrator workloadId = .ok w := by
  by_cases ho : orchestrator = k8s
  · obtain ⟨before, after, hid, hbefore⟩ := List.eq_append_cons_of_mem (h ho)
    refine ⟨⟨some (String.ofList before), String.ofList after⟩, ?_⟩
    rw [decodeWorkloadId, if_neg (by simpa using ho), hid, cutAt_append_cons hbefore]
  · exact ⟨_, if_pos ho⟩

theorem Workload.Fits.ns_eq_none {w : Workload} {orchestrator : String}
    (h : w.Fits orchestrator) (ho : orchestrator ≠ k8s) : w.ns = none := by
  obtain ⟨ns, name⟩ := w
  cases ns with
  | none => rfl
  | some ns => exact absurd h.1 ho

/-- A workload id is determined by its name and, for `k8s`, by its namespace. -/
theorem workloadId_eq_of_parts {orchestrator a b : String} {v w : Workload}
    (ha : decodeWorkloadId orchestrator a = .ok v) (hb : decodeWorkloadId orchestrator b = .ok w)
    (hname : v.name = w.name) (hns : orchestrator = k8s → v.ns = w.ns) : a = b := by
  obtain ⟨hv, hva⟩ := decodeWorkloadId_eq_ok_iff.mp ha
  obtain ⟨hw, hwb⟩ := decodeWorkloadId_eq_ok_iff.mp hb
  have hparts : v.ns = w.ns := by
    by_cases ho : orchestrator = k8s
    · exact hns ho
    · rw [hv.ns_eq_none ho, hw.ns_eq_none ho]
  rw [← hva, ← hwb, Workload.id, Workload.id, hname, hparts]

/-! ## Names -/

theorem toList_nameOf (host orchestrator workload endpointId : String) :
    (nameOf host orchestrator workload endpointId).toList =
      (lower host).toList ++ '-' :: (orchestrator.toList ++ '-' ::
        (escapeChars workload.toList ++ '-' :: endpointId.toList)) := by
  simp [nameOf]

theorem encode_eq_ok_iff {i : Identifiers} {name : String} :
    encode i = .ok name ↔
      ∃ w, decodeWorkloadId i.orchestrator i.workloadId = .ok w ∧
        nameOf i.host i.orchestrator w.name i.endpointId = name := by
  rw [encode]
  cases decodeWorkloadId i.orchestrator i.workloadId with
  | error reason => simp [bind, Except.bind]
  | ok w => simp [bind, Except.bind, pure, Except.pure]

/-- Two texts of four fields, the last two of which are separated by a doubled third field, agree
field by field. Read from its end, a text first shows its last field, then the doubled one: behind
its separator there stands the end of the second field, which is no hyphen. -/
theorem fields_eq_of_text_eq {h₁ h₂ o₁ o₂ w₁ w₂ e₁ e₂ : List Char}
    (ho₁ : o₁ ≠ []) (ho₁' : '-' ∉ o₁) (he₁ : '-' ∉ e₁)
    (ho₂ : o₂ ≠ []) (ho₂' : '-' ∉ o₂) (he₂ : '-' ∉ e₂)
    (h : h₁ ++ '-' :: (o₁ ++ '-' :: (escapeChars w₁ ++ '-' :: e₁)) =
      h₂ ++ '-' :: (o₂ ++ '-' :: (escapeChars w₂ ++ '-' :: e₂))) :
    h₁ = h₂ ∧ o₁ = o₂ ∧ w₁ = w₂ ∧ e₁ = e₂ := by
  have no_hyphen {o : List Char} (ho : o ≠ []) (ho' : '-' ∉ o) (ds : List Char) :
      (o.reverse ++ ds).head? ≠ some '-' :=
    head?_append_ne (List.reverse_ne_nil_iff.mpr ho)
      (head?_ne_of_notMem (mt List.mem_reverse.mp ho')) ds
  have hrev := congrArg List.reverse h
  simp only [List.reverse_append, List.reverse_cons, List.append_assoc, List.cons_append,
    List.nil_append, ← escapeChars_reverse] at hrev
  obtain ⟨he, hrest⟩ := append_separator_inj (by simpa using he₁) (by simpa using he₂) hrev
  have hsplit := congrArg splitFields hrest
  rw [splitFields_escapeChars_separator _ (no_hyphen ho₁ ho₁' _),
    splitFields_escapeChars_separator _ (no_hyphen ho₂ ho₂' _), List.cons.injEq] at hsplit
  rw [hsplit.1, List.append_cancel_left_eq, List.cons.injEq] at hrest
  obtain ⟨ho, hh⟩ := append_separator_inj (by simpa using ho₁') (by simpa using ho₂') hrest.2
  exact ⟨List.reverse_inj.mp hh, List.reverse_inj.mp ho, List.reverse_inj.mp hsplit.1,
    List.reverse_inj.mp he⟩

theorem fields_eq_of_nameOf_eq {h₁ h₂ o₁ o₂ w₁ w₂ e₁ e₂ : String}
    (ho₁ : o₁ ≠ "") (ho₁' : '-' ∉ o₁.toList) (he₁ : '-' ∉ e₁.toList)
    (ho₂ : o₂ ≠ "") (ho₂' : '-' ∉ o₂.toList) (he₂ : '-' ∉ e₂.toList)
    (h : nameOf h₁ o₁ w₁ e₁ = nameOf h₂ o₂ w₂ e₂) :
    lower h₁ = lower h₂ ∧ o₁ = o₂ ∧ w₁ = w₂ ∧ e₁ = e₂ := by
  have htext := congrArg String.toList h
  rw [toList_nameOf, toList_nameOf] at htext
  obtain ⟨hh, ho, hw, he⟩ := fields_eq_of_text_eq (by simpa using ho₁) ho₁' he₁
    (by simpa using ho₂) ho₂' he₂ htext
  exact ⟨String.toList_injective hh, String.toList_injective ho, String.toList_injective hw,
    String.toList_injective he⟩

end EndpointUpgrade.Identity
