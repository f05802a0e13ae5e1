import EndpointUpgrade.Proofs.Identity.Name
import EndpointUpgrade.Proofs.Text.LowerCase

/-!
# Identities read back from their names

A name is read by splitting it and writing the fields again. Counting hyphens and points on both
sides of that comparison shows what an accepted name looks like: its host, orchestrator and endpoint
id have no hyphen, its host is in lower case, and the namespace beside it has no point. Such an
identity is called recoverable, and reading finds exactly the recoverable identities that a name is
written for. Every name is written for at most one of them, but it may be written for other
identities too, which reading then takes for the recoverable one.
-/

namespace EndpointUpgrade.Identity

open Text

def Identifiers.lowered (i : Identifiers) : Identifiers := { i with host := lower i.host }

/-- An identity with the given workload that reading its name gives back, up to the case of the
host. -/
structure Recoverable (i : Identifiers) (w : Workload) : Prop where
  host_ne : i.host ≠ ""
  host_hyphen : '-' ∉ i.host.toList
  orchestrator_ne : i.orchestrator ≠ ""
  orchestrator_hyphen : '-' ∉ i.orchestrator.toList
  endpointId_ne : i.endpointId ≠ ""
  endpointId_hyphen : '-' ∉ i.endpointId.toList
  workload_ne : w.name ≠ ""
  workload_start : w.name.toList.head? ≠ some '-'
  namespace_ne : i.orchestrator = k8s → w.ns ≠ some ""

theorem accept_eq_ok_iff {name : String} {i j : Identifiers} :
    accept name i = .ok j ↔ i = j ∧ encode i = .ok name := by
  rw [accept]
  cases encode i with
  | error reason => simp [bind, Except.bind]
  | ok again =>
    by_cases h : again = name
    · simp [bind, Except.bind, pure, Except.pure, h]
    · simp [bind, Except.bind, throw, throwThe, MonadExceptOf.throw, h]

/-- What reading a name asks for, step by step. -/
theorem parse_eq_ok_iff {name : String} {ns : Option String} {i : Identifiers} :
    parse name ns = .ok i ↔
      ∃ workload : String,
        splitFields name.toList =
          [i.host.toList, i.orchestrator.toList, workload.toList, i.endpointId.toList] ∧
        (i.host ≠ "" ∧ i.orchestrator ≠ "" ∧ workload ≠ "" ∧ i.endpointId ≠ "") ∧
        encode i = .ok name ∧
        (if i.orchestrator = k8s then
          ∃ n, ns = some n ∧ n ≠ "" ∧ i.workloadId = n ++ "." ++ workload
        else i.workloadId = workload) := by
  constructor
  · intro h
    rw [parse] at h
    split at h
    · next host orchestrator workload endpointId hsplit =>
      split at h
      · simp at h
      · next hne =>
        simp only [Bool.or_eq_true, List.isEmpty_iff, not_or] at hne
        refine ⟨String.ofList workload, ?_⟩
        dsimp only at h
        split at h
        · next ho =>
          split at h
          · simp at h
          · next n =>
            split at h
            · simp at h
            · next hn =>
              obtain ⟨rfl, hencode⟩ := accept_eq_ok_iff.mp h
              refine ⟨by simp [hsplit], by simp [hne], hencode, ?_⟩
              rw [if_pos ho]
              exact ⟨n, rfl, hn, rfl⟩
        · next ho =>
          obtain ⟨rfl, hencode⟩ := accept_eq_ok_iff.mp h
          refine ⟨by simp [hsplit], by simp [hne], hencode, ?_⟩
          rw [if_neg ho]
    · simp at h
  · rintro ⟨workload, hsplit, ⟨hh, ho, hw, he⟩, hencode, hid⟩
    rw [parse, hsplit]
    simp only [List.isEmpty_iff, Bool.or_eq_true, String.toList_eq_nil_iff, hh, ho, hw, he,
      or_self, if_false, String.ofList_toList]
    split at hid
    · next hk =>
      obtain ⟨n, rfl, hn, hid⟩ := hid
      rw [if_pos hk]
      simp only [hn, if_false]
      rw [← hid]
      exact accept_eq_ok_iff.mpr ⟨rfl, hencode⟩
    · next hk =>
      rw [if_neg hk, ← hid]
      exact accept_eq_ok_iff.mpr ⟨rfl, hencode⟩

/-! ## What an accepted name looks like -/

/-- A name and the fields that it splits into have the same points in the workload, and enough
hyphens for only those of the workload. -/
theorem count_of_text_eq {host orchestrator workload endpointId written : String}
    (h : (lower host).toList ++ '-' :: (orchestrator.toList ++ '-' ::
        (escapeChars written.toList ++ '-' :: endpointId.toList)) =
      joined '-' ([host.toList, orchestrator.toList, workload.toList,
        endpointId.toList].map escapeChars)) :
    written.toList.count '.' = workload.toList.count '.' ∧
      2 * written.toList.count '-' =
        host.toList.count '-' + orchestrator.toList.count '-' + 2 * workload.toList.count '-' +
          endpointId.toList.count '-' := by
  have hpoint := congrArg (List.count '.') h
  have hhyphen := congrArg (List.count '-') h
  simp only [List.map_cons, List.map_nil, joined_cons_cons, joined_singleton, List.count_append,
    List.count_cons, count_escapeChars, count_lower (show '.'.toNat < 0x41 by decide),
    Char.reduceEq, Char.reduceBEq, Bool.false_eq_true, if_false, Nat.one_mul] at hpoint
  simp only [List.map_cons, List.map_nil, joined_cons_cons, joined_singleton, List.count_append,
    List.count_cons, count_escapeChars, count_lower (show '-'.toNat < 0x41 by decide),
    beq_self_eq_true, if_true] at hhyphen
  omega

/-- Two workload ids of `k8s` with equally many points in their pods have the same parts. -/
theorem parts_eq_of_id_eq {m p n q : String} (hm : '.' ∉ m.toList)
    (hcount : p.toList.count '.' = q.toList.count '.') (h : m ++ "." ++ p = n ++ "." ++ q) :
    m = n ∧ p = q := by
  have htext := congrArg String.toList h
  simp only [String.toList_append, List.append_assoc] at htext
  change m.toList ++ '.' :: p.toList = n.toList ++ '.' :: q.toList at htext
  have hpoints := congrArg (List.count '.') htext
  simp only [List.count_append, List.count_cons_self, List.count_eq_zero.mpr hm] at hpoints
  have hn : '.' ∉ n.toList := List.count_eq_zero.mp (by omega)
  obtain ⟨hmn, hpq⟩ := append_separator_inj hm hn htext
  exact ⟨String.toList_injective hmn, String.toList_injective hpq⟩

/-- A workload id that is rebuilt from a namespace and a workload name with as many points as that
of the workload has exactly these parts. -/
theorem workload_eq_of_rebuilt {orchestrator workloadId workload : String} {ns : Option String}
    {w : Workload} (hdecode : decodeWorkloadId orchestrator workloadId = .ok w)
    (hpoints : w.name.toList.count '.' = workload.toList.count '.')
    (hid : if orchestrator = k8s then
        ∃ n, ns = some n ∧ n ≠ "" ∧ workloadId = n ++ "." ++ workload
      else workloadId = workload) :
    w.name = workload ∧ (orchestrator = k8s → ns = w.ns ∧ w.ns ≠ some "") := by
  obtain ⟨hfits, hwid⟩ := decodeWorkloadId_eq_ok_iff.mp hdecode
  obtain ⟨m, p⟩ := w
  split at hid
  · next hk =>
    obtain ⟨n, rfl, hn, hid⟩ := hid
    cases m with
    | none => exact absurd hk hfits
    | some m =>
      obtain ⟨rfl, rfl⟩ := parts_eq_of_id_eq hfits.2 hpoints (hwid.trans hid)
      exact ⟨rfl, fun _ => ⟨rfl, by simpa using hn⟩⟩
  · next hk =>
    cases m with
    | none => exact ⟨hwid.trans hid, fun h => absurd h hk⟩
    | some m => exact absurd hfits.1 hk

theorem splitFields_nameOf {i : Identifiers} {w : Workload} (h : Recoverable i w) :
    splitFields (nameOf i.host i.orchestrator w.name i.endpointId).toList =
      [(lower i.host).toList, i.orchestrator.toList, w.name.toList, i.endpointId.toList] := by
  have horchestrator := head?_append_ne (mt String.toList_eq_nil_iff.mp h.orchestrator_ne)
    (head?_ne_of_notMem h.orchestrator_hyphen)
  have hworkload := head?_append_ne
    (escapeChars_ne_nil (mt String.toList_eq_nil_iff.mp h.workload_ne))
    (by rw [head?_escapeChars]; exact h.workload_start)
  have hendpoint := head?_ne_of_notMem h.endpointId_hyphen
  have hhost : '-' ∉ (lower i.host).toList := by
    rw [mem_lower (by decide)]
    exact h.host_hyphen
  rw [toList_nameOf, ← escapeChars_of_notMem hhost,
    splitFields_escapeChars_separator _ (horchestrator _),
    ← escapeChars_of_notMem h.orchestrator_hyphen,
    splitFields_escapeChars_separator _ (hworkload _),
    splitFields_escapeChars_separator _ hendpoint, ← escapeChars_of_notMem h.endpointId_hyphen,
    splitFields_escapeChars]
  simp only [escapeChars_of_notMem, hhost, h.orchestrator_hyphen, h.endpointId_hyphen,
    not_false_eq_true]

/-- A recoverable identity in lower case that a name beside a namespace is written for. -/
def Denotes (name : String) (ns : Option String) (i : Identifiers) : Prop :=
  ∃ w, decodeWorkloadId i.orchestrator i.workloadId = .ok w ∧ Recoverable i w ∧
    lower i.host = i.host ∧ nameOf i.host i.orchestrator w.name i.endpointId = name ∧
    (i.orchestrator = k8s → ns = w.ns)

/-- Reading finds exactly the recoverable identities that a name is written for. -/
theorem parse_eq_ok_iff_denotes {name : String} {ns : Option String} {i : Identifiers} :
    parse name ns = .ok i ↔ Denotes name ns i := by
  rw [parse_eq_ok_iff]
  constructor
  · rintro ⟨workload, hsplit, ⟨hh, ho, hw, he⟩, hencode, hid⟩
    obtain ⟨w, hdecode, hname⟩ := encode_eq_ok_iff.mp hencode
    have htext := joined_splitFields name.toList
    rw [hsplit, ← hname, toList_nameOf] at htext
    obtain ⟨hpoints, hhyphens⟩ := count_of_text_eq htext.symm
    obtain ⟨rfl, hns⟩ := workload_eq_of_rebuilt hdecode hpoints hid
    have hhost : '-' ∉ i.host.toList := List.count_eq_zero.mp (by omega)
    have horchestrator : '-' ∉ i.orchestrator.toList := List.count_eq_zero.mp (by omega)
    have hendpoint : '-' ∉ i.endpointId.toList := List.count_eq_zero.mp (by omega)
    have hstart : w.name.toList.head? ≠ some '-' := by
      refine (head?_of_mem_splitFields name.toList).1 _ ?_
      simp [hsplit]
    have hlower : (lower i.host).toList = i.host.toList := by
      have hhost' : '-' ∉ (lower i.host).toList := by rwa [mem_lower (by decide)]
      simp only [List.map_cons, joined_cons_cons, escapeChars_of_notMem hhost] at htext
      exact (append_separator_inj hhost' hhost htext.symm).1
    exact ⟨w, hdecode, ⟨hh, hhost, ho, horchestrator, he, hendpoint, hw, hstart,
      fun hk => (hns hk).2⟩, String.toList_injective hlower, hname, fun hk => (hns hk).1⟩
  · rintro ⟨w, hdecode, hw, hhost, hname, hns⟩
    obtain ⟨hfits, hwid⟩ := decodeWorkloadId_eq_ok_iff.mp hdecode
    refine ⟨w.name, ?_, ⟨hw.host_ne, hw.orchestrator_ne, hw.workload_ne, hw.endpointId_ne⟩,
      encode_eq_ok_iff.mpr ⟨w, hdecode, hname⟩, ?_⟩
    · rw [← hname, splitFields_nameOf hw, hhost]
    · obtain ⟨n, p⟩ := w
      split
      · next hk =>
        cases n with
        | none => exact absurd hk hfits
        | some n => exact ⟨n, hns hk, by simpa using hw.namespace_ne hk, hwid.symm⟩
      · next hk =>
        cases n with
        | none => exact hwid.symm
        | some n => exact absurd hfits.1 hk

/-! ## Writing and reading back -/

theorem nameOf_lower (host orchestrator workload endpointId : String) :
    nameOf (lower host) orchestrator workload endpointId =
      nameOf host orchestrator workload endpointId := by
  rw [nameOf, nameOf, lower_lower]

theorem recoverable_lowered_iff {i : Identifiers} {w : Workload} :
    Recoverable i.lowered w ↔ Recoverable i w := by
  have hempty : lower i.host = "" ↔ i.host = "" := lower_eq_empty_iff i.host
  have hhyphen : '-' ∈ (lower i.host).toList ↔ '-' ∈ i.host.toList :=
    mem_lower (by decide) i.host
  constructor
  · rintro ⟨hh, hh', ho, ho', he, he', hw, hw', hn⟩
    exact ⟨mt hempty.mpr hh, mt hhyphen.mpr hh', ho, ho', he, he', hw, hw', hn⟩
  · rintro ⟨hh, hh', ho, ho', he, he', hw, hw', hn⟩
    exact ⟨mt hempty.mp hh, mt hhyphen.mp hh', ho, ho', he, he', hw, hw', hn⟩

theorem recoverable_of_parse_name {i : Identifiers} {name : String} {w : Workload}
    (hworkload : decodeWorkloadId i.orchestrator i.workloadId = .ok w)
    (h : parse name w.ns = .ok i.lowered) : Recoverable i w := by
  obtain ⟨v, hv, hrecoverable, -, -, -⟩ := parse_eq_ok_iff_denotes.mp h
  obtain rfl : w = v := Except.ok.inj (hworkload.symm.trans hv)
  exact recoverable_lowered_iff.mp hrecoverable

theorem parse_name_of_recoverable {i : Identifiers} {name : String} {w : Workload}
    (hname : encode i = .ok name)
    (hworkload : decodeWorkloadId i.orchestrator i.workloadId = .ok w) (h : Recoverable i w) :
    parse name w.ns = .ok i.lowered := by
  obtain ⟨v, hv, hwritten⟩ := encode_eq_ok_iff.mp hname
  obtain rfl : w = v := Except.ok.inj (hworkload.symm.trans hv)
  exact parse_eq_ok_iff_denotes.mpr ⟨w, hworkload, recoverable_lowered_iff.mpr h,
    lower_lower i.host, (nameOf_lower ..).trans hwritten, fun _ => rfl⟩

/-- A name read beside its namespace gives the identity that it was written for, with the host in
lower case, exactly if that identity is recoverable. -/
theorem parse_name_eq_lowered_iff (i : Identifiers) (name : String) (w : Workload)
    (hname : encode i = .ok name)
    (hworkload : decodeWorkloadId i.orchestrator i.workloadId = .ok w) :
    parse name w.ns = .ok i.lowered ↔ Recoverable i w :=
  ⟨recoverable_of_parse_name hworkload, parse_name_of_recoverable hname hworkload⟩

theorem parse_name_eq_lowered_pod :
    encode ⟨"ΑΣ", "k8s", "ns.web.a--b-", "eth0"⟩ = .ok "ας-k8s-web.a----b---eth0" ∧
      decodeWorkloadId "k8s" "ns.web.a--b-" = .ok ⟨some "ns", "web.a--b-"⟩ ∧
      (parse "ας-k8s-web.a----b---eth0" (some "ns") =
          .ok (Identifiers.lowered ⟨"ΑΣ", "k8s", "ns.web.a--b-", "eth0"⟩) ↔
        Recoverable ⟨"ΑΣ", "k8s", "ns.web.a--b-", "eth0"⟩ ⟨some "ns", "web.a--b-"⟩) := by
  have hname : encode ⟨"ΑΣ", "k8s", "ns.web.a--b-", "eth0"⟩ = .ok "ας-k8s-web.a----b---eth0" :=
    encode_eq_ok_iff.mpr ⟨⟨some "ns", "web.a--b-"⟩, rfl, by decide +kernel⟩
  exact ⟨hname, rfl, parse_name_eq_lowered_iff _ _ ⟨some "ns", "web.a--b-"⟩ hname rfl⟩

/-- A name determines the identity that it was written for if the orchestrator and the endpoint id
have no hyphen; reading cannot find another one then. -/
theorem eq_lowered_of_denotes {i j : Identifiers} {name : String} {w : Workload}
    (hname : encode i = .ok name)
    (hworkload : decodeWorkloadId i.orchestrator i.workloadId = .ok w)
    (ho : i.orchestrator ≠ "") (ho' : '-' ∉ i.orchestrator.toList)
    (he : '-' ∉ i.endpointId.toList) (hj : Denotes name w.ns j) : j = i.lowered := by
  obtain ⟨v, hv, hrecoverable, hhost, hwritten, hns⟩ := hj
  obtain ⟨w', hw', hwritten'⟩ := encode_eq_ok_iff.mp hname
  obtain rfl : w = w' := Except.ok.inj (hworkload.symm.trans hw')
  obtain ⟨hh, horchestrator, hworkloadName, hendpoint⟩ := fields_eq_of_nameOf_eq
    hrecoverable.orchestrator_ne hrecoverable.orchestrator_hyphen hrecoverable.endpointId_hyphen
    ho ho' he (hwritten.trans hwritten'.symm)
  rw [horchestrator] at hv hns
  have hid : j.workloadId = i.workloadId :=
    workloadId_eq_of_parts hv hworkload hworkloadName fun hk => (hns hk).symm
  obtain ⟨host, orchestrator, workloadId, endpointId⟩ := j
  rw [Identifiers.lowered, Identifiers.mk.injEq]
  exact ⟨hhost.symm.trans hh, horchestrator, hid, hendpoint⟩

/-- Reading a name never finds an identity other than the one it was written for, exactly if that
one is recoverable or no recoverable identity shares the name. -/
theorem parse_name_never_other_iff (i : Identifiers) (name : String) (w : Workload)
    (hname : encode i = .ok name)
    (hworkload : decodeWorkloadId i.orchestrator i.workloadId = .ok w) :
    ((∀ j, parse name w.ns = .ok j → j = i.lowered) ↔
        Recoverable i w ∨ ∀ j, ¬Denotes name w.ns j) ∧
      (i.orchestrator ≠ "" → '-' ∉ i.orchestrator.toList → '-' ∉ i.endpointId.toList →
        ∀ j, parse name w.ns = .ok j → j = i.lowered) := by
  refine ⟨⟨fun h => ?_, ?_⟩, fun ho ho' he j hj => ?_⟩
  · by_cases hdenotes : ∃ j, Denotes name w.ns j
    · obtain ⟨j, hj⟩ := hdenotes
      have hparse := parse_eq_ok_iff_denotes.mpr hj
      have heq := h j hparse
      exact Or.inl (recoverable_of_parse_name hworkload (heq ▸ hparse))
    · exact Or.inr fun j hj => hdenotes ⟨j, hj⟩
  · rintro (hrecoverable | hnone) j hj
    · have hparse := parse_name_of_recoverable hname hworkload hrecoverable
      exact Except.ok.inj (hj.symm.trans hparse)
    · exact absurd (parse_eq_ok_iff_denotes.mp hj) (hnone j)
  · exact eq_lowered_of_denotes hname hworkload ho ho' he (parse_eq_ok_iff_denotes.mp hj)

theorem parse_name_never_other_hyphens :
    encode ⟨"a-b", "k8s", "ns.-x", "eth0"⟩ = .ok "a-b-k8s---x-eth0" ∧
      decodeWorkloadId "k8s" "ns.-x" = .ok ⟨some "ns", "-x"⟩ ∧
      ∀ j, parse "a-b-k8s---x-eth0" (some "ns") = .ok j →
        j = Identifiers.lowered ⟨"a-b", "k8s", "ns.-x", "eth0"⟩ := by
  have hname : encode ⟨"a-b", "k8s", "ns.-x", "eth0"⟩ = .ok "a-b-k8s---x-eth0" := rfl
  have h := parse_name_never_other_iff _ _ ⟨some "ns", "-x"⟩ hname rfl
  exact ⟨hname, rfl, h.2 (by decide) (by decide) (by decide)⟩

/-- The endpoint id of a pod `web` can begin like the rest of the name of a pod `web-1`. -/
theorem parse_name_of_other_pod :
    encode ⟨"node", "k8s", "ns.web", "-1-eth0"⟩ = .ok "node-k8s-web--1-eth0" ∧
      decodeWorkloadId "k8s" "ns.web" = .ok ⟨some "ns", "web"⟩ ∧
      parse "node-k8s-web--1-eth0" (some "ns") = .ok ⟨"node", "k8s", "ns.web-1", "eth0"⟩ ∧
      (⟨"node", "k8s", "ns.web-1", "eth0"⟩ : Identifiers) ≠
        Identifiers.lowered ⟨"node", "k8s", "ns.web", "-1-eth0"⟩ := by
  refine ⟨rfl, rfl, rfl, fun h => ?_⟩
  have hendpoint := congrArg Identifiers.endpointId h
  exact absurd hendpoint (by decide)

end EndpointUpgrade.Identity
