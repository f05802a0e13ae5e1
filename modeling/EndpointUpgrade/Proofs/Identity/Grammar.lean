import EndpointUpgrade.Proofs.Identity.Recovery
import EndpointUpgrade.Report

/-!
# The grammar of names

A name that reading accepts has four parts with a hyphen between each two. Three of them have no
hyphen, and in the third, the workload, hyphens stand in pairs behind a first character that is
none. The host is in lower case, and a name of `k8s` comes with a namespace without a point. These
are all the conditions: every such name is accepted, its parts are determined by it, and every other
name is refused as a whole.
-/

namespace EndpointUpgrade.Identity

open Text

/-! ## Hyphens in pairs -/

/-- Texts in which hyphens occur in pairs only. -/
inductive Paired : List Char → Prop
  | nil : Paired []
  | char {c : Char} {cs : List Char} : c ≠ '-' → Paired cs → Paired (c :: cs)
  | pair {cs : List Char} : Paired cs → Paired ('-' :: '-' :: cs)

/-- The text with one hyphen for each pair, pairs being taken from the left. -/
def unpaired : List Char → List Char
  | [] => []
  | [c] => [c]
  | c :: d :: cs =>
    if c = '-' ∧ d = '-' then '-' :: unpaired cs else c :: unpaired (d :: cs)

@[simp] theorem unpaired_pair (cs : List Char) :
    unpaired ('-' :: '-' :: cs) = '-' :: unpaired cs := by
  simp [unpaired]

theorem unpaired_cons_of_ne {c : Char} (h : c ≠ '-') (cs : List Char) :
    unpaired (c :: cs) = c :: unpaired cs := by
  cases cs with
  | nil => rfl
  | cons d cs => rw [unpaired, if_neg fun hpair => h hpair.1]

theorem paired_escapeChars (cs : List Char) : Paired (escapeChars cs) := by
  induction cs with
  | nil => exact .nil
  | cons c cs ih =>
    by_cases hc : c = '-'
    · subst hc
      exact .pair ih
    · rw [escapeChars_cons_of_ne hc]
      exact .char hc ih

theorem unpaired_escapeChars (cs : List Char) : unpaired (escapeChars cs) = cs := by
  induction cs with
  | nil => rfl
  | cons c cs ih =>
    by_cases hc : c = '-'
    · subst hc
      rw [escapeChars_hyphen, unpaired_pair, ih]
    · rw [escapeChars_cons_of_ne hc, unpaired_cons_of_ne hc, ih]

theorem Paired.escapeChars_unpaired {cs : List Char} (h : Paired cs) :
    escapeChars (unpaired cs) = cs := by
  induction h with
  | nil => rfl
  | char hc _ ih => rw [unpaired_cons_of_ne hc, escapeChars_cons_of_ne hc, ih]
  | pair _ ih => rw [unpaired_pair, escapeChars_hyphen, ih]

/-! ## The parts of a name -/

/-- Four texts that make up a name. That of the workload is as it stands in the name. -/
structure Parts where
  host : String
  orchestrator : String
  workload : String
  endpointId : String

namespace Parts

def name (p : Parts) : String :=
  p.host ++ "-" ++ p.orchestrator ++ "-" ++ p.workload ++ "-" ++ p.endpointId

/-- What the parts of an accepted name are like. -/
structure WellFormed (p : Parts) : Prop where
  host_ne : p.host ≠ ""
  host_hyphen : '-' ∉ p.host.toList
  host_lower : lower p.host = p.host
  orchestrator_ne : p.orchestrator ≠ ""
  orchestrator_hyphen : '-' ∉ p.orchestrator.toList
  workload_pairs : ∃ c cs, p.workload.toList = c :: cs ∧ c ≠ '-' ∧ Paired cs
  endpointId_ne : p.endpointId ≠ ""
  endpointId_hyphen : '-' ∉ p.endpointId.toList

/-- For `k8s` there is a namespace, which is not empty and has no point. -/
def GoesWith (p : Parts) (ns : Option String) : Prop :=
  p.orchestrator = k8s → ∃ n, ns = some n ∧ n ≠ "" ∧ '.' ∉ n.toList

/-- The workload that the parts show, with its namespace for `k8s`. -/
def workloadBeside (p : Parts) (ns : Option String) : Workload :=
  ⟨if p.orchestrator = k8s then ns else none, String.ofList (unpaired p.workload.toList)⟩

def identifiers (p : Parts) (ns : Option String) : Identifiers :=
  ⟨p.host, p.orchestrator, (p.workloadBeside ns).id, p.endpointId⟩

/-- The parts that a name with the given workload is written from. -/
def ofIdentifiers (i : Identifiers) (w : Workload) : Parts :=
  ⟨i.host, i.orchestrator, escape w.name, i.endpointId⟩

theorem toList_name (p : Parts) :
    p.name.toList = p.host.toList ++ '-' :: (p.orchestrator.toList ++ '-' ::
      (p.workload.toList ++ '-' :: p.endpointId.toList)) := by
  simp [name]

/-- The first two parts end at the first two hyphens and the last one begins behind the last. -/
theorem eq_of_name_eq {p q : Parts} (hp : p.WellFormed) (hq : q.WellFormed)
    (h : p.name = q.name) : p = q := by
  have htext := congrArg String.toList h
  rw [toList_name, toList_name] at htext
  obtain ⟨hhost, htext⟩ := append_separator_inj hp.host_hyphen hq.host_hyphen htext
  obtain ⟨horchestrator, htext⟩ :=
    append_separator_inj hp.orchestrator_hyphen hq.orchestrator_hyphen htext
  have hrev := congrArg List.reverse htext
  simp only [List.reverse_append, List.reverse_cons, List.append_assoc, List.singleton_append]
    at hrev
  obtain ⟨hendpoint, hworkload⟩ := append_separator_inj
    (mt List.mem_reverse.mp hp.endpointId_hyphen) (mt List.mem_reverse.mp hq.endpointId_hyphen)
    hrev
  cases p
  cases q
  rw [mk.injEq]
  exact ⟨String.toList_injective hhost, String.toList_injective horchestrator,
    String.toList_injective (List.reverse_inj.mp hworkload),
    String.toList_injective (List.reverse_inj.mp hendpoint)⟩

section WellFormed

variable {p : Parts} {ns : Option String}

theorem WellFormed.escape_name (h : p.WellFormed) :
    escape (p.workloadBeside ns).name = p.workload := by
  obtain ⟨c, cs, htext, hc, hcs⟩ := h.workload_pairs
  have hpaired : Paired p.workload.toList := htext ▸ .char hc hcs
  apply String.toList_injective
  unfold escape workloadBeside
  rw [String.toList_ofList, String.toList_ofList, hpaired.escapeChars_unpaired]

theorem WellFormed.nameOf_eq (h : p.WellFormed) :
    nameOf p.host p.orchestrator (p.workloadBeside ns).name p.endpointId = p.name := by
  have hworkload : escapeChars (p.workloadBeside ns).name.toList = p.workload.toList := by
    rw [← h.escape_name, escape, String.toList_ofList]
  apply String.toList_injective
  rw [toList_nameOf, h.host_lower, hworkload, toList_name]

theorem GoesWith.fits (h : p.GoesWith ns) : (p.workloadBeside ns).Fits p.orchestrator := by
  unfold workloadBeside Workload.Fits
  by_cases hk : p.orchestrator = k8s
  · obtain ⟨n, rfl, -, hpoint⟩ := h hk
    simpa [hk] using hpoint
  · simp [hk]

theorem WellFormed.recoverable (h : p.WellFormed) (hns : p.GoesWith ns) :
    Recoverable (p.identifiers ns) (p.workloadBeside ns) := by
  obtain ⟨c, cs, htext, hc, -⟩ := h.workload_pairs
  have hhead : (p.workloadBeside ns).name.toList = c :: unpaired cs := by
    unfold workloadBeside
    rw [String.toList_ofList, htext, unpaired_cons_of_ne hc]
  constructor
  case host_ne => exact h.host_ne
  case host_hyphen => exact h.host_hyphen
  case orchestrator_ne => exact h.orchestrator_ne
  case orchestrator_hyphen => exact h.orchestrator_hyphen
  case endpointId_ne => exact h.endpointId_ne
  case endpointId_hyphen => exact h.endpointId_hyphen
  case workload_ne =>
    intro hempty
    rw [hempty] at hhead
    exact absurd hhead (by simp)
  case workload_start =>
    rw [hhead]
    simpa using hc
  case namespace_ne =>
    intro hk
    obtain ⟨n, rfl, hn, -⟩ := hns hk
    have hbeside : (p.workloadBeside (some n)).ns = some n := if_pos hk
    rw [hbeside]
    simpa using hn

/-- Parts that are well formed denote what the name is written for. -/
theorem WellFormed.denotes (h : p.WellFormed) (hns : p.GoesWith ns) :
    Denotes p.name ns (p.identifiers ns) := by
  have hdecode : decodeWorkloadId p.orchestrator (p.identifiers ns).workloadId =
      .ok (p.workloadBeside ns) := decodeWorkloadId_eq_ok_iff.mpr ⟨hns.fits, rfl⟩
  refine ⟨p.workloadBeside ns, hdecode, h.recoverable hns, h.host_lower, h.nameOf_eq, ?_⟩
  intro hk
  exact (if_pos hk).symm

end WellFormed

end Parts

section Denotes

variable {name : String} {ns : Option String} {i : Identifiers} {w : Workload}

theorem wellFormed_ofIdentifiers (h : Recoverable i w) (hhost : lower i.host = i.host) :
    (Parts.ofIdentifiers i w).WellFormed := by
  have hne : w.name.toList ≠ [] := mt String.toList_eq_nil_iff.mp h.workload_ne
  obtain ⟨c, cs, htext⟩ := List.exists_cons_of_ne_nil hne
  have hc : c ≠ '-' := by simpa [htext] using h.workload_start
  constructor
  case host_ne => exact h.host_ne
  case host_hyphen => exact h.host_hyphen
  case host_lower => exact hhost
  case orchestrator_ne => exact h.orchestrator_ne
  case orchestrator_hyphen => exact h.orchestrator_hyphen
  case workload_pairs =>
    refine ⟨c, escapeChars cs, ?_, hc, paired_escapeChars cs⟩
    rw [Parts.ofIdentifiers, escape, String.toList_ofList, htext, escapeChars_cons_of_ne hc]
  case endpointId_ne => exact h.endpointId_ne
  case endpointId_hyphen => exact h.endpointId_hyphen

/-- What a name denotes is written from well-formed parts and is what these parts denote. -/
theorem exists_parts_of_denotes (h : Denotes name ns i) :
    ∃ p : Parts, p.WellFormed ∧ p.GoesWith ns ∧ p.name = name ∧ p.identifiers ns = i := by
  obtain ⟨w, hdecode, hrecoverable, hhost, hwritten, hns⟩ := h
  obtain ⟨hfits, hid⟩ := decodeWorkloadId_eq_ok_iff.mp hdecode
  have hbeside : (Parts.ofIdentifiers i w).workloadBeside ns = w := by
    unfold Parts.workloadBeside Parts.ofIdentifiers escape
    dsimp only
    rw [String.toList_ofList, unpaired_escapeChars, String.ofList_toList]
    split
    · next hk => rw [hns hk]
    · next hk => rw [← hfits.ns_eq_none hk]
  refine ⟨.ofIdentifiers i w, wellFormed_ofIdentifiers hrecoverable hhost, ?_, ?_, ?_⟩
  · intro hk
    have hne := hrecoverable.namespace_ne hk
    rw [hns hk]
    unfold Workload.Fits at hfits
    cases hw : w.ns with
    | none =>
      rw [hw] at hfits
      exact absurd hk hfits
    | some n =>
      rw [hw] at hfits hne
      exact ⟨n, rfl, by simpa using hne, hfits.2⟩
  · apply String.toList_injective
    rw [← hwritten, toList_nameOf, hhost, Parts.toList_name, Parts.ofIdentifiers, escape,
      String.toList_ofList]
  · rw [Parts.identifiers, hbeside, hid]
    rfl

end Denotes

/-! ## Refusals -/

/-- The reasons to refuse a name, each of which shows the whole name. -/
inductive Refuses (name : String) : Malformed → Prop
  | shape : Refuses name (.shape name)
  | needsNamespace : Refuses name (.needsNamespace name)
  | ambiguous : Refuses name (.ambiguous name)

theorem Refuses.report {name : String} {reason : Malformed} (h : Refuses name reason) :
    Report.ofMalformed reason = .malformedIdentifier reason.message name := by
  cases h <;> rfl

/-- Identifiers whose workload id can be taken apart are accepted or refused for what their name
is. -/
theorem refuses_of_accept {name : String} {i : Identifiers} {w : Workload} {reason : Malformed}
    (hdecode : decodeWorkloadId i.orchestrator i.workloadId = .ok w)
    (h : accept name i = .error reason) : Refuses name reason := by
  unfold accept encode at h
  rw [hdecode] at h
  dsimp only [bind, Except.bind, pure, Except.pure] at h
  split at h
  · exact absurd h (by simp)
  · rw [← Except.error.inj h]
    exact .ambiguous

theorem refuses_of_parse {name : String} {ns : Option String} {reason : Malformed}
    (h : parse name ns = .error reason) : Refuses name reason := by
  unfold parse at h
  split at h
  · next host orchestrator workload endpointId _ =>
    split at h
    · rw [← Except.error.inj h]
      exact .shape
    · dsimp only at h
      split at h
      · next hk =>
        split at h
        · rw [← Except.error.inj h]
          exact .needsNamespace
        · next n =>
          split at h
          · rw [← Except.error.inj h]
            exact .needsNamespace
          · have hpoint : String.ofList orchestrator = k8s →
                '.' ∈ (n ++ "." ++ String.ofList workload).toList := fun _ => by simp
            obtain ⟨w, hw⟩ := exists_decodeWorkloadId hpoint
            exact refuses_of_accept hw h
      · next hk =>
        obtain ⟨w, hw⟩ := exists_decodeWorkloadId fun hk' => absurd hk' hk
        exact refuses_of_accept hw h
  · rw [← Except.error.inj h]
    exact .shape

/-! ## What is read -/

/-- A name is accepted beside a namespace exactly if it has well-formed parts that go with it, and
then it is read as what these parts denote. No other parts make up the name, writing what was read
gives the name again, and the namespace only matters for `k8s`. Every other name is refused with a
report that shows the whole name. -/
theorem parse_accepts_parts (name : String) (ns : Option String) :
    (∀ i, parse name ns = .ok i ↔
        ∃ p : Parts, p.WellFormed ∧ p.GoesWith ns ∧ p.name = name ∧ p.identifiers ns = i) ∧
      (∀ p q : Parts, p.WellFormed → q.WellFormed → p.name = name → q.name = name → p = q) ∧
      (∀ i, parse name ns = .ok i → encode i = .ok name) ∧
      (∀ p : Parts, p.WellFormed → p.name = name → p.orchestrator ≠ k8s →
        ∀ other, parse name other = parse name ns) ∧
      ((¬∃ p : Parts, p.WellFormed ∧ p.GoesWith ns ∧ p.name = name) →
        ∃ reason, parse name ns = .error reason ∧ Refuses name reason ∧
          Report.ofMalformed reason = .malformedIdentifier reason.message name) := by
  have haccepts (ns : Option String) (i : Identifiers) : parse name ns = .ok i ↔
      ∃ p : Parts, p.WellFormed ∧ p.GoesWith ns ∧ p.name = name ∧ p.identifiers ns = i := by
    rw [parse_eq_ok_iff_denotes]
    constructor
    · exact exists_parts_of_denotes
    · intro ⟨p, hp, hns, hname, hi⟩
      rw [← hname, ← hi]
      exact hp.denotes hns
  refine ⟨haccepts ns, ?_, ?_, ?_, ?_⟩
  · intro p q hp hq hpname hqname
    exact Parts.eq_of_name_eq hp hq (hpname.trans hqname.symm)
  · intro i h
    obtain ⟨_, _, _, hencode, _⟩ := parse_eq_ok_iff.mp h
    exact hencode
  · intro p hp hname ho other
    have hread (ns : Option String) :
        parse name ns = .ok ⟨p.host, p.orchestrator, (p.workloadBeside none).id, p.endpointId⟩ := by
      refine (haccepts ns _).mpr ⟨p, hp, fun hk => absurd hk ho, hname, ?_⟩
      rw [Parts.identifiers, Parts.workloadBeside, Parts.workloadBeside, if_neg ho, if_neg ho]
    rw [hread other, hread ns]
  · intro hnone
    cases hparse : parse name ns with
    | ok i =>
      obtain ⟨p, hp, hns, hname, -⟩ := (haccepts ns i).mp hparse
      exact absurd ⟨p, hp, hns, hname⟩ hnone
    | error reason =>
      have hrefuses := refuses_of_parse hparse
      exact ⟨reason, rfl, hrefuses, hrefuses.report⟩

end EndpointUpgrade.Identity
