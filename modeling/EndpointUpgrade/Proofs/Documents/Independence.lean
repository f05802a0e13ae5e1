import EndpointUpgrade.Documents.Upgrade
import EndpointUpgrade.Proofs.Net.Interface
import EndpointUpgrade.Proofs.Value.Everywhere

/-!
# Documents that do not depend on each other

The masks that a document makes known can change what is read from the next ones, but only if a
truth value or a floating-point number is used as a mask. Where all masks are of other kinds, every
length that is known was given as a number, and a document is read in the same way whatever lengths
are known.
-/

namespace EndpointUpgrade

/-! ## Networks -/

namespace Net

/-- No length is known by a truth value. -/
structure Masks.OnlyNumbers (known : Masks) : Prop where
  v4 : ∀ l ∈ known.v4, l.asTruth = false
  v6 : ∀ l ∈ known.v6, l.asTruth = false

/-- A value is no pair with a truth value or a floating-point number as its mask. -/
def isSteady : Value → Bool
  | .tuple [_, .bool _] => false
  | .tuple [_, .float _] => false
  | _ => true

theorem Masks.onlyNumbers_empty : Masks.empty.OnlyNumbers :=
  ⟨List.forall_mem_nil _, List.forall_mem_nil _⟩

theorem Masks.OnlyNumbers.add {known : Masks} (h : known.OnlyNumbers) {i : Interface}
    (hi : i.asTruth = false) : (known.add i).OnlyNumbers := by
  cases i with
  | v4 a l => exact ⟨List.forall_mem_cons.mpr ⟨hi, h.v4⟩, h.v6⟩
  | v6 a l => exact ⟨h.v4, List.forall_mem_cons.mpr ⟨hi, h.v6⟩⟩

namespace PrefixLength

variable {bound : Nat} {known : List (PrefixLength bound)}

theorem asKnown_ofNumber (h : ∀ l ∈ known, l.asTruth = false) (number : Fin (bound + 1)) :
    asKnown known (ofNumber number) = ofNumber number := by
  unfold asKnown
  cases hfind : known.find? fun k => k.number = (ofNumber number).number with
  | none => rfl
  | some k =>
    have hfound := List.find?_some hfind
    have hnumber : k.number = number := of_decide_eq_true hfound
    rw [Option.getD_some, ← hnumber]
    exact (ofNumber_number (h k (List.mem_of_find?_eq_some hfind))).symm

theorem map_asKnown_ofInt? (h : ∀ l ∈ known, l.asTruth = false) (n : Int) :
    (ofInt? n).map (asKnown known) = ofInt? n := by
  unfold ofInt?
  split
  · rw [Option.map_some, asKnown_ofNumber h]
  · rfl

theorem asTruth_of_ofInt? {n : Int} {l : PrefixLength bound} (h : ofInt? n = some l) :
    l.asTruth = false := by
  unfold ofInt? at h
  split at h
  · rw [← Option.some.inj h]
    rfl
  · contradiction

variable {ofText : List Char → Option (Fin (bound + 1))}
variable {ofBytes : List UInt8 → Except MaskFault (PrefixLength bound)}

theorem ofValue_int (h : ∀ l ∈ known, l.asTruth = false) (n : Int) :
    ofValue ofText ofBytes known (.int n) = orRefused (ofInt? n) := by
  change orRefused ((ofInt? n).map (asKnown known)) = _
  rw [map_asKnown_ofInt? h]

/-- A mask of another kind than the two is taken in the same way whatever lengths are known. -/
theorem ofValue_eq {address mask : Value} (h : ∀ l ∈ known, l.asTruth = false)
    (hmask : isSteady (.tuple [address, mask]) = true) :
    ofValue ofText ofBytes known mask = ofValue ofText ofBytes [] mask := by
  cases mask with
  | bool b | float x => contradiction
  | int n => rw [ofValue_int h, ofValue_int (List.forall_mem_nil _)]
  | _ => rfl

end PrefixLength

namespace Interface

variable {known : Masks} {v : Value} {i : Interface}

theorem ofValue_eq (h : known.OnlyNumbers) (hv : isSteady v = true) :
    ofValue known v = ofValue .empty v := by
  unfold ofValue
  split
  case h_4 address mask =>
    unfold ofPair ofPairV4 ofPairV6 PrefixLength.ofValueV4 PrefixLength.ofValueV6
    rw [PrefixLength.ofValue_eq h.v4 hv, PrefixLength.ofValue_eq h.v6 hv]
    rfl
  all_goals rfl

theorem asTruth_of_ofNetwork? {n? : Option Network} (h : ofNetwork? n? = .ok i) :
    i.asTruth = false := by
  cases n? with
  | none => contradiction
  | some n =>
    obtain rfl := Except.ok.inj h
    cases n <;> rfl

theorem asTruth_of_orRefused_ofInt? {bound : Nat} {n : Int}
    {ofLength : PrefixLength bound → Interface}
    (hlength : ∀ l, (ofLength l).asTruth = l.asTruth)
    (h : (PrefixLength.orRefused (PrefixLength.ofInt? n)).map ofLength = .ok i) :
    i.asTruth = false := by
  cases hn : (PrefixLength.ofInt? n : Option (PrefixLength bound)) with
  | none =>
    rw [hn] at h
    contradiction
  | some l =>
    rw [hn] at h
    rw [← Except.ok.inj h, hlength]
    exact PrefixLength.asTruth_of_ofInt? hn

/-- An integer is taken for a prefix length as a number. -/
theorem asTruth_of_ofPair {address : Value} {n : Int}
    (h : ofPair .empty address (.int n) = .ok i) : i.asTruth = false := by
  have h4 (h : ofPairV4 .empty address (.int n) = .ok i) : i.asTruth = false := by
    unfold ofPairV4 PrefixLength.ofValueV4 at h
    rw [PrefixLength.ofValue_int Masks.onlyNumbers_empty.v4] at h
    split at h
    · exact asTruth_of_orRefused_ofInt? (fun _ => rfl) h
    · contradiction
  have h6 (h : ofPairV6 .empty address (.int n) = .ok i) : i.asTruth = false := by
    unfold ofPairV6 PrefixLength.ofValueV6 at h
    rw [PrefixLength.ofValue_int Masks.onlyNumbers_empty.v6] at h
    split at h
    · exact asTruth_of_orRefused_ofInt? (fun _ => rfl) h
    · contradiction
  unfold ofPair at h
  split at h
  · exact h6 h
  · exact h4 h

theorem asTruth_of_ofValue (hv : isSteady v = true) (hnumber : Masks.isNumber v = true)
    (h : ofValue .empty v = .ok i) : i.asTruth = false := by
  unfold ofValue at h
  split at h
  case h_4 address mask =>
    cases mask with
    | int n => exact asTruth_of_ofPair h
    | bool b | float x => contradiction
    | _ => exact absurd hnumber nofun
  all_goals first | contradiction | exact asTruth_of_ofNetwork? h

end Interface

namespace Masks

variable {known : Masks} {v : Value}

theorem OnlyNumbers.after (h : known.OnlyNumbers) (hv : isSteady v = true) :
    (known.after v).OnlyNumbers := by
  unfold Masks.after
  split
  · next i hi =>
    split
    · next hnumber =>
      rw [Interface.ofValue_eq h hv] at hi
      exact h.add (Interface.asTruth_of_ofValue hv hnumber hi)
    · exact h
  · exact h

end Masks

end Net

/-! ## Lists of networks -/

namespace Reading

open Net

variable {known : Masks} {v : Value} {items : List Value} {entries : Entries}

theorem allEverywhere_of_items? {p : Value → Bool} (h : Value.everywhere p v = true)
    (hitems : items? v = some items) : Value.allEverywhere p items = true := by
  cases v with
  | list all | tuple all | set all =>
    rw [Value.everywhere, Bool.and_eq_true] at h
    exact Option.some.inj hitems ▸ h.2
  | _ => contradiction

/-- Networks are read one after the other as if each were the first. -/
theorem elements_threaded (h : known.OnlyNumbers)
    (hitems : Value.allEverywhere isSteady items = true) (position : Int) :
    elements (fun p => network p.1 p.2) position (threaded Masks.after known items) =
      elements (network .empty) position items := by
  induction items generalizing known position with
  | nil => rfl
  | cons v rest ih =>
    rw [Value.allEverywhere, Bool.and_eq_true] at hitems
    have hv := Value.holds_of_everywhere hitems.1
    rw [threaded, elements, elements, ih (h.after hv) hitems.2]
    unfold network
    rw [Interface.ofValue_eq h hv]

theorem networkList_eq (h : known.OnlyNumbers) (hv : Value.everywhere isSteady v = true) :
    networkList known v = listOf (network .empty) v := by
  unfold networkList listOf
  cases hitems : items? v with
  | none => rfl
  | some items => exact elements_threaded h (allEverywhere_of_items? hv hitems) 0

theorem onlyNumbers_masksAfterList (h : known.OnlyNumbers)
    (hv : Value.everywhere isSteady v = true) : (masksAfterList known v).OnlyNumbers := by
  unfold masksAfterList
  cases hitems : items? v with
  | none => exact h
  | some items =>
    have hall := allEverywhere_of_items? hv hitems
    clear hitems
    rw [Option.getD_some]
    induction items generalizing known with
    | nil => exact h
    | cons v rest ih =>
      rw [Value.allEverywhere, Bool.and_eq_true] at hall
      exact ih (h.after (Value.holds_of_everywhere hall.1)) hall.2

/-! ## Fields -/

theorem everywhere_of_find? {p : Value → Bool} {f : FieldName} {name : String}
    (h : Value.entriesEverywhere p entries = true) (hv : f.find? entries = some (name, v)) :
    Value.everywhere p v = true := by
  unfold FieldName.find? at hv
  cases hwire : Value.lookup? f.wire entries with
  | some w =>
    rw [hwire] at hv
    obtain rfl := (Prod.mk.inj (Option.some.inj hv)).2
    exact Value.everywhere_of_lookup? h hwire
  | none =>
    rw [hwire] at hv
    obtain ⟨w, hw, heq⟩ := Option.map_eq_some_iff.mp hv
    obtain rfl := (Prod.mk.inj heq).2
    exact Value.everywhere_of_lookup? h hw

section

variable {α : Type} {p : Value → Bool} {read read' : Value → Checked α} {f : FieldName}
variable (h : Value.entriesEverywhere p entries = true)
variable (hread : ∀ v, Value.everywhere p v = true → read v = read' v)
include h hread

theorem required_congr : required f read entries = required f read' entries := by
  unfold required
  cases hv : f.find? entries with
  | none => rfl
  | some g =>
    dsimp only
    rw [hread g.2 (everywhere_of_find? h hv)]

theorem optional_congr (default : α) :
    optional f default read entries = optional f default read' entries := by
  unfold optional
  cases hv : f.find? entries with
  | none => rfl
  | some g =>
    dsimp only
    rw [hread g.2 (everywhere_of_find? h hv)]

end

theorem onlyNumbers_after {f : FieldName} {next : Masks → Value → Masks}
    (hknown : known.OnlyNumbers)
    (h : Value.entriesEverywhere isSteady entries = true)
    (hnext : ∀ v, Value.everywhere isSteady v = true → (next known v).OnlyNumbers) :
    (f.after next known entries).OnlyNumbers := by
  unfold FieldName.after
  cases hv : f.find? entries with
  | none => exact hknown
  | some g => exact hnext g.2 (everywhere_of_find? h hv)

theorem record_congr {α : Type} {p : Value → Bool} {name : String} {fields : List FieldName}
    {read read' : Entries → Checked α} (hv : Value.everywhere p v = true)
    (hread : ∀ es, Value.entriesEverywhere p es = true → read es = read' es) :
    record name fields read v = record name fields read' v := by
  unfold record
  split
  · next es => rw [hread es (Value.entriesEverywhere_of_map hv)]
  · rfl

end Reading

/-! ## Records -/

namespace Endpoint

open Net Reading

variable {known : Masks} {v : EndpointUpgrade.Value}

section

variable (h : known.OnlyNumbers) (hv : Value.everywhere isSteady v = true)
include h hv

theorem networkList_eq_empty : networkList known v = networkList .empty v := by
  rw [networkList_eq h hv, networkList_eq Masks.onlyNumbers_empty hv]

theorem V1.Spec.read_eq_empty : V1.Spec.read known v = V1.Spec.read .empty v := by
  refine record_congr hv fun es hes => ?_
  rw [optional_congr hes fun v hv => networkList_eq_empty h hv]

theorem V1.read_eq_empty : V1.read known v = V1.read .empty v := by
  refine record_congr hv fun es hes => ?_
  rw [optional_congr hes fun v hv => V1.Spec.read_eq_empty h hv]

theorem readNetworksOf_eq_empty (family : Family) (field : String) :
    readNetworksOf known family field v = readNetworksOf .empty family field v := by
  unfold readNetworksOf
  rw [networkList_eq_empty h hv]

theorem Stored.Value.read_eq_empty : Stored.Value.read known v = Stored.Value.read .empty v := by
  refine record_congr hv fun es hes => ?_
  have hafter {known : Masks} (h : known.OnlyNumbers) :
      (Stored.Value.networks4Field.after masksAfterList known es).OnlyNumbers :=
    onlyNumbers_after h hes fun v hv => onlyNumbers_masksAfterList h hv
  have hnetworks : Stored.Value.readNetworks known es = Stored.Value.readNetworks .empty es := by
    unfold Stored.Value.readNetworks
    rw [optional_congr hes fun v hv => readNetworksOf_eq_empty h hv .v4 _,
      optional_congr hes fun v hv => readNetworksOf_eq_empty (hafter h) hv .v6 _,
      optional_congr hes fun v hv =>
        (readNetworksOf_eq_empty (hafter Masks.onlyNumbers_empty) hv .v6 _).symm]
  rw [hnetworks]

theorem Stored.read_eq_empty : Stored.read known v = Stored.read .empty v := by
  refine record_congr hv fun es hes => ?_
  rw [required_congr hes fun v hv => Stored.Value.read_eq_empty h hv]

theorem V1.Spec.onlyNumbers_masksAfter : (V1.Spec.masksAfter known v).OnlyNumbers := by
  cases v with
  | map es =>
    refine onlyNumbers_after h (Value.entriesEverywhere_of_map hv) fun v hv => ?_
    exact onlyNumbers_masksAfterList h hv
  | _ => exact h

theorem Stored.Value.onlyNumbers_masksAfter :
    (Stored.Value.masksAfter known v).OnlyNumbers := by
  cases v with
  | map es =>
    have hes := Value.entriesEverywhere_of_map hv
    have h4 := onlyNumbers_after (f := Stored.Value.networks4Field) h hes fun v hv =>
      onlyNumbers_masksAfterList h hv
    exact onlyNumbers_after h4 hes fun v hv => onlyNumbers_masksAfterList h4 hv
  | _ => exact h

theorem V1.onlyNumbers_masksAfter : (V1.masksAfter known v).OnlyNumbers := by
  cases v with
  | map es =>
    refine onlyNumbers_after h (Value.entriesEverywhere_of_map hv) fun v hv => ?_
    exact V1.Spec.onlyNumbers_masksAfter h hv
  | _ => exact h

theorem Stored.onlyNumbers_masksAfter : (Stored.masksAfter known v).OnlyNumbers := by
  cases v with
  | map es =>
    refine onlyNumbers_after h (Value.entriesEverywhere_of_map hv) fun v hv => ?_
    exact Stored.Value.onlyNumbers_masksAfter h hv
  | _ => exact h

end

end Endpoint

/-! ## Documents -/

namespace Documents

open Net Endpoint

/-- No network of a document has a truth value or a floating-point number as its mask. -/
def IsSteady (entries : Entries) : Prop := Value.entriesEverywhere isSteady entries = true

instance (entries : Entries) : Decidable (IsSteady entries) := by unfold IsSteady; infer_instance

variable {known : Masks} {entries : Entries}

theorem everywhere_body (h : IsSteady entries) :
    Value.everywhere isSteady (.map (body entries)) = true := by
  rw [Value.everywhere, Bool.and_eq_true]
  exact ⟨rfl, Value.entriesEverywhere_without _ (Value.entriesEverywhere_without _ h)⟩

theorem record_eq_empty (hknown : known.OnlyNumbers) (h : IsSteady entries) :
    record known entries = record .empty entries := by
  unfold record
  rw [V1.read_eq_empty hknown (everywhere_body h), Stored.read_eq_empty hknown (everywhere_body h)]

theorem onlyNumbers_masksAfter (hknown : known.OnlyNumbers) (h : IsSteady entries) :
    (masksAfter known entries).OnlyNumbers := by
  unfold masksAfter
  split
  · split
    · exact V1.onlyNumbers_masksAfter hknown (everywhere_body h)
    · split
      · exact Stored.onlyNumbers_masksAfter hknown (everywhere_body h)
      · exact hknown
  · exact hknown

theorem upgradeDocument_eq_empty (target : Target) (hknown : known.OnlyNumbers)
    (h : IsSteady entries) :
    upgradeDocument target known entries = upgradeDocument target .empty entries := by
  unfold upgradeDocument readRecord
  rw [record_eq_empty hknown h]

/-- Every document finds masks that do not matter to it. -/
theorem upgradeDocument_eq_empty_of_mem {documents : List Entries} (target : Target)
    (hknown : known.OnlyNumbers) (h : ∀ d ∈ documents, IsSteady d) :
    ∀ p ∈ threaded masksAfter known documents,
      upgradeDocument target p.1 p.2 = upgradeDocument target .empty p.2 := by
  induction documents generalizing known with
  | nil => exact List.forall_mem_nil _
  | cons d documents ih =>
    rw [List.forall_mem_cons] at h
    rw [threaded, List.forall_mem_cons]
    exact ⟨upgradeDocument_eq_empty target hknown h.1,
      ih (onlyNumbers_masksAfter hknown h.1) h.2⟩

end Documents

end EndpointUpgrade
