import EndpointUpgrade.Proofs.Value.Reordering
import EndpointUpgrade.Reading.Record
import EndpointUpgrade.Reading.Scalar
import Mathlib.Logic.Relator

/-!
# Reading without regard to order

Two checked results agree if both are values, and one value is as good as the other, if both are
lists of the same issues in whatever order, or if both were broken off by the same misuse. Scalars
are read from a value and from the same value reordered with equal results; lists and records are
read with results that agree, if those of their parts do.
-/

namespace EndpointUpgrade.Reading

open Value
open scoped Relator

namespace Checked

variable {α β : Type} {x : Checked α} {a : α} {b : β}

theorem map_eq_ok_iff {f : α → β} : f <$> x = .ok b ↔ ∃ a, x = .ok a ∧ f a = b := by
  cases x with
  | ok a => simp
  | _ => exact iff_of_false nofun fun ⟨_, h, _⟩ => nomatch h

theorem seq_eq_ok_iff {f : Checked (α → β)} :
    f <*> x = .ok b ↔ ∃ g a, f = .ok g ∧ x = .ok a ∧ g a = b := by
  cases f with
  | ok g =>
    cases x with
    | ok a => simp
    | _ => exact iff_of_false nofun fun ⟨_, _, _, h, _⟩ => nomatch h
  | _ => cases x <;> exact iff_of_false nofun fun ⟨_, _, h, _⟩ => nomatch h

theorem under_eq_ok_iff {step : Step} : x.under step = .ok a ↔ x = .ok a := by
  cases x with
  | ok a => rfl
  | _ => exact iff_of_false nofun nofun

theorem refusedFor_ne_ok {f : Fault} : (x.refusedFor f : Checked β) ≠ .ok b := by
  cases x <;> exact nofun

/-- The reading came to its end. -/
def Ends (x : Checked α) : Prop := ∀ m, x ≠ .broken m

theorem Ends.map (h : x.Ends) (f : α → β) : (f <$> x).Ends := by
  cases x with
  | broken m => exact absurd rfl (h m)
  | _ => exact nofun

theorem Ends.seq {f : Checked (α → β)} (hf : f.Ends) (h : x.Ends) : (f <*> x).Ends := by
  cases f with
  | broken m => exact absurd rfl (hf m)
  | _ =>
    cases x with
    | broken m => exact absurd rfl (h m)
    | _ => exact nofun

theorem Ends.under (h : x.Ends) (step : Step) : (x.under step).Ends := by
  cases x with
  | broken m => exact absurd rfl (h m)
  | _ => exact nofun

end Checked

/-- Two values that are related, the same issues up to order, or the same misuse. -/
inductive Agree {α : Type} (R : α → α → Prop) : Checked α → Checked α → Prop
  | ok {a b : α} : R a b → Agree R (.ok a) (.ok b)
  | faulty {is js : List Issue} : is.Perm js → Agree R (.faulty is) (.faulty js)
  | broken (m : Misuse) : Agree R (.broken m) (.broken m)

namespace Agree

variable {α β : Type} {R : α → α → Prop} {S : β → β → Prop} {x y z : Checked α}

theorem refl (hR : ∀ a, R a a) (x : Checked α) : Agree R x x := by
  cases x with
  | ok a => exact .ok (hR a)
  | faulty is => exact .faulty (.refl is)
  | broken m => exact .broken m

theorem of_eq (h : x = y) : Agree Eq x y := h ▸ .refl Eq.refl x

theorem trans (hR : ∀ a b c, R a b → R b c → R a c) (h : Agree R x y) (h' : Agree R y z) :
    Agree R x z := by
  cases h with
  | ok hab =>
    cases h' with
    | ok hbc => exact .ok (hR _ _ _ hab hbc)
  | faulty hij =>
    cases h' with
    | faulty hjk => exact .faulty (hij.trans hjk)
  | broken m => exact h'

theorem mono {S : α → α → Prop} (hS : ∀ a b, x = .ok a → R a b → S a b) (h : Agree R x y) :
    Agree S x y := by
  cases h with
  | ok hab => exact .ok (hS _ _ rfl hab)
  | faulty hij => exact .faulty hij
  | broken m => exact .broken m

theorem under (h : Agree R x y) (step : Step) : Agree R (x.under step) (y.under step) := by
  cases h with
  | ok hab => exact .ok hab
  | faulty hij => exact .faulty (hij.map _)
  | broken m => exact .broken m

theorem thenRule (h : Agree Eq x y) (rule : α → Except String β) :
    Agree Eq (x.thenRule rule) (y.thenRule rule) := by
  cases h with
  | ok hab => exact of_eq (hab ▸ rfl)
  | faulty hij => exact .faulty hij
  | broken m => exact .broken m

theorem refusedFor (h : Agree R x y) (f : Fault) :
    Agree S (x.refusedFor f) (y.refusedFor f) := by
  cases h with
  | ok => exact .faulty (.refl _)
  | faulty => exact .faulty (.refl _)
  | broken m => exact .broken m

theorem map {f g : α → β} (hfg : (R ⇒ S) f g) (h : Agree R x y) : Agree S (f <$> x) (g <$> y) := by
  cases h with
  | ok hab => exact .ok (hfg hab)
  | faulty hij => exact .faulty hij
  | broken m => exact .broken m

theorem seq {f g : Checked (α → β)} (hfg : Agree (R ⇒ S) f g) (h : Agree R x y) :
    Agree S (f <*> x) (g <*> y) := by
  cases hfg with
  | ok hab =>
    cases h with
    | ok ha => exact .ok (hab ha)
    | faulty hij => exact .faulty hij
    | broken m => exact .broken m
  | faulty hkl =>
    cases h with
    | ok ha => exact .faulty hkl
    | faulty hij => exact .faulty (hkl.append hij)
    | broken m => exact .broken m
  | broken m => exact .broken m

theorem map_eq (f : α → β) (h : Agree Eq x y) : Agree Eq (f <$> x) (f <$> y) :=
  h.map fun _ _ hab => congrArg f hab

theorem seq_eq {f g : Checked (α → β)} (hfg : Agree Eq f g) (h : Agree Eq x y) :
    Agree Eq (f <*> x) (g <*> y) :=
  (hfg.mono fun _ _ _ hfg _ _ hab => congr hfg hab).seq h

theorem seqLeft {u v : Checked β} (h : Agree R x y) (huv : Agree Eq u v) :
    Agree R (x <* u) (y <* v) := by
  have hconst : (R ⇒ (Eq ⇒ R)) (Function.const β) (Function.const β) := fun _ _ hab _ _ _ => hab
  exact (h.map hconst).seq huv

end Agree

variable {α : Type} {R : α → α → Prop} {read : Value → Checked α}

/-- What is read does not depend on the order of entries, but for `R`. -/
def OrderFree (R : α → α → Prop) (read : Value → Checked α) : Prop :=
  ∀ ⦃v w⦄, Rearranged v w → Agree R (read v) (read w)

theorem OrderFree.of_eq (h : ∀ ⦃v w⦄, Reordered v w → read v = read w) : OrderFree Eq read :=
  fun _ _ hvw => .of_eq (h hvw.reordered)

/-! ## Scalars and lists -/

section Scalars

variable {v w : Value}

theorem text_of_reordered (h : Reordered v w) : text v = text w := by
  cases h <;> rfl

theorem ends_text (v : Value) : (text v).Ends := by
  cases v with
  | bytes bs =>
    intro m h
    dsimp only [text] at h
    split at h <;> contradiction
  | _ => exact nofun

theorem ends_rawText (v : Value) : (rawText v).Ends := by
  cases v with
  | tornText points => exact nofun
  | _ => exact (ends_text _).map _

theorem ofValue?_address_of_reordered (h : Reordered v w) :
    Net.Address.ofValue? v = Net.Address.ofValue? w := by
  cases h <;> rfl

theorem ofValue_mask_of_reordered {bound : Nat} {ofText : List Char → Option (Fin (bound + 1))}
    {ofBytes : List UInt8 → Except Net.MaskFault (Net.PrefixLength bound)}
    {known : List (Net.PrefixLength bound)} (h : Reordered v w) :
    Net.PrefixLength.ofValue ofText ofBytes known v =
      Net.PrefixLength.ofValue ofText ofBytes known w := by
  have hkey := (unkeyable?_of_reordered h).1
  cases h with
  | same v => rfl
  | list hitems => rfl
  | map hentries hperm => rfl
  | tuple hitems =>
    dsimp only [Net.PrefixLength.ofValue]
    rw [hkey]
    rfl

theorem ofPair_of_reordered {known : Net.Masks} {m n : Value} (h : Reordered v w)
    (hmask : Reordered m n) :
    Net.Interface.ofPair known v m = Net.Interface.ofPair known w n := by
  have hv4 : Net.V4.ofValue? v = Net.V4.ofValue? w := by
    rw [Net.V4.ofValue?, Net.V4.ofValue?, ofValue?_address_of_reordered h]
  have hv6 : Net.V6.ofValue? v = Net.V6.ofValue? w := by cases h <;> rfl
  unfold Net.Interface.ofPair Net.Interface.ofPairV4 Net.Interface.ofPairV6
  unfold Net.PrefixLength.ofValueV4 Net.PrefixLength.ofValueV6
  rw [hv4, hv6, ofValue_mask_of_reordered hmask, ofValue_mask_of_reordered hmask]

theorem ofValue_network_of_reordered {known : Net.Masks} (h : Reordered v w) :
    Net.Interface.ofValue known v = Net.Interface.ofValue known w := by
  cases h with
  | same v => rfl
  | list hitems => rfl
  | map hentries hperm => rfl
  | tuple hitems =>
    cases hitems with
    | nil => rfl
    | cons haddress hrest =>
      cases hrest with
      | nil =>
        dsimp only [Net.Interface.ofValue]
        rw [ofValue?_address_of_reordered haddress]
      | cons hmask hmore =>
        cases hmore with
        | nil => exact ofPair_of_reordered haddress hmask
        | cons _ _ => rfl

theorem after_of_reordered {known : Net.Masks} (h : Reordered v w) :
    known.after v = known.after w := by
  have hnumber : Net.Masks.isNumber v = Net.Masks.isNumber w := by
    cases h with
    | tuple hitems =>
      cases hitems with
      | cons _ hrest =>
        cases hrest with
        | cons hmask hmore => cases hmore <;> cases hmask <;> rfl
        | nil => rfl
      | nil => rfl
    | _ => rfl
  unfold Net.Masks.after
  rw [ofValue_network_of_reordered h, hnumber]

theorem orderFree_text : OrderFree Eq text := .of_eq fun _ _ => text_of_reordered

theorem orderFree_optionalText : OrderFree Eq optionalText := by
  apply OrderFree.of_eq
  intro v w h
  cases h <;> rfl

theorem orderFree_integerWithin (least greatest : Int) :
    OrderFree Eq (integerWithin least greatest) := by
  apply OrderFree.of_eq
  intro v w h
  cases h <;> rfl

theorem orderFree_address : OrderFree Eq address := by
  apply OrderFree.of_eq
  intro v w h
  rw [address, address, ofValue?_address_of_reordered h]

theorem orderFree_optionalAddress : OrderFree Eq optionalAddress := by
  apply OrderFree.of_eq
  intro v w h
  cases h <;> rfl

theorem network_of_reordered {known : Net.Masks} (h : Reordered v w) :
    network known v = network known w := by
  rw [network, network, ofValue_network_of_reordered h]

theorem agree_elements (hread : OrderFree Eq read) {vs ws : List Value}
    (keyed : areTextKeyed vs = true) (h : List.Forall₂ Reordered vs ws) (position : Int) :
    Agree Eq (elements read position vs) (elements read position ws) := by
  induction h generalizing position with
  | nil => exact .of_eq rfl
  | cons hv _ ih =>
    rw [areTextKeyed, Bool.and_eq_true] at keyed
    exact ((hread ⟨keyed.1, hv⟩).under (.index position)).map_eq List.cons
      |>.seq_eq (ih keyed.2 (position + 1))

theorem OrderFree.listOf (hread : OrderFree Eq read) : OrderFree Eq (listOf read) := by
  intro v w ⟨hkeyed, h⟩
  cases h with
  | same v => exact .of_eq rfl
  | list hitems => exact agree_elements hread hkeyed hitems 0
  | tuple hitems => exact agree_elements hread hkeyed hitems 0
  | map hentries hperm => exact .of_eq rfl

/-- The items of a list are reordered one by one, if they are reordered at all. -/
theorem items?_of_reordered (h : Reordered v w) :
    Option.Rel (List.Forall₂ Reordered) (items? v) (items? w) := by
  cases h with
  | same v =>
    cases v with
    | list items => exact .some (List.forall₂_same.mpr fun v _ => .same v)
    | tuple items => exact .some (List.forall₂_same.mpr fun v _ => .same v)
    | set items => exact .some (List.forall₂_same.mpr fun v _ => .same v)
    | _ => exact .none
  | list hitems => exact .some hitems
  | tuple hitems => exact .some hitems
  | map hentries hperm => exact .none

theorem networkList_of_reordered {known : Net.Masks} (h : Reordered v w) :
    networkList known v = networkList known w := by
  have helements {vs ws : List Value} (hitems : List.Forall₂ Reordered vs ws) (position : Int) :
      elements (fun p => network p.1 p.2) position (threaded Net.Masks.after known vs) =
        elements (fun p => network p.1 p.2) position (threaded Net.Masks.after known ws) := by
    induction hitems generalizing known position with
    | nil => rfl
    | cons hv _ ih =>
      rw [threaded, threaded, elements, elements, network_of_reordered hv, after_of_reordered hv,
        ih]
  have hitems := items?_of_reordered h
  unfold networkList
  generalize items? v = vs, items? w = ws at hitems
  cases hitems with
  | some hitems => exact helements hitems 0
  | none => rfl

theorem masksAfterList_of_reordered {known : Net.Masks} (h : Reordered v w) :
    masksAfterList known v = masksAfterList known w := by
  have hfold {vs ws : List Value} (hitems : List.Forall₂ Reordered vs ws) :
      vs.foldl Net.Masks.after known = ws.foldl Net.Masks.after known := by
    induction hitems generalizing known with
    | nil => rfl
    | cons hv _ ih => rw [List.foldl_cons, List.foldl_cons, after_of_reordered hv, ih]
  have hitems := items?_of_reordered h
  unfold masksAfterList
  generalize items? v = vs, items? w = ws at hitems
  cases hitems with
  | some hitems => exact hfold hitems
  | none => rfl

theorem OrderFree.thenRule {β : Type} (hread : OrderFree Eq read) (rule : α → Except String β) :
    OrderFree Eq fun v => (read v).thenRule rule :=
  fun _ _ h => (hread h).thenRule rule

end Scalars

/-! ## Records -/

section Records

variable {es gs : Entries} (h : Rearranged (.map es) (.map gs))
include h

/-- A field is given under the same name, with a reordered value. -/
theorem find?_of_rearranged (f : FieldName) :
    Option.Rel (fun p q => p.1 = q.1 ∧ Rearranged p.2 q.2) (f.find? es) (f.find? gs) := by
  have hwire := h.lookup? f.wire
  have hplain := h.lookup? f.plain
  unfold FieldName.find?
  generalize lookup? f.wire es = v, lookup? f.wire gs = w at hwire
  generalize lookup? f.plain es = v', lookup? f.plain gs = w' at hplain
  cases hwire with
  | some hv => exact .some ⟨rfl, hv⟩
  | none =>
    cases hplain with
    | some hv => exact .some ⟨rfl, hv⟩
    | none => exact .none

theorem agree_required (f : FieldName) (hread : OrderFree R read) :
    Agree R (required f read es) (required f read gs) := by
  have hf := find?_of_rearranged h f
  unfold required
  generalize f.find? es = p, f.find? gs = q at hf
  cases hf with
  | some hv =>
    dsimp only
    rw [hv.1]
    exact (hread hv.2).under _
  | none => exact .faulty (.refl _)

theorem agree_optional (f : FieldName) (default : α) (hdefault : R default default)
    (hread : OrderFree R read) :
    Agree R (optional f default read es) (optional f default read gs) := by
  have hf := find?_of_rearranged h f
  unfold optional
  generalize f.find? es = p, f.find? gs = q at hf
  cases hf with
  | some hv =>
    dsimp only
    rw [hv.1]
    exact (hread hv.2).under _
  | none => exact .ok hdefault

theorem after_of_rearranged {σ : Type} {next : σ → Value → σ} {s : σ} (f : FieldName)
    (hnext : ∀ ⦃v w⦄, Reordered v w → next s v = next s w) :
    f.after next s es = f.after next s gs := by
  have hf := find?_of_rearranged h f
  unfold FieldName.after
  generalize f.find? es = p, f.find? gs = q at hf
  cases hf with
  | some hv => exact hnext hv.2.reordered
  | none => rfl

theorem isGivenAs_of_rearranged (f : FieldName) (key : String) :
    f.isGivenAs es key = f.isGivenAs gs key := by
  have hf := find?_of_rearranged h f
  unfold FieldName.isGivenAs
  generalize f.find? es = p, f.find? gs = q at hf
  cases hf with
  | some hv => rw [Option.any_some, Option.any_some, hv.1]
  | none => rfl

theorem hasTornKey_of_rearranged : hasTornKey es = hasTornKey gs := by
  have hany : (es.map Prod.fst).any isTorn = (gs.map Prod.fst).any isTorn := h.keys_perm.any_eq
  rw [List.any_map, List.any_map] at hany
  exact hany

theorem agree_noOthers (fields : List FieldName) :
    Agree Eq (noOthers fields es) (noOthers fields gs) := by
  have hleft : leftover? fields es = leftover? fields gs := by
    funext key
    unfold leftover?
    simp only [isGivenAs_of_rearranged h]
  -- leftover keys are reported in the order of the mapping, so only the issues as such are equal
  have hperm : (es.filterMap fun e => leftover? fields es e.1).Perm
      (gs.filterMap fun e => leftover? fields gs e.1) := by
    rw [hleft]
    have hkeys := h.keys_perm.filterMap (leftover? fields gs)
    rw [List.filterMap_map, List.filterMap_map] at hkeys
    exact hkeys
  unfold noOthers
  generalize es.filterMap _ = is, gs.filterMap _ = js at hperm
  cases is with
  | nil =>
    rw [hperm.nil_eq]
    exact .of_eq rfl
  | cons i is =>
    cases js with
    | nil => exact absurd hperm.eq_nil (List.cons_ne_nil i is)
    | cons j js => exact .faulty hperm

end Records

theorem orderFree_record (name : String) (fields : List FieldName) {read : Entries → Checked α}
    (hread : ∀ ⦃es gs⦄, Rearranged (.map es) (.map gs) → Agree R (read es) (read gs)) :
    OrderFree R (record name fields read) := by
  have hmap {es gs : Entries} (h : Rearranged (.map es) (.map gs)) :
      Agree R (record name fields read (.map es)) (record name fields read (.map gs)) := by
    unfold record
    dsimp only
    rw [hasTornKey_of_rearranged h]
    split
    · exact (hread h).refusedFor .noUnicode
    · exact (hread h).seqLeft (agree_noOthers h fields)
  intro v w h
  cases v with
  | map es =>
    obtain ⟨_, gs, rfl, -⟩ := h.exists_entries
    exact hmap h
  | _ => cases h.reordered <;> exact .faulty (.refl _)

end EndpointUpgrade.Reading
