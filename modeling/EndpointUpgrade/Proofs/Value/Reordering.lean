import EndpointUpgrade.Value.Display
import Mathlib.Data.List.Forall2
import Mathlib.Data.List.Nodup

/-!
# Values up to the order of their entries

Mappings whose keys are texts, each key once, are the same however their entries are ordered: a key
finds the same value, and if mappings lie within others, values that differ by such orders again.
The inside of a set is of no concern, because its members can be keys and so hold no mappings.
-/

namespace EndpointUpgrade

open Value

namespace Value

/-- A text, halves of characters included. -/
def isAnyText : Value → Bool
  | .text _ => true
  | .tornText _ => true
  | _ => false

mutual

/-- All mappings within a value have texts as keys, and no key twice. -/
def isTextKeyed : Value → Bool
  | .list items => areTextKeyed items
  | .tuple items => areTextKeyed items
  | .map entries => haveTextKeys entries
  | _ => true

/-- The same for several values. -/
def areTextKeyed : List Value → Bool
  | [] => true
  | v :: rest => isTextKeyed v && areTextKeyed rest

/-- The keys of entries are different texts, and their values are keyed by texts. -/
def haveTextKeys : List (Value × Value) → Bool
  | [] => true
  | (k, v) :: rest => isAnyText k && !hasKey k rest && isTextKeyed v && haveTextKeys rest

end

end Value

mutual

/-- The same value with the entries of its mappings in any order. -/
inductive Reordered : Value → Value → Prop
  | same (v : Value) : Reordered v v
  | list {vs ws : List Value} : List.Forall₂ Reordered vs ws → Reordered (.list vs) (.list ws)
  | tuple {vs ws : List Value} : List.Forall₂ Reordered vs ws → Reordered (.tuple vs) (.tuple ws)
  | map {es fs gs : List (Value × Value)} : List.Forall₂ ReorderedEntry es fs → fs.Perm gs →
      Reordered (.map es) (.map gs)

/-- The same key with such a value. -/
inductive ReorderedEntry : Value × Value → Value × Value → Prop
  | mk (key : Value) {v w : Value} : Reordered v w → ReorderedEntry (key, v) (key, w)

end

theorem ReorderedEntry.key_eq {e f : Value × Value} (h : ReorderedEntry e f) : e.1 = f.1 := by
  cases h
  rfl

theorem ReorderedEntry.refl (e : Value × Value) : ReorderedEntry e e := .mk e.1 (.same e.2)

theorem Reordered.ofPerm {es fs : List (Value × Value)} (h : es.Perm fs) :
    Reordered (.map es) (.map fs) :=
  .map (List.forall₂_same.mpr fun e _ => .refl e) h

/-- Induction over the parts of a value that is reordered. -/
@[elab_as_elim]
theorem Reordered.parts_induction {motive : Value → Value → Prop} (same : ∀ v, motive v v)
    (list : ∀ vs ws, List.Forall₂ motive vs ws → motive (.list vs) (.list ws))
    (tuple : ∀ vs ws, List.Forall₂ motive vs ws → motive (.tuple vs) (.tuple ws))
    (map : ∀ es fs gs, List.Forall₂ (fun e f => e.1 = f.1 ∧ motive e.2 f.2) es fs → fs.Perm gs →
      motive (.map es) (.map gs)) {v w : Value} (h : Reordered v w) : motive v w := by
  refine @Reordered.rec (fun v w _ => motive v w) (fun e f _ => e.1 = f.1 ∧ motive e.2 f.2)
    (fun vs ws _ => List.Forall₂ motive vs ws)
    (fun es fs _ => List.Forall₂ (fun e f => e.1 = f.1 ∧ motive e.2 f.2) es fs)
    same ?list ?tuple ?map ?entry ?itemsNil ?itemsCons ?entriesNil ?entriesCons v w h
  case list =>
    intro vs ws _ ih
    exact list vs ws ih
  case tuple =>
    intro vs ws _ ih
    exact tuple vs ws ih
  case map =>
    intro es fs gs _ hperm ih
    exact map es fs gs ih hperm
  case entry =>
    intro key v w _ ih
    exact ⟨rfl, ih⟩
  case itemsNil => exact .nil
  case itemsCons =>
    intro v w vs ws _ _ ih ihs
    exact .cons ih ihs
  case entriesNil => exact .nil
  case entriesCons =>
    intro e f es fs _ _ ih ihs
    exact .cons ih ihs

/-! ## What reordering keeps -/

theorem isShowable_of_reordered {v w : Value} (h : Reordered v w) :
    v.isShowable = w.isShowable := by
  have hitems {vs ws : List Value}
      (h : List.Forall₂ (fun v w => v.isShowable = w.isShowable) vs ws) :
      areShowable vs = areShowable ws := by
    induction h with
    | nil => rfl
    | cons hv _ ih => rw [areShowable, areShowable, hv, ih]
  have hperm {es fs : List (Value × Value)} (h : es.Perm fs) :
      haveShowable es = haveShowable fs := by
    induction h with
    | nil => rfl
    | cons e _ ih => rw [haveShowable, haveShowable, ih]
    | swap e f es => rw [haveShowable, haveShowable, haveShowable, haveShowable, Bool.and_left_comm]
    | trans _ _ ih ih' => exact ih.trans ih'
  refine Reordered.parts_induction ?same ?list ?tuple ?map h
  case same => exact fun v => rfl
  case list => exact fun vs ws ih => hitems ih
  case tuple => exact fun vs ws ih => hitems ih
  case map =>
    intro es fs gs ih hfs
    rw [isShowable, isShowable, ← hperm hfs]
    clear hfs
    induction ih with
    | nil => rfl
    | cons he _ ih => rw [haveShowable, haveShowable, he.1, he.2, ih]

/-- A reordered value is a key if the value is one, and then it is the same one. -/
theorem unkeyable?_of_reordered {v w : Value} (h : Reordered v w) :
    v.unkeyable? = w.unkeyable? ∧ (v.unkeyable? = none → v = w) := by
  refine Reordered.parts_induction ?same ?list ?tuple ?map h
  case same => exact fun v => ⟨rfl, fun _ => rfl⟩
  case list => exact fun vs ws _ => ⟨rfl, nofun⟩
  case map => exact fun es fs gs _ _ => ⟨rfl, nofun⟩
  case tuple =>
    intro vs ws ih
    have hitems : firstUnkeyable? vs = firstUnkeyable? ws ∧
        (firstUnkeyable? vs = none → vs = ws) := by
      induction ih with
      | nil => exact ⟨rfl, fun _ => rfl⟩
      | cons hv _ ih =>
        rw [firstUnkeyable?, firstUnkeyable?, ← hv.1]
        split
        · exact ⟨rfl, nofun⟩
        · next hnone => exact ⟨ih.1, fun h => by rw [hv.2 hnone, ih.2 h]⟩
    exact ⟨hitems.1, fun h => congrArg Value.tuple (hitems.2 h)⟩

/-! ## Values keyed by texts -/

section Keyed

variable {es fs gs : List (Value × Value)} {name : String}

theorem sameKey_iff_of_isAnyText {j k : Value} (h : isAnyText k = true) :
    sameKey j k = true ↔ j = k := by
  cases k with
  | text s => cases j <;> simp [sameKey, toInt?]
  | tornText points => cases j <;> simp [sameKey, toInt?]
  | _ => exact absurd h (by simp [isAnyText])

theorem hasKey_iff_mem {k : Value} (h : isAnyText k = true) :
    hasKey k es = true ↔ k ∈ es.map Prod.fst := by
  unfold hasKey
  rw [List.any_eq_true, List.mem_map]
  simp only [sameKey_iff_of_isAnyText h]

theorem haveTextKeys_iff :
    haveTextKeys es = true ↔ (∀ e ∈ es, isAnyText e.1 = true) ∧ (es.map Prod.fst).Nodup ∧
      ∀ e ∈ es, isTextKeyed e.2 = true := by
  induction es with
  | nil => exact iff_of_true rfl ⟨nofun, List.nodup_nil, nofun⟩
  | cons e es ih =>
    have hkey (h : isAnyText e.1 = true) :
        (!hasKey e.1 es) = true ↔ e.1 ∉ es.map Prod.fst := by
      rw [Bool.not_eq_true', ← hasKey_iff_mem h, Bool.not_eq_true]
    rw [haveTextKeys, Bool.and_eq_true, Bool.and_eq_true, Bool.and_eq_true, ih,
      List.forall_mem_cons, List.forall_mem_cons, List.map_cons, List.nodup_cons]
    constructor
    · intro ⟨⟨⟨htext, habsent⟩, hvalue⟩, htexts, hdistinct, hvalues⟩
      exact ⟨⟨htext, htexts⟩, ⟨(hkey htext).mp habsent, hdistinct⟩, hvalue, hvalues⟩
    · intro ⟨⟨htext, htexts⟩, ⟨habsent, hdistinct⟩, hvalue, hvalues⟩
      exact ⟨⟨⟨htext, (hkey htext).mpr habsent⟩, hvalue⟩, htexts, hdistinct, hvalues⟩

/-- A value keyed by texts, and the same value reordered. -/
structure Rearranged (v w : Value) : Prop where
  keyed : isTextKeyed v = true
  reordered : Reordered v w

theorem map_fst_eq_of_forall₂ (h : List.Forall₂ ReorderedEntry es fs) :
    es.map Prod.fst = fs.map Prod.fst := by
  induction h with
  | nil => rfl
  | cons he _ ih => rw [List.map_cons, List.map_cons, he.key_eq, ih]

theorem mem_of_lookup? {v : Value} (h : lookup? name es = some v) : (.text name, v) ∈ es := by
  fun_induction lookup? name es with
  | case1 => contradiction
  | case2 w es =>
    rw [Option.some.inj h]
    exact List.mem_cons_self
  | case3 k w es _ ih => exact List.mem_cons_of_mem _ (ih h)
  | case4 e es _ ih => exact List.mem_cons_of_mem _ (ih h)

theorem lookup?_eq_some_iff {v : Value} (distinct : (es.map Prod.fst).Nodup) :
    lookup? name es = some v ↔ (.text name, v) ∈ es := by
  constructor
  · exact mem_of_lookup?
  · intro h
    fun_induction lookup? name es with
    | case1 => exact absurd h List.not_mem_nil
    | case2 w es =>
      rw [List.map_cons, List.nodup_cons] at distinct
      cases List.mem_cons.mp h with
      | inl eq => rw [(Prod.mk.inj eq).2]
      | inr hmem => exact absurd (List.mem_map_of_mem (f := Prod.fst) hmem) distinct.1
    | case3 k w es hne ih =>
      rw [List.map_cons, List.nodup_cons] at distinct
      cases List.mem_cons.mp h with
      | inl eq => exact absurd (Value.text.inj (Prod.mk.inj eq).1).symm hne
      | inr hmem => exact ih distinct.2 hmem
    | case4 e es hne ih =>
      rw [List.map_cons, List.nodup_cons] at distinct
      cases List.mem_cons.mp h with
      | inl eq => exact absurd eq.symm (hne name v)
      | inr hmem => exact ih distinct.2 hmem

theorem lookup?_eq_of_perm (distinct : (fs.map Prod.fst).Nodup) (h : fs.Perm gs) :
    lookup? name fs = lookup? name gs := by
  have distinct' : (gs.map Prod.fst).Nodup := (h.map Prod.fst).nodup_iff.mp distinct
  apply Option.ext
  intro v
  rw [lookup?_eq_some_iff distinct, lookup?_eq_some_iff distinct', h.mem_iff]

/-- A key finds reordered values in reordered entries. -/
theorem lookup?_of_forall₂ (values : ∀ e ∈ es, isTextKeyed e.2 = true)
    (h : List.Forall₂ ReorderedEntry es fs) :
    Option.Rel Rearranged (lookup? name es) (lookup? name fs) := by
  induction h with
  | nil => exact .none
  | cons he _ ih =>
    rw [List.forall_mem_cons] at values
    cases he with
    | mk key hvalue =>
      cases key with
      | text k =>
        rw [lookup?, lookup?]
        split
        · exact .some ⟨values.1, hvalue⟩
        · exact ih values.2
      | _ => exact ih values.2

namespace Rearranged

theorem distinct {w : Value} (h : Rearranged (.map es) w) : (es.map Prod.fst).Nodup :=
  (haveTextKeys_iff.mp h.keyed).2.1

theorem values {w : Value} (h : Rearranged (.map es) w) : ∀ e ∈ es, isTextKeyed e.2 = true :=
  (haveTextKeys_iff.mp h.keyed).2.2

/-- A mapping stays a mapping. -/
theorem exists_entries {w : Value} (h : Rearranged (.map es) w) :
    ∃ fs gs, w = .map gs ∧ List.Forall₂ ReorderedEntry es fs ∧ fs.Perm gs := by
  cases h.reordered with
  | same _ => exact ⟨es, es, rfl, List.forall₂_same.mpr fun e _ => .refl e, .refl es⟩
  | map hentries hperm => exact ⟨_, _, rfl, hentries, hperm⟩

theorem entries (h : Rearranged (.map es) (.map gs)) :
    ∃ fs, List.Forall₂ ReorderedEntry es fs ∧ fs.Perm gs := by
  obtain ⟨fs, _, heq, hentries, hperm⟩ := h.exists_entries
  rw [Value.map.inj heq]
  exact ⟨fs, hentries, hperm⟩

theorem keys_perm (h : Rearranged (.map es) (.map gs)) :
    (es.map Prod.fst).Perm (gs.map Prod.fst) := by
  obtain ⟨fs, hentries, hperm⟩ := h.entries
  rw [map_fst_eq_of_forall₂ hentries]
  exact hperm.map Prod.fst

/-- A key finds the same value, reordered, or it finds none in both. -/
theorem lookup? (h : Rearranged (.map es) (.map gs)) (name : String) :
    Option.Rel Rearranged (Value.lookup? name es) (Value.lookup? name gs) := by
  obtain ⟨fs, hentries, hperm⟩ := h.entries
  have distinct : (fs.map Prod.fst).Nodup := map_fst_eq_of_forall₂ hentries ▸ h.distinct
  rw [← lookup?_eq_of_perm distinct hperm]
  exact lookup?_of_forall₂ h.values hentries

theorem without (h : Rearranged (.map es) (.map gs)) (key : String) :
    Rearranged (.map (Value.without key es)) (.map (Value.without key gs)) := by
  obtain ⟨htexts, hdistinct, hvalues⟩ := haveTextKeys_iff.mp h.keyed
  obtain ⟨fs, hentries, hperm⟩ := h.entries
  constructor
  · apply haveTextKeys_iff.mpr
    refine ⟨?_, hdistinct.sublist (List.filter_sublist.map Prod.fst), ?_⟩
    · exact fun e he => htexts e (List.mem_of_mem_filter he)
    · exact fun e he => hvalues e (List.mem_of_mem_filter he)
  · apply Reordered.map _ (hperm.filter _)
    apply List.rel_filter _ hentries
    intro e f he
    dsimp only
    rw [he.key_eq]

end Rearranged

end Keyed

end EndpointUpgrade
