import EndpointUpgrade.Labels
import EndpointUpgrade.Proofs.Reading.Written
import Mathlib.Data.List.Induction
import Mathlib.Data.List.Nodup
import Mathlib.Data.List.Perm.Subperm

/-!
# Labels as maps and as lists

Labels have each key once, so that the order of their entries does not matter for the value of a
key, and they are the same map exactly if their entries are the same up to order. Pairs that are put
in one after the other leave each key in its first place and with its last value. A document shows
labels as they are unless a half of a character stands alone in a key.
-/

namespace EndpointUpgrade.Labels

open Text

def keys (ls : Labels) : List RawText := ls.entries.map Prod.fst

section Lookup

variable {key : RawText} {value : String} {es fs : List (RawText × String)}

theorem lookup?_eq_none_iff : lookup? key es = none ↔ key ∉ es.map Prod.fst := by
  induction es with
  | nil => simp [lookup?]
  | cons e es ih =>
    rw [lookup?, List.map_cons, List.mem_cons, not_or, ← ih]
    split
    · next h => simp [h]
    · next h => simp [Ne.symm h]

theorem mem_of_lookup? (h : lookup? key es = some value) : (key, value) ∈ es := by
  induction es with
  | nil => exact absurd h (by simp [lookup?])
  | cons e es ih =>
    rw [lookup?] at h
    split at h
    · next hkey =>
      have he : e = (key, value) := Prod.ext hkey (Option.some.inj h)
      rw [he]
      exact List.mem_cons_self
    · exact List.mem_cons_of_mem e (ih h)

theorem lookup?_eq_some_iff (distinct : (es.map Prod.fst).Nodup) :
    lookup? key es = some value ↔ (key, value) ∈ es := by
  constructor
  · exact mem_of_lookup?
  · intro h
    induction es with
    | nil => exact absurd h List.not_mem_nil
    | cons e es ih =>
      rw [List.map_cons, List.nodup_cons] at distinct
      rw [lookup?]
      cases List.mem_cons.mp h with
      | inl eq => rw [← eq, if_pos rfl]
      | inr hmem =>
        have hkey : key ∈ es.map Prod.fst := List.mem_map_of_mem (f := Prod.fst) hmem
        rw [if_neg fun (eq : e.1 = key) => distinct.1 (eq ▸ hkey)]
        exact ih distinct.2 hmem

theorem lookup?_append (es fs : List (RawText × String)) :
    lookup? key (es ++ fs) = (lookup? key es).or (lookup? key fs) := by
  induction es with
  | nil => rfl
  | cons e es ih =>
    rw [List.cons_append, lookup?, lookup?, ih]
    split <;> rfl

theorem lookup?_eq_of_perm (distinct : (es.map Prod.fst).Nodup) (h : es.Perm fs) :
    lookup? key es = lookup? key fs := by
  have distinct' : (fs.map Prod.fst).Nodup := (h.map Prod.fst).nodup_iff.mp distinct
  apply Option.ext
  intro value
  rw [lookup?_eq_some_iff distinct, lookup?_eq_some_iff distinct', h.mem_iff]

theorem lookup?_putPair (k : RawText) :
    lookup? k (putPair key value es) = if key = k then some value else lookup? k es := by
  induction es with
  | nil => simp [putPair, lookup?]
  | cons e es ih =>
    rw [putPair]
    split
    · next h =>
      rw [lookup?, lookup?, h]
      split <;> rfl
    · next h =>
      rw [lookup?, lookup?, ih]
      split
      · next he => rw [if_neg fun eq => h (he.trans eq.symm)]
      · rfl

end Lookup

variable {ls ms : Labels} {key : RawText} {value : String}

theorem get?_eq_none_iff : ls.get? key = none ↔ key ∉ ls.keys := lookup?_eq_none_iff

theorem get?_eq_some_iff : ls.get? key = some value ↔ (key, value) ∈ ls.entries :=
  lookup?_eq_some_iff ls.nodup

theorem exists_get?_of_mem (h : key ∈ ls.keys) : ∃ value, ls.get? key = some value := by
  apply Option.ne_none_iff_exists'.mp
  rw [Ne, get?_eq_none_iff, not_not]
  exact h

theorem get?_eq_of_perm (h : ls.entries.Perm ms.entries) : ls.get? key = ms.get? key :=
  lookup?_eq_of_perm ls.nodup h

theorem get?_insert (k : RawText) :
    (ls.insert key value).get? k = if key = k then some value else ls.get? k := lookup?_putPair k

theorem nodup_entries (ls : Labels) : ls.entries.Nodup := .of_map Prod.fst ls.nodup

/-- Labels are the same map exactly if they have the same entries in some order. -/
theorem same_iff_perm : ls.Same ms ↔ ls.entries.Perm ms.entries := by
  constructor
  · intro ⟨hlength, hentries⟩
    have hsubset : ls.entries ⊆ ms.entries := fun e he => get?_eq_some_iff.mp (hentries e he)
    exact (ls.nodup_entries.subperm hsubset).perm_of_length_le (Nat.le_of_eq hlength.symm)
  · intro h
    refine ⟨h.length_eq, fun e he => ?_⟩
    exact get?_eq_some_iff.mpr (h.mem_iff.mp he)

theorem same_iff_get? : ls.Same ms ↔ ∀ key, ls.get? key = ms.get? key := by
  rw [same_iff_perm]
  constructor
  · intro h key
    exact get?_eq_of_perm h
  · intro h
    rw [List.perm_ext_iff_of_nodup ls.nodup_entries ms.nodup_entries]
    intro e
    rw [← get?_eq_some_iff, ← get?_eq_some_iff, h e.1]

/-! ## Pairs put in one after the other -/

theorem ofPairs_concat (pairs : List (RawText × String)) (p : RawText × String) :
    ofPairs (pairs ++ [p]) = (ofPairs pairs).insert p.1 p.2 := by
  unfold ofPairs
  rw [List.foldl_concat]

theorem keys_insert (ls : Labels) (key : RawText) (value : String) :
    (ls.insert key value).keys = if key ∈ ls.keys then ls.keys else ls.keys ++ [key] :=
  keys_putPair key value ls.entries

/-- Each key stands where it was first put in. -/
theorem keys_ofPairs (pairs : List (RawText × String)) :
    (ofPairs pairs).keys = (pairs.map Prod.fst).eraseDups := by
  induction pairs using List.reverseRecOn with
  | nil => rfl
  | append_singleton pairs p ih =>
    rw [ofPairs_concat, keys_insert, ih, List.map_append, List.eraseDups_append]
    by_cases hp : p.1 ∈ pairs.map Prod.fst
    · simp [List.removeAll, hp]
    · simp [List.removeAll, List.eraseDups_cons, hp]

/-- Each key has the value that was put in last. -/
theorem get?_ofPairs (pairs : List (RawText × String)) (key : RawText) :
    (ofPairs pairs).get? key = lookup? key pairs.reverse := by
  induction pairs using List.reverseRecOn with
  | nil => rfl
  | append_singleton pairs p ih =>
    rw [ofPairs_concat, get?_insert, ih, List.reverse_concat, lookup?]

/-- A pair with a new key goes to the end. -/
theorem putPair_of_notMem {key : RawText} {value : String} {es : List (RawText × String)}
    (h : key ∉ es.map Prod.fst) : putPair key value es = es ++ [(key, value)] := by
  induction es with
  | nil => rfl
  | cons e es ih =>
    rw [List.map_cons, List.mem_cons, not_or] at h
    rw [putPair, if_neg fun eq => h.1 eq.symm, ih h.2, List.cons_append]

theorem entries_foldl_insert {ls : Labels} {es : List (RawText × String)}
    (distinct : ((ls.entries ++ es).map Prod.fst).Nodup) :
    (es.foldl (fun ls p => ls.insert p.1 p.2) ls).entries = ls.entries ++ es := by
  induction es generalizing ls with
  | nil => rw [List.foldl_nil, List.append_nil]
  | cons e es ih =>
    have hnew : e.1 ∉ ls.entries.map Prod.fst := by
      rw [List.map_append, List.map_cons, List.nodup_append] at distinct
      intro hmem
      exact distinct.2.2 _ hmem _ List.mem_cons_self rfl
    have hinsert : (ls.insert e.1 e.2).entries = ls.entries ++ [e] := putPair_of_notMem hnew
    rw [List.append_cons] at distinct
    rw [List.foldl_cons, ih (by rwa [hinsert]), hinsert, ← List.append_cons]

/-- Pairs with different keys are kept as they are. -/
theorem ofPairs_entries (ls : Labels) : ofPairs ls.entries = ls := by
  have hentries : (ofPairs ls.entries).entries = empty.entries ++ ls.entries :=
    entries_foldl_insert ls.nodup
  cases ls
  cases h : ofPairs _
  rw [h] at hentries
  exact (Labels.mk.injEq ..).mpr hentries

/-! ## Values of labels -/

def valueOf : RawText → Value
  | .whole s => .text s
  | .torn points => .tornText points

def given (ls : Labels) : Value := .map (ls.entries.map fun e => (valueOf e.1, .text e.2))

theorem readPairs_given (es : List (RawText × String)) :
    readPairs (es.map fun e => (valueOf e.1, .text e.2)) = .ok es := by
  induction es with
  | nil => rfl
  | cons e es ih =>
    obtain ⟨key, value⟩ := e
    rw [List.map_cons, readPairs, ih]
    cases key <;> rfl

theorem read_given (ls : Labels) : read ls.given = .ok ls := by
  rw [given, read, readPairs_given, Reading.Checked.map_ok, ofPairs_entries]

/-! ## What documents show -/

/-- No half of a character stands alone in a key. -/
def WholeKeys (ls : Labels) : Prop := ∀ key ∈ ls.keys, RawText.whole key.lossy = key

instance (ls : Labels) : Decidable ls.WholeKeys := by unfold WholeKeys; infer_instance

theorem wholeKeys_shown (ls : Labels) : ls.shown.WholeKeys := by
  intro key hkey
  rw [shown, keys_ofPairs, List.mem_eraseDups, List.map_map] at hkey
  obtain ⟨e, -, rfl⟩ := List.mem_map.mp hkey
  rfl

/-- Labels are shown as they are exactly if their keys are whole. -/
theorem shown_eq_self_iff : ls.shown = ls ↔ ls.WholeKeys := by
  constructor
  · intro h
    rw [← h]
    exact ls.wholeKeys_shown
  · intro h
    have hentries : (ls.entries.map fun e => (RawText.whole e.1.lossy, e.2)) =
        ls.entries.map id := by
      apply List.map_congr_left
      intro e he
      rw [h e.1 (List.mem_map_of_mem (f := Prod.fst) he)]
      rfl
    rw [shown, hentries, List.map_id, ofPairs_entries]

theorem pairs_shown (ls : Labels) : ls.shown.pairs = ls.pairs := by
  rw [pairs, shown_eq_self_iff.mpr ls.wholeKeys_shown, pairs]

theorem pairs_map_whole (ls : Labels) :
    (ls.pairs.map fun p => (RawText.whole p.1, p.2)) = ls.shown.entries := by
  rw [pairs, List.map_map]
  apply (List.map_congr_left fun e he => ?_).trans (List.map_id _)
  have hkey := ls.wholeKeys_shown e.1 (List.mem_map_of_mem (f := Prod.fst) he)
  exact Prod.ext hkey rfl

theorem nodup_pairs (ls : Labels) : (ls.pairs.map Prod.fst).Nodup := by
  have hkeys : (ls.pairs.map Prod.fst).map RawText.whole = ls.shown.keys := by
    rw [keys, ← pairs_map_whole, List.map_map, List.map_map]
    rfl
  exact .of_map RawText.whole (hkeys ▸ ls.shown.nodup)

/-- What a document shows of labels is read back in the same order. -/
theorem read_pairs (ls : Labels) : read (Document.pairs ls.pairs).toValue = .ok ls.shown := by
  have hentries (es : List (String × String)) :
      Document.toEntries (es.map fun e => (e.1, .text e.2)) =
        (es.map fun e => (RawText.whole e.1, e.2)).map fun e => (valueOf e.1, .text e.2) := by
    induction es with
    | nil => rfl
    | cons e es ih =>
      rw [List.map_cons, Document.toEntries, ih]
      rfl
  rw [Document.pairs, Document.toValue, hentries, pairs_map_whole]
  exact ls.shown.read_given

/-! ## Order -/

/-- One key stands somewhere before another one. -/
def Precedes (ls : Labels) (first second : RawText) : Prop := [first, second].Sublist ls.keys

theorem exists_split_of_precedes {first second : RawText} (h : ls.Precedes first second) :
    ∃ front back, ls.entries = front ++ back ∧ first ∈ front.map Prod.fst ∧
      second ∈ back.map Prod.fst := by
  obtain ⟨kfront, kback, hkeys, hfirst, hsecond⟩ := List.cons_sublist_iff.mp h
  obtain ⟨front, back, hentries, hfront, hback⟩ := List.map_eq_append_iff.mp hkeys
  refine ⟨front, back, hentries, hfront ▸ hfirst, hback ▸ ?_⟩
  exact List.singleton_sublist.mp hsecond

/-- Of two different keys one stands before the other. -/
theorem precedes_or_precedes {k l : RawText} (hk : k ∈ ls.keys) (hl : l ∈ ls.keys) (hne : k ≠ l) :
    ls.Precedes k l ∨ ls.Precedes l k := by
  obtain ⟨front, back, hkeys⟩ := List.append_of_mem hk
  rw [hkeys, List.mem_append, List.mem_cons] at hl
  unfold Precedes
  rw [hkeys]
  cases hl with
  | inl hfront =>
    apply Or.inr
    exact (List.singleton_sublist.mpr hfront).append (List.singleton_sublist.mpr List.mem_cons_self)
  | inr hrest =>
    apply Or.inl
    cases hrest with
    | inl eq => exact absurd eq.symm hne
    | inr hback =>
      exact ((List.singleton_sublist.mpr hback).cons_cons k).trans (List.sublist_append_right ..)

end EndpointUpgrade.Labels
