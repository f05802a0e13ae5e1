import EndpointUpgrade.Value.Basic

/-!
# What holds everywhere in a value

A property of values may be asked of a value and of all values inside it. What is found under a key
of a mapping, or among the items of a list, has the property everywhere again.
-/

namespace EndpointUpgrade.Value

mutual

/-- Something holds of a value and of all values inside it, keys included. -/
def everywhere (p : Value → Bool) : Value → Bool
  | .list items => p (.list items) && allEverywhere p items
  | .tuple items => p (.tuple items) && allEverywhere p items
  | .set members => p (.set members) && allEverywhere p members
  | .map entries => p (.map entries) && entriesEverywhere p entries
  | v => p v

def allEverywhere (p : Value → Bool) : List Value → Bool
  | [] => true
  | v :: rest => everywhere p v && allEverywhere p rest

def entriesEverywhere (p : Value → Bool) : List (Value × Value) → Bool
  | [] => true
  | (k, v) :: rest => everywhere p k && everywhere p v && entriesEverywhere p rest

end

mutual

/-- How many collections of a value are within each other. -/
def levels : Value → Nat
  | .list items => levelsOfAll items + 1
  | .tuple items => levelsOfAll items + 1
  | .set members => levelsOfAll members + 1
  | .map entries => levelsOfEntries entries + 1
  | _ => 0

def levelsOfAll : List Value → Nat
  | [] => 0
  | v :: rest => max (levels v) (levelsOfAll rest)

def levelsOfEntries : List (Value × Value) → Nat
  | [] => 0
  | (k, v) :: rest => max (max (levels k) (levels v)) (levelsOfEntries rest)

end

variable {p : Value → Bool} {v : Value} {items : List Value} {entries : List (Value × Value)}

theorem holds_of_everywhere (h : everywhere p v = true) : p v = true := by
  cases v with
  | list items | tuple items | set items | map items =>
    rw [everywhere, Bool.and_eq_true] at h
    exact h.1
  | _ => exact h

theorem entriesEverywhere_of_map (h : everywhere p (.map entries) = true) :
    entriesEverywhere p entries = true := by
  rw [everywhere, Bool.and_eq_true] at h
  exact h.2

theorem entriesEverywhere_eq_true_iff : entriesEverywhere p entries = true ↔
    ∀ e ∈ entries, everywhere p e.1 = true ∧ everywhere p e.2 = true := by
  induction entries with
  | nil => simp [entriesEverywhere]
  | cons e rest ih =>
    rw [entriesEverywhere, Bool.and_eq_true, Bool.and_eq_true, ih, List.forall_mem_cons]

theorem everywhere_of_lookup? {key : String} (h : entriesEverywhere p entries = true)
    (hv : lookup? key entries = some v) : everywhere p v = true := by
  induction entries with
  | nil => exact absurd hv nofun
  | cons e rest ih =>
    rw [entriesEverywhere, Bool.and_eq_true, Bool.and_eq_true] at h
    unfold lookup? at hv
    split at hv
    · contradiction
    · next heq =>
      obtain ⟨rfl, rfl⟩ := List.cons.inj heq
      split at hv
      · obtain rfl := Option.some.inj hv
        exact h.1.2
      · exact ih h.2 hv
    · next heq =>
      obtain ⟨rfl, rfl⟩ := List.cons.inj heq
      exact ih h.2 hv

theorem entriesEverywhere_without (key : String) (h : entriesEverywhere p entries = true) :
    entriesEverywhere p (without key entries) = true := by
  rw [entriesEverywhere_eq_true_iff] at h ⊢
  exact fun e he => h e (List.mem_filter.mp he).1

end EndpointUpgrade.Value
