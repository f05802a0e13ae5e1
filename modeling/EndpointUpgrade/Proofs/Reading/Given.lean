import EndpointUpgrade.Proofs.Reading.Written

/-!
# Records built from their fields

A record can be read from a mapping that gives every field by its plain name, those without a value
as null. Then every field is found, also if it has another name in documents, and no entry is left
over.
-/

namespace EndpointUpgrade.Reading

open Document

abbrev GivenField := FieldName × Value

/-- The value that is given for what documents leave out. -/
def givenValue : Option Document → Value
  | none => .null
  | some d => d.toValue

theorem text_text (s : String) : text (.text s) = .ok s := rfl

/-- Fields under their plain names. -/
def givenEntries (given : List GivenField) : Entries :=
  given.map fun g => (.text g.1.plain, g.2)

section Lookup

variable {given : List GivenField} {f : FieldName} {v : Value}

theorem lookup?_givenEntries_of_notMem {name : String}
    (h : name ∉ given.map fun g => g.1.plain) :
    Value.lookup? name (givenEntries given) = none := by
  induction given with
  | nil => rfl
  | cons g given ih =>
    rw [List.map_cons, List.mem_cons, not_or] at h
    rw [givenEntries, List.map_cons, Value.lookup?, if_neg fun eq => h.1 eq.symm]
    exact ih h.2

theorem lookup?_givenEntries_of_mem (distinct : (given.map fun g => g.1.plain).Nodup)
    (h : (f, v) ∈ given) : Value.lookup? f.plain (givenEntries given) = some v := by
  induction given with
  | nil => exact absurd h List.not_mem_nil
  | cons g given ih =>
    rw [List.map_cons, List.nodup_cons] at distinct
    rw [givenEntries, List.map_cons, Value.lookup?]
    cases List.mem_cons.mp h with
    | inl eq => rw [← eq, if_pos rfl]
    | inr hmem =>
      have hplain : f.plain ∈ given.map fun g => g.1.plain :=
        List.mem_map_of_mem (f := fun g : GivenField => g.1.plain) hmem
      rw [if_neg fun (eq : g.1.plain = f.plain) => distinct.1 (eq ▸ hplain)]
      exact ih distinct.2 hmem

end Lookup

/-- Fields of the given names, in this order. The name of a field in documents is not the plain name
of another one. -/
structure Gives (names : List FieldName) (given : List GivenField) : Prop where
  fields : given.map Prod.fst = names
  distinct : (names.map FieldName.plain).Nodup
  wire : ∀ f ∈ names, f.wire = f.plain ∨ f.wire ∉ names.map FieldName.plain

variable {α : Type} {names : List FieldName} {given : List GivenField} {f : FieldName}
variable {read : Value → Checked α} {a : α}

theorem Gives.plains (h : Gives names given) :
    (given.map fun g => g.1.plain) = names.map FieldName.plain := by
  rw [← h.fields, List.map_map]
  rfl

theorem Gives.find? (h : Gives names given) {v : Value} (hv : (f, v) ∈ given) :
    f.find? (givenEntries given) = some (f.plain, v) := by
  have hf : f ∈ names := h.fields ▸ List.mem_map_of_mem (f := Prod.fst) hv
  have hplain := lookup?_givenEntries_of_mem (h.plains ▸ h.distinct) hv
  unfold FieldName.find?
  cases h.wire f hf with
  | inl eq => rw [eq, hplain]
  | inr absent =>
    rw [lookup?_givenEntries_of_notMem (h.plains ▸ absent)]
    dsimp only
    rw [hplain, Option.map_some]

theorem Gives.required (h : Gives names given) {v : Value} (hv : (f, v) ∈ given)
    (hread : read v = .ok a) : required f read (givenEntries given) = .ok a := by
  unfold Reading.required
  rw [h.find? hv]
  dsimp only
  rw [hread, Checked.under_ok]

theorem Gives.optional_some (h : Gives names given) (default : α) {v : Value}
    (hv : (f, v) ∈ given) (hread : read v = .ok a) :
    optional f default read (givenEntries given) = .ok a := by
  unfold Reading.optional
  rw [h.find? hv]
  dsimp only
  rw [hread, Checked.under_ok]

/-- A field that is given as null has no value. -/
theorem Gives.optional_map (h : Gives names given) {β : Type} {write : β → Document}
    {read : Value → Checked (Option β)} (hread : ∀ b, read (write b).toValue = .ok (some b))
    (hnull : read .null = .ok none) (value : Option β)
    (hv : (f, givenValue (value.map write)) ∈ given) :
    optional f none read (givenEntries given) = .ok value := by
  cases value with
  | some b => exact h.optional_some none hv (hread b)
  | none => exact h.optional_some none hv hnull

theorem Gives.noOthers (h : Gives names given) : noOthers names (givenEntries given) = .ok () := by
  have hleft : ∀ e ∈ givenEntries given, leftover? names (givenEntries given) e.1 = none := by
    intro e he
    obtain ⟨g, hg, rfl⟩ := List.mem_map.mp he
    have hf : g.1 ∈ names := h.fields ▸ List.mem_map_of_mem (f := Prod.fst) hg
    have hgiven : g.1.isGivenAs (givenEntries given) g.1.plain = true := by
      unfold FieldName.isGivenAs
      rw [h.find? hg]
      simp
    dsimp only [leftover?]
    rw [if_pos (List.any_eq_true.mpr ⟨g.1, hf, hgiven⟩)]
  unfold Reading.noOthers
  rw [List.filterMap_eq_nil_iff.mpr hleft, Checked.report_nil]

/-- A record is read from a mapping that gives its fields if they are read from it. -/
theorem Gives.record (h : Gives names given) {name : String} {readFields : Entries → Checked α}
    (hread : readFields (givenEntries given) = .ok a) :
    record name names readFields (.map (givenEntries given)) = .ok a := by
  rw [record_of_whole_keys, hread, h.noOthers]
  · rfl
  · intro e he
    obtain ⟨g, -, rfl⟩ := List.mem_map.mp he
    rfl

end EndpointUpgrade.Reading
