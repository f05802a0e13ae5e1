import EndpointUpgrade.Document
import EndpointUpgrade.Reading.Record
import EndpointUpgrade.Reading.Scalar

/-!
# Reading what was written

A document that was written from fields is read field by field: every field that has a value is
found under its name in documents, a field without a value is not found under either name, and no
entry is left over. Lists are read item by item.
-/

namespace EndpointUpgrade

open Reading

namespace Document

def entries : Document → Entries
  | .mapping es => toEntries es
  | _ => []

/-- The entries of a mapping of fields, those left out that have no value. -/
def fieldEntries (fields : List Field) : Entries := (ofFields fields).entries

theorem toValue_ofFields (fields : List Field) :
    (ofFields fields).toValue = .map (fieldEntries fields) := by
  unfold fieldEntries ofFields entries
  rw [toValue]

theorem toValue_mapping (es : List (String × Document)) :
    (mapping es).toValue = .map (fieldEntries (es.map fun e => (e.1, some e.2))) := by
  have hall : ((fun f : Field => f.2.map fun d => (f.1, d)) ∘
      fun e : String × Document => (e.1, some e.2)) = some := rfl
  unfold fieldEntries ofFields entries
  rw [toValue, List.filterMap_map, hall, List.filterMap_some]

@[simp] theorem fieldEntries_nil : fieldEntries [] = [] := rfl

theorem fieldEntries_cons_none (name : String) (fields : List Field) :
    fieldEntries ((name, none) :: fields) = fieldEntries fields := by
  unfold fieldEntries ofFields
  rw [List.filterMap_cons_none rfl]

theorem fieldEntries_cons_some (name : String) (d : Document) (fields : List Field) :
    fieldEntries ((name, some d) :: fields) = (.text name, d.toValue) :: fieldEntries fields := by
  unfold fieldEntries ofFields
  rw [List.filterMap_cons]
  dsimp only [entries, Option.map_some]
  rw [toEntries]

/-- Every key is the name of a field that has a value. -/
theorem exists_field_of_mem {fields : List Field} {e : Value × Value}
    (he : e ∈ fieldEntries fields) :
    ∃ name d, (name, some d) ∈ fields ∧ e = (.text name, d.toValue) := by
  induction fields with
  | nil => simp at he
  | cons field fields ih =>
    obtain ⟨name, d | d⟩ := field
    · rw [fieldEntries_cons_none] at he
      obtain ⟨n, d, hmem, rfl⟩ := ih he
      exact ⟨n, d, List.mem_cons_of_mem _ hmem, rfl⟩
    · rw [fieldEntries_cons_some, List.mem_cons] at he
      rcases he with rfl | he
      · exact ⟨name, d, List.mem_cons_self, rfl⟩
      · obtain ⟨n, d, hmem, rfl⟩ := ih he
        exact ⟨n, d, List.mem_cons_of_mem _ hmem, rfl⟩

theorem lookup?_of_notMem {name : String} {fields : List Field}
    (h : name ∉ fields.map Prod.fst) : Value.lookup? name (fieldEntries fields) = none := by
  induction fields with
  | nil => rfl
  | cons field fields ih =>
    rw [List.map_cons, List.mem_cons, not_or] at h
    obtain ⟨n, d | d⟩ := field
    · rw [fieldEntries_cons_none]
      exact ih h.2
    · rw [fieldEntries_cons_some, Value.lookup?, if_neg fun eq => h.1 eq.symm]
      exact ih h.2

theorem lookup?_of_mem {name : String} {d : Option Document} {fields : List Field}
    (distinct : (fields.map Prod.fst).Nodup) (h : (name, d) ∈ fields) :
    Value.lookup? name (fieldEntries fields) = d.map toValue := by
  induction fields with
  | nil => simp at h
  | cons field fields ih =>
    rw [List.map_cons, List.nodup_cons] at distinct
    rw [List.mem_cons] at h
    rcases h with rfl | h
    · cases d with
      | none =>
        rw [fieldEntries_cons_none]
        exact lookup?_of_notMem distinct.1
      | some d => rw [fieldEntries_cons_some, Value.lookup?, if_pos rfl, Option.map_some]
    · have hne : field.1 ≠ name := fun eq =>
        distinct.1 (eq ▸ List.mem_map_of_mem (f := Prod.fst) h)
      obtain ⟨n, e | e⟩ := field
      · rw [fieldEntries_cons_none]
        exact ih distinct.2 h
      · rw [fieldEntries_cons_some, Value.lookup?, if_neg hne]
        exact ih distinct.2 h

end Document

namespace Reading

open Document

theorem record_of_whole_keys {α : Type} {name : String} {names : List FieldName}
    {readFields : Entries → Checked α} {es : Entries} (h : ∀ e ∈ es, isTorn e.1 = false) :
    record name names readFields (.map es) = readFields es <* noOthers names es := by
  have hwhole : hasTornKey es = false :=
    List.any_eq_false.mpr fun e he => Bool.not_eq_true _ ▸ h e he
  unfold record
  dsimp only
  rw [hwhole]
  rfl

/-- Documents whose entries are fields of the given names, in this order. Their names tell the
fields apart: a field without a value is not taken for another one through its plain name. -/
structure Writes (names : List FieldName) (fields : List Field) : Prop where
  wires : fields.map Prod.fst = names.map FieldName.wire
  distinct : (names.map FieldName.wire).Nodup
  plain : ∀ f ∈ names, f.plain = f.wire ∨ f.plain ∉ names.map FieldName.wire

variable {α : Type} {names : List FieldName} {fields : List Field} {f : FieldName}
variable {read : Value → Checked α}

theorem Writes.lookup? (h : Writes names fields) {name : String} {d : Option Document}
    (hd : (name, d) ∈ fields) :
    Value.lookup? name (fieldEntries fields) = d.map toValue :=
  lookup?_of_mem (h.wires ▸ h.distinct) hd

theorem Writes.find? (h : Writes names fields) {d : Option Document} (hf : f ∈ names)
    (hd : (f.wire, d) ∈ fields) :
    f.find? (fieldEntries fields) = d.map fun d => (f.wire, d.toValue) := by
  have hwire := h.lookup? hd
  unfold FieldName.find?
  rw [hwire]
  cases d with
  | some d => rfl
  | none =>
    have hplain : Value.lookup? f.plain (fieldEntries fields) = none := by
      rcases h.plain f hf with eq | absent
      · rw [eq, hwire, Option.map_none]
      · exact lookup?_of_notMem (h.wires ▸ absent)
    dsimp only [Option.map_none]
    rw [hplain, Option.map_none]

theorem Writes.required (h : Writes names fields) {d : Document} {a : α} (hf : f ∈ names)
    (hd : (f.wire, some d) ∈ fields) (hread : read d.toValue = .ok a) :
    required f read (fieldEntries fields) = .ok a := by
  unfold Reading.required
  rw [h.find? hf hd]
  dsimp only [Option.map_some]
  rw [hread, Checked.under_ok]

theorem Writes.optional_some (h : Writes names fields) (default : α) {a : α} {d : Document}
    (hf : f ∈ names) (hd : (f.wire, some d) ∈ fields) (hread : read d.toValue = .ok a) :
    optional f default read (fieldEntries fields) = .ok a := by
  unfold Reading.optional
  rw [h.find? hf hd]
  dsimp only [Option.map_some]
  rw [hread, Checked.under_ok]

/-- A field without a value has its default. -/
theorem Writes.optional_map (h : Writes names fields) {β : Type} {write : β → Document}
    {read : Value → Checked (Option β)} (hread : ∀ b, read (write b).toValue = .ok (some b))
    (value : Option β) (hf : f ∈ names) (hd : (f.wire, value.map write) ∈ fields) :
    optional f none read (fieldEntries fields) = .ok value := by
  cases value with
  | some b => exact h.optional_some none hf hd (hread b)
  | none =>
    unfold Reading.optional
    rw [h.find? hf hd]
    rfl

/-- The fields of a record leave no entry over. -/
theorem Writes.noOthers (h : Writes names fields) :
    noOthers names (fieldEntries fields) = .ok () := by
  have hleft : ∀ e ∈ fieldEntries fields, leftover? names (fieldEntries fields) e.1 = none := by
    intro e he
    obtain ⟨name, d, hmem, rfl⟩ := exists_field_of_mem he
    have hname : name ∈ names.map FieldName.wire :=
      h.wires ▸ List.mem_map_of_mem (f := Prod.fst) hmem
    obtain ⟨f, hf, rfl⟩ := List.mem_map.mp hname
    have hgiven : f.isGivenAs (fieldEntries fields) f.wire = true := by
      unfold FieldName.isGivenAs
      rw [h.find? hf hmem]
      simp
    dsimp only [leftover?]
    rw [if_pos (List.any_eq_true.mpr ⟨f, hf, hgiven⟩)]
  unfold Reading.noOthers
  rw [List.filterMap_eq_nil_iff.mpr hleft, Checked.report_nil]

/-- A record is read from a mapping of its fields if they are read from it. -/
theorem Writes.record (h : Writes names fields) {name : String} {readFields : Entries → Checked α}
    {a : α} (hread : readFields (fieldEntries fields) = .ok a) :
    record name names readFields (.map (fieldEntries fields)) = .ok a := by
  rw [record_of_whole_keys, hread, h.noOthers]
  · rfl
  · intro e he
    obtain ⟨key, d, -, rfl⟩ := exists_field_of_mem he
    rfl

/-! ## Lists and texts -/

theorem elements_map {β : Type} {write : β → Document} {read : Value → Checked β}
    (hread : ∀ b, read (write b).toValue = .ok b) (position : Int) (bs : List β) :
    elements read position (toValues (bs.map write)) = .ok bs := by
  induction bs generalizing position with
  | nil => rfl
  | cons b bs ih =>
    rw [List.map_cons, toValues, elements, hread, Checked.under_ok, ih, Checked.map_ok,
      Checked.ok_seq_ok]

theorem listOf_map {β : Type} {write : β → Document} {read : Value → Checked β}
    (hread : ∀ b, read (write b).toValue = .ok b) (bs : List β) :
    listOf read (Document.list (bs.map write)).toValue = .ok bs := by
  rw [toValue]
  exact elements_map hread 0 bs

theorem text_toValue (s : String) : text (Document.text s).toValue = .ok s := by
  rw [toValue, text]

theorem listOf_texts (ss : List String) : listOf text (texts ss).toValue = .ok ss :=
  listOf_map text_toValue ss

end Reading

end EndpointUpgrade
