import EndpointUpgrade.Reading.Checked

/-!
# Reading records

A record is read from a mapping. Each field has a name in documents and a plain name, and either
is accepted, the document name first. After all fields come the entries that belong to none of
them, in the order of the mapping: unknown keys, plain names of fields that are given under both
names, and keys that are no text. A torn key cannot be compared with the names of fields at all, so
that nothing else is said about a record that has one.
-/

namespace EndpointUpgrade.Reading

/-- The two names of a field. -/
structure FieldName where
  wire : String
  plain : String
deriving DecidableEq, Repr

/-- A field whose two names are the same. -/
def FieldName.only (name : String) : FieldName := ⟨name, name⟩

abbrev Entries := List (Value × Value)

/-- The name under which a field is given, with its value. -/
def FieldName.find? (f : FieldName) (entries : Entries) : Option (String × Value) :=
  match Value.lookup? f.wire entries with
  | some v => some (f.wire, v)
  | none => (Value.lookup? f.plain entries).map fun v => (f.plain, v)

variable {α : Type}

/-- Reads a field that has to be given. Issues with its value are reported under the name that was
used, its absence under the name in documents. -/
def required (f : FieldName) (read : Value → Checked α) (entries : Entries) : Checked α :=
  match f.find? entries with
  | some (name, v) => (read v).under (.field name)
  | none => (Checked.fault .missing).under (.field f.wire)

def optional (f : FieldName) (default : α) (read : Value → Checked α) (entries : Entries) :
    Checked α :=
  match f.find? entries with
  | some (name, v) => (read v).under (.field name)
  | none => .ok default

/-- The state after a field was read, where its value changes the state. -/
def FieldName.after {σ : Type} (f : FieldName) (next : σ → Value → σ) (s : σ) (entries : Entries) :
    σ :=
  match f.find? entries with
  | some (_, v) => next s v
  | none => s

/-- A key is the name under which a field is given. -/
def FieldName.isGivenAs (f : FieldName) (entries : Entries) (key : String) : Bool :=
  (f.find? entries).any fun x => x.1 = key

/-- The issue with a key, if it is not the used name of one of the fields. -/
def leftover? (fields : List FieldName) (entries : Entries) (key : Value) : Option Issue :=
  match key with
  | .text s =>
    if fields.any fun f => f.isGivenAs entries s then none else some ⟨[.field s], .extra⟩
  | key => some ⟨[.ofKey key], .invalidKey⟩

/-- Refuses every entry that belongs to none of the fields. -/
def noOthers (fields : List FieldName) (entries : Entries) : Checked Unit :=
  .report (entries.filterMap fun e => leftover? fields entries e.1)

/-- A text with halves of characters that stand alone. -/
def isTorn : Value → Bool
  | .tornText _ => true
  | _ => false

def hasTornKey (entries : Entries) : Bool := entries.any fun e => isTorn e.1

def record (name : String) (fields : List FieldName) (read : Entries → Checked α)
    (v : Value) : Checked α :=
  match v with
  | .map entries =>
    if hasTornKey entries then (read entries).refusedFor .noUnicode
    else read entries <* noOthers fields entries
  | _ => .fault (.noRecord name)

end EndpointUpgrade.Reading
