import EndpointUpgrade.Proofs.Reading.Agreement
import Mathlib.Data.List.Pairwise

/-!
# Keys added to a value

A schema says where the records of a value lie and which fields they have. A key that no field of a
record asks for is an issue of its own, and the only one if there was none before: no other field is
read differently, and whatever holds the record passes the issue on. The issue is found at the key,
but for a key with halves of characters that stand alone: that one is an issue of the whole record.
Keys here are texts; a key of another kind has another fault.
-/

namespace EndpointUpgrade

/-! ## Entries around an entry -/

namespace Value

variable {name : String} {key x : Value} {before after : List (Value × Value)}

theorem lookup?_append (es fs : List (Value × Value)) :
    lookup? name (es ++ fs) = (lookup? name es).or (lookup? name fs) := by
  fun_induction lookup? name es with
  | case1 => rfl
  | case2 v es =>
    rw [List.cons_append, lookup?, if_pos rfl]
    rfl
  | case3 k v es hne ih => rw [List.cons_append, lookup?, if_neg hne, ih]
  | case4 e es hne ih =>
    obtain ⟨k, v⟩ := e
    cases k with
    | text s => exact absurd rfl (hne s v)
    | _ => exact ih

theorem lookup?_eq_none_iff {es : List (Value × Value)} :
    lookup? name es = none ↔ .text name ∉ es.map Prod.fst := by
  fun_induction lookup? name es with
  | case1 => simp
  | case2 v es => simp
  | case3 k v es hne ih => simp [ih, Ne.symm hne]
  | case4 e es hne ih =>
    obtain ⟨k, v⟩ := e
    cases k with
    | text s => exact absurd rfl (hne s v)
    | _ => simp [ih]

theorem lookup?_around (absent : .text name ∉ before.map Prod.fst) :
    lookup? name (before ++ (.text name, x) :: after) = some x := by
  rw [lookup?_append, lookup?_eq_none_iff.mpr absent, Option.none_or, lookup?, if_pos rfl]

theorem lookup?_around_of_ne (h : key ≠ .text name) :
    lookup? name (before ++ (key, x) :: after) = lookup? name (before ++ after) := by
  rw [lookup?_append, lookup?_append]
  cases key with
  | text s => rw [lookup?, if_neg fun eq => h (congrArg Value.text eq)]
  | _ => rfl

end Value

namespace Reading

/-! ## Schemas -/

/-- The records in a value: none, those in the items of a list, or a record with what its fields
hold. -/
inductive Schema where
  | leaf
  | items (inner : Schema)
  | record (fields : List (FieldName × Schema))

/-- The kinds of value that are read as lists. -/
inductive ListKind : (List Value → Value) → Prop
  | list : ListKind .list
  | tuple : ListKind .tuple
  | set : ListKind .set

def FieldName.names (f : FieldName) : List String := [f.wire, f.plain]

theorem FieldName.mem_names {f : FieldName} {name : String} :
    name ∈ f.names ↔ name = f.wire ∨ name = f.plain := List.mem_pair

/-- A key that no field asks for: it is not the name of a field, or it is the plain name of a field
that is given under its name in documents, or it is a torn text. -/
inductive Foreign (fields : List FieldName) (entries : Entries) : Value → Prop
  | unknown {key : String} : (∀ f ∈ fields, key ∉ f.names) → Foreign fields entries (.text key)
  | twice {key : String} {f : FieldName} : f ∈ fields → key = f.plain → f.wire ≠ f.plain →
      .text f.wire ∈ entries.map Prod.fst → Foreign fields entries (.text key)
  | torn (points : List Nat) : Foreign fields entries (.tornText points)

/-- What is said about a foreign key in the record that a path leads to: the key is too many, or
the record has a torn key. -/
def foreignIssue (path : List Step) : Value → Issue
  | .text key => ⟨path ++ [.field key], .extra⟩
  | _ => ⟨path, .noUnicode⟩

theorem under_foreignIssue {α : Type} (step : Step) (path : List Step) (key : Value) :
    (.faulty [foreignIssue path key] : Checked α).under step =
      .faulty [foreignIssue (step :: path) key] := by
  cases key <;> rfl

/-- The second value is the first one with a foreign key added to the record that the path leads to,
in some place and with some value. -/
inductive AddsKey (key : Value) : Schema → List Step → Value → Value → Prop
  | here {fields : List (FieldName × Schema)} {before after : Entries} (x : Value) :
      Foreign (fields.map Prod.fst) (before ++ after) key →
      AddsKey key (.record fields) [] (.map (before ++ after))
        (.map (before ++ (key, x) :: after))
  | field {fields : List (FieldName × Schema)} {f : FieldName} {inner : Schema} {name : String}
      {path : List Step} {v w : Value} {before after : Entries} : (f, inner) ∈ fields →
      name ∈ f.names → .text name ∉ before.map Prod.fst → AddsKey key inner path v w →
      AddsKey key (.record fields) (.field name :: path) (.map (before ++ (.text name, v) :: after))
        (.map (before ++ (.text name, w) :: after))
  | item {inner : Schema} {kind : List Value → Value} {path : List Step} {v w : Value}
      {before after : List Value} : ListKind kind → AddsKey key inner path v w →
      AddsKey key (.items inner) (.index before.length :: path) (kind (before ++ v :: after))
        (kind (before ++ w :: after))

variable {α β : Type} {read : Value → Checked α}

/-- What is read without a fault has exactly one after a foreign key is added, that of the key. -/
def Detects (schema : Schema) (read : Value → Checked α) : Prop :=
  ∀ ⦃key path v w a⦄, read v = .ok a → AddsKey key schema path v w →
    read w = .faulty [foreignIssue path key]

theorem detects_leaf : Detects .leaf read := nofun

theorem Detects.thenRule {schema : Schema} (h : Detects schema read) (rule : α → Except String β) :
    Detects schema fun v => (read v).thenRule rule := by
  intro key path v w b hok hadds
  dsimp only at hok ⊢
  cases hread : read v with
  | ok a =>
    rw [h hread hadds]
    rfl
  | _ =>
    rw [hread] at hok
    contradiction

theorem Detects.elements {inner : Schema} (h : Detects inner read) {key : Value}
    {path : List Step} {v w : Value} (hadds : AddsKey key inner path v w)
    {before after : List Value} {position : Int} {as : List α}
    (hok : elements read position (before ++ v :: after) = .ok as) :
    elements read position (before ++ w :: after) =
      .faulty [foreignIssue (.index (position + before.length) :: path) key] := by
  induction before generalizing position as with
  | nil =>
    rw [List.nil_append, Reading.elements, Checked.seq_eq_ok_iff] at hok
    obtain ⟨_, rest, hcons, hrest, rfl⟩ := hok
    obtain ⟨a, hv, rfl⟩ := Checked.map_eq_ok_iff.mp hcons
    rw [List.nil_append, Reading.elements, h (Checked.under_eq_ok_iff.mp hv) hadds, hrest,
      under_foreignIssue, List.length_nil, Int.natCast_zero, Int.add_zero]
    rfl
  | cons u before ih =>
    rw [List.cons_append, Reading.elements, Checked.seq_eq_ok_iff] at hok
    obtain ⟨_, rest, hcons, hrest, rfl⟩ := hok
    obtain ⟨a, hu, rfl⟩ := Checked.map_eq_ok_iff.mp hcons
    have hposition : position + 1 + before.length = position + (u :: before).length := by
      rw [List.length_cons]
      omega
    rw [List.cons_append, Reading.elements, hu, ih hrest, hposition]
    rfl

theorem Detects.listOf {inner : Schema} (h : Detects inner read) :
    Detects (.items inner) (listOf read) := by
  intro key path v w as hok hadds
  cases hadds with
  | item hkind hinner =>
    have hzero : ∀ n : Nat, (0 : Int) + n = n := fun n => Int.zero_add n
    cases hkind with
    | list => exact (h.elements hinner hok).trans (by rw [hzero])
    | tuple => exact (h.elements hinner hok).trans (by rw [hzero])
    | set => exact (h.elements hinner hok).trans (by rw [hzero])

/-! ## Readers of fields -/

/-- A field before and after a key is added, with the issues that this brings. -/
inductive FieldChange (es fs : Entries) (f : FieldName) (inner : Schema) : List Issue → Prop
  | same : f.find? fs = f.find? es → FieldChange es fs f inner []
  | inside {name : String} {path : List Step} {key v w : Value} : f.find? es = some (name, v) →
      f.find? fs = some (name, w) → AddsKey key inner path v w →
      FieldChange es fs f inner [foreignIssue (.field name :: path) key]

/-- No key is added inside a value that holds no record. -/
theorem FieldChange.of_leaf {es fs : Entries} {f : FieldName} {is : List Issue}
    (h : FieldChange es fs f .leaf is) : f.find? fs = f.find? es ∧ is = [] := by
  cases h with
  | same heq => exact ⟨heq, rfl⟩
  | inside _ _ hadds => cases hadds

/-- If the first result is a value, the second one has the given issues, or is the same value if
there are none. -/
def Gains (is : List Issue) (x y : Checked α) : Prop :=
  ∀ a, x = .ok a → y = Function.const Unit a <$> .report is

/-- A reader that looks at some fields only: a change of them brings the issues of each. -/
def ReadsFields (fields : List (FieldName × Schema)) (read : Entries → Checked α) : Prop :=
  ∀ ⦃es fs⦄ ⦃issuesOf : FieldName → List Issue⦄,
    (∀ p ∈ fields, FieldChange es fs p.1 p.2 (issuesOf p.1)) →
      Gains (fields.flatMap fun p => issuesOf p.1) (read es) (read fs)

theorem Gains.of_eq {x y : Checked α} (h : y = x) : Gains [] x y := by
  intro a hx
  rw [h, hx]
  rfl

theorem Gains.map {is : List Issue} {x y : Checked α} (h : Gains is x y) (f : α → β) :
    Gains is (f <$> x) (f <$> y) := by
  intro b hok
  obtain ⟨a, hx, rfl⟩ := Checked.map_eq_ok_iff.mp hok
  rw [h a hx]
  cases is <;> rfl

theorem Gains.seq {is js : List Issue} {f g : Checked (α → β)} {x y : Checked α}
    (hfg : Gains is f g) (h : Gains js x y) : Gains (is ++ js) (f <*> x) (g <*> y) := by
  intro b hok
  obtain ⟨k, a, hf, hx, rfl⟩ := Checked.seq_eq_ok_iff.mp hok
  rw [hfg k hf, h a hx]
  cases is with
  | nil => cases js <;> rfl
  | cons i is =>
    cases js with
    | nil => rw [List.append_nil]; rfl
    | cons j js => rfl

namespace ReadsFields

variable {fields fields' : List (FieldName × Schema)} {f : FieldName} {inner : Schema}

theorem map {read : Entries → Checked α} (h : ReadsFields fields read) (g : α → β) :
    ReadsFields fields fun es => g <$> read es :=
  fun _ _ _ hchange => (h hchange).map g

theorem seq {readf : Entries → Checked (α → β)} {read : Entries → Checked α}
    (hf : ReadsFields fields readf) (h : ReadsFields fields' read) :
    ReadsFields (fields ++ fields') fun es => readf es <*> read es := by
  intro es fs issuesOf hchange
  rw [List.forall_mem_append] at hchange
  rw [List.flatMap_append]
  exact (hf hchange.1).seq (h hchange.2)

/-- A reader of one field, with a result for its absence. -/
theorem single (f : FieldName) (absent : Checked α) (h : Detects inner read) :
    ReadsFields [(f, inner)] fun es =>
      match f.find? es with
      | some (name, v) => (read v).under (.field name)
      | none => absent := by
  intro es fs issuesOf hchange a hok
  have hf := hchange (f, inner) List.mem_cons_self
  rw [List.flatMap_singleton]
  dsimp only at hf hok ⊢
  generalize issuesOf f = is at hf
  cases hf with
  | same heq =>
    rw [heq, hok]
    rfl
  | inside hes hfs hadds =>
    rw [hes] at hok
    rw [hfs]
    dsimp only
    rw [h (Checked.under_eq_ok_iff.mp hok) hadds, under_foreignIssue]
    rfl

theorem required (f : FieldName) (h : Detects inner read) :
    ReadsFields [(f, inner)] (required f read) :=
  single f ((Checked.fault .missing).under (.field f.wire)) h

theorem optional (f : FieldName) (default : α) (h : Detects inner read) :
    ReadsFields [(f, inner)] (optional f default read) :=
  single f (.ok default) h

end ReadsFields

/-! ## Fields that are found -/

/-- Fields that have no name in common. -/
def Separate (fields : List FieldName) : Prop :=
  fields.Pairwise fun f g => ∀ name ∈ f.names, name ∉ g.names

instance (fields : List FieldName) : Decidable (Separate fields) := by
  unfold Separate; infer_instance

section Found

variable {names : List FieldName} {es fs before after : Entries} {f g : FieldName}
variable {name : String} {key v w x : Value}

theorem Separate.eq_of_mem (h : Separate names) (hf : f ∈ names) (hg : g ∈ names)
    (hfname : name ∈ f.names) (hgname : name ∈ g.names) : f = g := by
  by_contra hne
  have hsymm : Std.Symm fun f g : FieldName => ∀ name ∈ f.names, name ∉ g.names :=
    ⟨fun _ _ hfg name hg hf => hfg name hf hg⟩
  exact h.forall hf hg hne name hfname hgname

theorem Separate.nodup (h : Separate names) : names.Nodup := by
  apply h.imp
  intro f g hfg heq
  exact hfg f.wire List.mem_cons_self (heq ▸ List.mem_cons_self)

theorem find?_congr (h : ∀ name ∈ f.names, Value.lookup? name fs = Value.lookup? name es) :
    f.find? fs = f.find? es := by
  unfold FieldName.find?
  rw [h f.wire (FieldName.mem_names.mpr (.inl rfl)), h f.plain (FieldName.mem_names.mpr (.inr rfl))]

theorem isGivenAs_iff : f.isGivenAs es name = true ↔ ∃ v, f.find? es = some (name, v) := by
  unfold FieldName.isGivenAs
  cases f.find? es with
  | none => simp
  | some p => simp [Prod.ext_iff]

theorem mem_names_of_find? (h : f.find? es = some (name, v)) : name ∈ f.names := by
  unfold FieldName.find? at h
  split at h
  · exact FieldName.mem_names.mpr (.inl (Prod.mk.inj (Option.some.inj h)).1.symm)
  · obtain ⟨u, -, hu⟩ := Option.map_eq_some_iff.mp h
    exact FieldName.mem_names.mpr (.inr (Prod.mk.inj hu).1.symm)

theorem find?_of_wire (h : .text f.wire ∈ es.map Prod.fst) :
    ∃ v, f.find? es = some (f.wire, v) := by
  unfold FieldName.find?
  cases hwire : Value.lookup? f.wire es with
  | none => exact absurd h (Value.lookup?_eq_none_iff.mp hwire)
  | some v => exact ⟨v, rfl⟩

/-- Another value under the name that a field is given by. -/
theorem find?_replaced (hname : name ∈ f.names) (absent : .text name ∉ before.map Prod.fst)
    (hused : f.find? (before ++ (.text name, v) :: after) = some (name, x)) (w : Value) :
    f.find? (before ++ (.text name, w) :: after) = some (name, w) := by
  unfold FieldName.find? at hused ⊢
  by_cases hwire : name = f.wire
  · rw [← hwire, Value.lookup?_around absent]
  · have hplain : name = f.plain := (FieldName.mem_names.mp hname).resolve_left hwire
    rw [Value.lookup?_around_of_ne (mt Value.text.inj hwire)] at hused ⊢
    cases hother : Value.lookup? f.wire (before ++ after) with
    | some u =>
      rw [hother] at hused
      exact absurd (Prod.mk.inj (Option.some.inj hused)).1.symm hwire
    | none =>
      dsimp only
      rw [← hplain, Value.lookup?_around absent, Option.map_some]

/-- The other fields do not look at that name. -/
theorem find?_replaced_of_ne (separate : Separate names) (hf : f ∈ names) (hg : g ∈ names)
    (hne : g ≠ f) (hname : name ∈ f.names) :
    g.find? (before ++ (.text name, w) :: after) =
      g.find? (before ++ (.text name, v) :: after) := by
  apply find?_congr
  intro n hn
  have hnn : Value.text name ≠ .text n :=
    fun eq => hne (separate.eq_of_mem hg hf hn (Value.text.inj eq ▸ hname))
  rw [Value.lookup?_around_of_ne hnn, Value.lookup?_around_of_ne hnn]

theorem noOthers_eq_ok_iff :
    noOthers names es = .ok () ↔ ∀ e ∈ es, leftover? names es e.1 = none := by
  unfold noOthers
  rw [← List.filterMap_eq_nil_iff]
  cases es.filterMap fun e => leftover? names es e.1 with
  | nil => simp
  | cons i is => exact iff_of_false nofun nofun

theorem leftover?_congr (h : ∀ f ∈ names, ∀ key, f.isGivenAs fs key = f.isGivenAs es key) :
    leftover? names fs = leftover? names es := by
  funext key
  unfold leftover?
  cases key with
  | text s =>
    have hany : (names.any fun f => f.isGivenAs fs s) = names.any fun f => f.isGivenAs es s := by
      rw [Bool.eq_iff_iff, List.any_eq_true, List.any_eq_true]
      exact exists_congr fun f => and_congr_right fun hf => by rw [h f hf s]
    dsimp only
    rw [hany]
  | _ => rfl

/-- In a record that is read, a name of a field is the one that it is given by. -/
theorem find?_of_noOthers (separate : Separate names) (h : noOthers names es = .ok ())
    (hf : f ∈ names) (hname : name ∈ f.names) (hmem : .text name ∈ es.map Prod.fst) :
    ∃ v, f.find? es = some (name, v) := by
  obtain ⟨e, he, hkey⟩ := List.mem_map.mp hmem
  have hnone := noOthers_eq_ok_iff.mp h e he
  rw [hkey, leftover?] at hnone
  have hany : (names.any fun f => f.isGivenAs es name) = true := by
    by_contra hne
    rw [if_neg hne] at hnone
    contradiction
  obtain ⟨g, hg, hgiven⟩ := List.any_eq_true.mp hany
  obtain ⟨v, hfind⟩ := isGivenAs_iff.mp hgiven
  rw [separate.eq_of_mem hf hg hname (mem_names_of_find? hfind)]
  exact ⟨v, hfind⟩

theorem Foreign.find?_inserted (separate : Separate names) (h : Foreign names (before ++ after) key)
    (hf : f ∈ names) (x : Value) :
    f.find? (before ++ (key, x) :: after) = f.find? (before ++ after) := by
  have hcongr (hkey : ∀ name ∈ f.names, key ≠ .text name) :
      f.find? (before ++ (key, x) :: after) = f.find? (before ++ after) := by
    apply find?_congr
    intro name hname
    exact Value.lookup?_around_of_ne (hkey name hname)
  cases h with
  | unknown hall => exact hcongr fun name hname eq => hall f hf (Value.text.inj eq ▸ hname)
  | torn points => exact hcongr fun _ _ => nofun
  | @twice key g hg hplain hne hwire =>
    by_cases heq : f = g
    · -- the name in documents goes before the plain name
      subst heq
      unfold FieldName.find?
      rw [Value.lookup?_around_of_ne (mt Value.text.inj (hplain ▸ hne.symm))]
      cases hlookup : Value.lookup? f.wire (before ++ after) with
      | none => exact absurd hwire (Value.lookup?_eq_none_iff.mp hlookup)
      | some v => rfl
    · apply hcongr
      intro name hname eq
      rw [← Value.text.inj eq] at hname
      exact heq (separate.eq_of_mem hf hg hname (FieldName.mem_names.mpr (.inr hplain)))

theorem Foreign.not_isGivenAs (separate : Separate names) (h : Foreign names es (.text name))
    (hf : f ∈ names) : f.isGivenAs es name = false := by
  rw [← Bool.not_eq_true, isGivenAs_iff]
  intro ⟨v, hfind⟩
  have hkey := mem_names_of_find? hfind
  cases h with
  | unknown hall => exact hall f hf hkey
  | @twice _ g hg hplain hne hwire =>
    obtain rfl : f = g := separate.eq_of_mem hf hg hkey (FieldName.mem_names.mpr (.inr hplain))
    obtain ⟨u, hu⟩ := find?_of_wire hwire
    rw [hfind] at hu
    exact hne ((Prod.mk.inj (Option.some.inj hu)).1.symm.trans hplain)

end Found

/-! ## Records -/

section Records

variable {fields : List (FieldName × Schema)} {readFields : Entries → Checked α} {a : α}
variable {es before after : Entries} {key : Value}

theorem record_of_hasTornKey {name : String} {names : List FieldName} (h : hasTornKey es = true) :
    record name names readFields (.map es) = (readFields es).refusedFor .noUnicode := by
  unfold record
  dsimp only
  rw [if_pos h]

theorem record_of_not_hasTornKey {name : String} {names : List FieldName}
    (h : hasTornKey es = false) :
    record name names readFields (.map es) = readFields es <* noOthers names es := by
  unfold record
  dsimp only
  rw [h]
  rfl

theorem record_eq_ok_iff {name : String} {names : List FieldName} :
    record name names readFields (.map es) = .ok a ↔
      hasTornKey es = false ∧ readFields es = .ok a ∧ noOthers names es = .ok () := by
  cases htorn : hasTornKey es with
  | true =>
    rw [record_of_hasTornKey htorn]
    exact iff_of_false Checked.refusedFor_ne_ok nofun
  | false =>
    rw [record_of_not_hasTornKey htorn]
    change Function.const Unit <$> readFields es <*> noOthers names es = .ok a ↔ _
    rw [Checked.seq_eq_ok_iff]
    constructor
    · intro ⟨_, _, hconst, hothers, heq⟩
      obtain ⟨b, hread, rfl⟩ := Checked.map_eq_ok_iff.mp hconst
      exact ⟨rfl, hread.trans (congrArg Checked.ok heq), hothers⟩
    · intro ⟨_, hread, hothers⟩
      exact ⟨_, (), Checked.map_eq_ok_iff.mpr ⟨a, hread, rfl⟩, hothers, rfl⟩

theorem hasTornKey_around {key x : Value} :
    hasTornKey (before ++ (key, x) :: after) = (isTorn key || hasTornKey (before ++ after)) := by
  unfold hasTornKey
  rw [List.any_append, List.any_append, List.any_cons, Bool.or_left_comm]

/-- A foreign key is an entry too many. -/
theorem noOthers_inserted {names : List FieldName} {key : String} (separate : Separate names)
    (h : Foreign names (before ++ after) (.text key))
    (hok : noOthers names (before ++ after) = .ok ()) (x : Value) :
    noOthers names (before ++ (.text key, x) :: after) = .faulty [⟨[.field key], .extra⟩] := by
  have hleft : leftover? names (before ++ (.text key, x) :: after) =
      leftover? names (before ++ after) := by
    apply leftover?_congr
    intro f hf s
    unfold FieldName.isGivenAs
    rw [h.find?_inserted separate hf x]
  have hkey : leftover? names (before ++ after) (.text key) = some ⟨[.field key], .extra⟩ := by
    have hnone : (names.any fun f => f.isGivenAs (before ++ after) key) = false :=
      List.any_eq_false.mpr fun f hf => by simp [h.not_isGivenAs separate hf]
    unfold leftover?
    dsimp only
    rw [hnone]
    rfl
  rw [noOthers_eq_ok_iff, List.forall_mem_append] at hok
  unfold noOthers
  rw [hleft, List.filterMap_append, List.filterMap_eq_nil_iff.mpr hok.1,
    List.filterMap_cons, hkey, List.filterMap_eq_nil_iff.mpr hok.2]
  rfl

/-- Another value of a field is no entry too many. -/
theorem noOthers_replaced {names : List FieldName} {name : String} {v w : Value}
    (h : ∀ f ∈ names, ∀ key, f.isGivenAs (before ++ (.text name, w) :: after) key =
      f.isGivenAs (before ++ (.text name, v) :: after) key)
    (hok : noOthers names (before ++ (.text name, v) :: after) = .ok ()) :
    noOthers names (before ++ (.text name, w) :: after) = .ok () := by
  rw [noOthers_eq_ok_iff, List.forall_mem_append, List.forall_mem_cons] at hok ⊢
  rw [leftover?_congr h]
  exact hok

/-- An issue of one field and of no other. -/
def onlyOf (f : FieldName) (issue : Issue) (g : FieldName) : List Issue :=
  if g = f then [issue] else []

theorem flatMap_onlyOf {f : FieldName} {inner : Schema} {issue : Issue}
    (hmem : (f, inner) ∈ fields) (distinct : (fields.map Prod.fst).Nodup) :
    (fields.flatMap fun p => onlyOf f issue p.1) = [issue] := by
  obtain ⟨ps, qs, rfl⟩ := List.append_of_mem hmem
  rw [List.map_append, List.map_cons, List.nodup_middle, List.nodup_cons, List.mem_append,
    not_or] at distinct
  have hnil {rs : List (FieldName × Schema)} (hf : f ∉ rs.map Prod.fst) :
      (rs.flatMap fun p => onlyOf f issue p.1) = [] := by
    apply List.flatMap_eq_nil_iff.mpr
    intro p hp
    have hne : p.1 ≠ f := fun eq => hf (eq ▸ List.mem_map_of_mem (f := Prod.fst) hp)
    exact if_neg hne
  rw [List.flatMap_append, List.flatMap_cons, hnil distinct.1.1, hnil distinct.1.2, onlyOf,
    if_pos rfl]
  rfl

/-- The fields are read as before if a foreign key is added. -/
theorem ReadsFields.inserted (hreads : ReadsFields fields readFields)
    (separate : Separate (fields.map Prod.fst))
    (h : Foreign (fields.map Prod.fst) (before ++ after) key)
    (hok : readFields (before ++ after) = .ok a) (x : Value) :
    readFields (before ++ (key, x) :: after) = .ok a := by
  have hgains := @hreads _ _ (fun _ => []) fun p hp =>
    .same (h.find?_inserted separate (List.mem_map_of_mem hp) x)
  rw [hgains a hok, List.flatMap_eq_nil_iff.mpr fun _ _ => rfl]
  rfl

/-- The fields have one issue more if a key is added inside one of them. -/
theorem ReadsFields.replaced (hreads : ReadsFields fields readFields)
    (separate : Separate (fields.map Prod.fst)) {f : FieldName} {inner : Schema} {name : String}
    {path : List Step} {v w : Value} (hmem : (f, inner) ∈ fields) (hname : name ∈ f.names)
    (hv : f.find? (before ++ (.text name, v) :: after) = some (name, v))
    (hw : f.find? (before ++ (.text name, w) :: after) = some (name, w))
    (hadds : AddsKey key inner path v w)
    (hok : readFields (before ++ (.text name, v) :: after) = .ok a) :
    readFields (before ++ (.text name, w) :: after) =
      .faulty [foreignIssue (.field name :: path) key] := by
  have hf : f ∈ fields.map Prod.fst := List.mem_map_of_mem (f := Prod.fst) hmem
  have hgains := @hreads (before ++ (.text name, v) :: after) (before ++ (.text name, w) :: after)
    (onlyOf f (foreignIssue (.field name :: path) key)) fun p hp => by
      unfold onlyOf
      by_cases heq : p.1 = f
      · obtain rfl := List.inj_on_of_nodup_map separate.nodup hp hmem heq
        rw [if_pos rfl]
        exact .inside hv hw hadds
      · rw [if_neg heq]
        exact .same (find?_replaced_of_ne separate hf (List.mem_map_of_mem hp) heq hname)
  rw [hgains a hok, flatMap_onlyOf hmem separate.nodup]
  rfl

/-- A record is refused for a foreign key, its own or one in its fields, and for nothing else. -/
theorem detects_record (name : String) (separate : Separate (fields.map Prod.fst))
    (hreads : ReadsFields fields readFields) :
    Detects (.record fields) (record name (fields.map Prod.fst) readFields) := by
  intro key path v w a hok hadds
  cases hadds with
  | @here _ before after x hforeign =>
    obtain ⟨hwhole, hread, hothers⟩ := record_eq_ok_iff.mp hok
    have hread' := hreads.inserted separate hforeign hread x
    cases key with
    | text s =>
      have hwhole' : hasTornKey (before ++ (.text s, x) :: after) = false := by
        rw [hasTornKey_around, hwhole]
        rfl
      rw [record_of_not_hasTornKey hwhole', hread', noOthers_inserted separate hforeign hothers x]
      rfl
    | tornText points =>
      have htorn : hasTornKey (before ++ (.tornText points, x) :: after) = true := hasTornKey_around
      rw [record_of_hasTornKey htorn, hread']
      rfl
    | _ => contradiction
  | @field _ f inner name path v w before after hmem hname habsent hinner =>
    obtain ⟨hwhole, hread, hothers⟩ := record_eq_ok_iff.mp hok
    have hf : f ∈ fields.map Prod.fst := List.mem_map_of_mem (f := Prod.fst) hmem
    obtain ⟨u, hu⟩ := find?_of_noOthers separate hothers hf hname (by simp)
    have hv := find?_replaced hname habsent hu v
    have hw := find?_replaced hname habsent hu w
    have hgiven : ∀ g ∈ fields.map Prod.fst, ∀ key,
        g.isGivenAs (before ++ (.text name, w) :: after) key =
          g.isGivenAs (before ++ (.text name, v) :: after) key := by
      intro g hg key
      unfold FieldName.isGivenAs
      by_cases heq : g = f
      · rw [heq, hv, hw]
        rfl
      · rw [find?_replaced_of_ne separate hf hg heq hname]
    have hwhole' : hasTornKey (before ++ (.text name, w) :: after) = false := by
      rw [← hwhole, hasTornKey_around, hasTornKey_around]
    rw [record_of_not_hasTornKey hwhole',
      hreads.replaced separate hmem hname hv hw hinner hread, noOthers_replaced hgiven hothers]
    rfl

end Records

end Reading

end EndpointUpgrade
