import EndpointUpgrade.Proofs.Yaml.Nodes
import EndpointUpgrade.Yaml.Meaning

/-!
# Values of a written document

The node of a document has the value of the document, if every mapping in it has each key once and
every integer can be converted: texts stay texts, integers stay integers, and the entries of a
mapping keep their order.
-/

namespace EndpointUpgrade.Yaml

open Document Text

/-- A document whose mappings have each key once and whose integers can be converted. -/
inductive Proper : Document → Prop where
  | text (s : String) : Proper (.text s)
  | number {n : Int} (h : FitsConversion n) : Proper (.number n)
  | list {items : List Document} (h : ∀ d ∈ items, Proper d) : Proper (.list items)
  | mapping {entries : List (String × Document)} (hkeys : (entries.map Prod.fst).Nodup)
    (h : ∀ e ∈ entries, Proper e.2) : Proper (.mapping entries)

/-- A document of at most so many collections within each other, whose mappings have each key
once. -/
inductive Orderly : Nat → Document → Prop where
  | text {n : Nat} (s : String) : Orderly n (.text s)
  | number {n : Nat} (k : Int) : Orderly n (.number k)
  | list {n : Nat} {items : List Document} (h : ∀ d ∈ items, Orderly n d) :
    Orderly (n + 1) (.list items)
  | mapping {n : Nat} {entries : List (String × Document)} (hkeys : (entries.map Prod.fst).Nodup)
    (h : ∀ e ∈ entries, Orderly n e.2) : Orderly (n + 1) (.mapping entries)

theorem Orderly.proper {n : Nat} {d : Document} (h : Orderly n d) :
    (∀ indent column, KeepsValue indent column d → Proper d) ∧
      ∀ column, KeepsItem column d → Proper d := by
  induction h with
  | text s => exact ⟨fun _ _ _ => .text s, fun _ _ => .text s⟩
  | number n =>
    refine ⟨fun indent column hkept => ?_, fun column hkept => ?_⟩
    · rw [KeepsValue] at hkept
      exact .number hkept
    · rw [KeepsItem] at hkept
      exact .number hkept
  | list _ ih =>
    refine ⟨fun indent column hkept => ?_, fun column hkept => ?_⟩
    · rw [KeepsValue] at hkept
      exact .list fun d hd => (ih d hd).2 _ (hkept.item hd)
    · rw [KeepsItem] at hkept
      exact .list fun d hd => (ih d hd).2 _ (hkept.item hd)
  | mapping hkeys _ ih =>
    refine ⟨fun indent column hkept => ?_, fun column hkept => ?_⟩
    · rw [KeepsValue] at hkept
      exact .mapping hkeys fun e he => (ih e he).1 _ _ (hkept.value he)
    · rw [KeepsItem] at hkept
      exact .mapping hkeys fun e he => (ih e he).1 _ _ (hkept.value he)

/-! ## Entries -/

theorem hasKey_toEntries {key : String} {es : List (String × Document)}
    (h : key ∉ es.map Prod.fst) : Value.hasKey (.text key) (toEntries es) = false := by
  induction es with
  | nil => rfl
  | cons e rest ih =>
    obtain ⟨k, d⟩ := e
    simp only [List.map_cons, List.mem_cons, not_or] at h
    have hne : (k == key) = false := by simpa using Ne.symm h.1
    rw [toEntries, Value.hasKey, List.any_cons, Value.sameKey, hne, Bool.false_or]
    exact ih h.2

theorem put_of_not_hasKey {key value : Value} {es : List (Value × Value)}
    (h : Value.hasKey key es = false) : Value.put key value es = es ++ [(key, value)] := by
  induction es with
  | nil => rfl
  | cons e rest ih =>
    obtain ⟨k, v⟩ := e
    rw [Value.hasKey, List.any_cons, Bool.or_eq_false_iff] at h
    rw [Value.put, h.1, if_neg (by decide), ih h.2]
    rfl

theorem toEntries_append (es fs : List (String × Document)) :
    toEntries (es ++ fs) = toEntries es ++ toEntries fs := by
  induction es with
  | nil => rfl
  | cons e rest ih =>
    obtain ⟨k, d⟩ := e
    rw [List.cons_append, toEntries, toEntries, ih]
    rfl

namespace Node

theorem merged_entryNodes (others : List (Node × Node)) (es : List (String × Document)) :
    merged others (entryNodes es) = .ok ⟨others, entryNodes es⟩ := by
  induction es with
  | nil => rw [entryNodes, merged]
  | cons e rest ih =>
    obtain ⟨k, d⟩ := e
    rw [entryNodes, merged, if_neg (by simp [tag]), ih]
    rfl

/-! ## Collections -/

theorem fillItems_nodesOf {part : Node → Meant Value} {items : List Document}
    (h : ∀ d ∈ items, part (nodeOf d) = .ok d.toValue) :
    fillItems part (nodesOf items) = .ok (toValues items) := by
  induction items with
  | nil => rw [nodesOf, fillItems, toValues]
  | cons d rest ih =>
    rw [nodesOf, fillItems, h d List.mem_cons_self, ih fun x hx => h x (List.mem_cons_of_mem _ hx),
      toValues]
    rfl

/-- Entries with new keys are put behind the entries before them. -/
theorem fillEntries_entryNodes {key part : Node → Meant Value} {level : Nat}
    {before es : List (String × Document)}
    (hkey : ∀ e ∈ es, key (.scalar .text e.1) = .ok (.text e.1))
    (hpart : ∀ e ∈ es, part (nodeOf e.2) = .ok e.2.toValue)
    (hkeys : ((before ++ es).map Prod.fst).Nodup) :
    fillEntries level true key part (toEntries before) (entryNodes es) =
      .ok (toEntries (before ++ es)) := by
  induction es generalizing before with
  | nil => rw [entryNodes, fillEntries, List.append_nil]
  | cons e rest ih =>
    obtain ⟨k, d⟩ := e
    have hnew : k ∉ before.map Prod.fst := by
      rw [List.map_append, List.map_cons, List.nodup_append] at hkeys
      exact fun hk => hkeys.2.2 k hk k List.mem_cons_self rfl
    have habsent := hasKey_toEntries hnew
    have hrest : fillEntries level true key part (toEntries (before ++ [(k, d)]))
        (entryNodes rest) = .ok (toEntries (before ++ [(k, d)] ++ rest)) :=
      ih (fun e he => hkey e (List.mem_cons_of_mem _ he))
        (fun e he => hpart e (List.mem_cons_of_mem _ he)) (by simpa using hkeys)
    have hput : Value.put (.text k) d.toValue (toEntries before) =
        toEntries (before ++ [(k, d)]) := by
      rw [put_of_not_hasKey habsent, toEntries_append]
      rfl
    have hvalue : part (nodeOf d) = .ok d.toValue := hpart (k, d) List.mem_cons_self
    have hcheck : checkKey true (toEntries before) (.text k) = .ok () := by
      rw [checkKey, habsent]
      rfl
    have hkey' : key (.scalar .text k) = .ok (.text k) := hkey (k, d) List.mem_cons_self
    rw [entryNodes, fillEntries, hkey']
    dsimp only [bind, Except.bind, keyOf, atLevel, Except.mapError]
    rw [hvalue, hcheck]
    dsimp only [Except.mapError, both]
    rw [hput, hrest, List.append_assoc]
    rfl

/-! ## Documents -/

theorem height_pos (n : Node) : 0 < n.height := by
  cases n <;> rw [height] <;> exact Nat.succ_pos _

theorem height_le_heights {d : Document} {items : List Document} (hd : d ∈ items) :
    (nodeOf d).height ≤ heights (nodesOf items) := by
  induction items with
  | nil => simp at hd
  | cons x rest ih =>
    rw [nodesOf, heights]
    rcases List.mem_cons.mp hd with rfl | hd
    · exact Nat.le_max_left _ _
    · exact Nat.le_trans (ih hd) (Nat.le_max_right _ _)

theorem height_le_entryHeights {e : String × Document} {entries : List (String × Document)}
    (he : e ∈ entries) : (nodeOf e.2).height ≤ entryHeights (entryNodes entries) := by
  induction entries with
  | nil => simp at he
  | cons x rest ih =>
    obtain ⟨k, d⟩ := x
    rw [entryNodes, entryHeights]
    rcases List.mem_cons.mp he with rfl | he
    · exact Nat.le_trans (Nat.le_max_right _ _) (Nat.le_max_left _ _)
    · exact Nat.le_trans (ih he) (Nat.le_max_right _ _)

theorem meaning_text (fuel : Nat) (version : Version) (inKey : Bool) (level : Nat) (s : String) :
    meaning (fuel + 1) version inKey level (.scalar .text s) = .ok (.text s) := by
  rw [meaning]
  rfl

theorem meaning_nodeOf {d : Document} (h : Proper d) {fuel : Nat} (level : Nat)
    (hfuel : (nodeOf d).height ≤ fuel) :
    (nodeOf d).meaning fuel .v1_2 false level = .ok d.toValue := by
  induction h generalizing fuel level with
  | text s =>
    rw [nodeOf, height] at hfuel
    obtain ⟨fuel, rfl⟩ := Nat.exists_eq_add_of_le' hfuel
    rw [nodeOf, meaning_text, Document.toValue]
  | @number n h =>
    rw [nodeOf, height] at hfuel
    obtain ⟨fuel, rfl⟩ := Nat.exists_eq_add_of_le' hfuel
    rw [nodeOf, meaning, Document.toValue]
    change atLevel level (scalarValue .v1_2 .int (integerText n)) = _
    rw [scalarValue, intValue_integerText h]
    rfl
  | @list items h ih =>
    rw [nodeOf, height] at hfuel
    obtain ⟨fuel, rfl⟩ := Nat.exists_eq_add_of_le' (Nat.le_trans (Nat.le_add_left 1 _) hfuel)
    have hitems : fillItems (meaning fuel .v1_2 false (level + 1)) (nodesOf items) =
        .ok (toValues items) :=
      fillItems_nodesOf fun d hd =>
        ih d hd (level + 1) (Nat.le_trans (height_le_heights hd) (Nat.le_of_succ_le_succ hfuel))
    rw [nodeOf, meaning, Document.toValue]
    change Value.list <$> fillItems (meaning fuel .v1_2 false (level + 1)) (nodesOf items) = _
    rw [hitems]
    rfl
  | @mapping entries hkeys h ih =>
    rw [nodeOf, height] at hfuel
    obtain ⟨fuel, rfl⟩ := Nat.exists_eq_add_of_le' (Nat.le_trans (Nat.le_add_left 1 _) hfuel)
    have hbelow : ∀ e ∈ entries, (nodeOf e.2).height ≤ fuel := fun e he =>
      Nat.le_trans (height_le_entryHeights he) (Nat.le_of_succ_le_succ hfuel)
    have hkey : ∀ e ∈ entries,
        meaning fuel .v1_2 true (level + 1) (.scalar .text e.1) = .ok (.text e.1) := by
      intro e he
      obtain ⟨n, rfl⟩ := Nat.exists_eq_add_of_le' (Nat.le_trans (height_pos _) (hbelow e he))
      exact meaning_text n _ _ _ _
    have hentries : fillEntries (level + 1) true (meaning fuel .v1_2 true (level + 1))
        (meaning fuel .v1_2 false (level + 1)) (toEntries []) (entryNodes entries) =
          .ok (toEntries ([] ++ entries)) :=
      fillEntries_entryNodes hkey (fun e he => ih e he (level + 1) (hbelow e he)) hkeys
    have hmerged : entries? (.mapping .map (entryNodes entries)) = .ok ⟨[], entryNodes entries⟩ :=
      merged_entryNodes [] entries
    rw [nodeOf, meaning, Document.toValue, hmerged]
    change Value.map <$> fillEntries (level + 1) true (meaning fuel .v1_2 true (level + 1))
      (meaning fuel .v1_2 false (level + 1)) (toEntries []) (entryNodes entries) = _
    rw [hentries]
    rfl

theorem toValue_nodeOf {d : Document} (h : Proper d) : (nodeOf d).toValue .v1_2 = .ok d.toValue := by
  rw [Node.toValue, meaning_nodeOf h 0 (Nat.le_refl _)]
  rfl

end Node

end EndpointUpgrade.Yaml
