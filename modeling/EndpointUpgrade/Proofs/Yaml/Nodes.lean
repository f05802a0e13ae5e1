import EndpointUpgrade.Proofs.Yaml.Integer
import EndpointUpgrade.Proofs.Yaml.Lines
import EndpointUpgrade.Yaml.Stream

/-!
# Nodes of a written document

The tokens of a document make up one node, whatever follows them. Written documents have no anchors,
no tags and no directives, so the node says what the document says, with the tags that texts and
integers have by their form.
-/

namespace EndpointUpgrade.Yaml

open Text

/-! ## The node of a document -/

mutual

def nodeOf : Document → Node
  | .text s => .scalar .text s
  | .number n => .scalar .int (integerText n)
  | .list items => .sequence .list (nodesOf items)
  | .mapping entries => .mapping .map (entryNodes entries)

def nodesOf : List Document → List Node
  | [] => []
  | d :: rest => nodeOf d :: nodesOf rest

def entryNodes : List (String × Document) → List (Node × Node)
  | [] => []
  | (key, d) :: rest => (.scalar .text key, nodeOf d) :: entryNodes rest

end

/-! ## Steps of reading -/

/-- Tokens of the given kinds are taken, whatever follows them, and a result is given. -/
def Takes {α : Type} (m : Read α) (ks : List TokenKind) (a : α) : Prop :=
  ∀ (r : Reader) (later : List TokenKind), r.tokens.map (·.kind) = ks ++ later →
    ∃ r', m.run r = .ok (a, r') ∧ r'.tokens.map (·.kind) = later

section

variable {α β : Type} {m : Read α} {f : α → Read β} {a : α} {b : β} {ks more : List TokenKind}
  {k : TokenKind}

theorem Takes.pure (a : α) : Takes (pure a) [] a := fun r _ h => ⟨r, rfl, h⟩

theorem Takes.bind (hm : Takes m ks a) (hf : Takes (f a) more b) : Takes (m >>= f) (ks ++ more) b := by
  intro r later h
  obtain ⟨r₁, hrun, h₁⟩ := hm r (more ++ later) (by rw [h, List.append_assoc])
  obtain ⟨r₂, hrun₂, h₂⟩ := hf r₁ later h₁
  refine ⟨r₂, ?_, h₂⟩
  rw [StateT.run_bind, hrun]
  exact hrun₂

theorem run_bind_of_ok {r r' : Reader} (h : m.run r = .ok (a, r')) :
    (m >>= f).run r = (f a).run r' := by
  rw [StateT.run_bind, h]
  rfl

/-- What is made of a result takes no further tokens. -/
theorem Takes.last (hm : Takes m ks a) (hf : f a = Pure.pure b) : Takes (m >>= f) ks b := by
  have hpure : Takes (f a) [] b := by
    rw [hf]
    exact Takes.pure b
  have hbind := hm.bind hpure
  rw [List.append_nil] at hbind
  exact hbind

theorem takes_dropToken (k : TokenKind) : Takes dropToken [k] () := by
  intro r later h
  refine ⟨{ r with tokens := r.tokens.tail }, rfl, ?_⟩
  rw [List.map_tail, h]
  rfl

/-- The next token is looked at, whatever follows it, and a result is given. -/
def Looks (m : Read α) (k : TokenKind) (a : α) : Prop :=
  ∀ (r : Reader) (later : List TokenKind), r.tokens.map (·.kind) = k :: later → m.run r = .ok (a, r)

theorem Takes.look (hm : Looks m k a) (hf : Takes (f a) (k :: ks) b) :
    Takes (m >>= f) (k :: ks) b := by
  intro r later h
  rw [run_bind_of_ok (hm r (ks ++ later) h)]
  exact hf r later h

theorem Looks.bind (hm : Looks m k a) (hf : Looks (f a) k b) : Looks (m >>= f) k b := by
  intro r later h
  rw [run_bind_of_ok (hm r later h)]
  exact hf r later h

theorem Looks.pure (a : α) : Looks (pure a) k a := fun _ _ _ => rfl

/-- A token that is no fault. -/
def IsSound (k : TokenKind) : Prop := ∀ fault, k ≠ .fault fault

theorem peekToken_run {r : Reader} {later : List TokenKind} (hk : IsSound k)
    (h : r.tokens.map (·.kind) = k :: later) : ∃ t, peekToken.run r = .ok (t, r) ∧ t.kind = k := by
  obtain ⟨tokens, anchors⟩ := r
  cases tokens with
  | nil => simp at h
  | cons t tokens =>
    obtain ⟨rfl, -⟩ := List.cons.inj h
    refine ⟨t, ?_, rfl⟩
    obtain ⟨kind, line⟩ := t
    cases kind with
    | fault fault => exact absurd rfl (hk fault)
    | _ => rfl

theorem looks_peekKind (hk : IsSound k) : Looks peekKind k k := by
  intro r later h
  obtain ⟨t, hrun, rfl⟩ := peekToken_run hk h
  rw [peekKind, run_bind_of_ok hrun]
  rfl

theorem Takes.peek {f : TokenKind → Read β} (hk : IsSound k) (hf : Takes (f k) (k :: ks) b) :
    Takes (peekKind >>= f) (k :: ks) b := Takes.look (looks_peekKind hk) hf

theorem Takes.drop (hm : Takes m ks a) : Takes (dropToken >>= fun _ => m) (k :: ks) a :=
  (takes_dropToken k).bind hm

/-- A token that no anchor, tag or alias stands in front of. -/
def IsBare (k : TokenKind) : Prop :=
  IsSound k ∧ (∀ name, k ≠ .anchor name) ∧ (∀ name, k ≠ .alias name) ∧
    ∀ handle suffix, k ≠ .tag handle suffix

theorem looks_readAnchor? (hk : IsBare k) : Looks readAnchor? k none := by
  refine (looks_peekKind hk.1).bind ?_
  split
  · rename_i name
    exact absurd rfl (hk.2.1 name)
  · exact Looks.pure none

theorem looks_readTag? (setting : Setting) (hk : IsBare k) : Looks (readTag? setting) k none := by
  refine (looks_peekKind hk.1).bind ?_
  split
  · rename_i handle suffix
    exact absurd rfl (hk.2.2.2 handle suffix)
  · exact Looks.pure none

theorem looks_properties (setting : Setting) (hk : IsBare k) :
    Looks (properties setting) k ⟨none, none⟩ :=
  (looks_readAnchor? hk).bind ((looks_readTag? setting hk).bind (Looks.pure _))

theorem Takes.properties {setting : Setting} {f : Properties → Read β} (hk : IsBare k)
    (hf : Takes (f ⟨none, none⟩) (k :: ks) b) :
    Takes (Yaml.properties setting >>= f) (k :: ks) b := Takes.look (looks_properties setting hk) hf

/-- Without an anchor, nothing is marked. -/
theorem Takes.unmarked {node : Node} (hm : Takes m ks a) :
    Takes (mark none node >>= fun _ => m) ks a := (Takes.pure ()).bind hm

end

/-! ## Nodes -/

section

variable {setting : Setting} {place : Place} {fuel : Nat} {ks : List TokenKind}

theorem takes_scalar (s : String) (plain : Bool) :
    Takes (readNode (fuel + 1) setting place) [.scalar s plain]
      (.scalar (Properties.scalarTag ⟨none, none⟩ setting.version plain s) s) := by
  have hk : IsBare (.scalar s plain) := ⟨nofun, nofun, nofun, nofun⟩
  rw [readNode]
  refine Takes.peek hk.1 (Takes.properties hk (Takes.peek hk.1 (Takes.drop ?_)))
  exact Takes.pure _

theorem takes_emptyList :
    Takes (readNode (fuel + 2) setting place) [.flowSequenceStart, .flowSequenceEnd]
      (.sequence .list []) := by
  have hk : IsBare .flowSequenceStart := ⟨nofun, nofun, nofun, nofun⟩
  have hitems : Takes (readFlowItems (fuel + 1) setting true) [.flowSequenceEnd] [] := by
    rw [readFlowItems]
    exact Takes.peek nofun (Takes.drop (Takes.pure []))
  rw [readNode]
  refine Takes.peek hk.1 (Takes.properties hk (Takes.peek hk.1 (Takes.drop (Takes.unmarked ?_))))
  exact hitems.last rfl

theorem takes_emptyMapping :
    Takes (readNode (fuel + 2) setting place) [.flowMappingStart, .flowMappingEnd]
      (.mapping .map []) := by
  have hk : IsBare .flowMappingStart := ⟨nofun, nofun, nofun, nofun⟩
  have hentries : Takes (readFlowEntries (fuel + 1) setting true) [.flowMappingEnd] [] := by
    rw [readFlowEntries]
    exact Takes.peek nofun (Takes.drop (Takes.pure []))
  rw [readNode]
  refine Takes.peek hk.1 (Takes.properties hk (Takes.peek hk.1 (Takes.drop (Takes.unmarked ?_))))
  exact hentries.last rfl

theorem takes_blockList {items : List Node} (hplace : place ≠ .flow)
    (hitems : Takes (readItems fuel setting) ks items) :
    Takes (readNode (fuel + 1) setting place) (.blockSequenceStart :: ks) (.sequence .list items) := by
  have hk : IsBare .blockSequenceStart := ⟨nofun, nofun, nofun, nofun⟩
  rw [readNode]
  refine Takes.peek hk.1 (Takes.properties hk (Takes.peek hk.1 ?_))
  cases place with
  | flow => contradiction
  | block => exact Takes.drop (Takes.unmarked (hitems.last rfl))
  | entry => exact Takes.drop (Takes.unmarked (hitems.last rfl))

theorem takes_blockMapping {entries : List (Node × Node)} (hplace : place ≠ .flow)
    (hentries : Takes (readEntries fuel setting) ks entries) :
    Takes (readNode (fuel + 1) setting place) (.blockMappingStart :: ks)
      (.mapping .map entries) := by
  have hk : IsBare .blockMappingStart := ⟨nofun, nofun, nofun, nofun⟩
  rw [readNode]
  refine Takes.peek hk.1 (Takes.properties hk (Takes.peek hk.1 ?_))
  cases place with
  | flow => contradiction
  | block => exact Takes.drop (Takes.unmarked (hentries.last rfl))
  | entry => exact Takes.drop (Takes.unmarked (hentries.last rfl))

/-- A part that is not left out is a node. -/
theorem takes_part {ends : TokenKind → Bool} {k : TokenKind} {n : Node} (hk : IsSound k)
    (hends : ends k = false) (h : Takes (readNode fuel setting place) (k :: ks) n) :
    Takes (readPart (fuel + 1) setting place ends) (k :: ks) n := by
  rw [readPart]
  refine Takes.peek hk ?_
  rw [if_neg (by simp [hends])]
  exact h

/-- The first token of a node is taken for nothing else. -/
theorem exists_nodeKinds (d : Document) :
    ∃ k ks, nodeKinds d = k :: ks ∧ IsSound k ∧ endsItem k = false ∧ endsEntry k = false ∧
      endsDocument k = false := by
  cases d with
  | text s =>
    exact ⟨textKind false s, [], by rw [nodeKinds], fun _ => TokenKind.noConfusion, rfl, rfl, rfl⟩
  | number n =>
    exact ⟨numberKind n, [], by rw [nodeKinds], fun _ => TokenKind.noConfusion, rfl, rfl, rfl⟩
  | list items =>
    cases items with
    | nil =>
      exact ⟨.flowSequenceStart, _, by rw [nodeKinds], fun _ => TokenKind.noConfusion, rfl, rfl,
        rfl⟩
    | cons d rest =>
      exact ⟨_, _, nodeKinds_list d rest, fun _ => TokenKind.noConfusion, rfl, rfl, rfl⟩
  | mapping entries =>
    cases entries with
    | nil =>
      exact ⟨.flowMappingStart, _, by rw [nodeKinds], fun _ => TokenKind.noConfusion, rfl, rfl,
        rfl⟩
    | cons e rest =>
      exact ⟨_, _, nodeKinds_mapping e rest, fun _ => TokenKind.noConfusion, rfl, rfl, rfl⟩

/-- A document is read as its node. -/
def Parses (d : Document) : Prop :=
  ∀ (setting : Setting) (place : Place) (fuel : Nat), setting.version = .v1_2 → place ≠ .flow →
    2 * (nodeKinds d).length ≤ fuel → Takes (readNode fuel setting place) (nodeKinds d) (nodeOf d)

theorem scalarTag_text {inKey : Bool} {s : String} (hversion : setting.version = .v1_2) :
    Properties.scalarTag ⟨none, none⟩ setting.version (decide (style inKey s = .plain)) s = .text := by
  rw [Properties.scalarTag, hversion]
  by_cases hstyle : style inKey s = .plain
  · simp [hstyle, (fitsPlain_of_style hstyle).1]
  · simp [hstyle]

theorem takes_text {inKey : Bool} {s : String} (hversion : setting.version = .v1_2) :
    Takes (readNode (fuel + 1) setting place) [textKind inKey s] (.scalar .text s) := by
  have hscalar : Takes (readNode (fuel + 1) setting place) [textKind inKey s] _ :=
    takes_scalar s (decide (style inKey s = .plain))
  rw [scalarTag_text hversion] at hscalar
  exact hscalar

theorem parses_text (s : String) : Parses (.text s) := by
  intro setting place fuel hversion hplace hfuel
  rw [nodeKinds] at hfuel ⊢
  obtain ⟨fuel, rfl⟩ := Nat.exists_eq_add_of_le' hfuel
  rw [nodeOf]
  exact takes_text hversion

theorem parses_number (n : Int) : Parses (.number n) := by
  intro setting place fuel hversion hplace hfuel
  rw [nodeKinds] at hfuel ⊢
  obtain ⟨fuel, rfl⟩ := Nat.exists_eq_add_of_le' hfuel
  rw [nodeOf]
  have hscalar : Takes (readNode (fuel + 2) setting place) [numberKind n] _ :=
    takes_scalar (integerText n) true
  rw [Properties.scalarTag, hversion] at hscalar
  dsimp only at hscalar
  rw [if_pos rfl, ofPlain_integerText] at hscalar
  exact hscalar

/-- The items of a sequence and its end. -/
theorem takes_items {items : List Document} (hitems : ∀ d ∈ items, Parses d)
    (hversion : setting.version = .v1_2) (hfuel : 2 * (itemsKinds items).length + 1 ≤ fuel) :
    Takes (readItems fuel setting) (itemsKinds items ++ [.blockEnd]) (nodesOf items) := by
  induction items generalizing fuel with
  | nil =>
    obtain ⟨fuel, rfl⟩ : ∃ n, fuel = n + 1 := ⟨fuel - 1, by omega⟩
    rw [itemsKinds, nodesOf, readItems]
    exact Takes.peek (fun _ => TokenKind.noConfusion) (Takes.drop (Takes.pure []))
  | cons d rest ih =>
    rw [itemsKinds] at hfuel ⊢
    simp only [List.cons_append, List.length_cons, List.length_append] at hfuel
    obtain ⟨fuel, rfl⟩ : ∃ n, fuel = n + 2 := ⟨fuel - 2, by omega⟩
    obtain ⟨k, ks, hkinds, hk, hends, -, -⟩ := exists_nodeKinds d
    have hnode := hitems d List.mem_cons_self setting .block fuel hversion
      Place.noConfusion (by omega)
    have hpart : Takes (readPart (fuel + 1) setting .block endsItem) (nodeKinds d) (nodeOf d) := by
      rw [hkinds] at hnode ⊢
      exact takes_part hk hends hnode
    have hrest := ih (fun x hx => hitems x (List.mem_cons_of_mem _ hx))
      (show 2 * (itemsKinds rest).length + 1 ≤ fuel + 1 by omega)
    rw [nodesOf, readItems, List.cons_append, List.cons_append, List.append_assoc]
    exact Takes.peek (fun _ => TokenKind.noConfusion) (Takes.drop (hpart.bind (hrest.last rfl)))

/-- The entries of a mapping and its end. -/
theorem takes_entries {entries : List (String × Document)} (hentries : ∀ e ∈ entries, Parses e.2)
    (hversion : setting.version = .v1_2) (hfuel : 2 * (entriesKinds entries).length + 1 ≤ fuel) :
    Takes (readEntries fuel setting) (entriesKinds entries ++ [.blockEnd]) (entryNodes entries) := by
  induction entries generalizing fuel with
  | nil =>
    obtain ⟨fuel, rfl⟩ : ∃ n, fuel = n + 1 := ⟨fuel - 1, by omega⟩
    rw [entriesKinds, entryNodes, readEntries]
    exact Takes.peek (fun _ => TokenKind.noConfusion) (Takes.drop (Takes.pure []))
  | cons e rest ih =>
    obtain ⟨key, d⟩ := e
    rw [entriesKinds] at hfuel ⊢
    simp only [List.cons_append, List.length_cons, List.length_append] at hfuel
    obtain ⟨fuel, rfl⟩ : ∃ n, fuel = n + 3 := ⟨fuel - 3, by omega⟩
    obtain ⟨k, ks, hkinds, hk, -, hends, -⟩ := exists_nodeKinds d
    have hnode := hentries (key, d) List.mem_cons_self setting .entry fuel hversion
      Place.noConfusion (show 2 * (nodeKinds d).length ≤ fuel by omega)
    have hpart : Takes (readPart (fuel + 1) setting .entry endsEntry) (nodeKinds d) (nodeOf d) := by
      rw [hkinds] at hnode ⊢
      exact takes_part hk hends hnode
    have hvalue : Takes (readValue (fuel + 2) setting .entry endsEntry) (.value :: nodeKinds d)
        (nodeOf d) := by
      rw [readValue]
      refine Takes.peek (fun _ => TokenKind.noConfusion) ?_
      rw [if_pos rfl]
      exact Takes.drop hpart
    have hkey : Takes (readPart (fuel + 2) setting .entry endsEntry)
        [textKind (isSimpleKey key) key] (.scalar .text key) :=
      takes_part (fun _ => TokenKind.noConfusion) rfl (takes_text hversion)
    have hrest := ih (fun x hx => hentries x (List.mem_cons_of_mem _ hx))
      (show 2 * (entriesKinds rest).length + 1 ≤ fuel + 2 by omega)
    rw [entryNodes, readEntries]
    simp only [List.cons_append, List.append_assoc]
    exact Takes.peek (fun _ => TokenKind.noConfusion) (Takes.drop (hkey.bind (hvalue.bind (hrest.last rfl))))

theorem parses_list {items : List Document} (hitems : ∀ d ∈ items, Parses d) :
    Parses (.list items) := by
  intro setting place fuel hversion hplace hfuel
  cases items with
  | nil =>
    rw [nodeKinds] at hfuel ⊢
    obtain ⟨fuel, rfl⟩ : ∃ n, fuel = n + 2 := ⟨fuel - 2, by simp at hfuel; omega⟩
    rw [nodeOf, nodesOf]
    exact takes_emptyList
  | cons d rest =>
    rw [nodeKinds_list] at hfuel ⊢
    simp only [List.length_cons, List.length_append] at hfuel
    obtain ⟨fuel, rfl⟩ : ∃ n, fuel = n + 1 := ⟨fuel - 1, by omega⟩
    rw [nodeOf]
    exact takes_blockList hplace (takes_items hitems hversion (by omega))

theorem parses_mapping {entries : List (String × Document)} (hentries : ∀ e ∈ entries, Parses e.2) :
    Parses (.mapping entries) := by
  intro setting place fuel hversion hplace hfuel
  cases entries with
  | nil =>
    rw [nodeKinds] at hfuel ⊢
    obtain ⟨fuel, rfl⟩ : ∃ n, fuel = n + 2 := ⟨fuel - 2, by simp at hfuel; omega⟩
    rw [nodeOf, entryNodes]
    exact takes_emptyMapping
  | cons e rest =>
    rw [nodeKinds_mapping] at hfuel ⊢
    simp only [List.length_cons, List.length_append] at hfuel
    obtain ⟨fuel, rfl⟩ : ∃ n, fuel = n + 1 := ⟨fuel - 1, by omega⟩
    rw [nodeOf]
    exact takes_blockMapping hplace (takes_entries hentries hversion (by omega))

theorem parses (d : Document) : Parses d := by
  induction d using Document.induct with
  | text s => exact parses_text s
  | number n => exact parses_number n
  | list items ih => exact parses_list ih
  | mapping entries ih => exact parses_mapping ih

end

end EndpointUpgrade.Yaml
