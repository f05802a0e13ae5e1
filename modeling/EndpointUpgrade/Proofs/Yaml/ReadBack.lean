import EndpointUpgrade.Proofs.Yaml.Values

/-!
# Written documents read back

A stream of documents is read as the values of these documents, in order, if each of them is a
mapping that keeps what it says and no mapping in it has a key twice. The text is nested no more deeply
than the documents.
-/

namespace EndpointUpgrade.Yaml

open Document Text

variable {d : Document} {documents : List Document} {fuel : Nat} {k : TokenKind}

/-! ## One document -/

theorem looks_dropDocumentEnds (hk : IsSound k) (hend : k ≠ .documentEnd) :
    Looks (dropDocumentEnds (fuel + 1)) k () := by
  rw [dropDocumentEnds]
  refine (looks_peekKind hk).bind ?_
  rw [if_neg hend]
  exact Looks.pure ()

theorem looks_readDirectives (directives : Directives) :
    Looks (readDirectives (fuel + 1) directives) .documentStart directives := by
  rw [readDirectives]
  have hk : IsSound .documentStart := nofun
  exact (looks_peekKind hk).bind (Looks.pure directives)

theorem looks_readDocumentEnd (hk : IsSound k) (hend : k ≠ .documentEnd) :
    Looks readDocumentEnd k false := by
  intro r later h
  obtain ⟨t, hrun, rfl⟩ := peekToken_run hk h
  rw [readDocumentEnd, run_bind_of_ok hrun]
  rw [if_pos hend]
  rfl

theorem takes_documentStart : Takes (expect .documentStart) [.documentStart] () := by
  rw [expect]
  refine Takes.peek nofun ?_
  rw [if_pos rfl]
  exact takes_dropToken .documentStart

/-- A token that a stream goes on with between two documents. -/
theorem exists_streamKinds (documents : List Document) :
    ∃ k ks, streamKinds documents = k :: ks ∧ IsSound k ∧ k ≠ .documentEnd := by
  cases documents with
  | nil => exact ⟨_, _, rfl, nofun, nofun⟩
  | cons d rest => exact ⟨_, _, rfl, nofun, nofun⟩

theorem readDocument_run {r : Reader} {b : Bool}
    (hfuel : 2 * (nodeKinds d).length + 1 ≤ fuel)
    (h : r.tokens.map (·.kind) = streamKinds (d :: documents)) :
    ∃ r', (readDocument fuel b .v1_2).run r =
        .ok ((some (nodeOf d, .v1_2), false), r') ∧
      r'.tokens.map (·.kind) = streamKinds documents := by
  obtain ⟨fuel, rfl⟩ : ∃ n, fuel = n + 1 := ⟨fuel - 1, by omega⟩
  have hstart : r.tokens.map (·.kind) =
      .documentStart :: (nodeKinds d ++ streamKinds documents) := h
  obtain ⟨r₁, hexpect, h₁⟩ := takes_documentStart r _ hstart
  obtain ⟨r₂, hnode, h₂⟩ := parses d ⟨.v1_2, [] ++ defaultHandles⟩ .block (fuel + 1)
    rfl nofun (by omega) r₁ _ h₁
  obtain ⟨k, ks, hkinds, hk, -, -, hcontent⟩ := exists_nodeKinds d
  obtain ⟨next, later, hnext, hsound, hend⟩ := exists_streamKinds documents
  have hfirst : r₁.tokens.map (·.kind) = k :: (ks ++ streamKinds documents) := by
    rw [h₁, hkinds]
    rfl
  have hsign : IsSound .documentStart := nofun
  have hpeek := looks_peekKind hsign r _ hstart
  refine ⟨r₂, ?_, h₂⟩
  rw [readDocument, run_bind_of_ok hpeek, if_neg (by simp [needsStartSign]),
    run_bind_of_ok (looks_dropDocumentEnds hsign nofun r _ hstart), run_bind_of_ok hpeek,
    if_neg nofun, run_bind_of_ok (looks_readDirectives _ r _ hstart), run_bind_of_ok hexpect]
  dsimp only
  rw [run_bind_of_ok (looks_peekKind hk r₁ _ hfirst), if_neg (by simp [hcontent])]
  change StateT.run (readNode (fuel + 1) ⟨.v1_2, [] ++ defaultHandles⟩ .block >>= _) r₁ = _
  rw [run_bind_of_ok hnode,
    run_bind_of_ok (looks_readDocumentEnd hsound hend r₂ later (by rw [h₂, hnext]))]
  rfl

theorem next_stream {s : Stream} (hversion : s.version = .v1_2)
    (h : s.tokens.map (·.kind) = streamKinds (d :: documents)) :
    ∃ ts, s.next = .ok (some (nodeOf d, .v1_2), ⟨ts, false, .v1_2⟩) ∧
      ts.map (·.kind) = streamKinds documents := by
  have hlength : (nodeKinds d).length ≤ s.tokens.length := by
    have hkinds := congrArg List.length h
    rw [List.length_map, streamKinds] at hkinds
    simp only [List.cons_append, List.length_cons, List.length_append] at hkinds
    omega
  obtain ⟨r, hrun, hkinds⟩ := readDocument_run (r := ⟨s.tokens, []⟩) (b := s.bareAllowed)
    (show 2 * (nodeKinds d).length + 1 ≤ 4 * s.tokens.length + 8 by omega) h
  refine ⟨r.tokens, ?_, hkinds⟩
  rw [Stream.next, hversion, hrun]
  rfl

theorem next_streamEnd {s : Stream} (h : s.tokens.map (·.kind) = [.streamEnd]) :
    ∃ s', s.next = .ok (none, s') := by
  have hend : IsSound .streamEnd := nofun
  let r : Reader := ⟨s.tokens, []⟩
  have hpeek := looks_peekKind hend r [] h
  have hrun : (readDocument (4 * s.tokens.length + 8) s.bareAllowed s.version).run r =
      .ok ((none, false), r) := by
    rw [readDocument, run_bind_of_ok hpeek, if_neg (by simp [needsStartSign]),
      run_bind_of_ok (looks_dropDocumentEnds hend nofun r [] h), run_bind_of_ok hpeek, if_pos rfl]
    rfl
  refine ⟨⟨s.tokens, false, s.version⟩, ?_⟩
  rw [Stream.next, hrun]
  rfl

/-! ## Streams -/

theorem values_stream {s : Stream} (hversion : s.version = .v1_2)
    (hproper : ∀ d ∈ documents, Proper d) (h : s.tokens.map (·.kind) = streamKinds documents)
    (hfuel : documents.length + 1 ≤ fuel) :
    s.values fuel = .ok (documents.map Document.toValue) := by
  induction documents generalizing s fuel with
  | nil =>
    obtain ⟨fuel, rfl⟩ := Nat.exists_eq_add_of_le' hfuel
    obtain ⟨s', hnext⟩ := next_streamEnd h
    change s.values (fuel + 1) = _
    rw [Stream.values, hnext]
    rfl
  | cons d rest ih =>
    obtain ⟨fuel, rfl⟩ : ∃ n, fuel = n + 1 := ⟨fuel - 1, by omega⟩
    obtain ⟨ts, hnext, hkinds⟩ := next_stream hversion h
    have hrest : Stream.values fuel ⟨ts, false, .v1_2⟩ = .ok (rest.map Document.toValue) :=
      ih rfl (fun x hx => hproper x (List.mem_cons_of_mem _ hx)) hkinds
        (Nat.le_of_succ_le_succ hfuel)
    have hvalue := Node.toValue_nodeOf (hproper d List.mem_cons_self)
    rw [Stream.values, hnext]
    dsimp only [bind, Except.bind]
    rw [hvalue, hrest, List.map_cons]
    -- only a null would be left out
    cases d <;> rw [Document.toValue] <;> rfl

theorem length_le_streamKinds (documents : List Document) :
    documents.length + 1 ≤ (streamKinds documents).length := by
  induction documents with
  | nil => exact Nat.le_refl 1
  | cons d rest ih =>
    rw [streamKinds]
    simp only [List.cons_append, List.length_cons, List.length_append]
    omega

/-! ## Characters -/

/-- A text of clean characters. -/
def Clean (cs : List Char) : Prop := ∀ c ∈ cs, isClean c = true

@[simp]
theorem clean_nil : Clean [] := by simp [Clean]

@[simp]
theorem clean_cons {c : Char} {cs : List Char} : Clean (c :: cs) ↔ isClean c = true ∧ Clean cs := by
  simp [Clean]

@[simp]
theorem clean_append {cs ds : List Char} : Clean (cs ++ ds) ↔ Clean cs ∧ Clean ds := by
  simp [Clean, or_imp, forall_and]

@[simp]
theorem clean_margin (column : Nat) : Clean (margin column) := by
  intro c hc
  rw [Cursor.mem_margin hc]
  decide

@[simp]
theorem clean_newLine (column : Nat) : Clean (newLine column) := by
  rw [newLine, clean_cons]
  exact ⟨by decide, clean_margin column⟩

@[simp]
theorem clean_scalarChars (folding : Folding) (inKey : Bool) (column : Nat) (s : String) :
    Clean (scalarChars folding inKey column s) := fun _ hc => isClean_scalarChars folding column hc

theorem isSign_of_isDigit {c : Char} (hc : isDigit c = true) : IsSign c := by
  simp only [isDigit, Bool.and_eq_true, decide_eq_true_eq] at hc
  exact ⟨Char.le_trans (by decide) hc.1, Char.le_trans hc.2 (by decide)⟩

@[simp]
theorem clean_numberChars (folding : Folding) (column : Nat) (n : Int) :
    Clean (numberChars folding column n) := by
  intro c hc
  rcases mem_plainRest folding column none hc with hc | rfl | rfl
  · obtain ⟨d, rest, hcs, hrest, hd⟩ := exists_integer n
    rw [hcs] at hc
    rcases List.mem_cons.mp hc with rfl | hc
    · rcases hd with hdigit | ⟨rfl, -⟩
      · exact (isSign_of_isDigit hdigit).isClean
      · decide
    · exact (isSign_of_isDigit (hrest c hc)).isClean
  · decide
  · decide

@[simp]
theorem clean_keyChars (indent : Nat) (key : String) : Clean (keyChars indent key) := by
  rw [keyChars]
  split
  · simp
    decide
  · simp
    decide

/-- What is written of a document is clean, wherever it stands. -/
structure WritesClean (d : Document) : Prop where
  value (indent column : Nat) : Clean (valueChars indent column d)
  item (column : Nat) : Clean (itemChars column d)

theorem clean_itemsChars {items : List Document} (h : ∀ d ∈ items, WritesClean d) (indent : Nat)
    (begun : Bool) : Clean (itemsChars indent begun items) := by
  induction items generalizing begun with
  | nil => rw [itemsChars]; exact clean_nil
  | cons d rest ih =>
    have hitem := (h d List.mem_cons_self).item (indent + 4)
    have hrest := ih (fun x hx => h x (List.mem_cons_of_mem _ hx)) false
    rw [itemsChars]
    cases begun <;> simp [hitem, hrest] <;> decide

theorem clean_entriesChars {entries : List (String × Document)} (h : ∀ e ∈ entries, WritesClean e.2)
    (indent : Nat) (begun : Bool) : Clean (entriesChars indent begun entries) := by
  induction entries generalizing begun with
  | nil => rw [entriesChars]; exact clean_nil
  | cons e rest ih =>
    obtain ⟨key, d⟩ := e
    have hvalue := (h (key, d) List.mem_cons_self).value indent (columnAfterKey indent key)
    have hrest := ih (fun x hx => h x (List.mem_cons_of_mem _ hx)) false
    rw [entriesChars]
    cases begun <;> simp [hvalue, hrest]

theorem writesClean (d : Document) : WritesClean d := by
  induction d using Document.induct with
  | text s =>
    refine ⟨fun indent column => ?_, fun column => ?_⟩
    · rw [valueChars]; simp; decide
    · rw [itemChars]; simp; decide
  | number n =>
    refine ⟨fun indent column => ?_, fun column => ?_⟩
    · rw [valueChars]; simp; decide
    · rw [itemChars]; simp; decide
  | list items ih =>
    cases items with
    | nil =>
      exact ⟨fun _ _ => by rw [valueChars]; simp; decide, fun _ => by rw [itemChars]; simp; decide⟩
    | cons d rest =>
      refine ⟨fun indent column => ?_, fun column => ?_⟩
      · rw [valueChars, clean_cons]
        · exact ⟨by decide, clean_itemsChars ih indent false⟩
        · exact List.cons_ne_nil _ _
      · rw [itemChars]
        · exact clean_itemsChars ih column true
        · exact List.cons_ne_nil _ _
  | mapping entries ih =>
    cases entries with
    | nil =>
      exact ⟨fun _ _ => by rw [valueChars]; simp; decide, fun _ => by rw [itemChars]; simp; decide⟩
    | cons e rest =>
      refine ⟨fun indent column => ?_, fun column => ?_⟩
      · rw [valueChars, clean_cons]
        · exact ⟨by decide, clean_entriesChars ih (indent + 2) false⟩
        · exact List.cons_ne_nil _ _
      · rw [itemChars]
        · exact clean_entriesChars ih column true
        · exact List.cons_ne_nil _ _

theorem clean_documentChars (d : Document) : Clean (documentChars d) := by
  have hitem := (writesClean d).item 0
  cases d with
  | mapping entries =>
    have hentries := clean_entriesChars (fun e (_ : e ∈ entries) => writesClean e.2) 0 false
    cases entries with
    | nil => rw [documentChars]; simp; decide
    | cons e more =>
      rw [documentChars]
      · simp only [clean_cons]
        exact ⟨by decide, by decide, by decide, by decide, hentries⟩
      · exact List.cons_ne_nil _ _
  | text s =>
    rw [documentChars]
    · simp [hitem]
      decide
    · exact Document.noConfusion
    · exact fun _ => Document.noConfusion
  | number n =>
    rw [documentChars]
    · simp [hitem]
      decide
    · exact Document.noConfusion
    · exact fun _ => Document.noConfusion
  | list items =>
    rw [documentChars]
    · simp [hitem]
      decide
    · exact Document.noConfusion
    · exact fun _ => Document.noConfusion

theorem clean_write (documents : List Document) : Clean (write documents).toList := by
  intro c hc
  rw [write, String.toList_ofList] at hc
  obtain ⟨d, -, hc⟩ := List.mem_flatMap.mp hc
  exact clean_documentChars d c hc

/-! ## Texts -/

theorem Keeps.proper {n : Nat} (hkept : Keeps d) (horderly : Orderly n d) : Proper d := by
  cases d with
  | mapping entries =>
    cases horderly with
    | mapping hkeys h =>
      exact .mapping hkeys fun e he => (h e he).proper.1 _ _ (KeepsEntries.value hkept he)
  | text s => exact hkept.elim
  | number n => exact hkept.elim
  | list items => exact hkept.elim

/-- A text of documents is read as the documents that have its tokens. -/
theorem read_write_of_kinds {meant : List Document}
    (hkinds : (tokens (documents.flatMap documentChars)).map (·.kind) = streamKinds meant)
    (hproper : ∀ d ∈ meant, Proper d) :
    read (write documents) = .ok (meant.map Document.toValue) := by
  have hallowed : (write documents).toList.all isAllowed = true := by
    refine List.all_eq_true.mpr fun c hc => ?_
    have hclean := clean_write documents c hc
    simp only [isClean, Bool.and_eq_true] at hclean
    exact hclean.1
  have hlength : meant.length + 1 ≤ (tokens (documents.flatMap documentChars)).length + 1 := by
    have hcount := congrArg List.length hkinds
    rw [List.length_map] at hcount
    have := length_le_streamKinds meant
    omega
  rw [read, if_pos hallowed, write, String.toList_ofList]
  exact values_stream rfl hproper hkinds hlength

/-- Documents that keep what they say are read back from the text of all of them. -/
theorem read_write {n : Nat} (hkept : ∀ d ∈ documents, Keeps d)
    (horderly : ∀ d ∈ documents, Orderly n d) :
    read (write documents) = .ok (documents.map Document.toValue) :=
  read_write_of_kinds (kinds_tokens hkept) fun d hd => (hkept d hd).proper (horderly d hd)

/-! ## Nesting -/

/-- Tokens without aliases that never have more than `m` collections open. -/
structure Fits (m opened : Nat) (ks : List TokenKind) : Prop where
  openAtOnce_le : openAtOnce opened ks ≤ m
  noAlias : ks.all (!·.isAlias) = true

namespace Fits

variable {m o n : Nat} {ks : List TokenKind}

theorem le (h : Fits m o ks) : o ≤ m := by
  have hle := h.openAtOnce_le
  cases ks with
  | nil => exact hle
  | cons k ks => exact Nat.le_trans (Nat.le_max_left _ _) hle

theorem step {o' : Nat} (halias : k.isAlias = false) (hle : o ≤ m)
    (hnext : (if k.opens then o + 1 else if k.closes then o - 1 else o) = o')
    (h : Fits m o' ks) : Fits m o (k :: ks) := by
  constructor
  · rw [openAtOnce, hnext]
    exact Nat.max_le.mpr ⟨hle, h.openAtOnce_le⟩
  · rw [List.all_cons, halias, h.noAlias]
    rfl

theorem opening (hk : k.opens = true) (halias : k.isAlias = false) (h : Fits m (o + 1) ks) :
    Fits m o (k :: ks) :=
  step halias (Nat.le_of_succ_le h.le) (if_pos hk) h

theorem closing (hopen : k.opens = false) (hk : k.closes = true) (halias : k.isAlias = false)
    (hroom : o + 1 ≤ m) (h : Fits m o ks) : Fits m (o + 1) (k :: ks) :=
  step halias hroom (by rw [hopen, hk]; rfl) h

theorem between (hopen : k.opens = false) (hclose : k.closes = false) (halias : k.isAlias = false)
    (h : Fits m o ks) : Fits m o (k :: ks) :=
  step halias h.le (by rw [hopen, hclose]; rfl) h

theorem itemsKinds {items : List Document}
    (hitems : ∀ d ∈ items, ∀ ks, Fits m o ks → Fits m o (nodeKinds d ++ ks)) (h : Fits m o ks) :
    Fits m o (itemsKinds items ++ ks) := by
  induction items with
  | nil => exact h
  | cons d rest ih =>
    simp only [Yaml.itemsKinds, List.cons_append, List.append_assoc]
    exact between rfl rfl rfl (hitems d List.mem_cons_self _
      (ih fun x hx => hitems x (List.mem_cons_of_mem _ hx)))

theorem entriesKinds {entries : List (String × Document)}
    (hentries : ∀ e ∈ entries, ∀ ks, Fits m o ks → Fits m o (nodeKinds e.2 ++ ks))
    (h : Fits m o ks) : Fits m o (entriesKinds entries ++ ks) := by
  induction entries with
  | nil => exact h
  | cons e rest ih =>
    obtain ⟨key, d⟩ := e
    simp only [Yaml.entriesKinds, List.cons_append, List.append_assoc]
    exact between rfl rfl rfl (between rfl rfl rfl (between rfl rfl rfl
      (hentries (key, d) List.mem_cons_self _
        (ih fun x hx => hentries x (List.mem_cons_of_mem _ hx)))))

theorem nodeKinds (horderly : Orderly n d) (hroom : o + n ≤ m) (h : Fits m o ks) :
    Fits m o (nodeKinds d ++ ks) := by
  induction horderly generalizing o ks with
  | text s => exact between rfl rfl rfl h
  | number k => exact between rfl rfl rfl h
  | @list n items _ ih =>
    cases items with
    | nil => exact opening rfl rfl (closing rfl rfl rfl (by omega) h)
    | cons d rest =>
      have hend : Fits m (o + 1) (.blockEnd :: ks) := closing rfl rfl rfl (by omega) h
      rw [nodeKinds_list, List.cons_append, List.append_assoc]
      exact opening rfl rfl (itemsKinds (fun d hd ks => ih d hd (by omega)) hend)
  | @mapping n entries _ _ ih =>
    cases entries with
    | nil => exact opening rfl rfl (closing rfl rfl rfl (by omega) h)
    | cons e rest =>
      have hend : Fits m (o + 1) (.blockEnd :: ks) := closing rfl rfl rfl (by omega) h
      rw [nodeKinds_mapping, List.cons_append, List.append_assoc]
      exact opening rfl rfl (entriesKinds (fun e he ks => ih e he (by omega)) hend)

theorem streamKinds (horderly : ∀ d ∈ documents, Orderly m d) :
    Fits m 0 (streamKinds documents) := by
  induction documents with
  | nil => exact ⟨Nat.zero_le m, rfl⟩
  | cons d rest ih =>
    exact between rfl rfl rfl (nodeKinds (horderly d List.mem_cons_self) (by omega)
      (ih fun x hx => horderly x (List.mem_cons_of_mem _ hx)))

end Fits

/-- A text with the tokens of documents is as shallow as these documents. -/
theorem isShallow_write_of_kinds {meant : List Document}
    (hkinds : (tokens (documents.flatMap documentChars)).map (·.kind) = streamKinds meant)
    (horderly : ∀ d ∈ meant, Orderly 16 d) : isShallow (write documents) = true := by
  have hfits := Fits.streamKinds horderly
  rw [isShallow, write, String.toList_ofList, hkinds, Bool.and_eq_true, decide_eq_true_iff]
  exact ⟨hfits.openAtOnce_le, hfits.noAlias⟩

end EndpointUpgrade.Yaml
