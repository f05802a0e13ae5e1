import EndpointUpgrade.Proofs.Yaml.KeyToken
import EndpointUpgrade.Proofs.Yaml.Kept

/-!
# Tokens of a written document

The text of a document, line by line, gives the tokens of its parts in order. What is said of a part
is said with the lines that follow it: whatever tokens these give, the part puts its own in front.
-/

namespace EndpointUpgrade.Yaml

open Lexer

/-! ## The tokens of a document -/

mutual

def nodeKinds : Document → List TokenKind
  | .text s => [textKind false s]
  | .number n => [numberKind n]
  | .list [] => [.flowSequenceStart, .flowSequenceEnd]
  | .list items => .blockSequenceStart :: itemsKinds items ++ [.blockEnd]
  | .mapping [] => [.flowMappingStart, .flowMappingEnd]
  | .mapping entries => .blockMappingStart :: entriesKinds entries ++ [.blockEnd]

def itemsKinds : List Document → List TokenKind
  | [] => []
  | d :: rest => .blockEntry :: nodeKinds d ++ itemsKinds rest

def entriesKinds : List (String × Document) → List TokenKind
  | [] => []
  | (key, d) :: rest =>
    .key :: textKind (isSimpleKey key) key :: .value :: nodeKinds d ++ entriesKinds rest

end

theorem nodeKinds_list (d : Document) (rest : List Document) :
    nodeKinds (.list (d :: rest)) =
      .blockSequenceStart :: (itemsKinds (d :: rest) ++ [.blockEnd]) := by
  rw [nodeKinds]
  · rfl
  · exact List.cons_ne_nil _ _

theorem nodeKinds_mapping (e : String × Document) (rest : List (String × Document)) :
    nodeKinds (.mapping (e :: rest)) =
      .blockMappingStart :: (entriesKinds (e :: rest) ++ [.blockEnd]) := by
  rw [nodeKinds]
  · rfl
  · exact List.cons_ne_nil _ _

/-! ## Lines -/

/-- From the beginning of a line on, with block collections open at some columns, a text gives
tokens of the given kinds. The line is indented no further than a bound. -/
def LinesGive (columns : List Nat) (bound : Nat) (text : List Char) (ks : List TokenKind) : Prop :=
  ∃ j rest later, text = margin j ++ rest ∧ j ≤ bound ∧ StartsToken j rest ∧
    Spot.Yields ⟨rest, j, openFrom j columns, true⟩ later ∧ ks = endsFrom j columns ++ later

variable {columns : List Nat} {bound column c indent : Nat} {allowed : Bool} {text : List Char}
  {ks : List TokenKind}

/-- A line within a bound ends a block collection that is indented further. -/
theorem LinesGive.close (h : LinesGive columns bound text ks) (hc : bound < c) {b : Nat}
    (hb : bound ≤ b) : LinesGive (c :: columns) b text (.blockEnd :: ks) := by
  obtain ⟨j, rest, later, rfl, hj, hrest, hlater, rfl⟩ := h
  obtain ⟨hopen, hends⟩ := openFrom_of_lt columns (show (j : Int) < c by omega)
  refine ⟨j, rest, later, rfl, Nat.le_trans hj hb, hrest, ?_, ?_⟩
  · rw [hopen]
    exact hlater
  · rw [hends, List.cons_append]

/-- A token at the column of the innermost collection begins a line. -/
theorem linesGive_of_yields {rest : List Char} (hrest : StartsToken c rest)
    (h : Spot.Yields ⟨rest, c, c :: columns, true⟩ ks) :
    LinesGive (c :: columns) c (margin c ++ rest) ks := by
  obtain ⟨hopen, hends⟩ := openFrom_of_le (show ∀ d ∈ (c :: columns).head?, d ≤ c by simp)
  refine ⟨c, rest, ks, rfl, Nat.le_refl c, hrest, ?_, ?_⟩
  · rw [hopen]
    exact h
  · rw [hends, List.nil_append]

theorem startsToken_word {cs : List Char} (hcs : PlainWords cs) (folding : Folding)
    (column' column : Nat) (tail : List Char) :
    StartsToken column (wordChars folding column' cs ++ tail) := by
  obtain ⟨c, rest, rfl, hsolid, hne⟩ := hcs.head
  exact ⟨.of_isSolid hsolid, hne⟩

theorem startsToken_quoted (double : Bool) (written tail : List Char) (column : Nat) :
    StartsToken column (quotedChars double written ++ tail) := by
  cases double
  · exact ⟨⟨by decide, by decide⟩, by decide⟩
  · exact ⟨⟨by decide, by decide⟩, by decide⟩

/-- A scalar behind a space, up to the end of its line. -/
theorem gives_scalar {written : List Char} {kind : TokenKind}
    (h : ReadsScalar (some indent) (column + 1) written kind) (hindent : c < indent)
    (hcolumn : c ≤ column) (htext : LinesGive (c :: columns) c text ks) :
    Spot.Gives ⟨' ' :: (written ++ '\n' :: text), column, c :: columns, allowed⟩ (kind :: ks) := by
  obtain ⟨j, rest, later, rfl, hj, hrest, hlater, rfl⟩ := htext
  have hinside : ∀ d ∈ (c :: columns).head?, d ≤ column + 1 := by
    simp only [List.head?_cons, Option.mem_def, Option.some.injEq]
    rintro d rfl
    omega
  cases h with
  | @quoted written cs double hread =>
    have hyields : Spot.Yields
        ⟨quotedChars double written ++ (newLine j ++ rest), column + 1, c :: columns, allowed⟩ _ :=
      yields_quoted hread (by simp; omega) hrest hlater
    exact gives_inLine (m := 1) (startsToken_quoted double _ _ _) hinside hyields
  | @plain cs hcs =>
    obtain ⟨d, more, rfl, hsolid, -⟩ := hcs.words.head
    have hfolding : ∀ f, some indent = some f → c < f := by simpa using hindent
    rcases plainRest_word (some indent) (column + 1) none more (ne_space_of_isSolid hsolid) with
      hwritten | ⟨i, hi, -, -, hwritten⟩
    · rw [hwritten]
      have hyields : Spot.Yields ⟨wordChars (some indent) (column + 1) (d :: more) ++
          (newLine j ++ rest), column + 1, c :: columns, allowed⟩ _ :=
        yields_plain hcs hfolding (Nat.lt_succ_of_le hcolumn) hj hrest hlater
      exact gives_inLine (m := 1) (startsToken_word hcs.words _ _ _ _) hinside hyields
    · -- a word that is longer than a line stands on the next one
      obtain rfl : indent = i := by simpa using hi
      obtain ⟨hopen, hends⟩ :=
        openFrom_of_le (show ∀ d ∈ (c :: columns).head?, d ≤ indent by simp; omega)
      have hyields : Spot.Yields ⟨wordChars (some indent) indent (d :: more) ++
          (newLine j ++ rest), indent, c :: columns, true⟩ _ :=
        yields_plain hcs hfolding hindent hj hrest hlater
      rw [← hopen] at hyields
      have hgives : Spot.Gives ⟨margin 1 ++ newLine indent ++
          (wordChars (some indent) indent (d :: more) ++ (newLine j ++ rest)), column, c :: columns,
            allowed⟩ _ :=
        gives_nextLine (startsToken_word hcs.words _ _ _ _) hyields
      rw [hends, hopen] at hgives
      rw [hwritten, List.append_assoc]
      exact hgives

/-- Brackets with nothing between them behind a space, up to the end of their line. -/
theorem gives_empty (b : Bracket) (hcolumn : c ≤ column)
    (htext : LinesGive (c :: columns) c text ks) :
    Spot.Gives ⟨' ' :: openingSign b :: closingSign b :: '\n' :: text, column, c :: columns, allowed⟩
      (openingKind b :: closingKind b :: ks) := by
  obtain ⟨j, rest, later, rfl, hj, hrest, hlater, rfl⟩ := htext
  have hinside : ∀ d ∈ (c :: columns).head?, d ≤ column + 1 := by
    simp only [List.head?_cons, Option.mem_def, Option.some.injEq]
    rintro d rfl
    omega
  have hstarts : StartsToken (column + 1) (openingSign b :: closingSign b :: (newLine j ++ rest)) := by
    cases b
    · exact ⟨⟨by decide, by decide⟩, by decide⟩
    · exact ⟨⟨by decide, by decide⟩, by decide⟩
  have hyields : Spot.Yields ⟨openingSign b :: closingSign b :: (newLine j ++ rest), column + 1,
      c :: columns, allowed⟩ _ :=
    yields_empty b (by simp; omega) hrest hlater
  exact gives_inLine (m := 1) hstarts hinside hyields

/-! ## Keys -/

variable {inside : List Nat} {opening : List TokenKind} {key : String} {rest : List Char}

theorem ReadsScalar.length_pos {folding : Folding} {written : List Char} {kind : TokenKind}
    (h : ReadsScalar folding column written kind) : 0 < written.length := by
  cases h with
  | quoted double _ => exact Nat.succ_pos _
  | plain hcs =>
    obtain ⟨d, more, rfl, hsolid, -⟩ := hcs.words.head
    rcases plainRest_word folding column none more (ne_space_of_isSolid hsolid) with
      hwritten | ⟨i, -, -, -, hwritten⟩
    · rw [hwritten]
      exact Nat.succ_pos _
    · rw [hwritten]
      exact Nat.succ_pos _

/-- A scalar on one line in front of a colon is held back as a key. -/
theorem ReadsScalar.fetch_key {written : List Char} {kind : TokenKind}
    (h : ReadsScalar none column written kind)
    (hopens : Opens .blockMappingStart column columns inside opening)
    (hblank : isBlankOrEnd rest.head? = true) (p : Lexer) (waiting : Bool)
    (hp : p.Shows ⟨written ++ ':' :: rest, column, columns, true⟩) :
    ∃ required, p.fetch waiting = .ok (p.holding required kind written.length) := by
  cases h with
  | quoted double hread => exact fetch_quotedKey hread waiting hp
  | plain hcs =>
    rw [plainRest_none] at hp ⊢
    exact fetch_plainKey hcs hblank (hopens.indent_le hp.stack) waiting hp

/-- A key and its colon, up to the value. -/
theorem yields_keyChars (hopens : Opens .blockMappingStart c columns inside opening)
    (hkept : KeepsKey c key) (hblank : isBlankOrEnd rest.head? = true)
    (h : ∀ allowed, Spot.Gives ⟨rest, columnAfterKey c key, inside, allowed⟩ ks) :
    Spot.Yields ⟨keyChars c key ++ rest, c, columns, true⟩
      (opening ++ .key :: textKind (isSimpleKey key) key :: .value :: ks) := by
  cases hsimple : isSimpleKey key with
  | true =>
    rw [KeepsKey, if_pos hsimple] at hkept
    obtain ⟨hreads, hinline⟩ := readsScalar_key c hsimple
    have hcolumn : columnAfterKey c key = c + (scalarChars none true c key).length + 1 := by
      rw [columnAfterKey, keyChars, if_pos hsimple, if_pos hsimple, List.length_append]
      rfl
    have hgives := h false
    rw [hcolumn] at hgives
    rw [keyChars, if_pos hsimple, List.append_assoc]
    exact yields_key hopens TokenKind.noConfusion hreads.length_pos hinline hkept hblank
      (hreads.fetch_key hopens hblank) hgives
  | false =>
    have hlong : ¬isSimpleKey key = true := by simp [hsimple]
    rw [KeepsKey, if_neg hlong] at hkept
    have hcolumn : columnAfterKey c key = c + 1 := by rw [columnAfterKey, if_neg hlong]
    obtain ⟨outer, rfl⟩ := hopens.inside_eq
    have hgives := h true
    rw [hcolumn] at hgives
    have hcolon : StartsToken c (':' :: rest) := ⟨⟨by decide, by decide⟩, by decide⟩
    have hline := linesGive_of_yields hcolon (yields_colon hblank hgives)
    have hscalar : Spot.Gives
        ⟨' ' :: (scalarChars (some (c + 2)) false (c + 2) key ++ '\n' :: (margin c ++ ':' :: rest)),
          c + 1, c :: outer, true⟩ _ :=
      gives_scalar (readsScalar_text (Nat.succ_pos _) hkept) (by omega) (by omega) hline
    have hyields := yields_keySign hopens hscalar
    rw [keyChars, if_neg hlong]
    simpa [newLine] using hyields

theorem ReadsScalar.startsToken {written : List Char} {kind : TokenKind}
    (h : ReadsScalar none column written kind) (tail : List Char) :
    StartsToken column (written ++ tail) := by
  cases h with
  | quoted double _ => exact startsToken_quoted double _ _ _
  | @plain cs hcs =>
    have hstarts := startsToken_word hcs.words none column column tail
    rw [wordChars_none] at hstarts
    rw [plainRest_none]
    exact hstarts

theorem startsToken_keyChars (indent : Nat) (key : String) (rest : List Char) :
    StartsToken indent (keyChars indent key ++ rest) := by
  cases hsimple : isSimpleKey key with
  | false =>
    rw [keyChars, if_neg (by simp [hsimple])]
    exact ⟨⟨by decide, by decide⟩, by decide⟩
  | true =>
    rw [keyChars, if_pos hsimple, List.append_assoc]
    exact (readsScalar_key indent hsimple).1.startsToken _

/-! ## Collections -/

/-- A document gives its tokens, behind the colon of a key and behind the sign of an item. -/
structure Lexes (d : Document) : Prop where
  value {indent column : Nat} {outer : List Nat} {allowed : Bool} {text : List Char}
    {ks : List TokenKind} (hkept : KeepsValue indent column d) (hcolumn : indent ≤ column)
    (htext : LinesGive (indent :: outer) indent text ks) :
    Spot.Gives ⟨valueChars indent column d ++ text, column, indent :: outer, allowed⟩
      (nodeKinds d ++ ks)
  item {c : Nat} {outer : List Nat} {text : List Char} {ks : List TokenKind}
    (hkept : KeepsItem (c + 2) d) (htext : LinesGive (c :: outer) c text ks) :
    Spot.Gives ⟨' ' :: (itemChars (c + 2) d ++ text), c + 1, c :: outer, true⟩ (nodeKinds d ++ ks)

/-- A scalar does so if what is written of it is read as its token. -/
theorem lexes_scalar {d : Document} {kind : TokenKind} (written : Nat → Nat → List Char)
    (hkind : nodeKinds d = [kind])
    (hvalue : ∀ indent column,
      valueChars indent column d = ' ' :: written (indent + 2) (column + 1) ++ ['\n'])
    (hitem : ∀ column, itemChars column d = written column column ++ ['\n'])
    (hvalueReads : ∀ indent column, KeepsValue indent column d →
      ReadsScalar (some (indent + 2)) (column + 1) (written (indent + 2) (column + 1)) kind)
    (hitemReads : ∀ column, KeepsItem (column + 2) d →
      ReadsScalar (some (column + 2)) (column + 2) (written (column + 2) (column + 2)) kind) :
    Lexes d where
  value {indent column outer allowed text ks} hkept hcolumn htext := by
    have hgives : Spot.Gives ⟨' ' :: (written (indent + 2) (column + 1) ++ '\n' :: text), column,
        indent :: outer, allowed⟩ (kind :: ks) :=
      gives_scalar (hvalueReads indent column hkept) (by omega) hcolumn htext
    rw [hvalue, hkind, List.append_assoc]
    exact hgives
  item {c outer text ks} hkept htext := by
    have hgives : Spot.Gives ⟨' ' :: (written (c + 2) (c + 2) ++ '\n' :: text), c + 1, c :: outer,
        true⟩ (kind :: ks) :=
      gives_scalar (hitemReads c hkept) (by omega) (by omega) htext
    rw [hitem, hkind, List.append_assoc]
    exact hgives

theorem lexes_text (s : String) : Lexes (.text s) := by
  refine lexes_scalar (fun indent column => scalarChars (some indent) false column s)
    (by rw [nodeKinds]) (fun _ _ => by rw [valueChars]) (fun _ => by rw [itemChars]) ?_ ?_
  · intro indent column hkept
    rw [KeepsValue] at hkept
    exact readsScalar_text (Nat.succ_pos _) hkept
  · intro column hkept
    rw [KeepsItem] at hkept
    exact readsScalar_text (Nat.succ_pos _) hkept

theorem lexes_number (n : Int) : Lexes (.number n) :=
  lexes_scalar (fun indent column => numberChars (some indent) column n)
    (by rw [nodeKinds]) (fun _ _ => by rw [valueChars]) (fun _ => by rw [itemChars])
    (fun _ _ _ => readsScalar_number _ _ n) (fun _ _ => readsScalar_number _ _ n)

theorem startsToken_item (rest : List Char) (column : Nat) :
    StartsToken column ('-' :: ' ' :: rest) := ⟨⟨by decide, by decide⟩, by decide⟩

theorem le_columnAfterKey (indent : Nat) (key : String) : indent ≤ columnAfterKey indent key := by
  rw [columnAfterKey]
  split
  · exact Nat.le_add_right _ _
  · exact Nat.le_succ indent

theorem isBlankOrEnd_valueChars (indent column : Nat) (d : Document) (text : List Char) :
    isBlankOrEnd (valueChars indent column d ++ text).head? = true := by
  cases d with
  | text s => rw [valueChars]; rfl
  | number n => rw [valueChars]; rfl
  | list items => cases items <;> rw [valueChars] <;> first | rfl | exact List.cons_ne_nil _ _
  | mapping entries => cases entries <;> rw [valueChars] <;> first | rfl | exact List.cons_ne_nil _ _

/-- The items of a sequence, each on a line of its own. -/
theorem linesGive_items {items : List Document} (hitems : ∀ d ∈ items, Lexes d)
    {outer : List Nat} (hkept : KeepsItems indent items)
    (htext : LinesGive ((indent + 2) :: outer) (indent + 2) text ks) :
    LinesGive ((indent + 2) :: outer) (indent + 2) (itemsChars indent false items ++ text)
      (itemsKinds items ++ ks) := by
  induction items with
  | nil =>
    rw [itemsChars, itemsKinds]
    exact htext
  | cons d rest ih =>
    rw [KeepsItems] at hkept
    have hrest := ih (fun d hd => hitems d (List.mem_cons_of_mem _ hd)) hkept.2
    have hitem := (hitems d List.mem_cons_self).item hkept.1 hrest
    have hyields := yields_item (.again outer) hitem
    have hline := linesGive_of_yields (startsToken_item _ _) hyields
    rw [itemsChars, itemsKinds, if_neg (by decide)]
    simpa using hline

/-- The entries of a mapping, each from a line of its own on. -/
theorem linesGive_entries {entries : List (String × Document)}
    (hentries : ∀ e ∈ entries, Lexes e.2) {outer : List Nat} (hkept : KeepsEntries c entries)
    (htext : LinesGive (c :: outer) c text ks) :
    LinesGive (c :: outer) c (entriesChars c false entries ++ text)
      (entriesKinds entries ++ ks) := by
  induction entries with
  | nil =>
    rw [entriesChars, entriesKinds]
    exact htext
  | cons e rest ih =>
    obtain ⟨key, d⟩ := e
    rw [KeepsEntries] at hkept
    obtain ⟨hkey, hvalue, hmore⟩ := hkept
    have hrest := ih (fun e he => hentries e (List.mem_cons_of_mem _ he)) hmore
    have hyields := yields_keyChars (.again outer) hkey (isBlankOrEnd_valueChars _ _ _ _)
      fun _ => (hentries (key, d) List.mem_cons_self).value hvalue (le_columnAfterKey c key) hrest
    have hline := linesGive_of_yields (startsToken_keyChars _ _ _) hyields
    rw [entriesChars, entriesKinds, if_neg (by decide)]
    simpa using hline

/-- The first item of a sequence, wherever it stands on its line. -/
theorem yields_items {d : Document} {rest : List Document} (hitems : ∀ x ∈ d :: rest, Lexes x)
    (hopens : Opens .blockSequenceStart (indent + 2) columns inside opening)
    (hkept : KeepsItems indent (d :: rest))
    (htext : LinesGive inside (indent + 2) text ks) :
    Spot.Yields ⟨'-' :: ' ' :: (itemChars (indent + 4) d ++ (itemsChars indent false rest ++ text)),
      indent + 2, columns, true⟩ (opening ++ (itemsKinds (d :: rest) ++ ks)) := by
  obtain ⟨outer, rfl⟩ := hopens.inside_eq
  rw [KeepsItems] at hkept
  have hrest := linesGive_items (fun x hx => hitems x (List.mem_cons_of_mem _ hx)) hkept.2 htext
  have hyields := yields_item hopens ((hitems d List.mem_cons_self).item hkept.1 hrest)
  rw [itemsKinds]
  simpa using hyields

/-- The first entry of a mapping, wherever it stands on its line. -/
theorem yields_entries {e : String × Document} {rest : List (String × Document)}
    (hentries : ∀ x ∈ e :: rest, Lexes x.2)
    (hopens : Opens .blockMappingStart c columns inside opening)
    (hkept : KeepsEntries c (e :: rest)) (htext : LinesGive inside c text ks) :
    Spot.Yields ⟨entriesChars c true (e :: rest) ++ text, c, columns, true⟩
      (opening ++ (entriesKinds (e :: rest) ++ ks)) := by
  obtain ⟨key, d⟩ := e
  obtain ⟨outer, rfl⟩ := hopens.inside_eq
  rw [KeepsEntries] at hkept
  obtain ⟨hkey, hvalue, hmore⟩ := hkept
  have hrest := linesGive_entries (fun x hx => hentries x (List.mem_cons_of_mem _ hx)) hmore htext
  have hyields := yields_keyChars hopens hkey (isBlankOrEnd_valueChars _ _ _ _)
    fun _ => (hentries (key, d) List.mem_cons_self).value hvalue (le_columnAfterKey c key) hrest
  rw [entriesChars, entriesKinds, if_pos rfl]
  simpa using hyields

/-- A deeper line that follows. -/
theorem gives_deeperLine {outer : List Nat} {rest : List Char} (hrest : StartsToken c rest)
    (hc : indent ≤ c) (h : Spot.Yields ⟨rest, c, indent :: outer, true⟩ ks) :
    Spot.Gives ⟨'\n' :: (margin c ++ rest), column, indent :: outer, allowed⟩ ks := by
  obtain ⟨hopen, hends⟩ :=
    openFrom_of_le (show ∀ d ∈ (indent :: outer).head?, d ≤ c by simpa using hc)
  rw [← hopen] at h
  have hgives : Spot.Gives ⟨margin 0 ++ newLine c ++ rest, column, indent :: outer, allowed⟩ _ :=
    gives_nextLine hrest h
  rw [hends] at hgives
  exact hgives

theorem lexes_list {items : List Document} (hitems : ∀ d ∈ items, Lexes d) :
    Lexes (.list items) where
  value {indent column outer allowed text ks} hkept hcolumn htext := by
    cases items with
    | nil =>
      rw [valueChars, nodeKinds]
      exact gives_empty .square hcolumn htext
    | cons d rest =>
      rw [KeepsValue] at hkept
      have hclose := htext.close (show indent < indent + 2 by omega)
          (show indent ≤ indent + 2 by omega)
      have hyields := yields_items hitems (.first (by simp)) hkept hclose
      have hgives : Spot.Gives ⟨_, column, indent :: outer, allowed⟩ _ :=
        gives_deeperLine (startsToken_item _ _) (by omega) hyields
      rw [nodeKinds_list, valueChars, itemsChars, if_neg (by decide)]
      · simpa using hgives
      · exact List.cons_ne_nil _ _
  item {c outer text ks} hkept htext := by
    cases items with
    | nil =>
      rw [itemChars, nodeKinds]
      exact gives_empty .square (Nat.le_succ c) htext
    | cons d rest =>
      rw [KeepsItem] at hkept
      have hclose := htext.close (show c < c + 2 + 2 by omega) (show c ≤ c + 2 + 2 by omega)
      have hyields := yields_items hitems (.first (by simp; omega)) hkept hclose
      have hgives : Spot.Gives ⟨margin 3 ++ _, c + 1, c :: outer, true⟩ _ :=
        gives_inLine (startsToken_item _ _) (by simp; omega) hyields
      rw [nodeKinds_list, itemChars, itemsChars, if_pos rfl]
      · simpa [margin, List.replicate] using hgives
      · exact List.cons_ne_nil _ _

theorem startsToken_entriesChars (indent : Nat) (e : String × Document)
    (entries : List (String × Document)) (text : List Char) :
    StartsToken indent (entriesChars indent true (e :: entries) ++ text) := by
  obtain ⟨key, d⟩ := e
  have hstarts := startsToken_keyChars indent key
    (valueChars indent (columnAfterKey indent key) d ++ entriesChars indent false entries ++ text)
  rw [entriesChars, if_pos rfl]
  simpa using hstarts

theorem lexes_mapping {entries : List (String × Document)} (hentries : ∀ e ∈ entries, Lexes e.2) :
    Lexes (.mapping entries) where
  value {indent column outer allowed text ks} hkept hcolumn htext := by
    cases entries with
    | nil =>
      rw [valueChars, nodeKinds]
      exact gives_empty .curly hcolumn htext
    | cons e rest =>
      rw [KeepsValue] at hkept
      have hclose := htext.close (show indent < indent + 2 by omega)
          (show indent ≤ indent + 2 by omega)
      have hyields := yields_entries hentries (.first (by simp)) hkept hclose
      have hgives : Spot.Gives ⟨_, column, indent :: outer, allowed⟩ _ :=
        gives_deeperLine (startsToken_entriesChars _ _ _ _) (by omega) hyields
      rw [nodeKinds_mapping, valueChars]
      · obtain ⟨key, d⟩ := e
        rw [entriesChars, if_pos rfl] at hgives
        rw [entriesChars, if_neg (by decide)]
        simpa using hgives
      · exact List.cons_ne_nil _ _
  item {c outer text ks} hkept htext := by
    cases entries with
    | nil =>
      rw [itemChars, nodeKinds]
      exact gives_empty .curly (Nat.le_succ c) htext
    | cons e rest =>
      rw [KeepsItem] at hkept
      have hclose := htext.close (show c < c + 2 by omega) (show c ≤ c + 2 by omega)
      have hyields := yields_entries hentries (.first (by simp)) hkept hclose
      have hgives : Spot.Gives ⟨margin 1 ++ _, c + 1, c :: outer, true⟩ _ :=
        gives_inLine (startsToken_entriesChars _ _ _ _) (by simp; omega) hyields
      rw [nodeKinds_mapping, itemChars]
      · simpa [margin, List.replicate] using hgives
      · exact List.cons_ne_nil _ _

theorem lexes (d : Document) : Lexes d := by
  induction d using Document.induct with
  | text s => exact lexes_text s
  | number n => exact lexes_number n
  | list items ih => exact lexes_list ih
  | mapping entries ih => exact lexes_mapping ih

/-! ## Streams -/

/-- The tokens of several documents. -/
def streamKinds : List Document → List TokenKind
  | [] => [.streamEnd]
  | d :: rest => .documentStart :: nodeKinds d ++ streamKinds rest

theorem linesGive_documentStart {rest : List Char} (hcolumns : ∀ d ∈ columns.head?, d ≤ 0)
    (hblank : isBlankOrEnd rest.head? = true) (h : Spot.Gives ⟨rest, 3, [], false⟩ ks) :
    LinesGive columns 0 ('-' :: '-' :: '-' :: rest)
      (columns.map (fun _ => .blockEnd) ++ .documentStart :: ks) := by
  obtain ⟨hopen, hends⟩ := openFrom_of_le hcolumns
  refine ⟨0, _, _, rfl, Nat.le_refl 0, ⟨⟨by decide, by decide⟩, by decide⟩, ?_, by rw [hends]; rfl⟩
  rw [hopen]
  exact yields_documentStart hblank h

/-- An empty mapping stands behind the start sign of its document. -/
theorem linesGive_emptyDocument (hcolumns : ∀ d ∈ columns.head?, d ≤ 0)
    (htext : LinesGive [] 0 text ks) :
    LinesGive columns 0 (documentChars (.mapping []) ++ text)
      (columns.map (fun _ => .blockEnd) ++ .documentStart :: (nodeKinds (.mapping []) ++ ks)) := by
  obtain ⟨j, line, later, rfl, hj, hline, hlater, rfl⟩ := htext
  have hyields : Spot.Yields ⟨'\x7b' :: '\x7d' :: (newLine j ++ line), 4, [], false⟩ _ :=
    yields_empty .curly (by simp) hline hlater
  have hgives : Spot.Gives ⟨margin 1 ++ '\x7b' :: '\x7d' :: (newLine j ++ line), 3, [], false⟩ _ :=
    gives_inLine ⟨⟨by decide, by decide⟩, by decide⟩ (by simp) hyields
  rw [documentChars, nodeKinds]
  exact linesGive_documentStart hcolumns rfl hgives

/-- The entries of any other mapping begin on the line below the start sign. -/
theorem linesGive_document {e : String × Document} {more : List (String × Document)}
    (hkept : KeepsEntries 0 (e :: more)) (hcolumns : ∀ d ∈ columns.head?, d ≤ 0)
    (htext : LinesGive [0] 0 text (.blockEnd :: ks)) :
    LinesGive columns 0 (documentChars (.mapping (e :: more)) ++ text)
      (columns.map (fun _ => .blockEnd) ++
        .documentStart :: (nodeKinds (.mapping (e :: more)) ++ ks)) := by
  have hopens : Opens .blockMappingStart 0 [] [0] [.blockMappingStart] := .first (by simp)
  have hyields := yields_entries (fun x _ => lexes x.2) hopens hkept htext
  have hgives : Spot.Gives ⟨margin 0 ++ newLine 0 ++ (entriesChars 0 true (e :: more) ++ text), 3,
      [], false⟩ _ :=
    gives_nextLine (startsToken_entriesChars _ _ _ _) hyields
  have hbegun : entriesChars 0 true (e :: more) = entriesChars 0 false (e :: more) := by
    obtain ⟨key, d⟩ := e
    rw [entriesChars, entriesChars]
    rfl
  rw [hbegun] at hgives
  have hlines := linesGive_documentStart hcolumns rfl hgives
  rw [documentChars, nodeKinds_mapping]
  · simpa [newLine, margin, openFrom, endsFrom] using hlines
  · exact List.cons_ne_nil _ _

/-- The start sign of a document, or the end of the text, ends what is open. -/
theorem linesGive_stream {documents : List Document} (hkept : ∀ d ∈ documents, Keeps d)
    (hcolumns : ∀ d ∈ columns.head?, d ≤ 0) :
    LinesGive columns 0 (documents.flatMap documentChars)
      (columns.map (fun _ => .blockEnd) ++ streamKinds documents) := by
  induction documents generalizing columns with
  | nil =>
    obtain ⟨hopen, hends⟩ := openFrom_of_le hcolumns
    refine ⟨0, [], _, rfl, Nat.le_refl 0, rfl, ?_, by rw [hends]; rfl⟩
    rw [hopen]
    exact yields_end
  | cons d rest ih =>
    have hrest : ∀ x ∈ rest, Keeps x := fun x hx => hkept x (List.mem_cons_of_mem _ hx)
    have hd := hkept d List.mem_cons_self
    rw [List.flatMap_cons, streamKinds]
    cases d with
    | mapping entries =>
      cases entries with
      | nil => exact linesGive_emptyDocument hcolumns (ih hrest (by simp))
      | cons e more => exact linesGive_document hd hcolumns (ih hrest (by simp))
    | text s => exact hd.elim
    | number n => exact hd.elim
    | list items => exact hd.elim

/-- The tokens of a written stream. -/
theorem kinds_tokens {documents : List Document} (hkept : ∀ d ∈ documents, Keeps d) :
    (tokens (documents.flatMap documentChars)).map (·.kind) = streamKinds documents := by
  obtain ⟨j, rest, later, htext, hj, hrest, hlater, hkinds⟩ :=
    linesGive_stream hkept (show ∀ d ∈ ([] : List Nat).head?, d ≤ 0 by simp)
  obtain rfl : j = 0 := Nat.le_zero.mp hj
  have hgives : Spot.Gives ⟨margin 0 ++ rest, 0, [], true⟩ later :=
    gives_inLine hrest (by simp) hlater
  have hshows : (Lexer.start (documents.flatMap documentChars)).Shows
      ⟨margin 0 ++ rest, 0, [], true⟩ := ⟨htext, rfl, rfl, rfl, rfl, rfl, rfl⟩
  have hrun := hgives _ [] hshows _ (Nat.le_refl _)
  rw [tokens]
  exact hrun.trans hkinds.symm

end EndpointUpgrade.Yaml
