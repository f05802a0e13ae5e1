import EndpointUpgrade.Proofs.Yaml.Spot
import EndpointUpgrade.Proofs.Yaml.Style

/-!
# Signs of a written text

The tokens that writing a document puts between its scalars: the start of a document, the sign of an
item, the sign of a long key, the colon on a line of its own, and empty collections. Each of them
leads from one spot of the text to the next.
-/

namespace EndpointUpgrade.Yaml.Lexer

/-- A block collection at a column is open already, or it is opened there, with its start. -/
inductive Opens (kind : TokenKind) (column : Nat) : List Nat → List Nat → List TokenKind → Prop where
  | again (columns : List Nat) : Opens kind column (column :: columns) (column :: columns) []
  | first {columns : List Nat} (h : ∀ c ∈ columns.head?, c < column) :
    Opens kind column columns (column :: columns) [kind]

variable {p : Lexer} {x : Spot} {rest : List Char} {column : Nat} {columns inside : List Nat}
  {allowed : Bool} {ks opening : List TokenKind}

theorem Opens.inside_eq {kind : TokenKind} (h : Opens kind column columns inside opening) :
    ∃ outer, inside = column :: outer := by
  cases h with
  | again columns => exact ⟨columns, rfl⟩
  | first _ => exact ⟨_, rfl⟩

theorem indent_lt_of_stackOf (hstack : p.indent :: p.indents = stackOf columns)
    (h : ∀ c ∈ columns.head?, c < column) : p.indent < column := by
  cases columns with
  | nil =>
    have hindent : p.indent = -1 := (List.cons.inj hstack).1
    omega
  | cons c columns =>
    have hindent : p.indent = (c : Int) := (List.cons.inj hstack).1
    have := h c rfl
    omega

theorem openBlock_spec {kind : TokenKind} (hopens : Opens kind column columns inside opening)
    (hp : p.Shows ⟨rest, column, columns, allowed⟩) :
    ∃ ts i is, p.openBlock kind = { p with tokens := ts ++ p.tokens, indent := i, indents := is } ∧
      i :: is = stackOf inside ∧ kinds ts = opening := by
  have hcolumn : p.cursor.column = column := hp.column
  cases hopens with
  | again columns =>
    have hindent : p.indent = (column : Int) := (List.cons.inj hp.stack).1
    have hsame : p.openBlock kind = p := by
      rw [openBlock, deepens, hcolumn, hindent, if_neg (by simp)]
    exact ⟨[], p.indent, p.indents, hsame, hp.stack, rfl⟩
  | first h =>
    have hindent := indent_lt_of_stackOf hp.stack h
    refine ⟨[⟨kind, p.cursor.line⟩], column, p.indent :: p.indents, ?_, ?_, rfl⟩
    · rw [openBlock, deepens, hcolumn, if_pos (by simpa using hindent)]
      rfl
    · rw [hp.stack]
      rfl

theorem dropCandidate_of_nil (h : p.candidates = []) : p.dropCandidate = .ok p := by
  rw [dropCandidate, h]
  simp only [List.any_nil, Bool.false_eq_true, if_false, List.filter_nil]
  rw [← h]

theorem openBlock_keeps {start : TokenKind} (hopens : Opens start column columns inside opening)
    (hp : p.Shows ⟨rest, column, columns, allowed⟩) :
    (p.openBlock start).dropCandidate = .ok (p.openBlock start) ∧
      (p.openBlock start).inBlock = true ∧ (p.openBlock start).cursor = p.cursor := by
  obtain ⟨ts, i, is, hopen, -, -⟩ := openBlock_spec hopens hp
  have hbrackets : p.brackets = [] := hp.brackets
  rw [hopen]
  refine ⟨dropCandidate_of_nil hp.candidates, ?_, rfl⟩
  simp [inBlock, hbrackets]

theorem Shows.inBlock (hp : p.Shows x) : p.inBlock = true := by
  rw [Lexer.inBlock, hp.brackets]
  rfl

theorem Shows.peek (hp : p.Shows x) : p.cursor.peek = x.rest.head? := by
  rw [Cursor.peek, hp.rest]

theorem Shows.peekAt (hp : p.Shows x) (n : Nat) : p.cursor.peekAt n = (x.rest.drop n).head? := by
  rw [Cursor.peekAt, hp.rest]

theorem Shows.hasMark (hp : p.Shows x) (mark : Char) (h : x.rest.take 3 ≠ [mark, mark, mark]) :
    p.cursor.hasMark mark = false := by
  rw [Cursor.hasMark, hp.rest]
  simp [h]

/-- A sign of one character, in front of which a block collection may begin, and behind which a key
may begin. -/
theorem yields_sign {c : Char} {start sign : TokenKind}
    (hopens : Opens start column columns inside opening) (hc : isInline c = true)
    (hsign : sign ≠ .streamEnd)
    (hfetch : ∀ (p : Lexer) (waiting : Bool), p.Shows ⟨c :: rest, column, columns, true⟩ →
      p.fetch waiting =
        .ok ((((p.openBlock start).allowKey true).emit sign).moveTo p.cursor.next))
    (h : Spot.Gives ⟨rest, column + 1, inside, true⟩ ks) :
    Spot.Yields ⟨c :: rest, column, columns, true⟩ (opening ++ sign :: ks) := by
  have hstep : ∀ (p : Lexer) (waiting : Bool), p.Shows ⟨c :: rest, column, columns, true⟩ →
      ∃ s' ts, p.fetch waiting = .ok s' ∧ s'.Shows ⟨rest, column + 1, inside, true⟩ ∧
        s'.tokens = ts ++ p.tokens ∧ kinds ts = opening ++ [sign] := by
    intro p waiting hp
    obtain ⟨ts, i, is, hopen, hstack, hts⟩ := openBlock_spec hopens hp
    obtain ⟨-, hcolumn⟩ := Cursor.next_inline hp.rest hc
    have hshows : ((((p.openBlock start).allowKey true).emit sign).moveTo p.cursor.next).Shows
        ⟨rest, column + 1, inside, true⟩ := by
      rw [hopen]
      refine ⟨?_, ?_, hstack, rfl, hp.candidates, hp.brackets, hp.version⟩
      · change p.cursor.next.rest = rest
        rw [Cursor.next_rest, hp.rest, List.tail_cons]
      · change p.cursor.next.column = column + 1
        rw [hcolumn, hp.column]
    refine ⟨_, ⟨sign, p.cursor.line⟩ :: ts, hfetch p waiting hp, hshows, ?_, ?_⟩
    · rw [hopen]
      rfl
    · rw [kinds_cons, hts]
  have hyields := yields_of_step hstep ⟨sign, by simp, hsign⟩ (by simp) h
  rwa [List.append_assoc] at hyields

/-- The sign of an item. -/
theorem yields_item (hopens : Opens .blockSequenceStart column columns inside opening)
    (h : Spot.Gives ⟨' ' :: rest, column + 1, inside, true⟩ ks) :
    Spot.Yields ⟨'-' :: ' ' :: rest, column, columns, true⟩ (opening ++ .blockEntry :: ks) := by
  refine yields_sign hopens (by decide) (by decide) ?_ h
  intro p waiting hp
  have hmark := hp.hasMark '-' (by simp)
  have hmark' := hp.hasMark '.' (by simp)
  have hfetch : p.fetch waiting = p.fetchBlockEntry := by
    simp [fetch, hp.peek, hp.peekAt, hmark, hmark', isBlankOrEnd]
  obtain ⟨hdrop, -, hcursor⟩ := openBlock_keeps hopens hp
  rw [hfetch, fetchBlockEntry, hp.inBlock, hp.allowed]
  simp only [Bool.not_true, Bool.and_false, Bool.false_eq_true, if_false, if_true]
  rw [hdrop]
  change Except.ok ((((p.openBlock .blockSequenceStart).allowKey true).emit .blockEntry).moveTo
    (p.openBlock .blockSequenceStart).cursor.next) = _
  rw [hcursor]

/-- The sign of a key that is too long to stand in front of its colon. -/
theorem yields_keySign (hopens : Opens .blockMappingStart column columns inside opening)
    (h : Spot.Gives ⟨' ' :: rest, column + 1, inside, true⟩ ks) :
    Spot.Yields ⟨'?' :: ' ' :: rest, column, columns, true⟩ (opening ++ .key :: ks) := by
  refine yields_sign hopens (by decide) (by decide) ?_ h
  intro p waiting hp
  have hmark := hp.hasMark '-' (by simp)
  have hmark' := hp.hasMark '.' (by simp)
  have hfetch : p.fetch waiting = p.fetchKey := by
    simp [fetch, hp.peek, hp.peekAt, hmark, hmark', isBlankOrEnd]
  obtain ⟨hdrop, hinBlock, hcursor⟩ := openBlock_keeps hopens hp
  rw [hfetch, fetchKey, hp.inBlock, hp.allowed]
  simp only [Bool.not_true, Bool.and_false, Bool.false_eq_true, if_false, if_true]
  rw [hdrop]
  change Except.ok ((((p.openBlock .blockMappingStart).allowKey
    (p.openBlock .blockMappingStart).inBlock).emit .key).moveTo
      (p.openBlock .blockMappingStart).cursor.next) = _
  rw [hinBlock, hcursor]

theorem fetch_colon {s : Lexer} (h : s.cursor.rest = ':' :: rest) (hblock : s.brackets = [])
    (hblank : isBlankOrEnd rest.head? = true) (waiting : Bool) : s.fetch waiting = s.fetchValue := by
  have hmark (mark : Char) (hmark : mark ≠ ':') : s.cursor.hasMark mark = false := by
    rw [Cursor.hasMark, h]
    simp [hmark.symm]
  have hpeek : s.cursor.peek = some ':' := by rw [Cursor.peek, h, List.head?_cons]
  have hsign : s.isValueSign waiting = true := by
    rw [isValueSign, hblock, Cursor.peekAt, h]
    exact hblank
  simp [fetch, hpeek, hmark, hsign]

/-- The colon behind such a key, on the line below it. -/
theorem yields_colon (hblank : isBlankOrEnd rest.head? = true)
    (h : Spot.Gives ⟨rest, column + 1, column :: columns, true⟩ ks) :
    Spot.Yields ⟨':' :: rest, column, column :: columns, true⟩ (.value :: ks) := by
  have hopens : Opens .blockMappingStart column (column :: columns) (column :: columns) [] :=
    .again columns
  refine yields_sign hopens (by decide) (by decide) ?_ h
  intro p waiting hp
  obtain ⟨hdrop, hinBlock, hcursor⟩ := openBlock_keeps hopens hp
  rw [fetch_colon hp.rest hp.brackets hblank, fetchValue, hp.candidates, hp.inBlock, hp.allowed]
  simp only [List.find?_nil, Bool.not_true, Bool.and_false, Bool.false_eq_true, if_false, if_true]
  rw [hdrop]
  change Except.ok ((((p.openBlock .blockMappingStart).allowKey
    (p.openBlock .blockMappingStart).inBlock).emit .value).moveTo
      (p.openBlock .blockMappingStart).cursor.next) = _
  rw [hinBlock, hcursor]

theorem openFrom_none (columns : List Nat) :
    openFrom (-1) columns = [] ∧ endsFrom (-1) columns = columns.map fun _ => .blockEnd := by
  induction columns with
  | nil => exact ⟨rfl, rfl⟩
  | cons c columns ih =>
    obtain ⟨hopen, hends⟩ := openFrom_of_lt columns (show (-1 : Int) < c by omega)
    rw [hopen, hends, ih.1, ih.2]
    exact ⟨rfl, rfl⟩

theorem unwind_all (hp : p.Shows x) :
    ∃ ts, kinds ts = x.columns.map (fun _ => .blockEnd) ∧
      p.unwind (-1) = { p with tokens := ts ++ p.tokens, indent := -1, indents := [] } := by
  obtain ⟨ts, hts, i, is, hstack, hunwind⟩ := unwindFrom_stackOf (-1) hp.stack
  obtain ⟨hopen, hends⟩ := openFrom_none x.columns
  rw [hopen] at hstack
  obtain ⟨rfl, rfl⟩ := List.cons.inj hstack
  refine ⟨ts, hts.trans hends, ?_⟩
  rw [unwind, if_pos hp.inBlock, hunwind]

/-- The sign of the start of a document ends all block collections. -/
theorem yields_documentStart (hblank : isBlankOrEnd rest.head? = true)
    (h : Spot.Gives ⟨rest, 3, [], false⟩ ks) :
    Spot.Yields ⟨'-' :: '-' :: '-' :: rest, 0, columns, allowed⟩
      (columns.map (fun _ => .blockEnd) ++ .documentStart :: ks) := by
  have hstep : ∀ (p : Lexer) (waiting : Bool),
      p.Shows ⟨'-' :: '-' :: '-' :: rest, 0, columns, allowed⟩ →
        ∃ s' ts, p.fetch waiting = .ok s' ∧ s'.Shows ⟨rest, 3, [], false⟩ ∧
          s'.tokens = ts ++ p.tokens ∧
            kinds ts = columns.map (fun _ => .blockEnd) ++ [.documentStart] := by
    intro p waiting hp
    have hmark : p.cursor.hasMark '-' = true := by
      rw [Cursor.hasMark, hp.peekAt, hp.rest]
      simpa using hblank
    have hfetch : p.fetch waiting = p.fetchDocumentMark .documentStart := by
      simp [fetch, hp.peek, hp.column, hmark]
    obtain ⟨ts, hts, hunwind⟩ := unwind_all hp
    have hdrop : (p.unwind (-1)).dropCandidate = .ok (p.unwind (-1)) :=
      dropCandidate_of_nil (by rw [hunwind]; exact hp.candidates)
    have hsign : p.cursor.rest = ['-', '-', '-'] ++ rest := hp.rest
    obtain ⟨-, hcolumn⟩ := Cursor.skip_inline hsign (List.all_eq_true.mp (by decide))
    have hshows : ((((p.unwind (-1)).allowKey false).emit .documentStart).moveTo
        (p.cursor.skip 3)).Shows ⟨rest, 3, [], false⟩ := by
      rw [hunwind]
      refine ⟨Cursor.skip_append hsign, ?_, rfl, rfl, hp.candidates, hp.brackets, hp.version⟩
      exact hcolumn.trans (by rw [hp.column]; rfl)
    refine ⟨_, ⟨.documentStart, p.cursor.line⟩ :: ts, ?_, hshows, ?_, ?_⟩
    · rw [hfetch, fetchDocumentMark, hdrop, hunwind]
      rfl
    · rw [hunwind]
      rfl
    · rw [kinds_cons, hts]
  have hyields := yields_of_step hstep ⟨.documentStart, by simp, by decide⟩ (by simp; omega) h
  rwa [List.append_assoc] at hyields

/-- The end of the text ends all block collections. -/
theorem yields_end :
    Spot.Yields ⟨[], 0, columns, allowed⟩ (columns.map (fun _ => .blockEnd) ++ [.streamEnd]) := by
  intro p waiting done hp
  have hfetch : p.fetch waiting = p.fetchEnd := by simp [fetch, hp.peek]
  obtain ⟨ts, hts, hunwind⟩ := unwind_all hp
  have hdrop : (p.unwind (-1)).dropCandidate = .ok (p.unwind (-1)) :=
    dropCandidate_of_nil (by rw [hunwind]; exact hp.candidates)
  refine ⟨{ (p.unwind (-1)).emit .streamEnd with keyAllowed := false, candidates := [] }, ?_, ?_⟩
  · rw [hfetch, fetchEnd, hdrop]
    rfl
  · rw [Continues]
    split
    case isFalse hend => exact absurd rfl hend
    rw [hunwind]
    change kinds (⟨.streamEnd, _⟩ :: (ts ++ p.tokens) ++ done) = _
    rw [List.cons_append, kinds_cons, List.append_assoc, kinds_append, hts, List.append_assoc]

end EndpointUpgrade.Yaml.Lexer
