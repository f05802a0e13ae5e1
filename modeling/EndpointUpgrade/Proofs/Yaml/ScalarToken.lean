import EndpointUpgrade.Proofs.Yaml.Scalar
import EndpointUpgrade.Proofs.Yaml.Signs

/-!
# Scalars and empty collections as tokens

A scalar or an empty collection at the end of a line leads to the beginning of the next line. It is
held back as a possible key until there, and then is none.
-/

namespace EndpointUpgrade.Yaml.Lexer

variable {p : Lexer} {x : Spot} {rest : List Char} {j column : Nat} {columns : List Nat}
  {allowed : Bool} {ks : List TokenKind}

/-- A state in front of the end of a line, with candidates that are not required. -/
structure AtLineEnd (s : Lexer) (j : Nat) (rest : List Char) (columns : List Nat) : Prop where
  rest : s.cursor.rest = newLine j ++ rest
  stack : s.indent :: s.indents = stackOf columns
  candidates : ∀ k ∈ s.candidates, k.required = false ∧ k.line ≤ s.cursor.line
  brackets : s.brackets = []
  version : s.version = .v1_2

theorem AtLineEnd.gives {s : Lexer} (hs : AtLineEnd s j rest columns) (done : List Token)
    (hrest : StartsToken j rest) (h : Spot.Yields ⟨rest, j, openFrom j columns, true⟩ ks) :
    Gives done s (kinds (s.tokens ++ done) ++ (endsFrom j columns ++ ks)) := by
  have hline : s.cursor.rest = margin 0 ++ newLine j ++ rest := hs.rest
  exact gives_endOfLine done hs.brackets hs.version hs.stack hs.candidates hline hrest h

theorem AtLineEnd.continues {s : Lexer} (hs : AtLineEnd s j rest columns) (done : List Token)
    {before : List Token} {kind : TokenKind} {line bound : Nat}
    (htokens : s.tokens = ⟨kind, line⟩ :: before) (hkind : kind ≠ .streamEnd)
    (hbound : s.cursor.rest.length < bound) (hrest : StartsToken j rest)
    (h : Spot.Yields ⟨rest, j, openFrom j columns, true⟩ ks) :
    Continues done bound s (kinds (before ++ done) ++ (kind :: (endsFrom j columns ++ ks))) := by
  rw [Continues, if_neg (by simpa [htokens] using hkind)]
  refine ⟨hbound, ?_⟩
  have hgives := hs.gives done hrest h
  rw [htokens, List.cons_append, kinds_cons, List.append_assoc] at hgives
  exact hgives

theorem addCandidate_spec (hp : p.Shows x) (hinside : ∀ c ∈ x.columns.head?, c ≠ x.column) :
    ∃ candidates, p.addCandidate = .ok { p with candidates := candidates } ∧
      ∀ k ∈ candidates, k.required = false ∧ k.level = 0 ∧ k.line = p.cursor.line ∧
        k.index = p.cursor.index := by
  have hindent : p.indent ≠ p.cursor.column := by
    rw [hp.column]
    have hstack := hp.stack
    cases hcolumns : x.columns with
    | nil =>
      rw [hcolumns] at hstack
      have : p.indent = -1 := (List.cons.inj hstack).1
      omega
    | cons c columns =>
      rw [hcolumns] at hstack hinside
      have hc : p.indent = (c : Int) := (List.cons.inj hstack).1
      have hne := hinside c rfl
      omega
  rw [addCandidate]
  split
  · refine ⟨[⟨p.level, p.tokens.length, false, p.cursor.index, p.cursor.line, p.cursor.column⟩],
      ?_, ?_⟩
    · rw [dropCandidate_of_nil hp.candidates]
      simp [bind, Except.bind, pure, Except.pure, hp.candidates, hindent]
    · intro k hk
      obtain rfl := List.mem_singleton.mp hk
      refine ⟨rfl, ?_, rfl, rfl⟩
      simp [level, hp.brackets]
  · refine ⟨[], ?_, by simp⟩
    rw [← hp.candidates]

/-! ## Scalars in quotes -/

theorem fetch_quoted {double : Bool} {more : List Char} (hp : p.Shows x)
    (hx : x.rest = quoteOf double :: more) (waiting : Bool) :
    p.fetch waiting = p.fetchKeyPart (readQuoted double) := by
  have hmark := hp.hasMark '-' (by cases double <;> simp [hx, quoteOf])
  have hmark' := hp.hasMark '.' (by cases double <;> simp [hx, quoteOf])
  cases double <;> simp [fetch, hp.peek, hx, hmark, hmark', quoteOf]

theorem readQuoted_written {double : Bool} {written cs tail : List Char} {cur : Cursor}
    (hread : ReadsQuoted double written cs) (htail : tail.head? ≠ some '\'')
    (hrest : cur.rest = quotedChars double written ++ tail) :
    readQuoted double cur =
      .ok (.scalar (String.ofList cs) false, cur.skip (quotedChars double written).length) := by
  have hnext : cur.next.rest = written ++ quoteOf double :: tail := by
    rw [Cursor.next_rest, hrest, quotedChars]
    simp
  have hfuel : written.length + 1 ≤ cur.next.fuel := by
    rw [Cursor.fuel_eq, hnext]
    simp only [List.length_append, List.length_cons]
    omega
  have hlength : (quotedChars double written).length = written.length + 1 + 1 := by
    simp [quotedChars]
  rw [readQuoted, quotedText, hread tail cur.next [] _ htail hnext hfuel, hlength]
  rfl

/-- A scalar in quotes at the end of a line. -/
theorem yields_quoted {double : Bool} {written cs : List Char}
    (hread : ReadsQuoted double written cs) (hinside : ∀ c ∈ columns.head?, c ≠ column)
    (hrest : StartsToken j rest) (h : Spot.Yields ⟨rest, j, openFrom j columns, true⟩ ks) :
    Spot.Yields ⟨quotedChars double written ++ (newLine j ++ rest), column, columns, allowed⟩
      (.scalar (String.ofList cs) false :: (endsFrom j columns ++ ks)) := by
  intro p waiting done hp
  obtain ⟨candidates, hadd, hcandidates⟩ := addCandidate_spec hp hinside
  have hscalar := readQuoted_written hread (by simp [newLine]) hp.rest
  let s' : Lexer :=
    { p with
      candidates := candidates, keyAllowed := false
      tokens := ⟨.scalar (String.ofList cs) false, p.cursor.line⟩ :: p.tokens
      cursor := p.cursor.skip (quotedChars double written).length }
  have hfetch : p.fetch waiting = .ok s' := by
    rw [fetch_quoted hp rfl, fetchKeyPart, hadd]
    change (readQuoted double p.cursor >>= _) = _
    rw [hscalar]
    rfl
  have hend : AtLineEnd s' j rest columns := by
    refine ⟨Cursor.skip_append hp.rest, hp.stack, ?_, hp.brackets, hp.version⟩
    intro k hk
    obtain ⟨hrequired, -, hline, -⟩ := hcandidates k hk
    exact ⟨hrequired, by rw [hline]; exact Cursor.line_le_skip _ _⟩
  refine ⟨s', hfetch, hend.continues done rfl TokenKind.noConfusion ?_ hrest h⟩
  rw [hend.rest]
  simp only [quotedChars, List.length_append, List.length_cons]
  omega

/-! ## Plain scalars -/

theorem fetch_plain {c : Char} {more : List Char} (hp : p.Shows x) (hx : x.rest = c :: more)
    (hc : isIndicator c = false ∨ (c = '-' ∨ c = '?' ∨ c = ':') ∧ isBlankOrEnd more.head? = false)
    (hmark : x.column = 0 → x.rest.take 3 ≠ ['-', '-', '-'] ∧ x.rest.take 3 ≠ ['.', '.', '.'])
    (waiting : Bool) : p.fetch waiting = p.fetchPlain := by
  have hhyphens : (decide (p.cursor.column = 0) && p.cursor.hasMark '-') = false := by
    by_cases hcolumn : x.column = 0
    · rw [hp.hasMark '-' (hmark hcolumn).1, Bool.and_false]
    · simp [hp.column, hcolumn]
  have hpoints : (decide (p.cursor.column = 0) && p.cursor.hasMark '.') = false := by
    by_cases hcolumn : x.column = 0
    · rw [hp.hasMark '.' (hmark hcolumn).2, Bool.and_false]
    · simp [hp.column, hcolumn]
  have hpeek : p.cursor.peek = some c := by rw [hp.peek, hx, List.head?_cons]
  have hnext : p.cursor.peekAt 1 = more.head? := by rw [hp.peekAt, hx]; rfl
  rcases hc with hc | ⟨rfl | rfl | rfl, hc⟩
  · have hplain : p.startsPlain c = true := by simp [startsPlain, hc]
    simp only [isIndicator, Bool.or_eq_false_iff, List.contains_cons, beq_eq_false_iff_ne] at hc
    rw [fetch, hpeek]
    simp [hhyphens, hpoints, hplain, hc]
  · have hplain : p.startsPlain '-' = true := by simp [startsPlain, hnext, hc]
    rw [fetch, hpeek]
    simp [hhyphens, hpoints, hplain, hnext, hc]
  · have hplain : p.startsPlain '?' = true := by simp [startsPlain, hnext, hc, hp.inBlock]
    rw [fetch, hpeek]
    simp [hhyphens, hpoints, hplain, hnext, hc, hp.inBlock]
  · have hplain : p.startsPlain ':' = true := by simp [startsPlain, hnext, hc, hp.inBlock]
    have hsign : p.isValueSign waiting = false := by
      rw [isValueSign, hp.brackets]
      simpa [hnext] using hc
    rw [fetch, hpeek]
    simp [hhyphens, hpoints, hplain, hsign]

/-- Behind a plain scalar at the end of a line, the next line is entered. -/
theorem plainSpace_lineEnd {cur : Cursor} (h : cur.rest = newLine j ++ rest)
    (hrest : StartsToken j rest) :
    ∃ chars, plainSpace cur = ⟨chars, cur.skip (j + 1), true⟩ := by
  cases rest with
  | cons c rest =>
    have hline : cur.rest = margin 0 ++ newLine j ++ c :: rest := h
    obtain hspace | ⟨hzero, hspace⟩ := plainSpace_newLine hline hrest.1
    · exact ⟨[' '], by rw [hspace, Nat.zero_add, Nat.add_comm 1]⟩
    · subst hzero
      exact ⟨[], hspace⟩
  | nil =>
    obtain rfl : j = 0 := hrest
    have hfeed : cur.rest = margin 0 ++ '\n' :: [] := h
    have hnext : cur.next.rest = [] := by rw [Cursor.next_rest, h]; rfl
    have hmark : cur.next.hasDocumentMark = false :=
      Cursor.hasDocumentMark_eq_false (by simp [hnext])
    have hbreaks : plainBreaks cur.next.fuel [] cur.next = (some [], cur.next) := by
      rw [Cursor.fuel_eq, plainBreaks, if_neg (by simp [Cursor.peek, hnext]),
        Cursor.lineBreak?_none (by simp [hnext])]
      rfl
    refine ⟨[' '], ?_⟩
    rw [plainSpace, span_margin hfeed (by decide)]
    dsimp only [Cursor.skip_zero]
    rw [Cursor.lineBreak?_lineFeed hfeed]
    dsimp only
    rw [hmark, hbreaks]
    rfl

/-- A plain scalar at the end of a line that is indented less is read up to the next line. -/
theorem plainText_lineEnd {cur : Cursor} {cs : List Char} {folding : Folding} {column' i : Nat}
    (hcs : ReadsPlain cs) (hfolding : ∀ f, folding = some f → i < f) (hinside : i < cur.column)
    (hnext : j ≤ i) (hrest : StartsToken j rest)
    (h : cur.rest = wordChars folding column' cs ++ (newLine j ++ rest)) :
    plainText false .v1_2 (i + 1) cur =
      ⟨cs.reverse, (cur.skip (wordChars folding column' cs).length).skip (j + 1), true⟩ := by
  have hbehind := Cursor.skip_append h
  obtain ⟨chars, hspace⟩ := plainSpace_lineEnd hbehind hrest
  have hfold : ∀ f : Nat, folding = some f → 0 < f ∧ (i : Int) + 1 ≤ f := fun f hf => by
    have := hfolding f hf
    omega
  have hends : EndsPlain (i + 1) (plainSpace (cur.skip (wordChars folding column' cs).length)) := by
    rw [hspace]
    refine Or.inr ?_
    dsimp only
    rw [(Cursor.skip_newLine hbehind).2]
    omega
  rw [plainText_written .v1_2 (i + 1) hcs.words hfold (by rfl) h (by omega) hends]
  dsimp only
  rw [hspace]

theorem wordChars_begins {cs : List Char} (hcs : BeginsPlain cs) (folding : Folding) (column' : Nat)
    (tail : List Char) :
    ∃ c more, wordChars folding column' cs ++ tail = c :: more ∧
      (isIndicator c = false ∨
        (c = '-' ∨ c = '?' ∨ c = ':') ∧ isBlankOrEnd more.head? = false) := by
  obtain ⟨c, rest, rfl, hc⟩ := hcs
  refine ⟨c, plainRest folding (column' + 1) (some c) rest ++ tail, rfl, ?_⟩
  rcases hc with hindicator | ⟨hsign, d, more, rfl, hd⟩
  · exact Or.inl hindicator
  · refine Or.inr ⟨hsign, ?_⟩
    have hspace : c ≠ ' ' := by
      rintro rfl
      simp at hsign
    have hword : ∀ x ∈ [d], x ≠ ' ' := by simpa using ne_space_of_isSolid hd
    obtain ⟨b, -, hwritten⟩ := plainRest_inWord folding (column' + 1) more hspace hword
    have hshape : plainRest folding (column' + 1) (some c) (d :: more) =
        d :: plainRest folding (column' + 1 + 1) (some b) more := hwritten
    rw [hshape]
    simp only [isSolid, Bool.and_eq_true, Bool.not_eq_true'] at hd
    exact hd.1

theorem fetchPlain_spec {candidates : List Candidate} {t : PlainText} (hp : p.Shows x)
    (hadd : p.addCandidate = .ok { p with candidates := candidates })
    (htext : plainText false .v1_2 (p.indent + 1) p.cursor = t) :
    p.fetchPlain = .ok
      { p with
        candidates := candidates, keyAllowed := t.brokeLine
        tokens := ⟨.scalar (String.ofList t.reversed.reverse) true, p.cursor.line⟩ :: p.tokens
        cursor := t.after } := by
  have hread : plainText (!({ p with candidates := candidates } : Lexer).inBlock) p.version
      (p.indent + 1) p.cursor = t := by
    have hinBlock : ({ p with candidates := candidates } : Lexer).inBlock = true := hp.inBlock
    rw [hinBlock, hp.version]
    exact htext
  rw [fetchPlain, hadd]
  subst hread
  rfl

/-- A state in front of a token, with candidates of earlier lines. -/
theorem gives_atToken {s : Lexer} (done : List Token) (hblock : s.brackets = [])
    (hversion : s.version = .v1_2) (hstack : s.indent :: s.indents = stackOf columns)
    (hcandidates : ∀ k ∈ s.candidates, k.required = false ∧ k.line < s.cursor.line)
    (hallowed : s.keyAllowed = true) (hcursor : s.cursor.rest = rest) (hcolumn : s.cursor.column = j)
    (hrest : StartsToken j rest) (h : Spot.Yields ⟨rest, j, openFrom j columns, true⟩ ks) :
    Gives done s (kinds (s.tokens ++ done) ++ (endsFrom j columns ++ ks)) := by
  have hspot : (⟨s.cursor.rest, s.cursor.column, openFrom s.cursor.column columns,
      s.keyAllowed || false⟩ : Spot) = ⟨rest, j, openFrom j columns, true⟩ := by
    rw [hcursor, hcolumn, hallowed, Bool.or_false]
  have hmargin : s.cursor.rest = margin 0 ++ rest := hcursor
  have hgives := gives_of_settles done hblock hversion hstack hcandidates
    (settles_inLine hmargin hrest) (Nat.le_refl _) (hspot ▸ h)
  rwa [hcolumn] at hgives

/-- A plain scalar at the end of a line, from its first word on. -/
theorem yields_plain {cs : List Char} {folding : Folding} {column' i : Nat}
    (hcs : ReadsPlain cs) (hfolding : ∀ f, folding = some f → i < f) (hinside : i < column)
    (hnext : j ≤ i) (hrest : StartsToken j rest)
    (h : Spot.Yields ⟨rest, j, openFrom j (i :: columns), true⟩ ks) :
    Spot.Yields ⟨wordChars folding column' cs ++ (newLine j ++ rest), column, i :: columns, allowed⟩
      (.scalar (String.ofList cs) true :: (endsFrom j (i :: columns) ++ ks)) := by
  intro p waiting done hp
  obtain ⟨candidates, hadd, hcandidates⟩ :=
    addCandidate_spec hp fun c hc => by
      obtain rfl : i = c := by simpa using hc
      exact Nat.ne_of_lt hinside
  obtain ⟨c, more, hwritten, hc⟩ := wordChars_begins hcs.begins folding column' (newLine j ++ rest)
  have hmark : column ≠ 0 := by omega
  have hfetchPlain := fetch_plain hp hwritten hc (fun hzero => absurd hzero hmark) waiting
  have hindent : p.indent = (i : Int) := (List.cons.inj hp.stack).1
  let behind := p.cursor.skip (wordChars folding column' cs).length
  have hbehind : behind.rest = newLine j ++ rest := Cursor.skip_append hp.rest
  obtain ⟨hline, hcolumn⟩ := Cursor.skip_newLine hbehind
  have htext : plainText false .v1_2 (i + 1) p.cursor =
      ⟨cs.reverse, behind.skip (j + 1), true⟩ :=
    plainText_lineEnd hcs hfolding (Nat.lt_of_lt_of_eq hinside hp.column.symm) hnext hrest hp.rest
  let s' : Lexer :=
    { p with
      candidates := candidates, keyAllowed := true
      tokens := ⟨.scalar (String.ofList cs) true, p.cursor.line⟩ :: p.tokens
      cursor := behind.skip (j + 1) }
  have hfetch : p.fetch waiting = .ok s' := by
    rw [hfetchPlain, fetchPlain_spec hp hadd (by rw [hindent, htext])]
    simp only [List.reverse_reverse]
    rfl
  have hlater : ∀ k ∈ s'.candidates, k.required = false ∧ k.line < s'.cursor.line := by
    intro k hk
    obtain ⟨hrequired, -, hfirst, -⟩ := hcandidates k hk
    have hmore := Cursor.line_le_skip (wordChars folding column' cs).length p.cursor
    refine ⟨hrequired, ?_⟩
    change k.line < (behind.skip (j + 1)).line
    rw [hline, hfirst]
    exact Nat.lt_succ_of_le hmore
  have hrestAfter : s'.cursor.rest = rest := by
    have hlength : (newLine j).length = j + 1 := by simp [newLine]
    change (behind.skip (j + 1)).rest = rest
    rw [← hlength, Cursor.skip_append hbehind]
  have hgives := gives_atToken (s := s') done hp.brackets hp.version hp.stack hlater rfl hrestAfter
    hcolumn hrest h
  refine ⟨s', hfetch, ?_⟩
  rw [Continues, if_neg (by simp [s'])]
  refine ⟨?_, ?_⟩
  · rw [hrestAfter, hwritten]
    have hlength := congrArg List.length hwritten
    simp only [List.length_append, newLine, List.length_cons] at hlength ⊢
    omega
  · rw [List.cons_append, kinds_cons, List.append_assoc] at hgives
    exact hgives

/-! ## Empty collections -/

def openingSign : Bracket → Char
  | .square => '['
  | .curly => '\x7b'

def closingSign : Bracket → Char
  | .square => ']'
  | .curly => '\x7d'

def openingKind : Bracket → TokenKind
  | .square => .flowSequenceStart
  | .curly => .flowMappingStart

def closingKind : Bracket → TokenKind
  | .square => .flowSequenceEnd
  | .curly => .flowMappingEnd

theorem fetch_opening {b : Bracket} {more : List Char} {s : Lexer}
    (h : s.cursor.rest = openingSign b :: more) (waiting : Bool) :
    s.fetch waiting = s.fetchOpening b (openingKind b) := by
  have hpeek : s.cursor.peek = some (openingSign b) := by rw [Cursor.peek, h, List.head?_cons]
  have hmark (mark : Char) (hmark : openingSign b ≠ mark) : s.cursor.hasMark mark = false := by
    rw [Cursor.hasMark, h]
    simp [hmark]
  have hhyphens := hmark '-' (by cases b <;> decide)
  have hpoints := hmark '.' (by cases b <;> decide)
  cases b <;> simp [fetch, hpeek, hhyphens, hpoints, openingSign, openingKind]

theorem fetch_closing {b : Bracket} {more : List Char} {s : Lexer}
    (h : s.cursor.rest = closingSign b :: more) (waiting : Bool) :
    s.fetch waiting = s.fetchClosing (closingKind b) := by
  have hpeek : s.cursor.peek = some (closingSign b) := by rw [Cursor.peek, h, List.head?_cons]
  have hmark (mark : Char) (hmark : closingSign b ≠ mark) : s.cursor.hasMark mark = false := by
    rw [Cursor.hasMark, h]
    simp [hmark]
  have hhyphens := hmark '-' (by cases b <;> decide)
  have hpoints := hmark '.' (by cases b <;> decide)
  cases b <;> simp [fetch, hpeek, hhyphens, hpoints, closingSign, closingKind]

/-- Within brackets, too, nothing is skipped in front of a closing one. -/
theorem settle_closing {b : Bracket} {more : List Char} {s : Lexer}
    (h : s.cursor.rest = closingSign b :: more) : s.settle = s := by
  have hmark : s.peek ≠ some '\uFEFF' := by
    rw [peek, Cursor.peek, h]
    cases b <;> simp [closingSign]
  have hblank : (s.cursor.skipWhile fun c => c = ' ' || (c = '\t' && !s.inBlock)) = s.cursor := by
    have hend : ∀ c ∈ (closingSign b :: more).head?,
        (c = ' ' || (c = '\t' && !s.inBlock)) = false := by
      intro c hc
      obtain rfl : closingSign b = c := by simpa using hc
      cases b <;> simp [closingSign]
    have hshape : s.cursor.rest = [] ++ closingSign b :: more := h
    exact Cursor.skipWhile_eq hshape (by simp) hend
  have hcomment : s.cursor.peek ≠ some '#' := by
    rw [Cursor.peek, h]
    cases b <;> simp [closingSign]
  have hbreak : s.cursor.lineBreak? = none := by
    refine Cursor.lineBreak?_none fun c hc => ?_
    rw [h] at hc
    obtain rfl : closingSign b = c := by simpa using hc
    cases b <;> decide
  rw [settle, skipMark_eq hmark, Cursor.fuel_eq, skipToToken, hblank, if_neg hcomment, hbreak]
  rfl

theorem gives_closing {b : Bracket} {s : Lexer} (done : List Token) (hblock : s.brackets = [b])
    (hversion : s.version = .v1_2) (hstack : s.indent :: s.indents = stackOf columns)
    (hcandidates : ∀ k ∈ s.candidates, k.required = false ∧ k.level = 0 ∧ k.line ≤ s.cursor.line)
    (hcursor : s.cursor.rest = closingSign b :: (newLine j ++ rest)) (hrest : StartsToken j rest)
    (h : Spot.Yields ⟨rest, j, openFrom j columns, true⟩ ks) :
    Gives done s (kinds (s.tokens ++ done) ++ (closingKind b :: (endsFrom j columns ++ ks))) := by
  obtain ⟨done', ts, hover, hkinds⟩ :=
    handOver_spec done { s with candidates := s.candidates.filter fun k => !s.isStale k }
  let held : Lexer :=
    { s with candidates := s.candidates.filter fun k => !s.isStale k, tokens := ts }
  let fresh : Lexer := { held with candidates := held.candidates.filter fun k => !held.isStale k }
  have hfresh : ∀ k ∈ fresh.candidates, k.required = false ∧ k.level = 0 ∧ k.line ≤ s.cursor.line :=
    fun k hk => hcandidates k (List.mem_filter.mp (List.mem_filter.mp hk).1).1
  let closed : Lexer :=
    { fresh with
      brackets := [], keyAllowed := false
      tokens := ⟨closingKind b, s.cursor.line⟩ :: ts
      cursor := s.cursor.next }
  have hlevel : fresh.level = 1 := by rw [level, show fresh.brackets = [b] from hblock]; rfl
  have hdrop : fresh.dropCandidate = .ok fresh := by
    have hnone : fresh.candidates.any (fun k => k.level = fresh.level && k.required) = false := by
      refine List.any_eq_false.mpr fun k hk => ?_
      simp [(hfresh k hk).1]
    have hkept : fresh.candidates.filter (fun k => k.level ≠ fresh.level) = fresh.candidates := by
      refine List.filter_eq_self.mpr fun k hk => ?_
      simp [(hfresh k hk).2.1, hlevel]
    rw [dropCandidate, hnone, hkept]
    rfl
  have hadvance : held.advance = .ok closed := by
    have hinBlock : fresh.inBlock = false := by
      rw [inBlock, show fresh.brackets = [b] from hblock]
      rfl
    have hunwind : fresh.unwind fresh.cursor.column = fresh := by
      rw [unwind, hinBlock]
      rfl
    change held.settle.dropStale >>= _ = _
    rw [settle_closing (s := held) hcursor, dropStale_of_not_required fun k hk =>
      (hcandidates k (List.mem_filter.mp hk).1).1]
    change (fresh.unwind fresh.cursor.column).fetch _ = _
    rw [hunwind, fetch_closing (s := fresh) hcursor, fetchClosing, hdrop]
    change Except.ok _ = Except.ok _
    rw [show fresh.brackets = [b] from hblock]
    rfl
  have hend : AtLineEnd closed j rest columns := by
    refine ⟨?_, hstack, ?_, rfl, hversion⟩
    · change s.cursor.next.rest = _
      rw [Cursor.next_rest, hcursor, List.tail_cons]
    · intro k hk
      obtain ⟨hrequired, -, hline⟩ := hfresh k hk
      exact ⟨hrequired, Nat.le_trans hline (Cursor.line_le_next _)⟩
  refine gives_of_advance (dropStale_of_not_required fun k hk => (hcandidates k hk).1) hover hadvance ?_
  rw [← hkinds]
  refine hend.continues done' rfl ?_ ?_ hrest h
  · cases b <;> simp [closingKind]
  · rw [hend.rest, hcursor]
    exact Nat.lt_succ_self _

/-- Brackets with nothing between them at the end of a line. -/
theorem yields_empty (b : Bracket) (hinside : ∀ c ∈ columns.head?, c ≠ column)
    (hrest : StartsToken j rest) (h : Spot.Yields ⟨rest, j, openFrom j columns, true⟩ ks) :
    Spot.Yields ⟨openingSign b :: closingSign b :: (newLine j ++ rest), column, columns, allowed⟩
      (openingKind b :: closingKind b :: (endsFrom j columns ++ ks)) := by
  intro p waiting done hp
  obtain ⟨candidates, hadd, hcandidates⟩ := addCandidate_spec hp hinside
  let within : Lexer :=
    { p with
      candidates := candidates, brackets := [b], keyAllowed := true
      tokens := ⟨openingKind b, p.cursor.line⟩ :: p.tokens
      cursor := p.cursor.next }
  have hopening : p.fetch waiting = .ok within := by
    rw [fetch_opening hp.rest, fetchOpening, hadd]
    change Except.ok _ = Except.ok _
    rw [show p.brackets = [] from hp.brackets]
    rfl
  have hclosing : within.cursor.rest = closingSign b :: (newLine j ++ rest) := by
    change p.cursor.next.rest = _
    rw [Cursor.next_rest, hp.rest, List.tail_cons]
  have hwithin : ∀ k ∈ within.candidates,
      k.required = false ∧ k.level = 0 ∧ k.line ≤ within.cursor.line := fun k hk => by
    obtain ⟨hrequired, hlevel, hline, -⟩ := hcandidates k hk
    exact ⟨hrequired, hlevel, by rw [hline]; exact Cursor.line_le_next _⟩
  have hgives := gives_closing (s := within) done rfl hp.version hp.stack hwithin hclosing hrest h
  refine ⟨within, hopening, ?_⟩
  rw [Continues, if_neg (by cases b <;> simp [within, openingKind])]
  refine ⟨?_, ?_⟩
  · rw [hclosing]
    exact Nat.lt_succ_self _
  · rw [List.cons_append, kinds_cons, List.append_assoc] at hgives
    exact hgives

end EndpointUpgrade.Yaml.Lexer
