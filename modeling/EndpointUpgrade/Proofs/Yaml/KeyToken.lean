import EndpointUpgrade.Proofs.Yaml.ScalarToken

/-!
# Keys as tokens

A key in front of its colon is held back until the colon is read, and only then becomes a key, which
it does unless it takes up more characters than a key may.
-/

namespace EndpointUpgrade.Yaml.Lexer

variable {p : Lexer} {x : Spot} {rest : List Char} {column : Nat} {columns : List Nat}
  {ks : List TokenKind}

def candidateAt (p : Lexer) (required : Bool) : Candidate :=
  ⟨0, p.tokens.length, required, p.cursor.index, p.cursor.line, p.cursor.column⟩

/-- The state behind a scalar that may turn out to be a key. -/
def holding (p : Lexer) (required : Bool) (kind : TokenKind) (n : Nat) : Lexer :=
  { p with
    candidates := [p.candidateAt required], keyAllowed := false
    tokens := ⟨kind, p.cursor.line⟩ :: p.tokens
    cursor := p.cursor.skip n }

theorem addCandidate_key (hp : p.Shows x) (hallowed : x.allowed = true) :
    ∃ required, p.addCandidate = .ok { p with candidates := [p.candidateAt required] } := by
  refine ⟨p.inBlock && decide (p.indent = p.cursor.column), ?_⟩
  rw [addCandidate, if_pos (hp.allowed.trans hallowed), dropCandidate_of_nil hp.candidates]
  simp [bind, Except.bind, pure, Except.pure, hp.candidates, candidateAt, level, hp.brackets]

theorem insertAt_spec {s : Lexer} (later : List Token) {earlier : List Token} (line : Nat)
    (kind : TokenKind)
    (h : s.tokens = later ++ earlier) :
    s.insertAt earlier.length line kind = { s with tokens := later ++ ⟨kind, line⟩ :: earlier } := by
  have hcount : s.tokens.length - earlier.length = later.length := by
    rw [h, List.length_append]
    omega
  rw [insertAt, hcount, List.splitAt_eq, h, List.take_left, List.drop_left]

theorem unwind_of_le {s : Lexer} {column : Int} (h : s.indent ≤ column) : s.unwind column = s := by
  rw [unwind]
  split
  · cases s.indents with
    | nil => rfl
    | cons outer rest => rw [unwindFrom, if_pos h]
  · rfl

theorem Opens.indent_le {kind : TokenKind} {inside : List Nat} {opening : List TokenKind}
    (hopens : Opens kind column columns inside opening)
    (hstack : p.indent :: p.indents = stackOf columns) : p.indent ≤ column := by
  cases hopens with
  | again columns => exact Int.le_of_eq (List.cons.inj hstack).1
  | first h => exact Int.le_of_lt (indent_lt_of_stackOf hstack h)

/-- A colon behind a candidate: the key is announced, a mapping is opened in front of it if there
is none at its column, and the sign of the value follows. -/
theorem fetchValue_of_candidate {s keyed opened : Lexer} {k : Candidate}
    (hfind : s.candidates.find? (fun k => k.level = s.level) = some k)
    (hkeyed :
      ({ s with candidates := s.candidates.filter fun k => k.level ≠ s.level } : Lexer).insertAt
      k.number k.line .key = keyed)
    (hopened : (if keyed.inBlock && keyed.deepens k.column then
      (keyed.deepen k.column).insertAt k.number k.line .blockMappingStart else keyed) = opened) :
    s.fetchValue = .ok (((opened.allowKey false).emit .value).moveTo opened.cursor.next) := by
  subst hkeyed hopened
  rw [fetchValue, hfind]
  rfl

/-- The colon makes a key of the scalar in front of it, and begins a mapping if none is open at its
column. -/
theorem fetchValue_holding (required : Bool) (kind : TokenKind) (n : Nat) {inside : List Nat}
    {opening : List TokenKind} (hopens : Opens .blockMappingStart column columns inside opening)
    (hp : p.Shows ⟨rest, column, columns, true⟩) :
    ∃ ts i is, (p.holding required kind n).fetchValue = .ok
        { p with
          keyAllowed := false, indent := i, indents := is, tokens := ts ++ p.tokens
          cursor := (p.cursor.skip n).next } ∧
      i :: is = stackOf inside ∧ kinds ts = opening ++ [.key, kind, .value] := by
  have hlevel : (p.candidateAt required).level = (p.holding required kind n).level := by
    simp [candidateAt, level, holding, hp.brackets]
  have hfind : (p.holding required kind n).candidates.find?
      (fun k => k.level = (p.holding required kind n).level) = some (p.candidateAt required) :=
    List.find?_cons_of_pos (by simpa using hlevel)
  have hfilter : (p.holding required kind n).candidates.filter
      (fun k => k.level ≠ (p.holding required kind n).level) = p.candidates := by
    rw [hp.candidates]
    exact List.filter_cons_of_neg (by simpa using hlevel)
  let keyed : Lexer :=
    { p with
      keyAllowed := false
      tokens := [⟨kind, p.cursor.line⟩] ++ ⟨.key, p.cursor.line⟩ :: p.tokens
      cursor := p.cursor.skip n }
  have hkeyed : ({ p.holding required kind n with
      candidates := (p.holding required kind n).candidates.filter
        fun k => k.level ≠ (p.holding required kind n).level } : Lexer).insertAt
      (p.candidateAt required).number (p.candidateAt required).line .key = keyed := by
    rw [hfilter]
    exact insertAt_spec [⟨kind, p.cursor.line⟩] p.cursor.line .key rfl
  have hcolumn : p.cursor.column = column := hp.column
  cases hopens with
  | again columns =>
    have hindent : keyed.indent = (column : Int) := (List.cons.inj hp.stack).1
    have hshallow : keyed.deepens (p.candidateAt required).column = false := by
      change keyed.deepens p.cursor.column = false
      rw [deepens, hindent, hcolumn]
      simp
    have hopened : ((if keyed.inBlock && keyed.deepens (p.candidateAt required).column then
        (keyed.deepen (p.candidateAt required).column).insertAt (p.candidateAt required).number
          (p.candidateAt required).line .blockMappingStart else keyed) : Lexer) = keyed := by
      rw [hshallow, Bool.and_false]
      rfl
    have hfetch := fetchValue_of_candidate hfind hkeyed hopened
    exact ⟨[⟨.value, (p.cursor.skip n).line⟩, ⟨kind, p.cursor.line⟩, ⟨.key, p.cursor.line⟩],
      p.indent, p.indents, hfetch, hp.stack, rfl⟩
  | first h =>
    have hindent : keyed.indent < (column : Int) := indent_lt_of_stackOf hp.stack h
    have hdeep : (keyed.inBlock && keyed.deepens (p.candidateAt required).column) = true := by
      rw [show keyed.inBlock = true from hp.inBlock, Bool.true_and]
      change keyed.deepens p.cursor.column = true
      rw [deepens, hcolumn]
      simpa using hindent
    have hstart := insertAt_spec (s := keyed.deepen p.cursor.column)
      [⟨kind, p.cursor.line⟩, ⟨.key, p.cursor.line⟩] p.cursor.line .blockMappingStart rfl
    have hfetch := fetchValue_of_candidate hfind hkeyed ((if_pos hdeep).trans hstart)
    refine ⟨[⟨.value, (p.cursor.skip n).line⟩, ⟨kind, p.cursor.line⟩, ⟨.key, p.cursor.line⟩,
      ⟨.blockMappingStart, p.cursor.line⟩], column, p.indent :: p.indents, ?_, ?_, rfl⟩
    · rw [hfetch, ← hcolumn]
      rfl
    · rw [hp.stack]
      rfl

/-- The colon is reached with the candidate still held. -/
theorem advance_holding (required : Bool) (kind : TokenKind) {written : List Char}
    {inside : List Nat} {opening : List TokenKind}
    (hopens : Opens .blockMappingStart column columns inside opening)
    (hinline : ∀ c ∈ written, isInline c = true) (hshort : written.length ≤ 1024)
    (hblank : isBlankOrEnd rest.head? = true)
    (hp : p.Shows ⟨written ++ ':' :: rest, column, columns, true⟩) :
    (p.holding required kind written.length).dropStale =
        .ok (p.holding required kind written.length) ∧
      (p.holding required kind written.length).advance =
        (p.holding required kind written.length).fetchValue := by
  let held := p.holding required kind written.length
  have hrest : held.cursor.rest = ':' :: rest := Cursor.skip_append hp.rest
  obtain ⟨hline, hcolumn⟩ := Cursor.skip_inline hp.rest hinline
  have hfresh : held.isStale (p.candidateAt required) = false := by
    have hindex : held.cursor.index - p.cursor.index = written.length := by
      change (p.cursor.skip written.length).index - _ = _
      rw [Cursor.skip_index (by simp [hp.rest]), Nat.add_sub_cancel_left]
    have hsame : p.cursor.line = held.cursor.line := hline.symm
    change (p.cursor.line ≠ held.cursor.line || 1024 < held.cursor.index - p.cursor.index : Bool) =
      false
    rw [hindex, hsame]
    simpa using hshort
  have hdrop : held.dropStale = .ok held := by
    have hkept : held.candidates.filter (fun k => !held.isStale k) = held.candidates :=
      List.filter_cons_of_pos (by simpa using hfresh)
    have hnone : held.candidates.any (fun k => held.isStale k && k.required) = false := by
      change (held.isStale (p.candidateAt required) && _ || false) = false
      rw [hfresh, Bool.false_and, Bool.or_false]
    rw [dropStale, hnone, hkept]
    rfl
  have hsettle : held.settle = held := by
    have hmargin : held.cursor.rest = margin 0 ++ ':' :: rest := hrest
    have hsign : StartsToken 0 (':' :: rest) := ⟨⟨by decide, by decide⟩, by decide⟩
    exact settles_inLine hmargin hsign held rfl hp.brackets
  have hunwind : held.unwind held.cursor.column = held := by
    refine unwind_of_le (Int.le_trans (hopens.indent_le hp.stack) ?_)
    have hstart : p.cursor.column = column := hp.column
    change (column : Int) ≤ (p.cursor.skip written.length).column
    rw [hcolumn, hstart]
    omega
  refine ⟨hdrop, ?_⟩
  change held.settle.dropStale >>= _ = _
  rw [hsettle, hdrop]
  change (held.unwind held.cursor.column).fetch _ = _
  rw [hunwind, fetch_colon hrest hp.brackets hblank]

/-- A key within one line that is not too long, with the colon behind it. -/
theorem yields_key {kind : TokenKind} {written : List Char} {inside : List Nat}
    {opening : List TokenKind} (hopens : Opens .blockMappingStart column columns inside opening)
    (hkind : kind ≠ .streamEnd) (hne : 0 < written.length)
    (hinline : ∀ c ∈ written, isInline c = true) (hshort : written.length ≤ 1024)
    (hblank : isBlankOrEnd rest.head? = true)
    (hfetch : ∀ (p : Lexer) (waiting : Bool),
      p.Shows ⟨written ++ ':' :: rest, column, columns, true⟩ →
        ∃ required, p.fetch waiting = .ok (p.holding required kind written.length))
    (h : Spot.Gives ⟨rest, column + written.length + 1, inside, false⟩ ks) :
    Spot.Yields ⟨written ++ ':' :: rest, column, columns, true⟩
      (opening ++ .key :: kind :: .value :: ks) := by
  intro p waiting done hp
  obtain ⟨required, hfetch⟩ := hfetch p waiting hp
  obtain ⟨hdrop, hadvance⟩ := advance_holding required kind hopens hinline hshort hblank hp
  obtain ⟨ts, i, is, hvalue, hstack, hts⟩ :=
    fetchValue_holding required kind written.length hopens hp
  let behind : Lexer :=
    { p with
      keyAllowed := false, indent := i, indents := is, tokens := ts ++ p.tokens
      cursor := (p.cursor.skip written.length).next }
  have hcolon : (p.cursor.skip written.length).rest = ':' :: rest := Cursor.skip_append hp.rest
  have hshows : behind.Shows ⟨rest, column + written.length + 1, inside, false⟩ := by
    obtain ⟨-, hcolumn⟩ := Cursor.skip_inline hp.rest hinline
    obtain ⟨-, hnext⟩ := Cursor.next_inline hcolon (by decide)
    refine ⟨?_, ?_, hstack, rfl, hp.candidates, hp.brackets, hp.version⟩
    · change (p.cursor.skip written.length).next.rest = rest
      rw [Cursor.next_rest, hcolon, List.tail_cons]
    · change (p.cursor.skip written.length).next.column = _
      rw [hnext, hcolumn, hp.column]
  have hcontinues := continues_of_shows done hshows rfl hts
    ⟨.value, by simp, TokenKind.noConfusion⟩ (Nat.lt_succ_self rest.length) h
  refine ⟨p.holding required kind written.length, hfetch, ?_⟩
  rw [Continues, if_neg (by simpa [holding] using hkind)]
  change (p.cursor.skip written.length).rest.length < _ ∧ _
  rw [hcolon]
  refine ⟨?_, gives_of_advance hdrop rfl (hadvance.trans hvalue) ?_⟩
  · simp only [List.length_append, List.length_cons]
    omega
  · change Continues done (p.cursor.skip written.length).rest.length behind _
    rw [hcolon, List.length_cons]
    simpa only [List.append_assoc, List.cons_append, List.nil_append] using hcontinues

theorem fetch_quotedKey {double : Bool} {written cs : List Char}
    (hread : ReadsQuoted double written cs) (waiting : Bool)
    (hp : p.Shows ⟨quotedChars double written ++ ':' :: rest, column, columns, true⟩) :
    ∃ required, p.fetch waiting = .ok
      (p.holding required (.scalar (String.ofList cs) false) (quotedChars double written).length) := by
  obtain ⟨required, hadd⟩ := addCandidate_key hp rfl
  have hscalar := readQuoted_written hread (by simp) hp.rest
  refine ⟨required, ?_⟩
  rw [fetch_quoted hp rfl, fetchKeyPart, hadd]
  change (readQuoted double p.cursor >>= _) = _
  rw [hscalar]
  rfl

theorem fetch_plainKey {cs : List Char} (hcs : ReadsPlain cs)
    (hblank : isBlankOrEnd rest.head? = true)
    (hindent : p.indent ≤ column) (waiting : Bool)
    (hp : p.Shows ⟨cs ++ ':' :: rest, column, columns, true⟩) :
    ∃ required, p.fetch waiting = .ok
      (p.holding required (.scalar (String.ofList cs) true) cs.length) := by
  obtain ⟨required, hadd⟩ := addCandidate_key hp rfl
  have hwritten := wordChars_none column cs
  obtain ⟨c, more, hshape, hc⟩ := wordChars_begins hcs.begins none column (':' :: rest)
  rw [hwritten] at hshape
  have hmark : ∀ x : Char, x ≠ ':' → cs.take 3 ≠ [x, x, x] →
      (cs ++ ':' :: rest).take 3 ≠ [x, x, x] := by
    intro x hx hcs
    rcases cs with _ | ⟨a, _ | ⟨b, _ | ⟨c, cs⟩⟩⟩
    · simp [hx.symm]
    · simp [hx.symm]
    · simp [hx.symm]
    · simpa using hcs
  have hfetchPlain := fetch_plain hp hshape hc
    (fun _ => ⟨hmark '-' (by decide) hcs.noMark.1, hmark '.' (by decide) hcs.noMark.2⟩) waiting
  let behind := p.cursor.skip cs.length
  have hbehind : behind.rest = margin 0 ++ ':' :: rest := Cursor.skip_append hp.rest
  have hspace := plainSpace_margin hbehind ⟨by decide, by decide⟩
  have htext : plainText false .v1_2 (p.indent + 1) p.cursor = ⟨cs.reverse, behind, false⟩ := by
    have hstart : p.indent + 1 ≤ p.cursor.column + 1 := by
      have : p.cursor.column = column := hp.column
      omega
    have hcolon : plainWord false .v1_2 (':' :: rest) = [] := by
      rw [plainWord, hblank]
      rfl
    have hrest : p.cursor.rest = wordChars none column cs ++ ':' :: rest := by
      rw [hwritten]
      exact hp.rest
    have hends : EndsPlain (p.indent + 1)
        (plainSpace (p.cursor.skip (wordChars none column cs).length)) := by
      rw [hwritten, hspace]
      exact Or.inl rfl
    rw [plainText_written .v1_2 (p.indent + 1) hcs.words (by simp) hcolon hrest hstart hends]
    dsimp only
    rw [hwritten, hspace]
    rfl
  refine ⟨required, ?_⟩
  rw [hfetchPlain, fetchPlain_spec hp hadd htext, List.reverse_reverse]
  rfl

end EndpointUpgrade.Yaml.Lexer
