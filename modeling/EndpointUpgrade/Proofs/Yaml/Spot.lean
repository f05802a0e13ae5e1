import EndpointUpgrade.Proofs.Yaml.Plain
import EndpointUpgrade.Yaml.Lexer

/-!
# Where the lexer stands between two tokens

Between two tokens of a text in block style, all that counts for the tokens still to come is what is
left of the text, the columns of the open block collections, and whether a key may begin. So what is
read from there on can be stated of such a spot, whatever the tokens before it are.
-/

namespace EndpointUpgrade.Yaml

/-- What tokens are, in the order in which they were read; the list has the last one first. -/
def kinds (ts : List Token) : List TokenKind := (ts.map (·.kind)).reverse

@[simp]
theorem kinds_nil : kinds [] = [] := rfl

theorem kinds_cons (t : Token) (ts : List Token) : kinds (t :: ts) = kinds ts ++ [t.kind] := by
  rw [kinds, List.map_cons, List.reverse_cons]
  rfl

theorem kinds_append (later earlier : List Token) :
    kinds (later ++ earlier) = kinds earlier ++ kinds later := by
  rw [kinds, List.map_append, List.reverse_append]
  rfl

/-- The first character of a token, or the end of the text at the beginning of a line. -/
def StartsToken (column : Nat) : List Char → Prop
  | [] => column = 0
  | c :: _ => LineStart c ∧ c ≠ '#'

namespace Lexer

variable {s : Lexer}

/-! ## Space between tokens -/

/-- Skips to the next token, and a byte order mark in front of the text. -/
def settle (s : Lexer) : Lexer := skipToToken s.cursor.fuel s.skipMark

theorem skipToToken_inLine {m column : Nat} {rest : List Char} (fuel : Nat)
    (hblock : s.brackets = []) (h : s.cursor.rest = margin m ++ rest)
    (hrest : StartsToken column rest) :
    skipToToken (fuel + 1) s = s.moveTo (s.cursor.skip m) := by
  have hblank : (s.cursor.skipWhile fun c => c = ' ' || (c = '\t' && !s.inBlock)) =
      s.cursor.skip m := by
    have hend : ∀ c ∈ rest.head?, (c = ' ' || (c = '\t' && !s.inBlock)) = false := by
      intro c hc
      obtain ⟨more, rfl⟩ := List.head?_eq_some_iff.mp hc
      simp [inBlock, hblock, hrest.1.space]
    have hrun : ∀ c ∈ margin m, (c = ' ' || (c = '\t' && !s.inBlock)) = true := by
      intro c hc
      rw [Cursor.mem_margin hc]
      rfl
    rw [Cursor.skipWhile_eq h hrun hend, Cursor.length_margin]
  have hafter : (s.cursor.skip m).rest = rest := by
    rw [← Cursor.length_margin m, Cursor.skip_append h]
  have hcomment : (s.cursor.skip m).peek ≠ some '#' := by
    rw [Cursor.peek, hafter]
    intro hc
    obtain ⟨more, rfl⟩ := List.head?_eq_some_iff.mp hc
    exact hrest.2 rfl
  have hbreak : (s.cursor.skip m).lineBreak? = none := by
    refine Cursor.lineBreak?_none fun c hc => ?_
    rw [hafter] at hc
    obtain ⟨more, rfl⟩ := List.head?_eq_some_iff.mp hc
    exact hrest.1.isBreak
  rw [skipToToken, hblank, if_neg hcomment, hbreak]

theorem skipToToken_nextLine {k m column : Nat} {rest : List Char} (fuel : Nat)
    (hblock : s.brackets = []) (h : s.cursor.rest = margin k ++ newLine m ++ rest)
    (hrest : StartsToken column rest) :
    skipToToken (fuel + 2) s = (s.moveTo (s.cursor.skip (k + 1 + m))).allowKey true := by
  have hfeed : (s.cursor.skip k).rest = '\n' :: (margin m ++ rest) := by
    rw [← Cursor.length_margin k, Cursor.skip_append (by rw [h, List.append_assoc])]
    rfl
  have hblank : (s.cursor.skipWhile fun c => c = ' ' || (c = '\t' && !s.inBlock)) =
      s.cursor.skip k := by
    have hshape : s.cursor.rest = margin k ++ '\n' :: (margin m ++ rest) := by
      rw [h, List.append_assoc]
      rfl
    have hrun : ∀ c ∈ margin k, (c = ' ' || (c = '\t' && !s.inBlock)) = true := by
      intro c hc
      rw [Cursor.mem_margin hc]
      rfl
    rw [Cursor.skipWhile_eq hshape hrun (by simp), Cursor.length_margin]
  have hcomment : (s.cursor.skip k).peek ≠ some '#' := by
    rw [Cursor.peek, hfeed]
    simp
  have hinBlock : s.inBlock = true := by rw [inBlock, hblock]; rfl
  have hline : ((s.moveTo (s.cursor.skip k).next).allowKey true).cursor.rest = margin m ++ rest := by
    change (s.cursor.skip k).next.rest = _
    rw [Cursor.next_rest, hfeed, List.tail_cons]
  rw [skipToToken, hblank, if_neg hcomment, Cursor.lineBreak?_lineFeed hfeed]
  dsimp only
  have hblock' : ((s.moveTo (s.cursor.skip k).next).allowKey true).brackets = [] := hblock
  rw [hinBlock, Bool.or_true, skipToToken_inLine fuel hblock' hline hrest, Cursor.skip_add,
    Cursor.skip_add]
  rfl

/-- Outside brackets, the next token is found at a cursor, and a line ends in front of it or not. -/
def Settles (cur after : Cursor) (newLine : Bool) : Prop :=
  ∀ s : Lexer, s.cursor = cur → s.brackets = [] →
    s.settle = (s.moveTo after).allowKey (s.keyAllowed || newLine)

theorem skipMark_eq (h : s.peek ≠ some '\uFEFF') : s.skipMark = s := by
  rw [skipMark, if_neg (by simp [h])]

theorem settles_inLine {cur : Cursor} {m column : Nat} {rest : List Char}
    (h : cur.rest = margin m ++ rest) (hrest : StartsToken column rest) :
    Settles cur (cur.skip m) false := by
  rintro s rfl hblock
  have hmark : s.peek ≠ some '\uFEFF' := by
    rw [peek, Cursor.peek, h]
    cases m with
    | succ m => simp [margin, List.replicate_succ]
    | zero =>
      intro hc
      obtain ⟨more, rfl⟩ := List.head?_eq_some_iff.mp (show rest.head? = some '\uFEFF' from hc)
      exact absurd hrest.1.inLine (by decide)
  rw [settle, skipMark_eq hmark, Cursor.fuel_eq, skipToToken_inLine _ hblock h hrest, Bool.or_false]
  rfl

theorem settles_nextLine {cur : Cursor} {k m column : Nat} {rest : List Char}
    (h : cur.rest = margin k ++ newLine m ++ rest) (hrest : StartsToken column rest) :
    Settles cur (cur.skip (k + 1 + m)) true := by
  rintro s rfl hblock
  have hmark : s.peek ≠ some '\uFEFF' := by
    rw [peek, Cursor.peek, h]
    cases k with
    | succ k => simp [margin, List.replicate_succ]
    | zero => simp [margin, newLine]
  have hfuel : ∃ fuel, s.cursor.fuel = fuel + 2 := by
    refine ⟨s.cursor.fuel - 2, ?_⟩
    rw [Cursor.fuel_eq, h, newLine]
    simp only [List.length_append, List.length_cons]
    omega
  obtain ⟨fuel, hfuel⟩ := hfuel
  rw [settle, skipMark_eq hmark, hfuel, skipToToken_nextLine fuel hblock h hrest, Bool.or_true]

/-! ## Ends of block collections -/

/-- The columns of open block collections as the lexer keeps them, with that of none at the end. -/
def stackOf (columns : List Nat) : List Int := columns.map Int.ofNat ++ [-1]

/-- The ends of the block collections that are indented further than a column. -/
def endsFrom (column : Int) (columns : List Nat) : List TokenKind :=
  (columns.takeWhile fun (c : Nat) => column < c).map fun _ => .blockEnd

/-- The block collections that are indented no further than a column. -/
def openFrom (column : Int) (columns : List Nat) : List Nat :=
  columns.dropWhile fun (c : Nat) => column < c

theorem unwindFrom_stackOf {columns : List Nat} (column : Int)
    (h : s.indent :: s.indents = stackOf columns) :
    ∃ ts, kinds ts = endsFrom column columns ∧
      ∃ i is, i :: is = stackOf (openFrom column columns) ∧
        unwindFrom column s.indents s =
          { s with tokens := ts ++ s.tokens, indent := i, indents := is } := by
  induction columns generalizing s with
  | nil =>
    have hunwound : unwindFrom column s.indents s = s := by
      rw [(List.cons.inj h).2]
      rfl
    exact ⟨[], rfl, s.indent, s.indents, h, hunwound⟩
  | cons c columns ih =>
    have hcolumn : s.indent = (c : Int) := (List.cons.inj h).1
    have hindents : s.indents = stackOf columns := (List.cons.inj h).2
    obtain ⟨outer, rest, hstack⟩ : ∃ outer rest, stackOf columns = outer :: rest :=
      List.exists_cons_of_ne_nil (by simp [stackOf])
    by_cases hclose : column < (c : Int)
    · let inner := ({ s with indent := outer, indents := rest }).emit .blockEnd
      obtain ⟨ts, hts, i, is, his, hunwound⟩ := ih (s := inner) hstack.symm
      refine ⟨ts ++ [⟨.blockEnd, s.cursor.line⟩], ?_, i, is, ?_, ?_⟩
      · rw [kinds_append, hts, endsFrom, endsFrom, List.takeWhile_cons_of_pos (by simpa using hclose)]
        rfl
      · rw [openFrom, List.dropWhile_cons_of_pos (by simpa using hclose)]
        exact his
      · have hstep : unwindFrom column s.indents s = unwindFrom column rest inner := by
          rw [hindents, hstack, unwindFrom, if_neg (by omega)]
        refine hstep.trans (hunwound.trans ?_)
        rw [List.append_assoc]
        rfl
    · refine ⟨[], ?_, s.indent, s.indents, ?_, ?_⟩
      · rw [endsFrom, List.takeWhile_cons_of_neg (by simpa using hclose)]
        rfl
      · rw [openFrom, List.dropWhile_cons_of_neg (by simpa using hclose)]
        exact h
      · have hstep : unwindFrom column s.indents s = s := by
          rw [hindents, hstack, unwindFrom, if_pos (by omega)]
        exact hstep

/-! ## Spots -/

/-- What counts for the tokens still to come. -/
structure Spot where
  rest : List Char
  column : Nat
  /-- The columns of the open block collections, the innermost first. -/
  columns : List Nat
  /-- A key may begin here. -/
  allowed : Bool

/-- A state is at a spot. -/
structure Shows (s : Lexer) (x : Spot) : Prop where
  rest : s.cursor.rest = x.rest
  column : s.cursor.column = x.column
  stack : s.indent :: s.indents = stackOf x.columns
  allowed : s.keyAllowed = x.allowed
  candidates : s.candidates = []
  brackets : s.brackets = []
  version : s.version = .v1_2

/-- From a state on, tokens of the given kinds are read, those before it included. -/
def Gives (done : List Token) (s : Lexer) (ks : List TokenKind) : Prop :=
  ∀ fuel, s.cursor.rest.length + 2 ≤ fuel → (run fuel done s).map (·.kind) = ks

/-- The same of the state behind a token, which is the last one or leaves less of the text. -/
def Continues (done : List Token) (bound : Nat) (s : Lexer) (ks : List TokenKind) : Prop :=
  if s.tokens.head?.map (·.kind) = some .streamEnd then kinds (s.tokens ++ done) = ks
  else s.cursor.rest.length < bound ∧ Gives done s ks

/-- Where a token begins, tokens of the given kinds are read. -/
def Spot.Yields (x : Spot) (ks : List TokenKind) : Prop :=
  ∀ (p : Lexer) (waiting : Bool) (done : List Token), p.Shows x →
    ∃ s', p.fetch waiting = .ok s' ∧
      Continues done x.rest.length s' (kinds (p.tokens ++ done) ++ ks)

theorem handOver_spec (done : List Token) (s : Lexer) :
    ∃ done' ts, handOver done s = (done', { s with tokens := ts }) ∧
      kinds (ts ++ done') = kinds (s.tokens ++ done) := by
  rw [handOver]
  split
  · exact ⟨_, [], rfl, rfl⟩
  · exact ⟨done, s.tokens, rfl, rfl⟩

theorem dropStale_of_not_required (h : ∀ k ∈ s.candidates, k.required = false) :
    s.dropStale = .ok { s with candidates := s.candidates.filter fun k => !s.isStale k } := by
  rw [dropStale, if_neg]
  intro hany
  obtain ⟨k, hk, hrequired⟩ := List.any_eq_true.mp hany
  simp [h k hk] at hrequired

theorem dropStale_of_stale (h : ∀ k ∈ s.candidates, k.required = false ∧ s.isStale k = true) :
    s.dropStale = .ok { s with candidates := [] } := by
  have hfilter : (s.candidates.filter fun k => !s.isStale k) = [] := by
    rw [List.filter_eq_nil_iff]
    intro k hk
    simp [(h k hk).2]
  rw [dropStale_of_not_required fun k hk => (h k hk).1, hfilter]

theorem gives_of_advance {done done' : List Token} {s₁ s₂ s' : Lexer} {ks : List TokenKind}
    (hdrop : s.dropStale = .ok s₁) (hover : handOver done s₁ = (done', s₂))
    (hadvance : s₂.advance = .ok s') (h : Continues done' s.cursor.rest.length s' ks) :
    Gives done s ks := by
  intro fuel hfuel
  obtain ⟨fuel, rfl⟩ : ∃ n, fuel = n + 1 := ⟨fuel - 1, by omega⟩
  rw [run, hdrop]
  dsimp only
  rw [hover]
  dsimp only
  rw [hadvance]
  dsimp only
  rw [Continues] at h
  split
  · rename_i hend
    rw [if_pos hend] at h
    rw [List.map_reverse]
    exact h
  · rename_i hend
    rw [if_neg hend] at h
    exact h.2 fuel (by omega)

/-- When the next token is found, what it yields is what is read from there on. -/
theorem gives_of_settles (done : List Token) {after : Cursor} {newLine : Bool} {columns : List Nat}
    {ks : List TokenKind} (hblock : s.brackets = []) (hversion : s.version = .v1_2)
    (hstack : s.indent :: s.indents = stackOf columns)
    (hcandidates : ∀ k ∈ s.candidates, k.required = false ∧ k.line < after.line)
    (hsettles : Settles s.cursor after newLine)
    (hlength : after.rest.length ≤ s.cursor.rest.length)
    (h : Spot.Yields ⟨after.rest, after.column, openFrom after.column columns,
      s.keyAllowed || newLine⟩ ks) :
    Gives done s (kinds (s.tokens ++ done) ++ (endsFrom after.column columns ++ ks)) := by
  have hdrop := dropStale_of_not_required fun k hk => (hcandidates k hk).1
  obtain ⟨done', ts, hover, hkinds⟩ :=
    handOver_spec done { s with candidates := s.candidates.filter fun k => !s.isStale k }
  -- the state that goes on, and the one in front of the token with its candidates and without
  let held : Lexer :=
    { s with candidates := s.candidates.filter fun k => !s.isStale k, tokens := ts }
  let found : Lexer := { held with cursor := after, keyAllowed := s.keyAllowed || newLine }
  let settled : Lexer := { found with candidates := [] }
  have hfound : found.dropStale = .ok settled := by
    refine dropStale_of_stale fun k hk => ?_
    obtain ⟨hk, -⟩ := List.mem_filter.mp hk
    refine ⟨(hcandidates k hk).1, ?_⟩
    rw [isStale, Bool.or_eq_true, decide_eq_true_eq]
    exact Or.inl (Nat.ne_of_lt (hcandidates k hk).2)
  obtain ⟨ends, hends, i, is, hopen, hunwind⟩ :=
    unwindFrom_stackOf (s := settled) after.column hstack
  let poised : Lexer := { settled with tokens := ends ++ ts, indent := i, indents := is }
  have hpoised : poised.Shows ⟨after.rest, after.column, openFrom after.column columns,
      s.keyAllowed || newLine⟩ := ⟨rfl, rfl, hopen, rfl, rfl, hblock, hversion⟩
  obtain ⟨s', hfetch, hcontinues⟩ := h poised (!held.candidates.isEmpty) done' hpoised
  have hadvance : held.advance = .ok s' := by
    have hsettle : held.settle = found := hsettles held rfl hblock
    have hunwound : settled.unwind settled.cursor.column = poised := by
      have hinBlock : settled.inBlock = true := by
        rw [inBlock, show settled.brackets = [] from hblock]
        rfl
      rw [unwind, if_pos hinBlock]
      exact hunwind
    change held.settle.dropStale >>= _ = _
    rw [hsettle, hfound]
    change (settled.unwind settled.cursor.column).fetch _ = _
    rw [hunwound, hfetch]
  refine gives_of_advance hdrop hover hadvance ?_
  have htotal : kinds (poised.tokens ++ done') ++ ks =
      kinds (s.tokens ++ done) ++ (endsFrom after.column columns ++ ks) := by
    change kinds (ends ++ ts ++ done') ++ ks = _
    rw [List.append_assoc, kinds_append, hkinds, hends, List.append_assoc]
  rw [htotal] at hcontinues
  rw [Continues] at hcontinues ⊢
  split at hcontinues
  · rename_i hend
    rw [if_pos hend]
    exact hcontinues
  · rename_i hend
    rw [if_neg hend]
    exact ⟨Nat.lt_of_lt_of_le hcontinues.1 hlength, hcontinues.2⟩

/-- From a state at a spot on, tokens of the given kinds are read. -/
def Spot.Gives (x : Spot) (ks : List TokenKind) : Prop :=
  ∀ (s : Lexer) (done : List Token), s.Shows x → Lexer.Gives done s (kinds (s.tokens ++ done) ++ ks)

theorem openFrom_of_le {column : Nat} {columns : List Nat} (h : ∀ c ∈ columns.head?, c ≤ column) :
    openFrom column columns = columns ∧ endsFrom column columns = [] := by
  cases columns with
  | nil => exact ⟨rfl, rfl⟩
  | cons c columns =>
    have hc : ¬column < c := Nat.not_lt.mpr (h c rfl)
    exact ⟨List.dropWhile_cons_of_neg (by simpa using hc), by
      rw [endsFrom, List.takeWhile_cons_of_neg (by simpa using hc)]; rfl⟩

theorem openFrom_of_lt {column : Int} {c : Nat} (columns : List Nat) (h : column < c) :
    openFrom column (c :: columns) = openFrom column columns ∧
      endsFrom column (c :: columns) = .blockEnd :: endsFrom column columns := by
  refine ⟨List.dropWhile_cons_of_pos (by simpa using h), ?_⟩
  rw [endsFrom, List.takeWhile_cons_of_pos (by simpa using h)]
  rfl

/-- On the same line, spaces may stand in front of the next token. -/
theorem gives_inLine {m column : Nat} {rest : List Char} {columns : List Nat} {allowed : Bool}
    {ks : List TokenKind} (hrest : StartsToken (column + m) rest)
    (hcolumns : ∀ c ∈ columns.head?, c ≤ column + m)
    (h : Spot.Yields ⟨rest, column + m, columns, allowed⟩ ks) :
    Spot.Gives ⟨margin m ++ rest, column, columns, allowed⟩ ks := by
  intro s done hs
  obtain ⟨hopen, hends⟩ := openFrom_of_le hcolumns
  have hspaces : ∀ c ∈ margin m, isInline c = true := fun c hc => by
    rw [Cursor.mem_margin hc]
    decide
  obtain ⟨-, hcolumn⟩ := Cursor.skip_inline hs.rest hspaces
  rw [Cursor.length_margin, hs.column] at hcolumn
  have hafter : (s.cursor.skip m).rest = rest := by
    rw [← Cursor.length_margin m, Cursor.skip_append hs.rest]
  have hspot : (⟨(s.cursor.skip m).rest, (s.cursor.skip m).column,
      openFrom (s.cursor.skip m).column columns, s.keyAllowed || false⟩ : Spot) =
        ⟨rest, column + m, columns, allowed⟩ := by
    rw [hafter, hcolumn, hopen, hs.allowed, Bool.or_false]
  have hlength : (s.cursor.skip m).rest.length ≤ s.cursor.rest.length := by
    rw [Cursor.skip_rest, List.length_drop]
    exact Nat.sub_le _ _
  have hgives := gives_of_settles done hs.brackets hs.version hs.stack
    (by simp [hs.candidates]) (settles_inLine hs.rest hrest) hlength (hspot ▸ h)
  rwa [hcolumn, hends] at hgives

/-- At the end of a line, candidates of this line are given up, and a key may begin. -/
theorem gives_endOfLine (done : List Token) {k j : Nat} {rest : List Char} {columns : List Nat}
    {ks : List TokenKind} (hblock : s.brackets = []) (hversion : s.version = .v1_2)
    (hstack : s.indent :: s.indents = stackOf columns)
    (hcandidates : ∀ k ∈ s.candidates, k.required = false ∧ k.line ≤ s.cursor.line)
    (hline : s.cursor.rest = margin k ++ newLine j ++ rest) (hrest : StartsToken j rest)
    (h : Spot.Yields ⟨rest, j, openFrom j columns, true⟩ ks) :
    Gives done s (kinds (s.tokens ++ done) ++ (endsFrom j columns ++ ks)) := by
  have hblank : (s.cursor.skip k).rest = newLine j ++ rest := by
    rw [← Cursor.length_margin k, Cursor.skip_append (by rw [hline, List.append_assoc])]
  have hskip : s.cursor.skip (k + 1 + j) = (s.cursor.skip k).skip (j + 1) := by
    rw [← Cursor.skip_add, Nat.add_assoc, Nat.add_comm 1]
  obtain ⟨hafterLine, hafterColumn⟩ := Cursor.skip_newLine hblank
  rw [← hskip] at hafterLine hafterColumn
  have hafter : (s.cursor.skip (k + 1 + j)).rest = rest := by
    have hlength : (newLine j).length = j + 1 := by simp [newLine]
    rw [hskip, ← hlength, Cursor.skip_append hblank]
  have hspot : (⟨(s.cursor.skip (k + 1 + j)).rest, (s.cursor.skip (k + 1 + j)).column,
      openFrom (s.cursor.skip (k + 1 + j)).column columns, s.keyAllowed || true⟩ : Spot) =
        ⟨rest, j, openFrom j columns, true⟩ := by
    rw [hafter, hafterColumn, Bool.or_true]
  have hlength : (s.cursor.skip (k + 1 + j)).rest.length ≤ s.cursor.rest.length := by
    rw [Cursor.skip_rest, List.length_drop]
    exact Nat.sub_le _ _
  have hlate : ∀ c ∈ s.candidates, c.required = false ∧ c.line < (s.cursor.skip (k + 1 + j)).line := by
    intro c hc
    have hfirst := Cursor.line_le_skip k s.cursor
    obtain ⟨hrequired, hle⟩ := hcandidates c hc
    exact ⟨hrequired, by omega⟩
  have hgives := gives_of_settles done hblock hversion hstack hlate
    (settles_nextLine hline hrest) hlength (hspot ▸ h)
  rwa [hafterColumn] at hgives

theorem gives_nextLine {k j column : Nat} {rest : List Char} {columns : List Nat} {allowed : Bool}
    {ks : List TokenKind} (hrest : StartsToken j rest)
    (h : Spot.Yields ⟨rest, j, openFrom j columns, true⟩ ks) :
    Spot.Gives ⟨margin k ++ newLine j ++ rest, column, columns, allowed⟩
      (endsFrom j columns ++ ks) := by
  intro s done hs
  exact gives_endOfLine done hs.brackets hs.version hs.stack (by simp [hs.candidates]) hs.rest hrest h

/-- Behind tokens that lead to a spot, it goes on as it does from that spot. -/
theorem continues_of_shows {y : Spot} {s' : Lexer} {ts before : List Token}
    {new ks : List TokenKind} (done : List Token) {bound : Nat} (hshows : s'.Shows y)
    (htokens : s'.tokens = ts ++ before) (hts : kinds ts = new)
    (hnew : ∃ kind ∈ new.getLast?, kind ≠ .streamEnd) (hlength : y.rest.length < bound)
    (h : y.Gives ks) : Continues done bound s' (kinds (before ++ done) ++ (new ++ ks)) := by
  subst hts
  obtain ⟨kind, hlast, hkind⟩ := hnew
  have hnotEnd : s'.tokens.head?.map (·.kind) ≠ some .streamEnd := by
    cases ts with
    | nil => simp [kinds] at hlast
    | cons t ts =>
      have ht : t.kind = kind := by simpa [kinds] using hlast
      rw [htokens]
      simpa [ht] using hkind
  have hgives := h s' done hshows
  rw [htokens, List.append_assoc, kinds_append, List.append_assoc] at hgives
  rw [Continues, if_neg hnotEnd, hshows.rest]
  exact ⟨hlength, hgives⟩

/-- A token that leads from one spot to another. -/
theorem yields_of_step {x y : Spot} {new ks : List TokenKind}
    (hstep : ∀ (p : Lexer) (waiting : Bool), p.Shows x →
      ∃ s' ts, p.fetch waiting = .ok s' ∧ s'.Shows y ∧ s'.tokens = ts ++ p.tokens ∧ kinds ts = new)
    (hnew : ∃ kind ∈ new.getLast?, kind ≠ .streamEnd) (hlength : y.rest.length < x.rest.length)
    (h : y.Gives ks) : x.Yields (new ++ ks) := by
  intro p waiting done hp
  obtain ⟨s', ts, hfetch, hshows, htokens, hts⟩ := hstep p waiting hp
  exact ⟨s', hfetch, continues_of_shows done hshows htokens hts hnew hlength h⟩

end Lexer

end EndpointUpgrade.Yaml
