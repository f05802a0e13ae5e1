import EndpointUpgrade.Proofs.Yaml.Style

/-!
# Quoted scalars read piece by piece

What is written between quotes consists of pieces: characters that stand for themselves, doubled
quotes, escapes, spaces, line separators, and ends of lines, which stand for a space, or for nothing
behind a backslash. Each piece is read as what it stands for, whatever follows it.
-/

namespace EndpointUpgrade.Yaml

open Text

def quoteOf (double : Bool) : Char := if double then '"' else '\''

/-- White space between quotes that ends no line. -/
def isQuotedBlank (c : Char) : Bool := c = ' ' || c = '\t'

def quotedChars (double : Bool) (written : List Char) : List Char :=
  quoteOf double :: written ++ [quoteOf double]

theorem mem_quotedChars {double : Bool} {written : List Char} {d : Char}
    (hd : d ∈ quotedChars double written) : d = quoteOf double ∨ d ∈ written := by
  rcases List.mem_append.mp hd with hd | hd
  · exact List.mem_cons.mp hd
  · exact Or.inl (List.mem_singleton.mp hd)

/-- What is written between quotes is read as a text, in front of anything but another quote. -/
def ReadsQuoted (double : Bool) (written cs : List Char) : Prop :=
  ∀ (tail : List Char) (cur : Cursor) (read : List Char) (fuel : Nat),
    tail.head? ≠ some '\'' → cur.rest = written ++ quoteOf double :: tail →
    written.length + 1 ≤ fuel →
    quotedRest fuel double read cur = .ok (read.reverse ++ cs, cur.skip (written.length + 1))

/-- Nothing that white space in front of it would be read together with. -/
def BeginsSolid (written : List Char) : Prop :=
  ∀ c ∈ written.head?, isQuotedBlank c = false ∧ isBreak c = false

/-- Blanks, if there are any, and no end of a line behind them. -/
def BeginsInLine (written : List Char) : Prop :=
  ∀ c ∈ (written.dropWhile isQuotedBlank).head?, isBreak c = false

theorem BeginsSolid.beginsInLine {written : List Char} (h : BeginsSolid written) :
    BeginsInLine written := by
  cases written with
  | nil => intro c hc; simp at hc
  | cons c written =>
    have hc := h c rfl
    intro d hd
    rw [List.dropWhile_cons_of_neg (by simp [hc.1])] at hd
    obtain rfl : c = d := by simpa using hd
    exact hc.2

section

variable {cur : Cursor} {post : List Char}

/-- A line separator, which stands for itself. -/
def isSeparator (c : Char) : Bool := c = '\u2028' || c = '\u2029'

theorem isBreak_of_isSeparator {c : Char} (hc : isSeparator c = true) :
    isBreak c = true ∧ isLineEnd c = false ∧ isQuotedBlank c = false ∧ c ≠ '\n' ∧ c ≠ '-' ∧
      c ≠ '.' := by
  have hcases : c = '\u2028' ∨ c = '\u2029' := by simpa [isSeparator] using hc
  rcases hcases with rfl | rfl <;> decide

theorem span_blank (run : List Char) (h : cur.rest = run ++ post)
    (hrun : ∀ c ∈ run, isQuotedBlank c = true) (hpost : ∀ c ∈ post.head?, isQuotedBlank c = false) :
    (cur.span fun c => c = ' ' || c = '\t') = (run, cur.skip run.length) :=
  Cursor.span_eq h hrun hpost

theorem isQuotedBlank_margin {m : Nat} {c : Char} (hc : c ∈ margin m) : isQuotedBlank c = true := by
  rw [Cursor.mem_margin hc]
  decide

/-- Separators and a margin in front of something else are read together. -/
theorem quotedBreaks_separators {seps : List Char} {m fuel : Nat} (read : List Char)
    (hm : 0 < m) (hseps : ∀ c ∈ seps, isSeparator c = true)
    (hpost : ∀ c ∈ post.head?, isQuotedBlank c = false ∧ isBreak c = false)
    (h : cur.rest = seps ++ margin m ++ post) (hfuel : seps.length < fuel) :
    quotedBreaks fuel read cur =
      .ok (read.reverse ++ seps, cur.skip (seps ++ margin m).length) := by
  induction seps generalizing cur fuel read with
  | nil =>
    obtain ⟨fuel, rfl⟩ := Nat.exists_eq_succ_of_ne_zero (Nat.ne_of_gt hfuel)
    have hrest : cur.rest = margin m ++ post := h
    have hmark : cur.hasDocumentMark = false := by
      refine Cursor.hasDocumentMark_eq_false ?_
      obtain ⟨k, rfl⟩ := Nat.exists_eq_succ_of_ne_zero (Nat.ne_of_gt hm)
      intro c hc
      obtain rfl : ' ' = c := by simpa [hrest, margin, List.replicate_succ] using hc
      decide
    have hskip : (cur.skipWhile fun c => c = ' ' || c = '\t') = cur.skip (margin m).length := by
      rw [Cursor.skipWhile, span_blank _ hrest (fun c hc => isQuotedBlank_margin hc)
        fun c hc => (hpost c hc).1]
    have hpostRest : (cur.skip (margin m).length).rest = post := Cursor.skip_append hrest
    rw [quotedBreaks, hmark]
    simp only [Bool.false_eq_true, if_false]
    rw [hskip, Cursor.lineBreak?_none fun c hc => (hpost c (hpostRest ▸ hc)).2]
    simp
  | cons c seps ih =>
    obtain ⟨fuel, rfl⟩ := Nat.exists_eq_succ_of_ne_zero (Nat.ne_of_gt (Nat.zero_lt_of_lt hfuel))
    obtain ⟨hbreak, hend, hblank, -, hhyphen, hpoint⟩ :=
      isBreak_of_isSeparator (hseps c List.mem_cons_self)
    have hrest : cur.rest = c :: (seps ++ margin m ++ post) := h
    have hmark : cur.hasDocumentMark = false := by
      refine Cursor.hasDocumentMark_eq_false ?_
      intro d hd
      obtain rfl : c = d := by simpa [hrest] using hd
      exact ⟨hhyphen, hpoint⟩
    have hskip : (cur.skipWhile fun c => c = ' ' || c = '\t') = cur := by
      rw [Cursor.skipWhile, span_blank [] hrest (by simp)
        fun d hd => by
          obtain rfl : c = d := by simpa using hd
          exact hblank]
      rfl
    have hnext : cur.next.rest = seps ++ margin m ++ post := by
      rw [Cursor.next_rest, hrest, List.tail_cons]
    rw [quotedBreaks, hmark]
    simp only [Bool.false_eq_true, if_false]
    rw [hskip, Cursor.lineBreak?_separator hrest hbreak hend]
    dsimp only
    rw [ih (c :: read) (fun d hd => hseps d (List.mem_cons_of_mem _ hd)) hnext (by simpa using hfuel)]
    simp [Cursor.skip_succ]

end

section

variable {double : Bool} {written cs : List Char} {c : Char}

theorem ReadsQuoted.nil (double : Bool) : ReadsQuoted double [] [] := by
  intro tail cur read fuel htail hrest hfuel
  obtain ⟨fuel, rfl⟩ := Nat.exists_eq_add_of_le' hfuel
  have hquote : cur.rest = quoteOf double :: tail := hrest
  change quotedRest (fuel + 1) double read cur = _
  rw [quotedRest, hquote]
  cases double with
  | false => simp [quoteOf, htail]
  | true => simp [quoteOf]

/-- A piece that is read in one step goes in front of what is read after it. -/
theorem ReadsQuoted.piece (piece shown : List Char) (h : ReadsQuoted double written cs)
    (hpiece : piece ≠ [])
    (hstep : ∀ (tail : List Char) (cur : Cursor) (read : List Char) (fuel : Nat),
      cur.rest = piece ++ (written ++ quoteOf double :: tail) →
        quotedRest (fuel + 1) double read cur =
          quotedRest fuel double (shown.reverse ++ read) (cur.skip piece.length)) :
    ReadsQuoted double (piece ++ written) (shown ++ cs) := by
  intro tail cur read fuel htail hrest hfuel
  have hpos : 0 < piece.length := List.length_pos_iff.mpr hpiece
  rw [List.length_append] at hfuel
  obtain ⟨fuel, rfl⟩ : ∃ n, fuel = n + 1 := ⟨fuel - 1, by omega⟩
  have hrest' : cur.rest = piece ++ (written ++ quoteOf double :: tail) := by
    rw [hrest, List.append_assoc]
  rw [hstep tail cur read fuel hrest', h tail _ _ fuel htail (Cursor.skip_append hrest') (by omega),
    ← Cursor.skip_add, List.length_append, ← Nat.add_assoc]
  simp

/-- A character without a meaning of its own between quotes of the kind. -/
def isRaw (double : Bool) (c : Char) : Bool :=
  !isQuotedBlank c && !isBreak c && c ≠ quoteOf double && !(double && c = '\\')

theorem ReadsQuoted.raw (h : ReadsQuoted double written cs) (hc : isRaw double c = true) :
    ReadsQuoted double (c :: written) (c :: cs) := by
  refine ReadsQuoted.piece [c] [c] h (by simp) ?_
  intro tail cur read fuel hrest
  have hrest' : cur.rest = c :: (written ++ quoteOf double :: tail) := hrest
  simp only [isRaw, isQuotedBlank, Bool.and_eq_true, Bool.not_eq_true', Bool.or_eq_false_iff,
    decide_eq_false_iff_not, decide_eq_true_eq] at hc
  obtain ⟨⟨⟨⟨hspace, htab⟩, hbreak⟩, hquote⟩, hsign⟩ := hc
  rw [quotedRest, hrest']
  cases double with
  | false =>
    have hquote' : c ≠ '\'' := hquote
    simp [hspace, htab, hbreak, hquote']
  | true =>
    have hquote' : c ≠ '"' := hquote
    have hsign' : c ≠ '\\' := by simpa using hsign
    simp [hspace, htab, hbreak, hquote', hsign']

theorem ReadsQuoted.quote (h : ReadsQuoted false written cs) :
    ReadsQuoted false ('\'' :: '\'' :: written) ('\'' :: cs) := by
  refine ReadsQuoted.piece ['\'', '\''] ['\''] h (by simp) ?_
  intro tail cur read fuel hrest
  rw [quotedRest, hrest]
  simp

theorem BeginsSolid.append_quote (hwritten : BeginsSolid written) (tail : List Char) :
    ∀ c ∈ (written ++ quoteOf double :: tail).head?, isQuotedBlank c = false ∧ isBreak c = false := by
  cases written with
  | nil =>
    intro c hc
    obtain rfl : quoteOf double = c := by simpa using hc
    cases double <;> decide
  | cons d written => exact hwritten

theorem quotedRest_white {cur after : Cursor} {post shown : List Char} (read : List Char)
    (fuel : Nat) (hrest : cur.rest = c :: post) (hc : isQuotedBlank c = true ∨ isBreak c = true)
    (hspace : quotedSpace cur = .ok (shown, after)) :
    quotedRest (fuel + 1) double read cur =
      quotedRest fuel double (shown.reverse ++ read) after := by
  have hsingle : c ≠ '\'' := by
    rintro rfl
    rcases hc with hc | hc <;> exact absurd hc (by decide)
  have hdouble : c ≠ '"' := by
    rintro rfl
    rcases hc with hc | hc <;> exact absurd hc (by decide)
  have hsign : c ≠ '\\' := by
    rintro rfl
    rcases hc with hc | hc <;> exact absurd hc (by decide)
  have hwhite : (c = ' ' || c = '\t' || isBreak c) = true := by
    rcases hc with hblank | hbreak
    · rw [isQuotedBlank] at hblank
      rw [hblank]
      rfl
    · rw [hbreak, Bool.or_true]
  rw [quotedRest, hrest]
  dsimp only
  rw [if_neg (by simp [hsingle]), if_neg (by simp [hdouble]), if_neg (by simp [hsign]),
    if_pos hwhite, hspace]
  rfl

/-- Separators with a margin behind them stand for themselves. -/
theorem ReadsQuoted.separators {seps : List Char} {m : Nat} (h : ReadsQuoted double written cs)
    (hne : seps ≠ []) (hseps : ∀ c ∈ seps, isSeparator c = true) (hm : 0 < m)
    (hwritten : BeginsSolid written) :
    ReadsQuoted double (seps ++ margin m ++ written) (seps ++ cs) := by
  refine ReadsQuoted.piece (seps ++ margin m) seps h (by simp [hne]) ?_
  intro tail cur read fuel hrest
  obtain ⟨c, more, rfl⟩ := List.exists_cons_of_ne_nil hne
  obtain ⟨hbreak, hend, hblank, hfeed, -⟩ := isBreak_of_isSeparator (hseps c List.mem_cons_self)
  have hfirst : cur.rest = c :: (more ++ margin m ++ (written ++ quoteOf double :: tail)) := hrest
  have hnext : cur.next.rest = more ++ margin m ++ (written ++ quoteOf double :: tail) := by
    rw [Cursor.next_rest, hfirst, List.tail_cons]
  have hspan : (cur.span fun c => c = ' ' || c = '\t') = ([], cur) :=
    span_blank [] hfirst (by simp) fun d hd => by
      obtain rfl : c = d := by simpa using hd
      exact hblank
  have hfuel : more.length < cur.next.fuel := by
    rw [Cursor.fuel_eq, hnext]
    simp only [List.length_append]
    omega
  have hbreaks := quotedBreaks_separators [] hm (fun d hd => hseps d (List.mem_cons_of_mem _ hd))
    (hwritten.append_quote tail) hnext hfuel
  have hspace : quotedSpace cur = .ok (c :: more, cur.skip (c :: more ++ margin m).length) := by
    rw [quotedSpace, hspan]
    dsimp only
    rw [Cursor.lineBreak?_separator hfirst hbreak hend]
    dsimp only
    rw [hbreaks]
    simp [bind, Except.bind, pure, Except.pure, foldedBreaks, hfeed, Cursor.skip_succ]
  exact quotedRest_white read fuel hfirst (Or.inr hbreak) hspace

/-- The end of a line stands for a space. -/
theorem ReadsQuoted.fold {m : Nat} (h : ReadsQuoted double written cs) (hm : 0 < m)
    (hwritten : BeginsSolid written) :
    ReadsQuoted double (newLine m ++ written) (' ' :: cs) := by
  refine ReadsQuoted.piece (newLine m) [' '] h (by simp [newLine]) ?_
  intro tail cur read fuel hrest
  have hfirst : cur.rest = '\n' :: (margin m ++ (written ++ quoteOf double :: tail)) := hrest
  have hnext : cur.next.rest = [] ++ margin m ++ (written ++ quoteOf double :: tail) := by
    rw [Cursor.next_rest, hfirst]
    rfl
  have hspan : (cur.span fun c => c = ' ' || c = '\t') = ([], cur) :=
    span_blank [] hfirst (by simp) fun d hd => by
      obtain rfl : '\n' = d := by simpa using hd
      decide
  have hfuel : ([] : List Char).length < cur.next.fuel := by
    rw [Cursor.fuel_eq]
    exact Nat.zero_lt_succ _
  have hbreaks := quotedBreaks_separators [] hm (by simp) (hwritten.append_quote tail) hnext hfuel
  have hspace : quotedSpace cur = .ok ([' '], cur.skip (newLine m).length) := by
    rw [quotedSpace, hspan]
    dsimp only
    rw [Cursor.lineBreak?_lineFeed hfirst]
    dsimp only
    rw [hbreaks]
    simp [bind, Except.bind, pure, Except.pure, foldedBreaks, newLine, Cursor.skip_succ]
  exact quotedRest_white read fuel hfirst (Or.inr (by decide)) hspace

theorem quotedSpace_run {cur : Cursor} {run post : List Char} (hrest : cur.rest = run ++ post)
    (hrun : ∀ c ∈ run, isQuotedBlank c = true)
    (hpost : ∃ c more, post = c :: more ∧ isQuotedBlank c = false ∧ isBreak c = false) :
    quotedSpace cur = .ok (run, cur.skip run.length) := by
  obtain ⟨c, more, rfl, hblank, hbreak⟩ := hpost
  have hafter : (cur.skip run.length).rest = c :: more := Cursor.skip_append hrest
  have hspan := span_blank run hrest hrun fun d hd => by
    obtain rfl : c = d := by simpa using hd
    exact hblank
  rw [quotedSpace, hspan]
  dsimp only
  rw [Cursor.lineBreak?_none (by simp [hafter, hbreak]), hafter]
  rfl

/-- A space within a line stands for itself, alone or among others. -/
theorem ReadsQuoted.space (h : ReadsQuoted double written cs) (hwritten : BeginsInLine written) :
    ReadsQuoted double (' ' :: written) (' ' :: cs) := by
  intro tail cur read fuel htail hrest hfuel
  rw [List.length_cons] at hfuel
  obtain ⟨fuel, rfl⟩ : ∃ n, fuel = n + 1 := ⟨fuel - 1, by omega⟩
  obtain ⟨run, rest, rfl, hrun, hend⟩ := exists_run isQuotedBlank written
  have hpost : ∃ c more, rest ++ quoteOf double :: tail = c :: more ∧ isQuotedBlank c = false ∧
      isBreak c = false := by
    cases rest with
    | nil => exact ⟨quoteOf double, tail, rfl, by cases double <;> decide, by cases double <;> decide⟩
    | cons c rest =>
      refine ⟨c, rest ++ quoteOf double :: tail, rfl, hend c rfl, hwritten c ?_⟩
      rw [List.dropWhile_append_of_pos hrun, List.dropWhile_cons_of_neg (by simp [hend c rfl])]
      rfl
  have hshape : cur.rest = ' ' :: (run ++ (rest ++ quoteOf double :: tail)) := by
    rw [hrest, List.cons_append, List.append_assoc]
  have hnext : cur.next.rest = run ++ (rest ++ quoteOf double :: tail) := by
    rw [Cursor.next_rest, hshape, List.tail_cons]
  have hspace : quotedSpace cur = .ok (' ' :: run, cur.skip (' ' :: run).length) := by
    refine quotedSpace_run hshape ?_ hpost
    intro c hc
    rcases List.mem_cons.mp hc with rfl | hc
    · decide
    · exact hrun c hc
  have hnextRest : cur.next.rest = run ++ rest ++ quoteOf double :: tail := by
    rw [hnext, List.append_assoc]
  have hskip : cur.skip ((' ' :: (run ++ rest)).length + 1) =
      cur.next.skip ((run ++ rest).length + 1) := rfl
  rw [quotedRest_white read fuel hshape (Or.inl (by decide)) hspace, hskip]
  cases run with
  | nil =>
    refine (h tail cur.next (' ' :: read) fuel htail hnextRest (by omega)).trans ?_
    simp
  | cons b run =>
    -- the spaces behind this one would have been read in one step as well
    have hlater := h tail cur.next (' ' :: read) (fuel + 1) htail hnextRest (by omega)
    rw [quotedRest_white (' ' :: read) fuel hnext (Or.inl (hrun b List.mem_cons_self))
      (quotedSpace_run hnext hrun hpost)] at hlater
    have hreversed : (' ' :: b :: run).reverse ++ read = (b :: run).reverse ++ ' ' :: read := by
      simp
    rw [hreversed]
    refine hlater.trans ?_
    simp

end

/-! ## Escapes -/

theorem readDigitsFrom_toUpper (n : Nat) {cs : List Char}
    (hcs : ∀ c ∈ cs, digitValue? 16 c.toUpper = digitValue? 16 c) :
    readDigitsFrom 16 n (cs.map Char.toUpper) = readDigitsFrom 16 n cs := by
  induction cs generalizing n with
  | nil => rfl
  | cons c cs ih =>
    rw [List.map_cons, readDigitsFrom, readDigitsFrom, hcs c List.mem_cons_self]
    cases digitValue? 16 c with
    | none => rfl
    | some d => exact ih _ fun x hx => hcs x (List.mem_cons_of_mem _ hx)

theorem readDigitsFrom_zeros (k : Nat) (cs : List Char) :
    readDigitsFrom 16 0 (List.replicate k '0' ++ cs) = readDigitsFrom 16 0 cs := by
  induction k with
  | zero => rfl
  | succ k ih => exact ih

theorem digitValue?_toUpper_digitChar :
    ∀ d < 16, digitValue? 16 (digitChar d).toUpper = digitValue? 16 (digitChar d) := by decide

theorem length_upperHex {k n : Nat} (hn : n < 16 ^ (k + 1)) :
    (upperHex (k + 1) n).length = k + 1 := by
  have hlength := length_hexadecimal_le hn
  rw [upperHex, List.length_map, padLeft, List.length_append, List.length_replicate]
  omega

theorem readDigits_upperHex {k n : Nat} (hn : n < 16 ^ (k + 1)) :
    readDigits 16 (upperHex (k + 1) n) = some n := by
  have hdigits : ∀ c ∈ padLeft (k + 1) '0' (hexadecimal n),
      digitValue? 16 c.toUpper = digitValue? 16 c := by
    intro c hc
    rcases List.mem_append.mp hc with hzero | hdigit
    · rw [List.eq_of_mem_replicate hzero]
      decide
    · obtain ⟨d, hd, rfl⟩ := mem_digits hdigit
      exact digitValue?_toUpper_digitChar d hd
  have hread : readDigitsFrom 16 0 (upperHex (k + 1) n) = some n := by
    rw [upperHex, readDigitsFrom_toUpper 0 hdigits, padLeft, readDigitsFrom_zeros]
    exact readDigitsFrom_digits (by decide) n
  obtain ⟨c, cs, hcs⟩ : ∃ c cs, upperHex (k + 1) n = c :: cs := by
    refine List.exists_cons_of_ne_nil fun hnil => ?_
    have := length_upperHex hn
    rw [hnil] at this
    contradiction
  rw [hcs] at hread ⊢
  exact hread

theorem escapeLetter?_of_escapeSign? {c sign : Char} (h : escapeSign? c = some sign) :
    escapeLetter? sign = some c := by
  unfold escapeSign? at h
  split at h
  all_goals first
    | (obtain rfl := Option.some.inj h; rfl)
    | contradiction

theorem toNat_le (c : Char) : c.toNat ≤ 0x10FFFF := by
  have hval : c.toNat = c.val.toNat := rfl
  rcases c.valid with h | ⟨_, h⟩ <;> omega

theorem codePoint_upperHex {cur : Cursor} {post : List Char} {c : Char} {k : Nat}
    (hc : c.toNat < 16 ^ (k + 1)) (hrest : cur.rest = upperHex (k + 1) c.toNat ++ post) :
    codePoint (k + 1) cur = .ok (c.toNat, cur.skip (k + 1)) := by
  have hlength := length_upperHex hc
  have htake : cur.rest.take (k + 1) = upperHex (k + 1) c.toNat := by
    rw [hrest]
    exact List.take_left' hlength
  have hbound : ¬0x10FFFF < c.toNat := Nat.not_lt.mpr (toNat_le c)
  rw [codePoint, htake, readDigits_upperHex hc]
  dsimp only
  rw [if_neg (by omega), if_neg hbound]

theorem codePointChar_toNat (c : Char) (cur : Cursor) : codePointChar c.toNat cur = (c, cur) := by
  have hvalid := c.valid
  have hval : c.toNat = c.val.toNat := rfl
  have hhigh : ¬(0xD800 ≤ c.toNat ∧ c.toNat < 0xDC00) := by
    rcases hvalid with h | ⟨h, _⟩ <;> omega
  have hlow : ¬(0xDC00 ≤ c.toNat ∧ c.toNat < 0xE000) := by
    rcases hvalid with h | ⟨h, _⟩ <;> omega
  rw [codePointChar, if_neg hhigh, if_neg hlow, Char.ofNat_toNat]

theorem escaped_hex {cur : Cursor} {post : List Char} {c letter : Char} {k : Nat}
    (hletter : escapeLetter? letter = none) (hwidth : escapeWidth? letter = some (k + 1))
    (hc : c.toNat < 16 ^ (k + 1)) (hrest : cur.rest = letter :: (upperHex (k + 1) c.toNat ++ post)) :
    escaped cur = .ok ([c], cur.skip (letter :: upperHex (k + 1) c.toNat).length) := by
  have hnext : cur.next.rest = upperHex (k + 1) c.toNat ++ post := by
    rw [Cursor.next_rest, hrest, List.tail_cons]
  have hpeek : cur.peek = some letter := by rw [Cursor.peek, hrest, List.head?_cons]
  rw [escaped, hpeek]
  dsimp only
  rw [hletter, hwidth]
  dsimp only
  rw [codePoint_upperHex hc hnext]
  change Except.ok ([(codePointChar c.toNat (cur.next.skip (k + 1))).1],
    (codePointChar c.toNat (cur.next.skip (k + 1))).2) = _
  rw [codePointChar_toNat, List.length_cons, length_upperHex hc]
  rfl

/-- An escape behind its backslash stands for its character. -/
theorem exists_escapeOf (c : Char) :
    ∃ written, escapeOf c = '\\' :: written ∧
      ∀ (cur : Cursor) (post : List Char), cur.rest = written ++ post →
        escaped cur = .ok ([c], cur.skip written.length) := by
  rw [escapeOf]
  cases hsign : escapeSign? c with
  | some sign =>
    refine ⟨[sign], rfl, fun cur post hrest => ?_⟩
    have hpeek : cur.peek = some sign := by rw [Cursor.peek, hrest]; rfl
    rw [escaped, hpeek]
    dsimp only
    rw [escapeLetter?_of_escapeSign? hsign]
    rfl
  | none =>
    dsimp only
    split
    · rename_i hbyte
      exact ⟨_, rfl, fun cur post hrest => escaped_hex (k := 1) rfl rfl (by omega) hrest⟩
    · split
      · rename_i hword
        exact ⟨_, rfl, fun cur post hrest => escaped_hex (k := 3) rfl rfl (by omega) hrest⟩
      · have hbound : c.toNat < 16 ^ 8 := Nat.lt_of_le_of_lt (toNat_le c) (by decide)
        exact ⟨_, rfl, fun cur post hrest => escaped_hex (k := 7) rfl rfl hbound hrest⟩

section

variable {written cs : List Char}

theorem quotedRest_sign {cur after : Cursor} {post shown : List Char} (read : List Char) (fuel : Nat)
    (hrest : cur.rest = '\\' :: post) (hescaped : escaped cur.next = .ok (shown, after)) :
    quotedRest (fuel + 1) true read cur = quotedRest fuel true (shown.reverse ++ read) after := by
  rw [quotedRest, hrest]
  dsimp only
  rw [if_neg (by simp), if_neg (by simp), if_pos (by simp), hescaped]
  rfl

theorem ReadsQuoted.escape (h : ReadsQuoted true written cs) (c : Char) :
    ReadsQuoted true (escapeOf c ++ written) (c :: cs) := by
  obtain ⟨signs, hsigns, hescaped⟩ := exists_escapeOf c
  refine ReadsQuoted.piece (escapeOf c) [c] h (by simp [hsigns]) ?_
  intro tail cur read fuel hrest
  rw [hsigns] at hrest ⊢
  have hnext : cur.next.rest = signs ++ (written ++ quoteOf true :: tail) := by
    rw [Cursor.next_rest, hrest]
    rfl
  exact quotedRest_sign read fuel hrest (hescaped cur.next _ hnext)

/-- A space behind a backslash stands for itself, whatever follows it. -/
theorem ReadsQuoted.escapedSpace (h : ReadsQuoted true written cs) :
    ReadsQuoted true ('\\' :: ' ' :: written) (' ' :: cs) := by
  refine ReadsQuoted.piece ['\\', ' '] [' '] h (by simp) ?_
  intro tail cur read fuel hrest
  have hnext : cur.next.rest = ' ' :: (written ++ quoteOf true :: tail) := by
    rw [Cursor.next_rest, hrest]
    rfl
  have hescaped : escaped cur.next = .ok ([' '], cur.next.next) := by
    rw [escaped, Cursor.peek, hnext]
    rfl
  exact quotedRest_sign read fuel hrest hescaped

/-- The end of a line behind a backslash stands for nothing. -/
theorem ReadsQuoted.signedFold {m : Nat} (h : ReadsQuoted true written cs) (hm : 0 < m)
    (hwritten : BeginsSolid written) :
    ReadsQuoted true ('\\' :: newLine m ++ written) cs := by
  refine ReadsQuoted.piece ('\\' :: newLine m) [] h (by simp) ?_
  intro tail cur read fuel hrest
  have hfeed : cur.next.rest = '\n' :: (margin m ++ (written ++ quoteOf true :: tail)) := by
    rw [Cursor.next_rest, hrest]
    rfl
  have hline : cur.next.next.rest = [] ++ margin m ++ (written ++ quoteOf true :: tail) := by
    rw [Cursor.next_rest, hfeed]
    rfl
  have hfuel : ([] : List Char).length < cur.next.next.fuel := by
    rw [Cursor.fuel_eq]
    exact Nat.zero_lt_succ _
  have hbreaks := quotedBreaks_separators [] hm (by simp) (hwritten.append_quote tail) hline hfuel
  have hescaped : escaped cur.next = .ok ([], cur.skip ('\\' :: newLine m).length) := by
    rw [escaped, Cursor.peek, hfeed]
    dsimp only [List.head?_cons]
    rw [Cursor.lineBreak?_lineFeed hfeed]
    refine hbreaks.trans ?_
    simp [newLine, Cursor.skip_succ]
  exact quotedRest_sign read fuel hrest hescaped

end

end EndpointUpgrade.Yaml
